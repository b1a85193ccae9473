import WatchTrial.Text.Utf8
import WatchTrial.Text.Quoted

set_option autoImplicit false

namespace WatchTrial

/-- Why the operating system refuses an operation. -/
inductive Refusal where
  | noEntry
  | argumentsTooLong
  | execFormat
  | accessDenied
  | busy
  | exists
  | notDirectory
  | isDirectory
  | invalid
  | nameTooLong
  | notEmpty
  deriving DecidableEq, Repr

def Refusal.number : Refusal → Nat
  | .noEntry => 2
  | .argumentsTooLong => 7
  | .execFormat => 8
  | .accessDenied => 13
  | .busy => 16
  | .exists => 17
  | .notDirectory => 20
  | .isDirectory => 21
  | .invalid => 22
  | .nameTooLong => 36
  | .notEmpty => 39

def Refusal.text : Refusal → String
  | .noEntry => "No such file or directory"
  | .argumentsTooLong => "Argument list too long"
  | .execFormat => "Exec format error"
  | .accessDenied => "Permission denied"
  | .busy => "Device or resource busy"
  | .exists => "File exists"
  | .notDirectory => "Not a directory"
  | .isDirectory => "Is a directory"
  | .invalid => "Invalid argument"
  | .nameTooLong => "File name too long"
  | .notEmpty => "Directory not empty"

/-- A refused operation, with the path or the two paths it was asked for, if it was for any. -/
structure SystemError where
  refusal : Refusal
  subject : Option String := none
  target : Option String := none
  deriving DecidableEq, Repr

def SystemError.message (e : SystemError) : String :=
  let paths :=
    match e.subject, e.target with
    | none, _ => ""
    | some subject, none => ": " ++ Text.quote subject
    | some subject, some target => ": " ++ Text.quote subject ++ " -> " ++ Text.quote target
  "[Errno " ++ toString e.refusal.number ++ "] " ++ e.refusal.text ++ paths

/-- An octet in two hexadecimal digits. -/
def hexOctet (b : UInt8) : String := String.ofList (Text.hexDigits 2 b.toNat)

namespace Text.Utf8

/-- The octets that broke strict decoding are named by their position; a single one is shown. -/
def Fault.message (f : Fault) : String :=
  let place :=
    if f.width = 1 then "byte 0x" ++ hexOctet f.lead ++ " in position " ++ toString f.position
    else
      "bytes in position " ++ toString f.position ++ "-" ++ toString (f.position + f.width - 1)
  "\x27utf-8\x27 codec can\x27t decode " ++ place ++ ": " ++ f.flaw.text

end Text.Utf8

end WatchTrial
