import WatchTrial.Action
import WatchTrial.Text.Numeral

set_option autoImplicit false

/- One line of a script: a keyword and its arguments, with one space before each argument. An
argument may be empty and holds no space; each path is seen from the base directory. -/

namespace WatchTrial.Script

/-- Why a line is no action. -/
inductive LineFault where
  | unknownCommand (word : String)
  | argumentCount (word : String) (expected got : Nat)
  | unquotedContent (argument : String)
  | notAnInteger (argument : String)
  | negativeWait (argument : String)
  deriving DecidableEq, Repr

def LineFault.message : LineFault → String
  | .unknownCommand word => word ++ " isn\x27t a valid command"
  | .argumentCount word expected got =>
      word ++ " expects " ++ toString expected ++ " argument(s), got " ++ toString got
  | .unquotedContent argument => "content must be a double-quoted token, got " ++ argument
  | .notAnInteger argument => "wait duration must be an integer, got " ++ argument
  | .negativeWait argument => "wait duration must be non-negative, got " ++ argument

inductive Command where
  | create
  | delete
  | write
  | move
  | wait
  | watchDir
  deriving DecidableEq, Repr

namespace Command

def all : List Command := [.create, .delete, .write, .move, .wait, .watchDir]

def word : Command → String
  | .create => "Create"
  | .delete => "Delete"
  | .write => "Write"
  | .move => "Move"
  | .wait => "Wait"
  | .watchDir => "WatchDir"

def arity : Command → Nat
  | .create => 2
  | .delete => 1
  | .write => 2
  | .move => 2
  | .wait => 1
  | .watchDir => 1

def ofWord? (word : String) : Option Command := all.find? fun c => c.word == word

end Command

def tokens (line : String) : List String := (Text.split ' ' line.toList).map String.ofList

/-- The text between the first and the last character, if both are double quotes. -/
def unquote? (token : List Char) : Option (List Char) :=
  match token with
  | '\x22' :: rest => if rest.getLast? = some '\x22' then some rest.dropLast else none
  | _ => none

def readContent (argument : String) : Except LineFault String :=
  match unquote? argument.toList with
  | some content => .ok (String.ofList content)
  | none => .error (.unquotedContent argument)

def readSeconds (argument : String) : Except LineFault Nat :=
  match Text.readInt argument.toList with
  | .error _ => .error (.notAnInteger argument)
  | .ok (.ofNat seconds) => .ok seconds
  | .ok (.negSucc _) => .error (.negativeWait argument)

/-- The action of a command with the right number of arguments. -/
def Command.action (base : Path) : Command → List String → Except LineFault Action
  | .create, [kind, path] => .ok (.create (base / Path.ofString path) (kind == "Dir") false)
  | .delete, [path] => .ok (.delete (base / Path.ofString path))
  | .write, [path, content] => do return .write (base / Path.ofString path) (← readContent content)
  | .move, [source, target] =>
      .ok (.move (base / Path.ofString source) (base / Path.ofString target))
  | .wait, [seconds] => do return .wait (← readSeconds seconds)
  | .watchDir, [path] => .ok (.watch (base / Path.ofString path))
  | command, arguments =>
      .error (.argumentCount command.word command.arity arguments.length)

/-- The action that a line asks for. -/
def readLine (base : Path) (line : String) : Except LineFault Action :=
  match tokens line with
  | [] => .error (.unknownCommand "")
  | word :: arguments =>
      match Command.ofWord? word with
      | none => .error (.unknownCommand word)
      | some command => command.action base arguments

/-- A line of a script that is no action, with its number. -/
structure LineError where
  number : Int
  line : String
  fault : LineFault
  deriving DecidableEq, Repr

/-- The message of a line error for any reason. -/
def lineMessage (number : Int) (line reason : String) : String :=
  "line " ++ toString number ++ ": " ++ reason ++ " (" ++ Text.quote line ++ ")"

def LineError.message (e : LineError) : String := lineMessage e.number e.line e.fault.message

/-- A line under its number. -/
def readNumbered (base : Path) (number : Int) (line : String) : Except LineError Action :=
  (readLine base line).mapError (⟨number, line, ·⟩)

end WatchTrial.Script
