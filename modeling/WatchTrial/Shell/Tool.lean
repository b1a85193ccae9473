import WatchTrial.Number.Decimal
import WatchTrial.Tree.Change

set_option autoImplicit false

namespace WatchTrial.Shell

/-- What a program comes to. -/
structure Answer where
  tree : Tree
  /-- What it has written, in order; the flag marks errors. -/
  said : List (Bool × Octets) := []
  status : Nat := 0

/-- A program, given its arguments, what it can read, and the tree. -/
abbrev Tool := List (List Char) → Octets → Tree → Answer

namespace Answer

def ofTree (t : Tree) : Answer := { tree := t }

def say (a : Answer) (octets : Octets) : Answer := { a with said := a.said ++ [(false, octets)] }

def sayText (a : Answer) (text : String) : Answer := a.say (Text.Utf8.encode text.toList)

def complain (a : Answer) (text : String) (status : Nat) : Answer :=
  { a with said := a.said ++ [(true, Text.Utf8.encode (text ++ "\n").toList)], status }

/-- An operation on the tree, with a complaint if it is refused. -/
def attempt (a : Answer) (changed : Tree.Changed) (what : Refusal → String) : Answer :=
  match changed.result with
  | .ok () => { a with tree := changed.tree }
  | .error refusal => { a with tree := changed.tree }.complain (what refusal) 1

end Answer

namespace Tool

/-- A name as complaints show it. -/
def shown (name : List Char) : String := "\x27" ++ String.ofList name ++ "\x27"

/-- A name between the quotes that prose has. -/
def quoted (name : List Char) : String := "\u2018" ++ String.ofList name ++ "\u2019"

def tryHelp (program : String) : String :=
  "\nTry \x27" ++ program ++ " --help\x27 for more information."

def missingOperand (program : String) : String :=
  program ++ ": missing operand" ++ tryHelp program

/-- The letters of the options among arguments, and the other arguments. Two dashes end the
options. -/
def options : List (List Char) → List Char × List (List Char)
  | [] => ([], [])
  | ['-', '-'] :: rest => ([], rest)
  | ('-' :: c :: letters) :: rest =>
      let (found, operands) := options rest
      (c :: letters ++ found, operands)
  | operand :: rest =>
      let (found, operands) := options rest
      (found, operand :: operands)

/-- The value of an option with a value, and the other arguments. -/
def valued (letter : Char) : List (List Char) → Option (List Char) × List (List Char)
  | [] => (none, [])
  | ('-' :: c :: value) :: rest =>
      if c == letter then
        match value, rest with
        | [], next :: rest => (some next, rest)
        | _, _ => (some value, rest)
      else
        let (found, others) := valued letter rest
        (found, ('-' :: c :: value) :: others)
  | a :: rest =>
      let (found, others) := valued letter rest
      (found, a :: others)

def number? (text : List Char) : Option Int :=
  match text with
  | '+' :: digits => if digits.isEmpty then none else (String.ofList digits).toInt?
  | _ => (String.ofList text).toInt?

/-- What stands where a text names something. An empty text names nothing, and a slash at the end
asks for a directory. -/
def find (t : Tree) (text : List Char) : Except Refusal (Location × Entry) :=
  if text.isEmpty then .error .noEntry
  else
    match t.resolve (Path.ofChars text) with
    | .ok (place, .file content executable) =>
        if text.getLast? == some '/' then .error .notDirectory
        else .ok (place, .file content executable)
    | found => found

/-- The file that takes everything and holds nothing. -/
def nullDevice : List Char := "/dev/null".toList

def readFile (t : Tree) (text : List Char) : Except Refusal Octets :=
  if text == nullDevice then .ok []
  else match find t text with
  | .ok (_, .file content _) => .ok content
  | .ok (_, .directory) => .error .isDirectory
  | .error refusal => .error refusal

/-- Units of time in billionths of a second. -/
def units : List (Char × Nat) :=
  [('s', tenTo 9), ('m', 60 * tenTo 9), ('h', 3600 * tenTo 9), ('d', 86400 * tenTo 9)]

/-- A length of time, in seconds unless a unit follows. -/
def duration? (text : List Char) : Option Nat :=
  let (body, unit) :=
    match text.getLast?.bind fun c => units.lookup c with
    | some unit => (text.dropLast, unit)
    | none => (text, tenTo 9)
  match Binary64.ofNumeral? body with
  | some x => if x.isNegative then none else x.billionths?.map fun n => n * unit / tenTo 9
  | none => none

/-- How long a sleep lasts, or why there is none. -/
def sleepTime (arguments : List (List Char)) : Except String Nat :=
  match arguments, arguments.mapM duration? with
  | [], _ => .error (missingOperand "sleep")
  | ('-' :: c :: _) :: _, _ =>
      .error ("sleep: invalid option -- " ++ shown [c] ++ tryHelp "sleep")
  | _, some parts => .ok (parts.foldl (· + ·) 0)
  | _, none =>
      let bad := arguments.filter fun a => (duration? a).isNone
      .error ("\n".intercalate
        (bad.map fun a => "sleep: invalid time interval " ++ quoted a) ++ tryHelp "sleep")

end Tool

end WatchTrial.Shell
