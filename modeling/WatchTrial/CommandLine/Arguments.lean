set_option autoImplicit false

namespace WatchTrial.CommandLine

structure Arguments where
  settings : Option String := none
  noBuild : Bool := false
  strict : Bool := false
  update : Bool := false
  verbose : Bool := false
  help : Bool := false
  /-- What is no option, in order. -/
  positional : List String := []
  deriving DecidableEq, Repr

inductive Flag where
  | noBuild
  | strict
  | update
  | verbose
  | help
  deriving DecidableEq, Repr

namespace Flag

def longNames : List (String × Flag) :=
  [("--no-build", .noBuild), ("--strict", .strict), ("--update-expected", .update),
    ("--verbose", .verbose), ("--help", .help)]

def ofLong? (name : String) : Option Flag := longNames.lookup name

def ofShort? (letter : Char) : Option Flag := if letter = 'v' then some .verbose else none

end Flag

namespace Arguments

def raise (a : Arguments) : Flag → Arguments
  | .noBuild => { a with noBuild := true }
  | .strict => { a with strict := true }
  | .update => { a with update := true }
  | .verbose => { a with verbose := true }
  | .help => { a with help := true }

def add (a : Arguments) (text : String) : Arguments :=
  { a with positional := a.positional ++ [text] }

/-- Flags by their letters. -/
def raiseAll (a : Arguments) : List Char → Option Arguments
  | [] => some a
  | letter :: rest => do raiseAll (a.raise (← Flag.ofShort? letter)) rest

/-- The option that takes a value. -/
def settingsName : String := "--config"

/-- What follows the name of the option with a value and an equals sign. -/
def settingsValue? (text : String) : Option String :=
  let lead := (settingsName ++ "=").toList
  if lead.isPrefixOf text.toList then some (String.ofList (text.toList.drop lead.length)) else none

def isOption (text : String) : Bool :=
  match text.toList with
  | '-' :: _ :: _ => true
  | _ => false

/-- Takes arguments in one after the other; `none` if they are not usable. -/
def readFrom (a : Arguments) : List String → Option Arguments
  | [] => some a
  | "--" :: rest => some { a with positional := a.positional ++ rest }
  | "--config" :: value :: rest => readFrom { a with settings := some value } rest
  | text :: rest =>
      if !isOption text then readFrom (a.add text) rest
      else
        match settingsValue? text, Flag.ofLong? text, text.toList with
        | some value, _, _ => readFrom { a with settings := some value } rest
        | none, some flag, _ => readFrom (a.raise flag) rest
        | none, none, '-' :: '-' :: _ => none
        | none, none, _ :: letters => do readFrom (← a.raiseAll letters) rest
        | none, none, [] => none

def read (texts : List String) : Option Arguments := readFrom {} texts

end Arguments

end WatchTrial.CommandLine
