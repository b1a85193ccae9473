import WatchTrial.Path

set_option autoImplicit false

namespace WatchTrial

inductive Action where
  /-- Makes a directory or an empty file; `existOk` admits a directory that is there. -/
  | create (path : Path) (directory : Bool) (existOk : Bool)
  | delete (path : Path)
  | write (path : Path) (content : String)
  | move (source target : Path)
  /-- Waits for whole seconds. -/
  | wait (seconds : Nat)
  /-- Declares a directory for the watcher to watch; it is never performed. -/
  | watch (root : Path)
  /-- Asks for nothing and cannot be performed. -/
  | unspecified
  deriving DecidableEq

namespace Action

/-- The kind of an action, as messages name it. -/
def kind : Action → String
  | .create .. => "CreateAction"
  | .delete .. => "DeleteAction"
  | .write .. => "WriteAction"
  | .move .. => "MoveAction"
  | .wait .. => "WaitAction"
  | .watch .. => "WatchDirDeclaration"
  | .unspecified => "Action"

/-- A path inside the text of an action. -/
def pathText (p : Path) : String := "PosixPath(" ++ p.quoted ++ ")"

def boolText (b : Bool) : String := if b then "True" else "False"

/-- The fields of an action with their texts, in order. -/
def fields : Action → List (String × String)
  | .create path directory existOk =>
      [("path", pathText path), ("is_directory", boolText directory),
          ("exist_ok", boolText existOk)]
  | .delete path => [("path", pathText path)]
  | .write path content => [("path", pathText path), ("content", Text.quote content)]
  | .move source target => [("from_path", pathText source), ("to_path", pathText target)]
  | .wait seconds => [("seconds", toString seconds)]
  | .watch root => [("path", pathText root)]
  | .unspecified => []

/-- An action as messages show it: its kind and its fields. -/
def text (a : Action) : String :=
  a.kind ++ "(" ++ ", ".intercalate (a.fields.map fun f => f.1 ++ "=" ++ f.2) ++ ")"

def isWatch : Action → Bool
  | .watch _ => true
  | _ => false

end Action

end WatchTrial
