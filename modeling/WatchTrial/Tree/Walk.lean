import WatchTrial.Path
import WatchTrial.SystemError
import WatchTrial.Tree.Basic

set_option autoImplicit false

/- Following a path through a tree. Every name but the last is looked up in the directory reached
so far; what the last name stands for is left to the operation. -/

namespace WatchTrial.Tree

/-- The most octets that one name may have. -/
def maxName : Nat := 255

/-- The most octets that a path may have. -/
def maxPath : Nat := 4095

/-- The name of the directory above. -/
def up : Name := ['.', '.']

def isTooLong (limit : Nat) (text : List Char) : Bool := limit < (Text.Utf8.encode text).length

/-- The entry of a directory under a name, if any. -/
def lookup (t : Tree) (directory : Location) (name : Name) : Except Refusal (Option Entry) :=
  if isTooLong maxName name then .error .nameTooLong else .ok (t.get? (directory ++ [name]))

/-- Nothing can be looked up but in a directory. -/
def enter (t : Tree) (place : Location) : Except Refusal Location :=
  match t.get? place with
  | some .directory => .ok place
  | some (.file ..) => .error .notDirectory
  | none => .error .noEntry

/-- One name further from a place. -/
def step (t : Tree) (place : Location) (name : Name) : Except Refusal Location := do
  let directory ← t.enter place
  if name = up then return directory.dropLast
  match ← t.lookup directory name with
  | some _ => return directory ++ [name]
  | none => .error .noEntry

def walk (t : Tree) : Location → List Name → Except Refusal Location
  | place, [] => .ok place
  | place, name :: rest => do t.walk (← t.step place name) rest

/-- Where a path starts. -/
def start (t : Tree) (p : Path) : Location := if p.isAbsolute then [] else t.here

/-- What a path ends in: a name in a directory that exists, the name of the directory above, or no
name at all. -/
inductive Spot where
  | child (directory : Location) (name : Name)
  | above (directory : Location)
  | top (absolute : Bool)
  deriving DecidableEq, Repr

def locate (t : Tree) (p : Path) : Except Refusal Spot :=
  if isTooLong maxPath p.chars then .error .nameTooLong
  else
    match p.names.getLast? with
    | none => .ok (.top p.isAbsolute)
    | some last => do
        let directory ← t.enter (← t.walk (t.start p) p.names.dropLast)
        return if last = up then .above directory else .child directory last

/-- The location a spot stands for. -/
def Spot.location (t : Tree) : Spot → Location
  | .child directory name => directory ++ [name]
  | .above directory => directory.dropLast
  | .top absolute => if absolute then [] else t.here

/-- The location of a path at which something stands, with what stands there. -/
def resolve (t : Tree) (p : Path) : Except Refusal (Location × Entry) := do
  let spot ← t.locate p
  if let .child directory name := spot then
    let _ ← t.lookup directory name
  match t.get? (spot.location t) with
  | some entry => return (spot.location t, entry)
  | none => .error .noEntry

def isDirectory (t : Tree) (p : Path) : Bool :=
  match t.resolve p with
  | .ok (_, .directory) => true
  | _ => false

end WatchTrial.Tree
