import WatchTrial.Script.Line
import WatchTrial.Text.Line

set_option autoImplicit false

namespace WatchTrial.Script

/-- A line without the line ends at its end. -/
def chomp (line : String) : String :=
  String.ofList (Text.trimEnd (fun c => c == '\r' || c == '\n') line.toList)

/-- A line that is neither blank nor a comment. -/
def isRelevant (line : String) : Bool :=
  !Text.isBlankText line.toList && line.toList.head? != some '#'

/-- The actions of lines, the first of which has the given number. -/
def readFrom (base : Path) (number : Nat) : List String → Except LineError (List Action)
  | [] => .ok []
  | raw :: rest =>
      let line := chomp raw
      if isRelevant line then do
        let action ← readNumbered base number line
        return action :: (← readFrom base (number + 1) rest)
      else readFrom base (number + 1) rest

def read (base : Path) (lines : List String) : Except LineError (List Action) :=
  readFrom base 1 lines

/-- The lines of a script file. -/
def linesOf (text : List Char) : List String := (Text.fileLines text).map String.ofList

/-- A script ready to run. -/
structure Plan where
  roots : List Path
  actions : List Action
  deriving DecidableEq

/-- The roots that a script starts with, and the actions that follow. -/
def splitRoots : List Action → List Path × List Action
  | .watch root :: rest =>
      let (roots, actions) := splitRoots rest
      (root :: roots, actions)
  | actions => ([], actions)

/-- The root of the first declaration, if there is one. -/
def firstWatch? (actions : List Action) : Option Path :=
  actions.findSome? fun
    | .watch root => some root
    | _ => none

/-- Splits the declared roots off a script and has each of them made first. A declaration that
comes after another action is refused with its root. -/
def plan (actions : List Action) : Except Path Plan :=
  let (roots, rest) := splitRoots actions
  match firstWatch? rest with
  | some late => .error late
  | none => .ok ⟨roots, roots.map (.create · true true) ++ rest⟩

end WatchTrial.Script
