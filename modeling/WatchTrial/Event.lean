import WatchTrial.Path
import WatchTrial.Text.Blank

set_option autoImplicit false

namespace WatchTrial

structure Event where
  path : String
  kind : String
  deriving DecidableEq, Repr

namespace Event

def text (e : Event) : String := e.path ++ "," ++ e.kind

/-- A path without the components of the base directory; nothing is left of one with no more
components than the base. -/
def relativeTo (base full : Path) : String :=
  if full.depth ≤ base.depth then "" else (full.dropComponents base.depth).text

/-- The event a line reports, if it has exactly one comma with something on each side. -/
def ofLine? (base : Path) (line : String) : Option Event :=
  match Text.split ',' line.toList with
  | [full, kind] =>
      if full.isEmpty || kind.isEmpty then none
      else some ⟨relativeTo base (Path.ofChars full), String.ofList kind⟩
  | _ => none

/-- The events of all lines that are not blank; the first line that reports none is returned
instead. -/
def ofLines (base : Path) : List String → Except String (List Event)
  | [] => .ok []
  | line :: rest =>
      if Text.isBlankText line.toList then ofLines base rest
      else
        match ofLine? base line with
        | none => .error line
        | some event => do return event :: (← ofLines base rest)

/-- The message for a line that reports no event. -/
def malformedMessage (line : String) : String :=
  "malformed watcher event " ++ Text.quote line ++ ": expected exactly \x27path,kind\x27"

end Event

end WatchTrial
