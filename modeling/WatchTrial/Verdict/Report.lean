import WatchTrial.Verdict
import WatchTrial.Text.Ansi

set_option autoImplicit false

namespace WatchTrial.Verdict

open Text.Ansi (style)

/-- A titled section with an indented line for each event. -/
def titled (title : String) (events : EventSet) : List String :=
  style .red false title :: events.members.map fun event => "  " ++ event

def optionalSection (title : String) (events : EventSet) : List String :=
  if events.members.isEmpty then [] else titled title events

/-- The lines of a report, in colours. -/
def reportLines (v : Verdict) (script results : String) : List String :=
  if v.passed then
    [style .green true "PASSED" ++ ": Output on running " ++ script ++ " matched output in " ++
      results ++ "."]
  else
    style .red true "FAILED" :: titled "EXPECTED:" v.expected ++ titled "OBTAINED:" v.obtained ++
      optionalSection "MISSING:" v.missing ++ optionalSection "UNEXPECTED:" v.unexpected

/-- Lines as they are written out. -/
def unlines (lines : List String) : String := String.join (lines.map fun line => line ++ "\n")

/-- The text of a report; colours are for a terminal only, and elsewhere the events lose theirs
too. -/
def report (v : Verdict) (script results : String) (terminal : Bool) : String :=
  let text := unlines (v.reportLines script results)
  if terminal then text else Text.Ansi.strip text

end WatchTrial.Verdict
