import WatchTrial.Proofs.Text.Ansi
import WatchTrial.Verdict.Report

set_option autoImplicit false

namespace WatchTrial.Verdict

open Text.Ansi (strip)

/-- The report on a match, without colours. -/
def passedLines (script results : String) : List String :=
  ["PASSED: Output on running " ++ strip (script ++ " matched output in " ++ results ++ ".")]

/-- A titled section without colours. -/
def plainSection (title : String) (events : EventSet) : List String :=
  title :: events.members.map fun event => "  " ++ strip event

def optionalPlainSection (title : String) (events : EventSet) : List String :=
  if events.members.isEmpty then [] else plainSection title events

/-- The report on a mismatch, without colours. -/
def failedLines (v : Verdict) : List String :=
  "FAILED" :: plainSection "EXPECTED:" v.expected ++ plainSection "OBTAINED:" v.obtained ++
    optionalPlainSection "MISSING:" v.missing ++ optionalPlainSection "UNEXPECTED:" v.unexpected

theorem toList_unlines (lines : List String) :
    (unlines lines).toList = lines.flatMap fun line => line.toList ++ ['\n'] := by
  simp [unlines, List.flatMap_map]

/-- Lines are stripped one by one. -/
theorem strip_unlines (lines : List String) :
    strip (unlines lines) = unlines (lines.map strip) := by
  apply String.toList_injective
  rw [Text.Ansi.toList_strip, toList_unlines, toList_unlines]
  induction lines with
  | nil => simp [Text.Ansi.stripChars]
  | cons line lines ih =>
      rw [List.flatMap_cons, List.append_assoc, List.singleton_append, Text.Ansi.stripChars_line,
        ih, List.map_cons, List.flatMap_cons, Text.Ansi.toList_strip, List.append_assoc,
        List.singleton_append]

theorem strip_append_of_plain (front text : String) (plain : Text.Ansi.escape ∉ front.toList) :
    strip (front ++ text) = front ++ strip text := by
  apply String.toList_injective
  rw [Text.Ansi.toList_strip, String.toList_append, String.toList_append, Text.Ansi.toList_strip,
    Text.Ansi.stripChars_append _ _ plain]

theorem strip_of_plain (text : String) (plain : Text.Ansi.escape ∉ text.toList) :
    strip text = text := by
  have whole := strip_append_of_plain text "" plain
  simpa [strip, Text.Ansi.stripChars] using whole

theorem strip_style_append (colour : Text.Ansi.Colour) (bold : Bool) (front text : String) :
    strip (Text.Ansi.style colour bold front ++ text) = strip front ++ strip text := by
  apply String.toList_injective
  simp only [Text.Ansi.toList_strip, String.toList_append, Text.Ansi.stripChars_style]

theorem strip_style (colour : Text.Ansi.Colour) (bold : Bool) (text : String) :
    strip (Text.Ansi.style colour bold text) = strip text := by
  have whole := strip_style_append colour bold text ""
  simpa [strip, Text.Ansi.stripChars] using whole

theorem strip_titled (title : String) (events : EventSet)
    (plain : Text.Ansi.escape ∉ title.toList) :
    (titled title events).map strip = plainSection title events := by
  rw [titled, plainSection, List.map_cons, strip_style, strip_of_plain title plain, List.map_map]
  congr 1
  apply List.map_congr_left
  intro event _
  exact strip_append_of_plain "  " event (by decide)

theorem strip_optionalSection (title : String) (events : EventSet)
    (plain : Text.Ansi.escape ∉ title.toList) :
    (optionalSection title events).map strip = optionalPlainSection title events := by
  unfold optionalSection optionalPlainSection
  split
  · rfl
  · exact strip_titled title events plain

/-- Without a terminal a report is written in plain lines. -/
theorem report_plain (v : Verdict) (script results : String) :
    v.report script results false =
      unlines (if v.passed then passedLines script results else v.failedLines) := by
  change strip (unlines (v.reportLines script results)) = _
  rw [strip_unlines, reportLines]
  split
  · simp only [List.map_cons, List.map_nil, String.append_assoc, passedLines]
    rw [strip_style_append, strip_of_plain _ (by decide), strip_append_of_plain _ _ (by decide)]
    rfl
  · simp only [List.map_cons, List.map_append, strip_titled "EXPECTED:" v.expected (by decide),
      strip_titled "OBTAINED:" v.obtained (by decide), failedLines,
      strip_optionalSection "MISSING:" v.missing (by decide),
      strip_optionalSection "UNEXPECTED:" v.unexpected (by decide),
      strip_style, strip_of_plain "FAILED" (by decide), List.cons_append]

/-- The two reports differ in their first character. -/
theorem passedLines_ne_failedLines (v : Verdict) (script results : String) :
    unlines (passedLines script results) ≠ unlines v.failedLines := by
  intro same
  have heads := congrArg (fun text => text.toList.head?) same
  simp [toList_unlines, passedLines, failedLines] at heads

end WatchTrial.Verdict
