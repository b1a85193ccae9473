import WatchTrial.Proofs.Script.Reading
import WatchTrial.Proofs.Text.LineEnd
import WatchTrial.Proofs.Trial.Preparation
import WatchTrial.Proofs.Trial.Adoption

set_option autoImplicit false

namespace WatchTrial

open Text (LineEnd fileText)

/-- The text of a file of lines. -/
def Text.linesText (last : LineEnd) (closed : Bool) (lines : List String) : List Char :=
  fileText last closed (lines.map String.toList)

/-- No character of a line ends a line of a text file. -/
def Text.Whole (line : String) : Prop := ∀ c ∈ line.toList, isLineEnd c = false

namespace Script

variable {last : LineEnd} {closed : Bool} {lines : List String}

/-- A file has the lines that it was made from, but for an empty one without an end. -/
theorem linesOf_linesText (whole : ∀ line ∈ lines, Text.Whole line) :
    linesOf (Text.linesText last closed lines) = lines ∨
      linesOf (Text.linesText last closed lines) ++ [""] = lines := by
  have same : (lines.map String.toList).map String.ofList = lines := by
    simp [Function.comp_def]
  rcases Text.fileLines_fileText last closed (List.forall_mem_map.2 whole) with all | short
  · left
    rw [linesOf, Text.linesText, all, same]
  · right
    have split : linesOf (Text.linesText last closed lines) ++ [""] =
        (Text.fileLines (Text.linesText last closed lines) ++ [[]]).map String.ofList := by
      rw [List.map_append]
      rfl
    exact split.trans ((congrArg _ short).trans same)

/-- Lines that do not count may be left out at the end. -/
theorem read_append_of_idle (base : Path) (lines : List String) (raw : String)
    (idle : isRelevant (chomp raw) = false) : read base (lines ++ [raw]) = read base lines := by
  have none : relevantFrom (1 + lines.length) [raw] = [] := by
    rw [relevantFrom_cons, idle]
    rfl
  rw [read, read, readFrom_eq_mapM, readFrom_eq_mapM, relevantFrom_append, none, List.append_nil]

/-- A file is read as the script of its lines, with the same actions or the same error. -/
theorem read_linesText (base : Path) (whole : ∀ line ∈ lines, Text.Whole line) :
    read base (linesOf (Text.linesText last closed lines)) = read base lines := by
  rcases linesOf_linesText whole with all | short
  · rw [all]
  · have same := read_append_of_idle base (linesOf (Text.linesText last closed lines)) ""
      (by decide)
    rw [short] at same
    exact same.symm

end Script

namespace Expectation

variable {last : LineEnd} {closed : Bool} {lines : List String}

/-- The events that a file expects are those of its lines that are not blank. -/
theorem mem_ofText_linesText (whole : ∀ line ∈ lines, Text.Whole line) (text : String) :
    text ∈ (ofText (Text.linesText last closed lines)).members ↔
      text ∈ lines ∧ ∃ c ∈ text.toList, Text.isBlank c = false := by
  have filled : Text.isBlankText text.toList = false ↔ ∃ c ∈ text.toList, Text.isBlank c = false := by
    rw [Text.isBlankText, List.all_eq_false]
    simp only [Bool.not_eq_true]
  have listed : text ∈ Script.linesOf (Text.linesText last closed lines) ∧
        Text.isBlankText text.toList = false ↔
      text ∈ lines ∧ Text.isBlankText text.toList = false := by
    rcases Script.linesOf_linesText whole with all | short
    · rw [all]
    · -- An empty line that the file has lost is blank.
      have kept (full : Text.isBlankText text.toList = false) : text ∉ [""] := by
        rintro empty
        cases List.mem_singleton.1 empty
        cases full
      have parts : text ∈ Script.linesOf (Text.linesText last closed lines) ++ [""] ↔ text ∈ lines := by
        rw [short]
      rw [List.mem_append] at parts
      refine and_congr_left fun full => ?_
      rw [← parts]
      exact ⟨Or.inl, fun member => member.resolve_right (kept full)⟩
  rw [mem_ofText, ← filled, ← listed, Script.linesOf, List.mem_map]
  constructor
  · rintro ⟨line, there, full, rfl⟩
    exact ⟨⟨line, there, rfl⟩, by rwa [String.toList_ofList]⟩
  · rintro ⟨⟨line, there, rfl⟩, full⟩
    exact ⟨line, there, by rwa [String.toList_ofList] at full, rfl⟩

end Expectation

namespace Trial

/-- What is noted when a script has been read. -/
def parsed (script : Path) (actions : List Action) : Record :=
  ⟨.debug, .script, "Parsed " ++ toString actions.length ++ " actions from " ++ script.text⟩

/-- A script file is read as the script of its lines. -/
theorem run_readScript_of_text {w : World} {script : Path} (base : Path) {text : List Char}
    (read : readText w.tree script = .ok text) :
    (readScript script base).run w =
      match Script.read base (Script.linesOf text) with
      | .ok actions => (.ok actions, { w with log := w.log ++ [parsed script actions] })
      | .error e => (.error (.failed (.script e)), w) := by
  have found : (Act.ofFunction fun w : World =>
      ((readText w.tree script).mapError Stop.broken, w)).run w = (.ok text, w) := by
    rw [Act.run_ofFunction, read, mapError_ok]
  rw [readScript, Act.run_bind_of_ok _ found, Act.run_bind, Act.run_ofExcept]
  cases Script.read base (Script.linesOf text) with
  | error e => rfl
  | ok actions => rfl

/-- Whichever end all lines of a file have, and whether or not the last one has it, the file is read as
the script of the lines, as actions or with the same error, and as the events that the lines name. -/
theorem line_ends_do_not_matter (w : World) (file base : Path) (last : LineEnd) (closed : Bool)
    (lines : List String) (whole : ∀ line ∈ lines, Text.Whole line) (clean : file.hasNul = false)
    (holds : w.tree.readFile file = .ok (Text.Utf8.encode (Text.linesText last closed lines))) :
    ((readScript file base).run w =
      match Script.read base lines with
      | .ok actions => (.ok actions, { w with log := w.log ++ [parsed file actions] })
      | .error e => (.error (.failed (.script e)), w)) ∧
      ∃ events, readExpectation w.tree file = .ok (.ok events) ∧
        ∀ text, text ∈ events.members ↔ text ∈ lines ∧ ∃ c ∈ text.toList, Text.isBlank c = false := by
  have decoded := Text.Utf8.decode_encode (Text.linesText last closed lines)
  have read : readText w.tree file = .ok (Text.linesText last closed lines) := by
    rw [readText_of_clean w.tree clean, holds]
    exact congrArg (Except.mapError _) decoded
  constructor
  · rw [run_readScript_of_text base read, Script.read_linesText base whole]
  · exact ⟨_, readExpectation_of_text clean holds decoded, Expectation.mem_ofText_linesText whole⟩

/-- The same of a file that ends its lines with carriage returns, has a blank line and an unknown command
in them, and an empty line at its end. -/
theorem line_ends_do_not_matter_of_returns :
    let lines := ["Delete a", " ", "Bogus b", ""]
    let file := Path.ofString "s"
    let w : World :=
      { tree := ⟨[([['s']], .file (Text.Utf8.encode "Delete a\r \rBogus b\r".toList) false)], []⟩ }
    let e : Script.LineError := ⟨3, "Bogus b", .unknownCommand "Bogus"⟩
    (∀ line ∈ lines, Text.Whole line) ∧ file.hasNul = false ∧
      w.tree.readFile file = .ok (Text.Utf8.encode (Text.linesText .cr false lines)) ∧
      Script.read (Path.ofString ".") lines = .error e ∧
      (readScript file (Path.ofString ".")).run w = (.error (.failed (.script e)), w) ∧
      ∃ events, readExpectation w.tree file = .ok (.ok events) ∧
        ∀ text, text ∈ events.members ↔ text ∈ lines ∧ ∃ c ∈ text.toList, Text.isBlank c = false := by
  intro lines file w e
  have plain : lines.all (fun line => line.toList.all fun c => !Text.isLineEnd c) = true := by
    decide
  have whole : ∀ line ∈ lines, Text.Whole line := by
    intro line member c inside
    have other := List.all_eq_true.1 (List.all_eq_true.1 plain line member) c inside
    rwa [Bool.not_eq_true'] at other
  have clean : file.hasNul = false := by decide
  have holds : w.tree.readFile file = .ok (Text.Utf8.encode (Text.linesText .cr false lines)) := by
    decide +kernel
  have flawed : Script.read (Path.ofString ".") lines = .error e := by decide +kernel
  obtain ⟨ran, expected⟩ := line_ends_do_not_matter w file (Path.ofString ".") .cr false lines whole
    clean holds
  rw [flawed] at ran
  exact ⟨whole, clean, holds, flawed, ran, expected⟩

end Trial

end WatchTrial
