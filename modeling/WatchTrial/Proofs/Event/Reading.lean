import Mathlib.Control.Monad.Basic
import WatchTrial.Proofs.Event
import WatchTrial.Trial

set_option autoImplicit false

namespace WatchTrial.Event

/-- The line has one comma, with something on each side. -/
def Reports (line : String) : Prop :=
  ∃ full kind : String, line = full ++ "," ++ kind ∧ line.toList.count ',' = 1 ∧
    full ≠ "" ∧ kind ≠ ""

/-- The line has a character that is not white space. -/
def Filled (line : String) : Prop := ∃ c ∈ line.toList, Text.isBlank c = false

section

variable {base : Path} {line : String}

theorem Reports.filled (reports : Reports line) : Filled line := by
  obtain ⟨full, kind, rfl, -⟩ := reports
  exact ⟨',', by simp, by decide⟩

theorem count_fields (full kind : String) :
    (full ++ "," ++ kind).toList.count ',' = full.toList.count ',' + kind.toList.count ',' + 1 := by
  simp
  omega

theorem exists_ofLine?_iff : (∃ event, ofLine? base line = some event) ↔ Reports line := by
  simp only [ofLine?_eq_some_iff, Reports]
  constructor
  · rintro ⟨event, full, kind, rfl, plain, one, someFull, someKind, -⟩
    refine ⟨full, kind, rfl, ?_, someFull, someKind⟩
    rw [count_fields, List.count_eq_zero_of_not_mem plain, List.count_eq_zero_of_not_mem one]
  · rintro ⟨full, kind, rfl, commas, someFull, someKind⟩
    rw [count_fields] at commas
    exact ⟨_, full, kind, rfl, List.count_eq_zero.1 (by omega), List.count_eq_zero.1 (by omega),
      someFull, someKind, rfl⟩

theorem ofLine?_eq_none_iff : ofLine? base line = none ↔ ¬Reports line := by
  rw [← @exists_ofLine?_iff base line, ← Option.isSome_iff_exists, Option.not_isSome_iff_eq_none]

theorem isBlankText_eq_false_iff : Text.isBlankText line.toList = false ↔ Filled line := by
  simp [Text.isBlankText, List.all_eq_false, Filled]

end

/-- Lines are read when each of them that is not blank reports an event, and then as these events. -/
theorem ofLines_eq_ok_iff {base : Path} {lines : List String} {events : List Event} :
    ofLines base lines = .ok events ↔ (filled lines).map (ofLine? base) = events.map some := by
  rw [ofLines_eq_mapM]
  induction filled lines generalizing events with
  | nil =>
      cases events with
      | nil => exact iff_of_true rfl rfl
      | cons event events => simp [pure, Except.pure]
  | cons line rest ih =>
      constructor
      · intro whole
        obtain ⟨event, others, first, later, rfl⟩ := mapM_cons_eq_ok whole
        rw [List.map_cons, List.map_cons, ofLine_eq_ok_iff.1 first, ih.1 later]
      · intro each
        cases events with
        | nil => cases each
        | cons event others =>
            rw [List.map_cons, List.map_cons, List.cons.injEq] at each
            rw [mapM_cons_of_ok rest (ofLine_eq_ok_iff.2 each.1), ih.2 each.2]
            rfl

theorem exists_ofLines_eq_ok_iff {base : Path} {lines : List String} :
    (∃ events, ofLines base lines = .ok events) ↔ ∀ line ∈ lines, Filled line → Reports line := by
  have either : (∃ events, ofLines base lines = .ok events) ↔
      ¬∃ bad, ofLines base lines = .error bad := by
    cases ofLines base lines <;> simp
  rw [either, exists_ofLines_eq_error_iff]
  simp only [mem_filled, isBlankText_eq_false_iff, ofLine?_eq_none_iff]
  constructor
  · intro none line member full
    exact Classical.not_not.1 fun silent => none ⟨line, ⟨member, full⟩, silent⟩
  · rintro all ⟨line, ⟨member, full⟩, silent⟩
    exact silent (all line member full)

theorem filled_eq_append_cons_iff {lines before after : List String} {line : String} :
    filled lines = before ++ line :: after ↔
      ∃ front back, lines = front ++ line :: back ∧ filled front = before ∧ Filled line ∧
        filled back = after := by
  simp only [filled, List.filter_eq_append_iff, List.filter_eq_cons_iff, Bool.not_eq_true',
    isBlankText_eq_false_iff]
  constructor
  · rintro ⟨front, -, rfl, kept, blank, back, rfl, idle, full, later⟩
    refine ⟨front ++ blank, back, by simp, ?_, full, later⟩
    have none : blank.filter (fun line => !Text.isBlankText line.toList) = [] := by
      simpa [List.filter_eq_nil_iff, ← isBlankText_eq_false_iff] using idle
    rw [List.filter_append, kept, none, List.append_nil]
  · rintro ⟨front, back, rfl, kept, full, later⟩
    exact ⟨front, line :: back, rfl, kept, [], back, rfl, by simp, full, later⟩

/-- The line that is told is the first of all that is not blank and has not one comma with something
on each side. -/
theorem ofLines_eq_error_iff_first {base : Path} {lines : List String} {bad : String} :
    ofLines base lines = .error bad ↔
      ∃ before after, lines = before ++ bad :: after ∧
        (∀ line ∈ before, Filled line → Reports line) ∧ Filled bad ∧ ¬Reports bad := by
  simp only [ofLines_eq_error_iff, exists_ofLine?_iff, ofLine?_eq_none_iff]
  constructor
  · rintro ⟨early, late, cut, good, silent⟩
    obtain ⟨before, after, rfl, rfl, full, -⟩ := filled_eq_append_cons_iff.1 cut
    refine ⟨before, after, rfl, fun line member filled => ?_, full, silent⟩
    exact good line (mem_filled.2 ⟨member, isBlankText_eq_false_iff.2 filled⟩)
  · rintro ⟨before, after, rfl, good, full, silent⟩
    refine ⟨filled before, filled after, ?_, fun line member => ?_, silent⟩
    · exact filled_eq_append_cons_iff.2 ⟨before, after, rfl, rfl, full, rfl⟩
    · obtain ⟨inside, there⟩ := mem_filled.1 member
      exact good line inside (isBlankText_eq_false_iff.1 there)

/-- Lines are read just when each that is not blank has one comma with something on each side: one
event for each, in their order, and each the one that the line reports by itself. Else what is told is
the first line that is not blank and has not, as it stands, and reading ends in no other way. -/
theorem reading_of_lines (base : Path) (lines : List String) :
    ((∃ events, ofLines base lines = .ok events) ↔ ∀ line ∈ lines, Filled line → Reports line) ∧
      (∀ events, ofLines base lines = .ok events →
        (lines.filter fun line => !Text.isBlankText line.toList).map (ofLine? base) =
          events.map some) ∧
      (∀ bad, ofLines base lines = .error bad ↔
        ∃ before after, lines = before ++ bad :: after ∧
          (∀ line ∈ before, Filled line → Reports line) ∧ Filled bad ∧ ¬Reports bad) ∧
      ∀ stop, Trial.eventTexts base lines = .error stop →
        ∃ bad, ofLines base lines = .error bad ∧ stop = .failed (.output bad) := by
  refine ⟨exists_ofLines_eq_ok_iff, fun events read => ofLines_eq_ok_iff.1 read,
    fun bad => ofLines_eq_error_iff_first, fun stop stopped => ?_⟩
  unfold Trial.eventTexts at stopped
  split at stopped
  · cases stopped
  · rename_i bad refused
    exact ⟨bad, refused, (Except.error.inj stopped).symm⟩

/-- Lines with nothing in them, with white space alone and with fields of white space before the line
that is told; the one behind it would be told too. -/
theorem reading_of_lines_up_to_bare_word :
    let lines := ["", " \t\u2028", "//b/a,Create", " , ", "word", "a,b,c"]
    let good := lines.take 4
    let base := Path.ofString "/b"
    (∀ line ∈ good, Filled line → Reports line) ∧
      (good.filter fun line => !Text.isBlankText line.toList).map (ofLine? base) =
        [some ⟨"a", "Create"⟩, some ⟨"", " "⟩] ∧
      ofLines base lines = .error "word" ∧ Filled "word" ∧ ¬Reports "word" ∧ ¬Reports "a,b,c" := by
  intro lines good base
  have read : ofLines base good = .ok [⟨"a", "Create"⟩, ⟨"", " "⟩] := by decide +kernel
  have refused : ofLines base lines = .error "word" := by decide +kernel
  have whole := reading_of_lines base good
  have broken := reading_of_lines base lines
  obtain ⟨before, after, -, -, full, silent⟩ := (broken.2.2.1 "word").1 refused
  refine ⟨whole.1.1 ⟨_, read⟩, whole.2.1 _ read, refused, full, silent, ?_⟩
  rw [← @ofLine?_eq_none_iff base]
  decide +kernel

end WatchTrial.Event
