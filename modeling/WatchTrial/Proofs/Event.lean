import WatchTrial.Event
import WatchTrial.Proofs.Traversal

set_option autoImplicit false

namespace WatchTrial.Event

section

variable {base : Path}

theorem split_fields {full kind : String} (plain : ',' ∉ full.toList) (one : ',' ∉ kind.toList) :
    Text.split ',' (full ++ "," ++ kind).toList = [full.toList, kind.toList] := by
  have written : (full ++ "," ++ kind).toList = full.toList ++ ',' :: kind.toList := by simp
  rw [written, Text.split_append _ _ _ plain, Text.split_of_not_mem _ _ one]

theorem fields_inj {full kind other sort : String} (plain : ',' ∉ full.toList)
    (one : ',' ∉ kind.toList) (plainOther : ',' ∉ other.toList) (oneSort : ',' ∉ sort.toList) :
    full ++ "," ++ kind = other ++ "," ++ sort ↔ full = other ∧ kind = sort := by
  constructor
  · intro same
    have fields := congrArg (fun line : String => Text.split ',' line.toList) same
    simp only [split_fields plain one, split_fields plainOther oneSort, List.cons.injEq,
      String.toList_inj, and_true] at fields
    exact fields
  · rintro ⟨rfl, rfl⟩
    rfl

/-- A line reports an event just when it is two texts that are not empty, with a comma between them
and none in them. -/
theorem ofLine?_eq_some_iff {line : String} {event : Event} :
    ofLine? base line = some event ↔
      ∃ full kind : String, line = full ++ "," ++ kind ∧ ',' ∉ full.toList ∧ ',' ∉ kind.toList ∧
        full ≠ "" ∧ kind ≠ "" ∧ event = ⟨relativeTo base (Path.ofString full), kind⟩ := by
  constructor
  · intro reported
    unfold ofLine? at reported
    split at reported
    · rename_i full kind fields
      split at reported
      · cases reported
      · rename_i filled
        cases reported
        simp only [Bool.or_eq_true, List.isEmpty_iff, not_or] at filled
        have whole := Text.join_split ',' line.toList
        have plain (piece : List Char) (member : piece ∈ [full, kind]) : ',' ∉ piece :=
          Text.separator_not_mem_of_mem_split ',' line.toList piece (fields ▸ member)
        refine ⟨String.ofList full, String.ofList kind, ?_, ?_, ?_, ?_, ?_, ?_⟩
        · apply String.toList_injective
          rw [← whole, fields]
          simp [Text.join]
        · simpa using plain full (by simp)
        · simpa using plain kind (by simp)
        · simpa using filled.1
        · simpa using filled.2
        · rw [Path.ofString, String.toList_ofList]
    · cases reported
  · rintro ⟨full, kind, rfl, plain, one, someFull, someKind, rfl⟩
    rw [ofLine?, split_fields plain one]
    simp [someFull, someKind, Path.ofString]

/-- The two texts of a line that reports an event are the only ones that it can be cut into. -/
theorem ofLine?_comma_eq_some_iff {full kind : String} {event : Event} :
    ofLine? base (full ++ "," ++ kind) = some event ↔
      ',' ∉ full.toList ∧ ',' ∉ kind.toList ∧ full ≠ "" ∧ kind ≠ "" ∧
        event = ⟨relativeTo base (Path.ofString full), kind⟩ := by
  rw [ofLine?_eq_some_iff]
  constructor
  · rintro ⟨left, right, same, plain, one, someLeft, someRight, rfl⟩
    have commas := congrArg (fun line : String => line.toList.count ',') same
    simp only [String.toList_append, List.count_append, List.count_eq_zero_of_not_mem plain,
      List.count_eq_zero_of_not_mem one] at commas
    have plainFull : ',' ∉ full.toList := List.count_eq_zero.1 (by omega)
    have oneKind : ',' ∉ kind.toList := List.count_eq_zero.1 (by omega)
    obtain ⟨rfl, rfl⟩ := (fields_inj plainFull oneKind plain one).1 same
    exact ⟨plain, one, someLeft, someRight, rfl⟩
  · rintro ⟨plain, one, someFull, someKind, rfl⟩
    exact ⟨full, kind, rfl, plain, one, someFull, someKind, rfl⟩

end

/-- The lines that are not blank. -/
def filled (lines : List String) : List String :=
  lines.filter fun line => !Text.isBlankText line.toList

theorem mem_filled {lines : List String} {line : String} :
    line ∈ filled lines ↔ line ∈ lines ∧ Text.isBlankText line.toList = false := by
  rw [filled, List.mem_filter, Bool.not_eq_true']

/-- The event that a line reports, or the line if it reports none. -/
def ofLine (base : Path) (line : String) : Except String Event :=
  match ofLine? base line with
  | none => .error line
  | some event => .ok event

theorem ofLine_eq_error_iff {base : Path} {line bad : String} :
    ofLine base line = .error bad ↔ line = bad ∧ ofLine? base line = none := by
  unfold ofLine
  cases ofLine? base line with
  | none => simp
  | some event => simp

theorem ofLine_eq_ok_iff {base : Path} {line : String} {event : Event} :
    ofLine base line = .ok event ↔ ofLine? base line = some event := by
  unfold ofLine
  cases ofLine? base line with
  | none => simp
  | some other => simp

theorem filled_cons (line : String) (rest : List String) :
    filled (line :: rest) =
      if Text.isBlankText line.toList then filled rest else line :: filled rest := by
  rw [filled, List.filter_cons]
  cases Text.isBlankText line.toList <;> rfl

theorem ofLines_eq_mapM (base : Path) (lines : List String) :
    ofLines base lines = (filled lines).mapM (ofLine base) := by
  induction lines with
  | nil => rfl
  | cons line rest ih =>
      rw [ofLines, ih, filled_cons]
      split
      · rfl
      · rw [List.mapM_cons, ofLine]
        cases ofLine? base line <;> rfl

/-- The line that is told is the first that is not blank and reports no event. -/
theorem ofLines_eq_error_iff {base : Path} {lines : List String} {bad : String} :
    ofLines base lines = .error bad ↔
      ∃ before after, filled lines = before ++ bad :: after ∧
        (∀ line ∈ before, ∃ event, ofLine? base line = some event) ∧ ofLine? base bad = none := by
  rw [ofLines_eq_mapM, mapM_eq_error_iff]
  simp only [ofLine_eq_error_iff, ofLine_eq_ok_iff]
  constructor
  · rintro ⟨before, line, after, split, earlier, rfl, none⟩
    exact ⟨before, after, split, earlier, none⟩
  · rintro ⟨before, after, split, earlier, none⟩
    exact ⟨before, bad, after, split, earlier, rfl, none⟩

theorem exists_ofLines_eq_error_iff {base : Path} {lines : List String} :
    (∃ bad, ofLines base lines = .error bad) ↔
      ∃ line ∈ filled lines, ofLine? base line = none := by
  simp only [ofLines_eq_mapM]
  rw [exists_mapM_eq_error_iff]
  simp only [ofLine_eq_error_iff]
  constructor
  · rintro ⟨line, member, bad, -, none⟩
    exact ⟨line, member, none⟩
  · rintro ⟨line, member, none⟩
    exact ⟨line, member, line, rfl, none⟩

end WatchTrial.Event
