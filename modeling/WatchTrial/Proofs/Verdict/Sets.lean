import WatchTrial.Proofs.Event
import WatchTrial.Verdict
import WatchTrial.Verdict.Expectation

set_option autoImplicit false

namespace WatchTrial

/-- The text is that of an event which some line reports that is not blank. -/
def Event.Reported (base : Path) (lines : List String) (text : String) : Prop :=
  ∃ line ∈ lines, Text.isBlankText line.toList = false ∧
    ∃ event, Event.ofLine? base line = some event ∧ event.text = text

/-- The text is a line of the file that is not blank. -/
def Expectation.Listed (content : List Char) (text : String) : Prop :=
  ∃ line ∈ Text.fileLines content, Text.isBlankText line = false ∧ String.ofList line = text

theorem Expectation.mem_ofText (content : List Char) (text : String) :
    text ∈ (ofText content).members ↔ Listed content text := by
  simp [ofText, Listed, EventSet.mem_ofList, and_assoc]

namespace Event

/-- Lines give events when every line that is not blank reports one, and then these are reported. -/
theorem ofLines_eq_ok {base : Path} {lines : List String} {events : List Event}
    (read : ofLines base lines = .ok events) :
    (∀ line ∈ lines, Text.isBlankText line.toList = false → (ofLine? base line).isSome = true) ∧
      ∀ text, text ∈ events.map Event.text ↔ Reported base lines text := by
  rw [ofLines_eq_mapM] at read
  obtain ⟨all, back⟩ := exists_of_mapM_eq_ok read
  have event {line : String} (member : line ∈ lines)
      (full : Text.isBlankText line.toList = false) :
      ∃ event ∈ events, ofLine? base line = some event := by
    obtain ⟨event, there, found⟩ := all line (mem_filled.2 ⟨member, full⟩)
    exact ⟨event, there, ofLine_eq_ok_iff.1 found⟩
  constructor
  · intro line member full
    obtain ⟨event, -, found⟩ := event member full
    rw [found]
    rfl
  · intro text
    constructor
    · intro member
      obtain ⟨event, there, rfl⟩ := List.mem_map.1 member
      obtain ⟨line, counted, found⟩ := back event there
      obtain ⟨inside, full⟩ := mem_filled.1 counted
      exact ⟨line, inside, full, event, ofLine_eq_ok_iff.1 found, rfl⟩
    · rintro ⟨line, member, full, reported, found, rfl⟩
      obtain ⟨other, there, same⟩ := event member full
      cases found.symm.trans same
      exact List.mem_map_of_mem there

end Event

namespace EventSet

theorem ofList_members (s : EventSet) : ofList s.members = s :=
  eq_of_same_members _ _ fun text => mem_ofList text s.members

end EventSet

theorem Verdict.compare_members (obtained : List String) (expected : EventSet) :
    Verdict.compare obtained expected.members = ⟨expected, EventSet.ofList obtained⟩ := by
  rw [compare, EventSet.ofList_members]

end WatchTrial
