import WatchTrial.Proofs.Text.LineEnd
import WatchTrial.Proofs.Text.Utf8
import WatchTrial.Proofs.Verdict.Sets

set_option autoImplicit false

namespace WatchTrial

/-- The text of the event stands on one line when it is written to a text file. -/
def Event.OneLine (event : Event) : Prop := ∀ c ∈ event.text.toList, Text.isLineEnd c = false

instance (event : Event) : Decidable event.OneLine :=
  List.decidableBAll (fun c => Text.isLineEnd c = false) event.text.toList

theorem Event.isBlankText_text (event : Event) : Text.isBlankText event.text.toList = false := by
  have comma : ',' ∈ event.text.toList := by simp [Event.text]
  rw [Text.isBlankText, List.all_eq_false]
  exact ⟨',', comma, by decide⟩

namespace Expectation

/-- A text that stands as a line of its own in a file of expected events. -/
structure IsLine (text : String) : Prop where
  full : Text.isBlankText text.toList = false
  whole : ∀ c ∈ text.toList, Text.isLineEnd c = false

/-- All that is read from a file stands as a line of its own. -/
theorem isLine_of_mem_ofText {content : List Char} {text : String}
    (member : text ∈ (ofText content).members) : IsLine text := by
  obtain ⟨line, there, full, rfl⟩ := (mem_ofText content text).1 member
  constructor
  · rw [String.toList_ofList]
    exact full
  · rw [String.toList_ofList]
    exact Text.ends_of_mem_cutAfter Text.isLineEnd _ line there

theorem ofText_toText_of_isLine (s : EventSet) (lines : ∀ text ∈ s.members, IsLine text) :
    ofText (toText s) = s := by
  have cut : Text.fileLines (toText s) = s.members.map String.toList := by
    have whole := @Text.fileLines_flatMap .lf (s.members.map String.toList) (by
      intro line member
      obtain ⟨text, there, rfl⟩ := List.mem_map.1 member
      exact (lines text there).whole)
    rw [List.flatMap_map] at whole
    exact whole
  apply EventSet.eq_of_same_members
  intro text
  rw [mem_ofText, Listed, cut]
  constructor
  · rintro ⟨line, member, -, rfl⟩
    obtain ⟨other, there, rfl⟩ := List.mem_map.1 member
    rw [String.ofList_toList]
    exact there
  · intro there
    exact ⟨text.toList, List.mem_map_of_mem there, (lines text there).full, String.ofList_toList⟩

/-- A set of texts is read as it was written just when each of them stands as a line. -/
theorem ofText_toText_iff (s : EventSet) :
    ofText (toText s) = s ↔ ∀ text ∈ s.members, IsLine text := by
  constructor
  · intro same text member
    rw [← same] at member
    exact isLine_of_mem_ofText member
  · exact ofText_toText_of_isLine s

/-- What is read from a file is read again when it has been written. -/
theorem ofText_toText_ofText (content : List Char) :
    ofText (toText (ofText content)) = ofText content :=
  ofText_toText_of_isLine _ fun _ => isLine_of_mem_ofText

/-- The same of the events of a list, of which none is blank. -/
theorem ofText_events_iff (events : List Event) :
    ofText (toText (EventSet.ofList (events.map Event.text))) =
        EventSet.ofList (events.map Event.text) ↔
      ∀ event ∈ events, event.OneLine := by
  rw [ofText_toText_iff]
  constructor
  · intro lines event member
    exact (lines event.text ((EventSet.mem_ofList _ _).2 (List.mem_map_of_mem member))).whole
  · intro oneLine text member
    obtain ⟨event, there, rfl⟩ := List.mem_map.1 ((EventSet.mem_ofList _ _).1 member)
    exact ⟨event.isBlankText_text, oneLine event there⟩

end Expectation

end WatchTrial
