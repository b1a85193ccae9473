import WatchTrial.Proofs.Verdict.Sets
import WatchTrial.Trial

set_option autoImplicit false

namespace WatchTrial

/-- Both hold the same lines, blank ones apart. -/
def SameLines (lines others : List String) : Prop :=
  ∀ line, Text.isBlankText line.toList = false → (line ∈ lines ↔ line ∈ others)

namespace SameLines

variable {base : Path} {lines others : List String}

theorem symm (same : SameLines lines others) : SameLines others lines :=
  fun line full => (same line full).symm

theorem filled (same : SameLines lines others) (line : String) :
    line ∈ Event.filled lines ↔ line ∈ Event.filled others := by
  rw [Event.mem_filled, Event.mem_filled, and_congr_left_iff]
  exact same line

theorem reported (same : SameLines lines others) (text : String) :
    Event.Reported base lines text ↔ Event.Reported base others text := by
  unfold Event.Reported
  refine exists_congr fun line => ?_
  simp only [← and_assoc, ← Event.mem_filled, same.filled line]

theorem refused (same : SameLines lines others) {bad : String}
    (failed : Event.ofLines base lines = .error bad) :
    ∃ bad', Event.ofLines base others = .error bad' := by
  obtain ⟨line, member, none⟩ := Event.exists_ofLines_eq_error_iff.1 ⟨bad, failed⟩
  exact Event.exists_ofLines_eq_error_iff.2 ⟨line, (same.filled line).1 member, none⟩

/-- The events may be others in number and order, but as a set they are the same. -/
theorem events (same : SameLines lines others) {events events' : List Event}
    (first : Event.ofLines base lines = .ok events)
    (second : Event.ofLines base others = .ok events') :
    EventSet.ofList (events.map Event.text) = EventSet.ofList (events'.map Event.text) := by
  apply EventSet.eq_of_same_members
  intro text
  rw [EventSet.mem_ofList, EventSet.mem_ofList, (Event.ofLines_eq_ok first).2,
    (Event.ofLines_eq_ok second).2, same.reported]

end SameLines

namespace Trial

/-- A verdict depends on what has been observed as a set. -/
theorem compare_congr {obtained obtained' : List String} (expected : List String)
    (same : EventSet.ofList obtained = EventSet.ofList obtained') :
    Verdict.compare obtained expected = Verdict.compare obtained' expected := by
  rw [Verdict.compare, Verdict.compare, same]

/-- The order and the number of times in which a watcher reports its lines do not count, nor do
blank lines: either both lists hold a line that reports no event, or both give the same events, the
same verdict with the same report, and the same file of expected events. -/
theorem order_and_repetition_do_not_count (base : Path) (lines others : List String)
    (same : SameLines lines others) :
    (∃ bad bad', Event.ofLines base lines = .error bad ∧ Event.ofLines base others = .error bad') ∨
      ∃ events events', Event.ofLines base lines = .ok events ∧
        Event.ofLines base others = .ok events' ∧
        EventSet.ofList (events.map Event.text) = EventSet.ofList (events'.map Event.text) ∧
        (∀ expected : List String,
          let v := Verdict.compare (events.map Event.text) expected
          let v' := Verdict.compare (events'.map Event.text) expected
          v.passed = v'.passed ∧ v.missing = v'.missing ∧ v.unexpected = v'.unexpected ∧
            ∀ script results terminal,
              v.report script results terminal = v'.report script results terminal) ∧
        Expectation.write (EventSet.ofList (events.map Event.text)) =
          Expectation.write (EventSet.ofList (events'.map Event.text)) ∧
        ∀ t results, writeExpectation t results (EventSet.ofList (events.map Event.text)) =
          writeExpectation t results (EventSet.ofList (events'.map Event.text)) := by
  cases first : Event.ofLines base lines with
  | error bad =>
      obtain ⟨bad', second⟩ := same.refused first
      exact Or.inl ⟨bad, bad', rfl, second⟩
  | ok events =>
      cases second : Event.ofLines base others with
      | error bad' =>
          obtain ⟨bad, failed⟩ := same.symm.refused second
          cases first.symm.trans failed
      | ok events' =>
          have alike := same.events first second
          refine Or.inr ⟨events, events', rfl, rfl, alike, fun expected => ?_, by rw [alike], ?_⟩
          · rw [compare_congr expected alike]
            exact ⟨rfl, rfl, rfl, fun _ _ _ => rfl⟩
          · intro t results
            rw [alike]

/-- Two lines reported twice, the other way round and after a blank line. -/
theorem repeated_lines_do_not_count :
    let lines := ["d/a,Create", "d/b,Create"]
    let others := [" ", "d/b,Create", "d/a,Create", "d/b,Create", "d/a,Create"]
    SameLines lines others ∧
      ∃ events events', Event.ofLines (Path.ofString "d") lines = .ok events ∧
        Event.ofLines (Path.ofString "d") others = .ok events' ∧ events.length < events'.length ∧
        Expectation.write (EventSet.ofList (events.map Event.text)) =
          Expectation.write (EventSet.ofList (events'.map Event.text)) := by
  intro lines others
  have same : SameLines lines others := by
    intro line full
    have inked : line ≠ " " := by
      rintro rfl
      revert full
      decide
    simp only [lines, others, List.mem_cons, List.not_mem_nil, inked, false_or, or_false]
    grind
  refine ⟨same, ?_⟩
  rcases order_and_repetition_do_not_count (Path.ofString "d") lines others same with
    ⟨bad, bad', failed, -⟩ | ⟨events, events', first, second, -, -, bytes, -⟩
  · have worked : (Event.ofLines (Path.ofString "d") lines).isOk = true := by decide +kernel
    rw [failed] at worked
    cases worked
  · have more : ((Event.ofLines (Path.ofString "d") lines).toOption.map List.length) = some 2 ∧
        ((Event.ofLines (Path.ofString "d") others).toOption.map List.length) = some 4 := by
      decide +kernel
    rw [first, second] at more
    have few := Option.some.inj more.1
    have many := Option.some.inj more.2
    exact ⟨events, events', first, second, by omega, bytes⟩

end Trial

end WatchTrial
