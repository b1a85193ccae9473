import WatchTrial.Proofs.Verdict.Sets

set_option autoImplicit false

namespace WatchTrial

namespace EventSet

/-- A set without some texts and with others. -/
def revised (s gone added : EventSet) : EventSet := ofList ((s.diff gone).members ++ added.members)

theorem mem_revised (text : String) (s gone added : EventSet) :
    text ∈ (s.revised gone added).members ↔
      text ∈ s.members ∧ text ∉ gone.members ∨ text ∈ added.members := by
  rw [revised, mem_ofList, List.mem_append, mem_diff]

theorem diff_eq_nil_iff (s t : EventSet) :
    (s.diff t).members = [] ↔ ∀ text ∈ s.members, text ∈ t.members := by
  rw [List.eq_nil_iff_forall_not_mem]
  refine forall_congr' fun text => ?_
  rw [mem_diff, not_and, Classical.not_not]

end EventSet

namespace Verdict

theorem mem_missing (v : Verdict) (text : String) :
    text ∈ v.missing.members ↔ text ∈ v.expected.members ∧ text ∉ v.obtained.members :=
  EventSet.mem_diff text v.expected v.obtained

theorem mem_unexpected (v : Verdict) (text : String) :
    text ∈ v.unexpected.members ↔ text ∈ v.obtained.members ∧ text ∉ v.expected.members :=
  EventSet.mem_diff text v.obtained v.expected

/-- Two sets are the same just when neither half of their difference holds anything. -/
theorem passed_iff (v : Verdict) :
    v.passed = true ↔ v.missing.members = [] ∧ v.unexpected.members = [] := by
  rw [passed, decide_eq_true_eq, missing, unexpected, EventSet.diff_eq_nil_iff,
    EventSet.diff_eq_nil_iff]
  constructor
  · intro same
    rw [same]
    exact ⟨fun _ member => member, fun _ member => member⟩
  · rintro ⟨inside, outside⟩
    exact EventSet.eq_of_same_members _ _ fun text => ⟨inside text, outside text⟩

theorem not_mem_unexpected_of_mem_missing (v : Verdict) {text : String}
    (member : text ∈ v.missing.members) : text ∉ v.unexpected.members :=
  fun other => ((v.mem_missing text).1 member).2 ((v.mem_unexpected text).1 other).1

/-- Without what is missing and with what was not expected, the expected set is the obtained one. -/
theorem revised_expected (v : Verdict) :
    v.expected.revised v.missing v.unexpected = v.obtained := by
  apply EventSet.eq_of_same_members
  intro text
  rw [EventSet.mem_revised, mem_missing, mem_unexpected]
  constructor
  · rintro (⟨expected, kept⟩ | ⟨obtained, -⟩)
    · exact Classical.byContradiction fun lost => kept ⟨expected, lost⟩
    · exact obtained
  · intro obtained
    by_cases expected : text ∈ v.expected.members
    · exact Or.inl ⟨expected, fun lost => lost.2 obtained⟩
    · exact Or.inr ⟨obtained, expected⟩

/-- The verdict with its two sets exchanged. -/
def swap (v : Verdict) : Verdict := ⟨v.obtained, v.expected⟩

theorem passed_swap (v : Verdict) : v.swap.passed = v.passed :=
  decide_eq_decide.2 ⟨Eq.symm, Eq.symm⟩

theorem compare_swap (obtained expected : List String) :
    compare expected obtained = (compare obtained expected).swap := rfl

/-- A comparison of lists finds the difference of their sets, and nothing else; for the lists the other
way round it finds the same the other way round. -/
theorem difference_of_lists (obtained expected : List String) :
    (compare expected obtained).passed = (compare obtained expected).passed ∧
      (compare expected obtained).missing = (compare obtained expected).unexpected ∧
      (compare expected obtained).unexpected = (compare obtained expected).missing ∧
      let v := compare obtained expected
      (v.passed = true ↔ v.missing.members = [] ∧ v.unexpected.members = []) ∧
        v.missing.members.Pairwise (· < ·) ∧ v.unexpected.members.Pairwise (· < ·) ∧
        (∀ event ∈ v.missing.members, event ∉ v.unexpected.members) ∧
        (∀ event, event ∈ v.missing.members ↔ event ∈ expected ∧ event ∉ obtained) ∧
        (∀ event, event ∈ v.unexpected.members ↔ event ∈ obtained ∧ event ∉ expected) ∧
        (∀ event, event ∈ v.obtained.members ↔ event ∈ obtained) ∧
        (EventSet.ofList expected).revised v.missing v.unexpected = v.obtained := by
  have swapped : (compare expected obtained).passed = (compare obtained expected).passed := by
    rw [compare_swap, passed_swap]
  refine ⟨swapped, rfl, rfl, ?_⟩
  intro v
  have inExpected (event : String) : event ∈ v.expected.members ↔ event ∈ expected :=
    EventSet.mem_ofList event expected
  have inObtained (event : String) : event ∈ v.obtained.members ↔ event ∈ obtained :=
    EventSet.mem_ofList event obtained
  have missing (event : String) :
      event ∈ v.missing.members ↔ event ∈ expected ∧ event ∉ obtained := by
    rw [mem_missing, inExpected, inObtained]
  have unexpected (event : String) :
      event ∈ v.unexpected.members ↔ event ∈ obtained ∧ event ∉ expected := by
    rw [mem_unexpected, inExpected, inObtained]
  exact ⟨v.passed_iff, v.missing.increasing, v.unexpected.increasing,
    fun _ => v.not_mem_unexpected_of_mem_missing, missing, unexpected, inObtained,
    v.revised_expected⟩

end Verdict

end WatchTrial
