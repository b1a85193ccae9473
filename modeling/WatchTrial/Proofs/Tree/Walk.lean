import WatchTrial.Proofs.Traversal
import WatchTrial.Tree.Walk

set_option autoImplicit false

namespace WatchTrial.Tree

variable {t : Tree}

theorem lookup_eq_ok_iff {directory : Location} {name : Name} {found : Option Entry} :
    t.lookup directory name = .ok found ↔
      isTooLong maxName name = false ∧ t.get? (directory ++ [name]) = found := by
  unfold lookup
  cases isTooLong maxName name <;> simp

theorem enter_eq_ok_iff {origin directory : Location} :
    t.enter origin = .ok directory ↔ t.get? origin = some .directory ∧ directory = origin := by
  unfold enter
  split
  · rename_i found
    simp [found, eq_comm]
  · rename_i found
    simp [found]
  · rename_i missing
    simp [missing]

theorem step_eq_ok_iff {origin next : Location} {name : Name} :
    t.step origin name = .ok next ↔
      t.get? origin = some .directory ∧
        (name = up ∧ next = origin.dropLast ∨
          name ≠ up ∧ next = origin ++ [name] ∧
            ∃ entry, t.lookup origin name = .ok (some entry)) := by
  unfold step
  rw [bind_eq_ok_iff]
  simp only [enter_eq_ok_iff, and_assoc, exists_and_left, exists_eq_left]
  apply and_congr_right
  intro _
  split
  · rename_i goesUp
    simp [goesUp, pure, Except.pure, eq_comm]
  · rename_i other
    rw [bind_eq_ok_iff]
    simp only [other, false_and, false_or, ne_eq, not_false_eq_true, true_and]
    constructor
    · intro stepped
      obtain ⟨found, looked, last⟩ := stepped
      cases found with
      | none => cases last
      | some entry =>
          cases last
          exact ⟨rfl, entry, looked⟩
    · intro found
      obtain ⟨rfl, entry, looked⟩ := found
      exact ⟨some entry, looked, rfl⟩

theorem walk_cons_eq_ok_iff {origin last : Location} {name : Name} {rest : List Name} :
    t.walk origin (name :: rest) = .ok last ↔
      ∃ next, t.step origin name = .ok next ∧ t.walk next rest = .ok last := by
  rw [walk, bind_eq_ok_iff]

theorem locate_eq_ok_iff {p : Path} {spot : Spot} :
    t.locate p = .ok spot ↔
      isTooLong maxPath p.chars = false ∧
        (p.names = [] ∧ spot = .top p.isAbsolute ∨
          ∃ front last directory, p.names = front ++ [last] ∧
            t.walk (t.start p) front = .ok directory ∧ t.get? directory = some .directory ∧
            spot = if last = up then .above directory else .child directory last) := by
  unfold locate
  cases isTooLong maxPath p.chars with
  | true => simp
  | false =>
      simp only [Bool.false_eq_true, if_false, true_and]
      cases ends : p.names.getLast? with
      | none =>
          have none := List.getLast?_eq_none_iff.1 ends
          simp only [none, Except.ok.injEq, true_and]
          constructor
          · intro same
            exact Or.inl same.symm
          · intro located
            obtain rfl | ⟨front, last, directory, filled, -⟩ := located
            · rfl
            · simp at filled
      | some last =>
          obtain ⟨front, whole⟩ := List.getLast?_eq_some_iff.1 ends
          rw [whole, List.dropLast_concat]
          constructor
          · intro located
            obtain ⟨above, walked, ahead⟩ := bind_eq_ok_iff.1 located
            obtain ⟨directory, entered, spotted⟩ := bind_eq_ok_iff.1 ahead
            obtain ⟨there, rfl⟩ := enter_eq_ok_iff.1 entered
            exact Or.inr ⟨front, last, directory, rfl, walked, there, (Except.ok.inj spotted).symm⟩
          · intro located
            obtain ⟨none, -⟩ | ⟨most, final, directory, same, walked, there, rfl⟩ := located
            · simp at none
            · obtain ⟨rfl, ends⟩ := List.append_inj' same rfl
              cases ends
              have entered := enter_eq_ok_iff.2 ⟨there, rfl⟩
              exact bind_eq_ok_iff.2 ⟨directory, walked, bind_eq_ok_iff.2 ⟨_, entered, rfl⟩⟩

theorem resolve_of_located {p : Path} {spot : Spot} {entry : Entry}
    (located : t.locate p = .ok spot)
    (short : ∀ directory name, spot = .child directory name → isTooLong maxName name = false)
    (there : t.get? (spot.location t) = some entry) :
    t.resolve p = .ok (spot.location t, entry) := by
  unfold resolve
  rw [located]
  cases spot with
  | child directory name =>
      have looked : t.lookup directory name = .ok (some entry) :=
        lookup_eq_ok_iff.2 ⟨short directory name rfl, there⟩
      simp only [bind, Except.bind, looked, there]
      rfl
  | above directory =>
      simp only [bind, Except.bind, there]
      rfl
  | top absolute =>
      simp only [bind, Except.bind, there]
      rfl

theorem resolve_of_child {p : Path} {directory : Location} {name : Name} {entry : Entry}
    (located : t.locate p = .ok (.child directory name))
    (looked : t.lookup directory name = .ok (some entry)) :
    t.resolve p = .ok (directory ++ [name], entry) := by
  obtain ⟨short, there⟩ := lookup_eq_ok_iff.1 looked
  apply resolve_of_located located _ there
  intro _ _ same
  cases same
  exact short

theorem resolve_eq_ok {p : Path} {place : Location} {entry : Entry}
    (resolved : t.resolve p = .ok (place, entry)) :
    ∃ spot, t.locate p = .ok spot ∧ spot.location t = place ∧ t.get? place = some entry ∧
      ∀ directory name, spot = .child directory name → isTooLong maxName name = false := by
  obtain ⟨spot, located, rest⟩ := bind_eq_ok_iff.1 resolved
  have short : ∀ directory name, spot = .child directory name →
      isTooLong maxName name = false := by
    rintro directory name rfl
    obtain ⟨_, looked, -⟩ := bind_eq_ok_iff.1 rest
    exact (lookup_eq_ok_iff.1 looked).1
  refine ⟨spot, located, ?_⟩
  cases found : t.get? (spot.location t) with
  | none =>
      simp only [found] at rest
      split at rest
      · obtain ⟨_, -, last⟩ := bind_eq_ok_iff.1 rest
        cases last
      · cases rest
  | some other =>
      simp only [found] at rest
      split at rest
      · obtain ⟨_, -, last⟩ := bind_eq_ok_iff.1 rest
        cases last
        exact ⟨rfl, found, short⟩
      · cases rest
        exact ⟨rfl, found, short⟩

end WatchTrial.Tree
