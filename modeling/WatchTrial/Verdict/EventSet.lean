set_option autoImplicit false

namespace WatchTrial

/-- The list without a text that follows an equal one. -/
def dropRepeats : List String → List String
  | [] => []
  | [text] => [text]
  | text :: next :: rest =>
      if text = next then dropRepeats (next :: rest) else text :: dropRepeats (next :: rest)

theorem mem_dropRepeats (text : String) (texts : List String) :
    text ∈ dropRepeats texts ↔ text ∈ texts := by
  fun_induction dropRepeats texts with
  | case1 => simp
  | case2 => simp
  | case3 next rest ih => simp [ih]
  | case4 first next rest _ ih => simp [ih]

theorem increasing_dropRepeats (texts : List String) (sorted : texts.Pairwise (· ≤ ·)) :
    (dropRepeats texts).Pairwise (· < ·) := by
  fun_induction dropRepeats texts with
  | case1 => simp
  | case2 => simp
  | case3 next rest ih => exact ih (List.Pairwise.of_cons sorted)
  | case4 first next rest different ih =>
      have after := List.pairwise_cons.1 sorted
      refine List.pairwise_cons.2 ⟨fun later member => ?_, ih after.2⟩
      have above : first < next :=
        String.not_le.1 fun below =>
          different (String.le_antisymm (after.1 next List.mem_cons_self) below)
      rcases List.mem_cons.1 ((mem_dropRepeats later _).1 member) with rfl | inner
      · exact above
      · exact String.not_le.1 fun below =>
          String.not_le.2 above
            (String.le_trans ((List.pairwise_cons.1 after.2).1 later inner) below)

theorem eq_of_increasing (a b : List String) (increasingA : a.Pairwise (· < ·))
    (increasingB : b.Pairwise (· < ·)) (same : ∀ text, text ∈ a ↔ text ∈ b) : a = b := by
  induction a generalizing b with
  | nil =>
      cases b with
      | nil => rfl
      | cons y b => exact absurd ((same y).2 List.mem_cons_self) List.not_mem_nil
  | cons x a ih =>
      cases b with
      | nil => exact absurd ((same x).1 List.mem_cons_self) List.not_mem_nil
      | cons y b =>
          have afterX := List.pairwise_cons.1 increasingA
          have afterY := List.pairwise_cons.1 increasingB
          have heads : x = y := by
            rcases List.mem_cons.1 ((same x).1 List.mem_cons_self) with equal | later
            · exact equal
            · rcases List.mem_cons.1 ((same y).2 List.mem_cons_self) with equal | sooner
              · exact equal.symm
              · exact absurd (afterX.1 y sooner) (String.lt_asymm (afterY.1 x later))
          subst heads
          rw [ih b afterX.2 afterY.2 fun text => ⟨fun member => ?_, fun member => ?_⟩]
          · have there := (same text).1 (List.mem_cons_of_mem x member)
            rcases List.mem_cons.1 there with equal | inner
            · exact absurd (afterX.1 text member) (equal ▸ String.lt_irrefl x)
            · exact inner
          · have there := (same text).2 (List.mem_cons_of_mem x member)
            rcases List.mem_cons.1 there with equal | inner
            · exact absurd (afterY.1 text member) (equal ▸ String.lt_irrefl x)
            · exact inner

structure EventSet where
  members : List String
  increasing : members.Pairwise (· < ·)
  deriving DecidableEq

namespace EventSet

def sort (texts : List String) : List String := texts.mergeSort fun a b => decide (a ≤ b)

theorem sorted_sort (texts : List String) : (sort texts).Pairwise (· ≤ ·) := by
  have sorted := @List.pairwise_mergeSort String (fun a b => decide (a ≤ b))
    (fun a b c first second => decide_eq_true (String.le_trans (of_decide_eq_true first)
      (of_decide_eq_true second)))
    (fun a b => by
      rcases String.le_total a b with below | above
      · simp [below]
      · simp [above])
    texts
  exact sorted.imp fun related => of_decide_eq_true related

/-- The set of the texts of a list. -/
def ofList (texts : List String) : EventSet :=
  ⟨dropRepeats (sort texts), increasing_dropRepeats _ (sorted_sort texts)⟩

/-- The texts of one set that are not in another. -/
def diff (s t : EventSet) : EventSet :=
  ⟨s.members.filter fun text => !t.members.contains text, s.increasing.filter _⟩

theorem mem_ofList (text : String) (texts : List String) :
    text ∈ (ofList texts).members ↔ text ∈ texts := by
  rw [ofList, mem_dropRepeats, sort]
  exact (List.mergeSort_perm texts _).mem_iff

theorem eq_of_same_members (s t : EventSet)
    (same : ∀ text, text ∈ s.members ↔ text ∈ t.members) : s = t := by
  obtain ⟨a, increasingA⟩ := s
  obtain ⟨b, increasingB⟩ := t
  simp only [mk.injEq]
  exact eq_of_increasing a b increasingA increasingB same

theorem mem_diff (text : String) (s t : EventSet) :
    text ∈ (s.diff t).members ↔ text ∈ s.members ∧ text ∉ t.members := by
  simp [diff]

end EventSet

end WatchTrial
