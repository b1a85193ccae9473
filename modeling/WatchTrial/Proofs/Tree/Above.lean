import WatchTrial.Proofs.Tree.Outside

set_option autoImplicit false

namespace WatchTrial.Tree

/-- Two trees that are alike at every location strictly above another. -/
structure AlikeAbove (location : Location) (t after : Tree) : Prop where
  here : after.here = t.here
  get? : ∀ above, above <+: location → above ≠ location → after.get? above = t.get? above

theorem not_below_of_above {above location : Location} (inside : above <+: location)
    (different : above ≠ location) : ¬location <+: above := fun below =>
  different (inside.eq_of_length_le below.length_le)

theorem AlikeOutside.alikeAbove {location : Location} {t after : Tree}
    (alike : AlikeOutside location t after) : AlikeAbove location t after where
  here := alike.here
  get? := by
    intro above inside different
    exact alike.get? above (not_below_of_above inside different)

section

variable {t after : Tree}

theorem step_congr {origin : Location} {name : Name} (same : after.get? origin = t.get? origin)
    (next : after.get? (origin ++ [name]) = t.get? (origin ++ [name])) :
    after.step origin name = t.step origin name := by
  have entered : after.enter origin = t.enter origin := by
    unfold enter
    rw [same]
  unfold step
  rw [entered]
  cases result : t.enter origin with
  | error refusal => rfl
  | ok directory =>
      obtain ⟨-, rfl⟩ := enter_eq_ok_iff.1 result
      have looked : after.lookup directory name = t.lookup directory name := by
        unfold lookup
        rw [next]
      simp only [bind, Except.bind, looked]

/-- What is looked at on the way are the places that the names lead through. -/
theorem walk_congr {origin : Location} {names : List Name} (down : up ∉ names)
    (same : ∀ between, between <+: names →
      after.get? (origin ++ between) = t.get? (origin ++ between)) :
    after.walk origin names = t.walk origin names := by
  induction names generalizing origin with
  | nil => rfl
  | cons name rest ih =>
      rw [List.mem_cons, not_or] at down
      have first : after.get? origin = t.get? origin := by
        have empty := same [] List.nil_prefix
        rwa [List.append_nil] at empty
      have stepped := step_congr first (same [name] ⟨rest, rfl⟩)
      rw [walk, walk, stepped]
      cases result : t.step origin name with
      | error refusal => rfl
      | ok next =>
          obtain ⟨-, ⟨goesUp, -⟩ | ⟨-, rfl, -⟩⟩ := step_eq_ok_iff.1 result
          · exact absurd goesUp.symm down.1
          · apply ih down.2
            intro between inside
            rw [List.append_assoc]
            exact same ([name] ++ between) (List.cons_prefix_cons.2 ⟨rfl, inside⟩)

variable {p : Path}

theorem locate_congr (down : p.Descends) (alike : AlikeAbove (t.place p) t after) :
    after.locate p = t.locate p := by
  have starts : after.start p = t.start p := by
    unfold start
    rw [alike.here]
  unfold locate
  rcases List.eq_nil_or_concat p.names with none | ⟨front, last, whole⟩
  · rw [none]
    rfl
  · rw [List.concat_eq_append] at whole
    have falling : up ∉ front := by
      have free : up ∉ front ++ [last] := whole ▸ down
      simp only [List.mem_append, not_or] at free
      exact free.1
    have same : ∀ between, between <+: front →
        after.get? (t.start p ++ between) = t.get? (t.start p ++ between) := by
      intro between inside
      apply alike.get?
      · rw [place, whole, List.prefix_append_right_inj]
        exact inside.trans (List.prefix_append front [last])
      · intro whole'
        rw [place, whole, List.append_cancel_left_eq] at whole'
        have shorter := inside.length_le
        rw [whole', List.length_append, List.length_singleton] at shorter
        omega
    rw [starts, whole, List.getLast?_concat, List.dropLast_concat, walk_congr falling same]
    cases walked : t.walk (t.start p) front with
    | error refusal => rfl
    | ok directory =>
        have entered : after.enter directory = t.enter directory := by
          unfold enter
          rw [walk_eq_ok falling walked, same front List.prefix_rfl]
        simp only [bind, Except.bind, entered]

end

section

variable {t : Tree} {p : Path}

/-- A path with a name that never goes up ends in a name of its own. -/
theorem child_of_named {spot : Spot} (down : p.Descends) (named : p.names ≠ [])
    (located : t.locate p = .ok spot) : ∃ directory name, spot = .child directory name := by
  obtain ⟨-, ⟨none, -⟩ | ⟨front, last, directory, names, -, -, rfl⟩⟩ := locate_eq_ok_iff.1 located
  · exact absurd none named
  · have other : last ≠ up := by
      rintro rfl
      exact down (by simp [names])
    exact ⟨directory, last, if_neg other⟩

theorem removeAll_of_located {directory : Location} {name : Name} {entry : Entry}
    (down : p.Descends) (located : t.locate p = .ok (.child directory name))
    (looked : t.lookup directory name = .ok (some entry)) :
    t.removeAll p = done (t.erase (t.place p)) := by
  have placed := child_of_locate down located
  unfold removeAll
  rw [resolve_of_child located looked, placed]
  cases entry with
  | file content executable => rfl
  | directory =>
      have cleared : AlikeOutside (t.place p) t (t.clear (t.place p)) :=
        (Edits.clear t rfl).alikeOutside fun _ same => same ▸ List.prefix_rfl
      have again := (locate_congr down cleared.alikeAbove).trans located
      unfold removeEmptied
      simp only [again, placed, erase_clear _ List.prefix_rfl]

/-- The one operation that can change the tree and be refused does so for no path that ends in a name
of its own. -/
theorem removeAll_of_named (down : p.Descends) (named : p.names ≠ []) :
    (∃ refusal, t.removeAll p = t.refuse refusal) ∨
      t.removeAll p = done (t.erase (t.place p)) := by
  cases resolved : t.resolve p with
  | error refusal =>
      left
      exact ⟨refusal, by simp only [removeAll, resolved]⟩
  | ok found =>
      obtain ⟨place, entry⟩ := found
      right
      obtain ⟨spot, located, same, there, short⟩ := resolve_eq_ok resolved
      obtain ⟨directory, name, rfl⟩ := child_of_named down named located
      subst same
      exact removeAll_of_located down located
        (lookup_eq_ok_iff.2 ⟨short directory name rfl, there⟩)

end

end WatchTrial.Tree
