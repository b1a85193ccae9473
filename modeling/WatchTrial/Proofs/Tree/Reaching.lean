import WatchTrial.Proofs.Tree.Outside
import WatchTrial.Proofs.Tree.Rooted

set_option autoImplicit false

namespace WatchTrial

/-- No name of the path is too long, nor the whole. -/
structure Path.Fits (p : Path) : Prop where
  whole : Tree.isTooLong Tree.maxPath p.chars = false
  each : ∀ name ∈ p.names, Tree.isTooLong Tree.maxName name = false

namespace Tree

variable {t : Tree} {p : Path}

theorem exists_place (t : Tree) (named : p.names ≠ []) :
    ∃ front last, p.names = front ++ [last] ∧ t.place p = t.start p ++ front ++ [last] := by
  obtain ⟨front, last, whole⟩ :=
    (List.eq_nil_or_concat p.names).resolve_left named
  rw [List.concat_eq_append] at whole
  exact ⟨front, last, whole, by rw [place, whole, List.append_assoc]⟩

theorem walk_of_directory (rooted : t.Rooted) {origin : Location} {names : List Name}
    (down : up ∉ names) (fit : ∀ name ∈ names, isTooLong maxName name = false)
    (there : t.get? (origin ++ names) = some .directory) :
    t.walk origin names = .ok (origin ++ names) := by
  induction names generalizing origin with
  | nil => rw [walk, List.append_nil]
  | cons name rest ih =>
      rw [List.mem_cons, not_or] at down
      rw [← List.singleton_append, ← List.append_assoc] at there ⊢
      have next : t.get? (origin ++ [name]) = some .directory := by
        by_cases last : rest = []
        · rwa [last, List.append_nil] at there
        · exact rooted.above last there
      have looked : t.lookup origin name = .ok (some .directory) :=
        lookup_eq_ok_iff.2 ⟨fit name List.mem_cons_self, next⟩
      have stepped : t.step origin name = .ok (origin ++ [name]) :=
        step_eq_ok_iff.2 ⟨rooted origin name _ next, Or.inr ⟨Ne.symm down.1, rfl, _, looked⟩⟩
      have further := ih down.2 (fun other member => fit other (List.mem_cons_of_mem name member)) there
      exact walk_cons_eq_ok_iff.2 ⟨_, stepped, further⟩

/-- A path leads to its place if that is in a directory. -/
theorem locate_of_parent (rooted : t.Rooted) (down : p.Descends) (fits : p.Fits)
    (named : p.names ≠ []) (parent : t.get? (t.place p).dropLast = some .directory) :
    ∃ directory name, t.locate p = .ok (.child directory name) ∧ t.place p = directory ++ [name] ∧
      isTooLong maxName name = false := by
  obtain ⟨front, last, names, placed⟩ := exists_place t named
  rw [placed, List.dropLast_concat] at parent
  have falling : up ∉ front ∧ up ≠ last := by
    have free : up ∉ front ++ [last] := names ▸ down
    simpa using free
  have fit : ∀ name ∈ front, isTooLong maxName name = false := fun name member =>
    fits.each name (by simp [names, member])
  have walked := walk_of_directory rooted falling.1 fit parent
  refine ⟨_, last, locate_eq_ok_iff.2 ⟨fits.whole, Or.inr ⟨front, last, _, names, walked, parent, ?_⟩⟩,
    placed, fits.each last (by simp [names])⟩
  rw [if_neg (Ne.symm falling.2)]

theorem parent_of_locate {directory : Location} {name : Name} (down : p.Descends)
    (located : t.locate p = .ok (.child directory name)) :
    t.get? (t.place p).dropLast = some .directory := by
  rw [← child_of_locate down located, List.dropLast_concat]
  exact directory_of_locate located

end Tree

end WatchTrial
