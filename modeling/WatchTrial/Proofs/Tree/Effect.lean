import WatchTrial.Proofs.Tree.Outside

set_option autoImplicit false

namespace WatchTrial.Tree

variable {t : Tree} {p : Path}

theorem place_ne_nil_of_locate {directory : Location} {name : Name} (down : p.Descends)
    (located : t.locate p = .ok (.child directory name)) : t.place p ≠ [] := by
  rw [← child_of_locate down located]
  simp

/-- A directory has been made where nothing was, or is there already and was admitted. -/
theorem ensure_of_ok {existOk : Bool} (down : p.Descends)
    (succeeded : (t.ensure p existOk).result = .ok ()) :
    t.get? (t.place p) = none ∧ t.place p ≠ [] ∧
        (t.ensure p existOk).tree = t.set (t.place p) .directory ∨
      t.get? (t.place p) = some .directory ∧ existOk = true ∧ (t.ensure p existOk).tree = t := by
  rcases makeDirectory_cases t p with ⟨refusal, refused⟩ | ⟨directory, name, located, free, made⟩
  · right
    unfold ensure at succeeded ⊢
    rw [refused] at succeeded ⊢
    simp only [refuse] at succeeded ⊢
    split at succeeded
    · rename_i admitted
      rw [Bool.and_eq_true] at admitted
      rw [if_pos (by simp [admitted])]
      refine ⟨?_, admitted.1, rfl⟩
      have found := admitted.2
      unfold isDirectory at found
      split at found
      · rename_i place resolved
        exact (place_of_resolve down resolved).2
      · cases found
    · cases succeeded
  · left
    have there := (lookup_eq_ok_iff.1 free).2
    rw [child_of_locate down located] at there made
    refine ⟨there, place_ne_nil_of_locate down located, ?_⟩
    unfold ensure
    rw [made]
    rfl

/-- A file has been written where no directory was. -/
theorem writeFile_of_ok {content : Octets} (down : p.Descends)
    (succeeded : (t.writeFile p content).result = .ok ()) :
    t.get? (t.place p) ≠ some .directory ∧ t.place p ≠ [] ∧ ∃ executable,
      (t.writeFile p content).tree = t.set (t.place p) (.file content executable) := by
  rcases writeFile_cases t p content with
    ⟨refusal, refused⟩ | ⟨directory, name, old, executable, located, looked, free, written⟩
  · rw [refused] at succeeded
    cases succeeded
  · obtain ⟨-, rfl⟩ := lookup_eq_ok_iff.1 looked
    rw [child_of_locate down located] at free written
    refine ⟨free, place_ne_nil_of_locate down located, executable, ?_⟩
    rw [written]
    rfl

theorem writeFile_of_absent {directory : Location} {name : Name} (content : Octets)
    (located : t.locate p = .ok (.child directory name))
    (looked : t.lookup directory name = .ok none) :
    t.writeFile p content = done (t.set (directory ++ [name]) (.file content false)) := by
  unfold writeFile
  simp only [located, looked]

/-- An empty file has been made where nothing was, or something is there already. -/
theorem touch_of_ok (down : p.Descends) (succeeded : (t.touch p).result = .ok ()) :
    t.get? (t.place p) = none ∧ t.place p ≠ [] ∧
        (t.touch p).tree = t.set (t.place p) (.file [] false) ∨
      t.get? (t.place p) ≠ none ∧ (t.touch p).tree = t := by
  unfold touch at succeeded ⊢
  split
  · rename_i resolved
    right
    exact ⟨by simp [(place_of_resolve down resolved).2], rfl⟩
  · rename_i refusal unresolved
    rw [unresolved] at succeeded
    left
    rcases writeFile_cases t p [] with
      ⟨other, refused⟩ | ⟨directory, name, old, executable, located, looked, -, -⟩
    · simp only [refused] at succeeded
      cases succeeded
    · cases old with
      -- A file that is there would have been resolved, and so not been written.
      | some entry => cases (resolve_of_child located looked).symm.trans unresolved
      | none =>
          have there := (lookup_eq_ok_iff.1 looked).2
          rw [writeFile_of_absent [] located looked]
          rw [child_of_locate down located] at there ⊢
          exact ⟨there, place_ne_nil_of_locate down located, rfl⟩

section

/- A creation where nothing was has found the directory that it is in. -/

variable (down : p.Descends) (absent : t.get? (t.place p) = none)

include down absent

theorem located_of_ensure {existOk : Bool} (succeeded : (t.ensure p existOk).result = .ok ()) :
    ∃ directory name, t.locate p = .ok (.child directory name) ∧
      t.lookup directory name = .ok none := by
  rcases makeDirectory_cases t p with ⟨refusal, refused⟩ | ⟨directory, name, located, free, -⟩
  · have kept : (t.ensure p existOk).tree = t := by
      unfold ensure
      rw [refused]
      simp only [refuse]
      split
      · rfl
      · rfl
    rcases ensure_of_ok down succeeded with ⟨-, inner, made⟩ | ⟨there, -⟩
    · have found := get?_set_self t inner .directory
      rw [← made, kept, absent] at found
      cases found
    · rw [absent] at there
      cases there
  · exact ⟨directory, name, located, free⟩

theorem located_of_touch (succeeded : (t.touch p).result = .ok ()) :
    ∃ directory name, t.locate p = .ok (.child directory name) ∧
      t.lookup directory name = .ok none := by
  unfold touch at succeeded
  split at succeeded
  · rename_i resolved
    rw [(place_of_resolve down resolved).2] at absent
    cases absent
  · rcases writeFile_cases t p [] with
      ⟨refusal, refused⟩ | ⟨directory, name, old, executable, located, looked, -, -⟩
    · rw [refused] at succeeded
      cases succeeded
    · have there := (lookup_eq_ok_iff.1 looked).2
      rw [child_of_locate down located, absent] at there
      subst there
      exact ⟨directory, name, located, looked⟩

end

theorem removeAll_of_ok (down : p.Descends) (succeeded : (t.removeAll p).result = .ok ()) :
    t.place p ≠ [] ∧ t.get? (t.place p) ≠ none ∧ (t.removeAll p).tree = t.erase (t.place p) := by
  rcases removeAll_cases t p with ⟨refusal, refused⟩ |
    ⟨place, content, executable, resolved, removed⟩ | ⟨place, resolved, removed⟩
  · rw [refused] at succeeded
    cases succeeded
  · obtain ⟨rfl, there⟩ := place_of_resolve down resolved
    refine ⟨?_, by simp [there], by rw [removed]; rfl⟩
    intro top
    rw [top, get?_root] at there
    cases there
  · obtain ⟨rfl, there⟩ := place_of_resolve down resolved
    rw [removed] at succeeded ⊢
    rcases removeEmptied_cases (t.clear (t.place p)) p with
      ⟨refusal, refused⟩ | ⟨directory, name, located, emptied⟩
    · rw [refused] at succeeded
      cases succeeded
    · have same : (t.clear (t.place p)).place p = t.place p := rfl
      have some := place_ne_nil_of_locate down located
      rw [child_of_locate down located, same, erase_clear _ List.prefix_rfl] at emptied
      rw [same] at some
      exact ⟨some, by simp [there], by rw [emptied]; rfl⟩

end WatchTrial.Tree
