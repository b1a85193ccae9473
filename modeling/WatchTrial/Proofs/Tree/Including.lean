import WatchTrial.Perform
import WatchTrial.Proofs.Tree.ReadBack

set_option autoImplicit false

namespace WatchTrial.Tree

/-- Whatever stands in a tree stands unchanged in a later one. -/
structure Includes (t later : Tree) : Prop where
  here : later.here = t.here
  get? : ∀ place entry, t.get? place = some entry → later.get? place = some entry

namespace Includes

variable {t mid later : Tree}

theorem refl (t : Tree) : t.Includes t := ⟨rfl, fun _ _ found => found⟩

theorem trans (first : t.Includes mid) (second : mid.Includes later) : t.Includes later where
  here := second.here.trans first.here
  get? := fun place entry found => second.get? place entry (first.get? place entry found)

theorem grown (included : t.Includes later) : t.Extends later where
  here := included.here
  directory := fun place found => included.get? place .directory found
  present := fun place entry found => ⟨entry, included.get? place entry found⟩

end Includes

section

variable {t : Tree} {p : Path}

theorem includes_set {directory : Location} {name : Name} (entry : Entry)
    (free : t.lookup directory name = .ok none) :
    t.Includes (t.set (directory ++ [name]) entry) where
  here := rfl
  get? := by
    intro place old found
    rw [get?_set_other t (by simp) entry]
    · exact found
    · rintro rfl
      rw [(lookup_eq_ok_iff.1 free).2] at found
      cases found

theorem includes_ensure (t : Tree) (p : Path) (existOk : Bool) :
    t.Includes (t.ensure p existOk).tree := by
  unfold ensure
  rcases makeDirectory_cases t p with ⟨refusal, refused⟩ | ⟨directory, name, -, free, made⟩
  · rw [refused]
    simp only [refuse]
    split
    · exact .refl t
    · exact .refl t
  · rw [made]
    exact includes_set .directory free

theorem includes_touch (t : Tree) (p : Path) : t.Includes (t.touch p).tree := by
  unfold touch
  split
  · exact .refl t
  · rename_i refusal unresolved
    rcases writeFile_cases t p [] with
      ⟨other, refused⟩ | ⟨directory, name, old, executable, located, looked, -, written⟩
    · rw [refused]
      exact .refl t
    · cases old with
      | some entry => cases (resolve_of_child located looked).symm.trans unresolved
      | none =>
          rw [written]
          exact includes_set _ looked

theorem isDirectory_iff :
    t.isDirectory p = true ↔ ∃ place, t.resolve p = .ok (place, .directory) := by
  unfold isDirectory
  split
  · rename_i place resolved
    simp [resolved]
  · rename_i other
    constructor
    · intro no
      cases no
    · rintro ⟨place, resolved⟩
      exact absurd resolved (other place)

theorem isDirectory_of_extends {later : Tree} (grown : t.Extends later)
    (found : t.isDirectory p = true) : later.isDirectory p = true := by
  obtain ⟨place, resolved⟩ := isDirectory_iff.1 found
  obtain ⟨spot, located, rfl, there, short⟩ := resolve_eq_ok resolved
  have same : spot.location later = spot.location t := by
    cases spot with
    | top absolute => simp only [Spot.location, grown.here]
    | _ => rfl
  have still := grown.directory _ there
  rw [← same] at still
  exact isDirectory_iff.2 ⟨_, resolve_of_located (locate_of_extends grown located) short still⟩

theorem isDirectory_of_ensure {existOk : Bool}
    (succeeded : (t.ensure p existOk).result = .ok ()) :
    (t.ensure p existOk).tree.isDirectory p = true := by
  unfold ensure at succeeded ⊢
  rcases makeDirectory_cases t p with ⟨refusal, refused⟩ | ⟨directory, name, located, free, made⟩
  · rw [refused] at succeeded ⊢
    simp only [refuse] at succeeded ⊢
    split at succeeded
    · rename_i admitted
      rw [if_pos admitted]
      exact (Bool.and_eq_true_iff.1 admitted).2
    · cases succeeded
  · rw [made]
    have looked : (t.set (directory ++ [name]) .directory).lookup directory name =
        .ok (some .directory) :=
      lookup_eq_ok_iff.2 ⟨(lookup_eq_ok_iff.1 free).1, get?_set_self t (by simp) _⟩
    have again := locate_of_extends (includes_set .directory free).grown located
    exact isDirectory_iff.2 ⟨_, resolve_of_child again looked⟩

theorem ensure_of_isDirectory (found : t.isDirectory p = true) : t.ensure p true = done t := by
  unfold ensure
  rcases makeDirectory_cases t p with ⟨refusal, refused⟩ | ⟨directory, name, located, free, made⟩
  · rw [refused]
    simp only [refuse, found, Bool.and_self, if_true]
  · obtain ⟨place, resolved⟩ := isDirectory_iff.1 found
    obtain ⟨spot, same, rfl, there, -⟩ := resolve_eq_ok resolved
    cases located.symm.trans same
    cases (lookup_eq_ok_iff.1 free).2.symm.trans there

end

end WatchTrial.Tree
