import WatchTrial.Proofs.Tree.Change
import WatchTrial.Proofs.Tree.Contents

set_option autoImplicit false

/- What is written to a file is read from it. A file that is written takes the place of no
directory, so every path that could be followed before can be followed after, and to the same place.
-/

namespace WatchTrial.Tree

/-- Nothing has gone from a tree, and what was a directory is one. -/
structure Extends (t later : Tree) : Prop where
  here : later.here = t.here
  directory : ∀ place, t.get? place = some .directory → later.get? place = some .directory
  present : ∀ place entry, t.get? place = some entry → ∃ other, later.get? place = some other

theorem extends_set (t : Tree) {location : Location} (inner : location ≠ []) (entry : Entry)
    (free : t.get? location ≠ some .directory) : t.Extends (t.set location entry) where
  here := rfl
  directory := by
    intro place found
    rw [get?_set t location place entry inner, if_neg]
    · exact found
    · rintro rfl
      exact free found
  present := by
    intro place old found
    rw [get?_set t location place entry inner]
    split
    · exact ⟨entry, rfl⟩
    · exact ⟨old, found⟩

section

variable {t later : Tree} (grown : t.Extends later)

include grown

theorem lookup_of_extends {directory : Location} {name : Name} {entry : Entry}
    (found : t.lookup directory name = .ok (some entry)) :
    ∃ other, later.lookup directory name = .ok (some other) := by
  obtain ⟨short, there⟩ := lookup_eq_ok_iff.1 found
  obtain ⟨other, still⟩ := grown.present _ entry there
  exact ⟨other, lookup_eq_ok_iff.2 ⟨short, still⟩⟩

theorem step_of_extends {place next : Location} {name : Name}
    (stepped : t.step place name = .ok next) : later.step place name = .ok next := by
  obtain ⟨directory, taken⟩ := step_eq_ok_iff.1 stepped
  refine step_eq_ok_iff.2 ⟨grown.directory place directory, ?_⟩
  rcases taken with goesUp | ⟨down, same, entry, found⟩
  · exact Or.inl goesUp
  · exact Or.inr ⟨down, same, lookup_of_extends grown found⟩

theorem walk_of_extends {place last : Location} {names : List Name}
    (walked : t.walk place names = .ok last) : later.walk place names = .ok last := by
  induction names generalizing place with
  | nil => exact walked
  | cons name rest ih =>
      obtain ⟨next, stepped, further⟩ := walk_cons_eq_ok_iff.1 walked
      exact walk_cons_eq_ok_iff.2 ⟨next, step_of_extends grown stepped, ih further⟩

theorem locate_of_extends {p : Path} {spot : Spot} (located : t.locate p = .ok spot) :
    later.locate p = .ok spot := by
  have starts : later.start p = t.start p := by
    unfold start
    rw [grown.here]
  obtain ⟨short, taken⟩ := locate_eq_ok_iff.1 located
  refine locate_eq_ok_iff.2 ⟨short, ?_⟩
  rcases taken with top | ⟨front, last, directory, names, walked, there, same⟩
  · exact Or.inl top
  · rw [starts]
    exact Or.inr ⟨front, last, directory, names, walk_of_extends grown walked,
      grown.directory directory there, same⟩

end

/-- A file can be written where it says that it has been. -/
theorem writeFile_eq_ok {t later : Tree} {p : Path} {content : Octets}
    (written : t.writeFile p content = ⟨.ok (), later⟩) :
    ∃ directory name executable, t.locate p = .ok (.child directory name) ∧
      isTooLong maxName name = false ∧ t.get? (directory ++ [name]) ≠ some .directory ∧
      later = t.set (directory ++ [name]) (.file content executable) := by
  rcases writeFile_cases t p content with
    ⟨refusal, refused⟩ | ⟨directory, name, old, executable, located, found, free, wrote⟩
  · rw [refused] at written
    cases written
  · rw [wrote] at written
    cases written
    obtain ⟨short, rfl⟩ := lookup_eq_ok_iff.1 found
    exact ⟨directory, name, executable, located, short, free, rfl⟩

theorem readFile_writeFile {t later : Tree} {p : Path} {content : Octets}
    (written : t.writeFile p content = ⟨.ok (), later⟩) : later.readFile p = .ok content := by
  obtain ⟨directory, name, executable, located, short, free, rfl⟩ := writeFile_eq_ok written
  have inner : directory ++ [name] ≠ [] := by simp
  have grown := extends_set t inner (.file content executable) free
  have looked : (t.set (directory ++ [name]) (.file content executable)).lookup directory name =
      .ok (some (.file content executable)) :=
    lookup_eq_ok_iff.2 ⟨short, get?_set_self t inner _⟩
  rw [readFile, resolve_of_child (locate_of_extends grown located) looked]

end WatchTrial.Tree
