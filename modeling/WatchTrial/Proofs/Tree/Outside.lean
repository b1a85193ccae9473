import WatchTrial.Perform
import WatchTrial.Proofs.Tree.Change
import WatchTrial.Proofs.Tree.Contents

set_option autoImplicit false

namespace WatchTrial

/-- The path never names the directory above. -/
def Path.Descends (p : Path) : Prop := Tree.up ∉ p.names

instance (p : Path) : Decidable p.Descends := inferInstanceAs (Decidable (_ ∉ _))

namespace Tree

/-- The location that the names of a path make. -/
def place (t : Tree) (p : Path) : Location := t.start p ++ p.names

/-- Two trees that differ at most at a location and below it. -/
structure AlikeOutside (root : Location) (t after : Tree) : Prop where
  here : after.here = t.here
  get? : ∀ location, ¬root <+: location → after.get? location = t.get? location

section

variable {t : Tree} {p : Path}

theorem walk_eq_ok {origin last : Location} {names : List Name} (down : up ∉ names)
    (walked : t.walk origin names = .ok last) : last = origin ++ names := by
  induction names generalizing origin with
  | nil =>
      cases walked
      simp
  | cons name rest ih =>
      rw [List.mem_cons, not_or] at down
      obtain ⟨next, stepped, further⟩ := walk_cons_eq_ok_iff.1 walked
      obtain ⟨-, ⟨goesUp, -⟩ | ⟨-, same, -⟩⟩ := step_eq_ok_iff.1 stepped
      · exact absurd goesUp.symm down.1
      · rw [ih down.2 further, same, List.append_assoc, List.singleton_append]

/-- A path that never goes up leads to its place, if it leads anywhere. -/
theorem location_of_locate {spot : Spot} (down : p.Descends) (located : t.locate p = .ok spot) :
    spot.location t = t.place p := by
  obtain ⟨-, ⟨none, rfl⟩ | ⟨front, last, directory, names, walked, -, rfl⟩⟩ :=
    locate_eq_ok_iff.1 located
  · rw [place, none, List.append_nil]
    rfl
  · have falling : up ∉ front ∧ up ≠ last := by
      have free : up ∉ front ++ [last] := names ▸ down
      simpa using free
    rw [if_neg (Ne.symm falling.2), place, names, ← List.append_assoc, ← walk_eq_ok falling.1 walked]
    rfl

theorem place_of_resolve {place : Location} {entry : Entry} (down : p.Descends)
    (resolved : t.resolve p = .ok (place, entry)) :
    place = t.place p ∧ t.get? (t.place p) = some entry := by
  obtain ⟨spot, located, rfl, there, -⟩ := resolve_eq_ok resolved
  rw [location_of_locate down located] at there ⊢
  exact ⟨rfl, there⟩

theorem child_of_locate {directory : Location} {name : Name} (down : p.Descends)
    (located : t.locate p = .ok (.child directory name)) : directory ++ [name] = t.place p :=
  location_of_locate down located

end

namespace AlikeOutside

variable {root : Location} {t mid after : Tree}

theorem refl (root : Location) (t : Tree) : AlikeOutside root t t := ⟨rfl, fun _ _ => rfl⟩

theorem trans (first : AlikeOutside root t mid) (second : AlikeOutside root mid after) :
    AlikeOutside root t after where
  here := second.here.trans first.here
  get? := fun location outside =>
    (second.get? location outside).trans (first.get? location outside)

theorem start (alike : AlikeOutside root t after) (p : Path) : after.start p = t.start p := by
  unfold Tree.start
  rw [alike.here]

theorem place (alike : AlikeOutside root t after) (p : Path) : after.place p = t.place p := by
  unfold Tree.place
  rw [alike.start]

end AlikeOutside

/-- Changes of a tree, one after the other, each at a location of a kind. -/
inductive Edits (touched : Location → Prop) : Tree → Tree → Prop where
  | none (t : Tree) : Edits touched t t
  | set (t : Tree) {location : Location} (entry : Entry) (inner : location ≠ [])
      (there : touched location) : Edits touched t (t.set location entry)
  | erase (t : Tree) {location : Location} (there : touched location) :
      Edits touched t (t.erase location)
  | clear (t : Tree) {location : Location} (there : touched location) :
      Edits touched t (t.clear location)
  | relocate (t : Tree) {source target : Location} (origin : touched source)
      (there : touched target) : Edits touched t (t.relocate source target)
  | append {t mid after : Tree} (first : Edits touched t mid) (later : Edits touched mid after) :
      Edits touched t after

namespace Edits

variable {touched : Location → Prop} {t after : Tree}

theorem here (edits : Edits touched t after) : after.here = t.here := by
  induction edits with
  | append first later before behind => exact behind.trans before
  | _ => rfl

/-- What is not at an edited location nor below one is as it was. -/
theorem get?_outside {other : Location} (edits : Edits touched t after)
    (outside : ∀ location, touched location → ¬location <+: other) :
    after.get? other = t.get? other := by
  induction edits with
  | none t => rfl
  | set t entry inner there =>
      apply get?_set_other t inner
      rintro rfl
      exact outside _ there List.prefix_rfl
  | erase t there => exact get?_erase_outside t (outside _ there)
  | clear t there => exact get?_clear_outside t (outside _ there)
  | relocate t origin there =>
      exact get?_relocate_outside t (outside _ origin) (outside _ there)
  | append first later before behind => exact behind.trans before

theorem alikeOutside {root : Location} (edits : Edits touched t after)
    (inside : ∀ location, touched location → root <+: location) : AlikeOutside root t after where
  here := edits.here
  get? := by
    intro other outside
    apply edits.get?_outside
    intro location there below
    exact outside ((inside location there).trans below)

end Edits

section

variable {touched : Location → Prop} {t : Tree} {p : Path}

theorem edits_makeDirectory (down : p.Descends) (there : touched (t.place p)) :
    Edits touched t (t.makeDirectory p).tree := by
  rcases makeDirectory_cases t p with ⟨refusal, refused⟩ | ⟨directory, name, located, -, made⟩
  · rw [refused]
    exact .none t
  · rw [← child_of_locate down located] at there
    rw [made]
    exact .set t .directory (by simp) there

theorem edits_writeFile (down : p.Descends) (there : touched (t.place p)) (content : Octets) :
    Edits touched t (t.writeFile p content).tree := by
  rcases writeFile_cases t p content with
    ⟨refusal, refused⟩ | ⟨directory, name, old, executable, located, -, -, written⟩
  · rw [refused]
    exact .none t
  · rw [← child_of_locate down located] at there
    rw [written]
    exact .set t _ (by simp) there

theorem edits_ensure (down : p.Descends) (there : touched (t.place p)) (existOk : Bool) :
    Edits touched t (t.ensure p existOk).tree := by
  have made := edits_makeDirectory down there
  unfold ensure
  split
  · rename_i after same
    rw [same] at made
    exact made
  · split
    · exact .none t
    · exact .none t

theorem edits_touch (down : p.Descends) (there : touched (t.place p)) :
    Edits touched t (t.touch p).tree := by
  unfold touch
  split
  · exact .none t
  · exact edits_writeFile down there []

theorem edits_removeEmptied (down : p.Descends) (there : touched (t.place p)) :
    Edits touched t (t.removeEmptied p).tree := by
  rcases removeEmptied_cases t p with ⟨refusal, refused⟩ | ⟨directory, name, located, removed⟩
  · rw [refused]
    exact .none t
  · rw [← child_of_locate down located] at there
    rw [removed]
    exact .erase t there

theorem edits_removeAll (down : p.Descends) (there : touched (t.place p)) :
    Edits touched t (t.removeAll p).tree := by
  rcases removeAll_cases t p with ⟨refusal, refused⟩ |
    ⟨place, content, executable, resolved, removed⟩ | ⟨place, resolved, removed⟩
  · rw [refused]
    exact .none t
  · rw [← (place_of_resolve down resolved).1] at there
    rw [removed]
    exact .erase t there
  · have emptied : touched ((t.clear place).place p) := there
    rw [← (place_of_resolve down resolved).1] at there
    rw [removed]
    exact (Edits.clear t there).append (edits_removeEmptied down emptied)

theorem edits_move {source target : Path} (sourceDown : source.Descends)
    (targetDown : target.Descends) (origin : touched (t.place source))
    (there : touched (t.place target)) : Edits touched t (t.move source target).tree := by
  rcases move_cases t source target with ⟨refusal, refused⟩ |
    ⟨fromDirectory, fromName, toDirectory, toName, entry, sourceLocated, targetLocated, -, -, -, -,
      -, moved⟩
  · rw [refused]
    exact .none t
  · rw [← child_of_locate sourceDown sourceLocated] at origin
    rw [← child_of_locate targetDown targetLocated] at there
    rw [moved]
    unfold done
    split
    · exact .none t
    · exact (Edits.erase t there).append (.relocate _ origin there)

/-- An action edits the tree where its paths lead and nowhere else, whether it succeeds or is
refused. -/
theorem edits_onTree {a : Action} (down : ∀ p ∈ a.paths, p.Descends)
    (there : ∀ p ∈ a.paths, touched (t.place p)) : Edits touched t (a.onTree t).tree := by
  cases a with
  | create path directory existOk =>
      have pathDown := down path (by simp [Action.paths])
      have pathThere := there path (by simp [Action.paths])
      cases directory with
      | true => exact edits_ensure pathDown pathThere existOk
      | false => exact edits_touch pathDown pathThere
  | delete path =>
      exact edits_removeAll (down path (by simp [Action.paths]))
        (there path (by simp [Action.paths]))
  | write path content =>
      exact edits_writeFile (down path (by simp [Action.paths]))
        (there path (by simp [Action.paths])) _
  | move source target =>
      exact edits_move (down source (by simp [Action.paths])) (down target (by simp [Action.paths]))
        (there source (by simp [Action.paths])) (there target (by simp [Action.paths]))
  | wait seconds => exact .none t
  | watch path => exact .none t
  | unspecified => exact .none t

/-- An action on paths that lead to a location or below it changes nothing elsewhere. -/
theorem alikeOutside_onTree {root : Location} {a : Action} (down : ∀ p ∈ a.paths, p.Descends)
    (inside : ∀ p ∈ a.paths, root <+: t.place p) : AlikeOutside root t (a.onTree t).tree :=
  (edits_onTree down inside).alikeOutside fun _ there => there

end

end Tree

end WatchTrial
