import WatchTrial.Proofs.Tree.Reaching

set_option autoImplicit false

namespace WatchTrial.Tree

/-- A file stands at a location. -/
def IsFile (t : Tree) (location : Location) : Prop :=
  ∃ content executable, t.get? location = some (.file content executable)

/-- What is at one location can be moved to another: something is there, the other is in a directory,
neither is above the other, and what is at the other can be replaced by it. -/
structure Movable (t : Tree) (source target : Location) : Prop where
  present : t.get? source ≠ none
  parent : t.get? target.dropLast = some .directory
  notInside : ¬(source <+: target ∧ source ≠ target)
  notAround : ¬(target <+: source ∧ target ≠ source)
  replaces : t.get? target = none ∨ target = source ∨ t.IsFile source ∧ t.IsFile target ∨
    t.get? source = some .directory ∧ t.get? target = some .directory ∧ t.Bare target

/-- A move between different places carries the subtree whole and leaves all else alone. -/
theorem Movable.relocates {t : Tree} {old new : Location} (movable : t.Movable old new)
    (different : old ≠ new) :
    (∀ rest, (t.replaced old new).get? (new ++ rest) = t.get? (old ++ rest)) ∧
      (∀ rest, (t.replaced old new).get? (old ++ rest) = none) ∧
      ∀ other, ¬old <+: other → ¬new <+: other →
        (t.replaced old new).get? other = t.get? other := by
  have notAbove : ¬old <+: new := fun above => movable.notInside ⟨above, different⟩
  have notBelow : ¬new <+: old := fun below => movable.notAround ⟨below, Ne.symm different⟩
  exact ⟨get?_replaced_target notAbove notBelow t, get?_replaced_source notAbove notBelow t,
    fun other => get?_replaced_outside t⟩

section

variable {t : Tree}

theorem admitsReplacement_eq_ok_iff {entry : Entry} {source target : Location}
    (found : t.get? source = some entry) :
    t.admitsReplacement entry target = .ok () ↔
      t.get? target = none ∨ t.IsFile source ∧ t.IsFile target ∨
        t.get? source = some .directory ∧ t.get? target = some .directory ∧ t.Bare target := by
  unfold IsFile admitsReplacement
  rw [← hasBelow_eq_false_iff]
  cases entry with
  | directory =>
      cases there : t.get? target with
      | none => simp
      | some other =>
          cases other with
          | directory => cases below : t.hasBelow target <;> simp [found]
          | file content executable => simp [found]
  | file content executable =>
      cases there : t.get? target with
      | none => simp
      | some other => cases other <;> simp [found]

/-- To be strictly above a name in a directory is to be the directory or above it. -/
theorem strictly_above_child_iff {location directory : Location} (name : Name) :
    (location <+: directory ++ [name] ∧ location ≠ directory ++ [name]) ↔ location <+: directory := by
  rw [List.prefix_concat_iff]
  constructor
  · rintro ⟨same | below, different⟩
    · exact absurd same different
    · exact below
  · intro below
    refine ⟨Or.inr below, ?_⟩
    rintro rfl
    have longer := below.length_le
    rw [List.length_append, List.length_singleton] at longer
    omega

variable {source target : Path}

/-- A move that is not refused was admitted by what is at the two places, and has replaced the one
by the other. -/
theorem movable_of_move (sourceDown : source.Descends) (targetDown : target.Descends) :
    (∃ refusal, t.move source target = t.refuse refusal) ∨
      t.Movable (t.place source) (t.place target) ∧
        t.move source target = done (if t.place source = t.place target then t
          else t.replaced (t.place source) (t.place target)) := by
  rcases move_cases t source target with refused | ⟨fromDirectory, fromName, toDirectory, toName,
    entry, sourceLocated, targetLocated, looked, -, notInside, notAround, admitted, moved⟩
  · exact Or.inl refused
  · have found := (lookup_eq_ok_iff.1 looked).2
    have parent := parent_of_locate targetDown targetLocated
    rw [← strictly_above_child_iff toName] at notInside
    rw [← strictly_above_child_iff fromName] at notAround
    rw [child_of_locate sourceDown sourceLocated] at found admitted moved notInside notAround
    rw [child_of_locate targetDown targetLocated] at admitted moved notInside notAround
    have replaces : t.get? (t.place target) = none ∨ t.place target = t.place source ∨
        t.IsFile (t.place source) ∧ t.IsFile (t.place target) ∨
          t.get? (t.place source) = some .directory ∧ t.get? (t.place target) = some .directory ∧
            t.Bare (t.place target) := by
      by_cases same : t.place target = t.place source
      · exact Or.inr (Or.inl same)
      · have free := (admitsReplacement_eq_ok_iff found).1 (admitted (Ne.symm same))
        exact free.imp_right Or.inr
    exact Or.inr ⟨⟨by simp [found], parent, notInside, notAround, replaces⟩, moved⟩

theorem move_of_movable (rooted : t.Rooted) (sourceDown : source.Descends)
    (targetDown : target.Descends) (sourceFits : source.Fits) (targetFits : target.Fits)
    (sourceNamed : source.names ≠ []) (targetNamed : target.names ≠ [])
    (movable : t.Movable (t.place source) (t.place target)) :
    (t.move source target).result = .ok () := by
  have ⟨entry, found⟩ := Option.ne_none_iff_exists'.1 movable.present
  -- What is there stands in a directory, so both paths can be followed.
  have sourceParent : t.get? (t.place source).dropLast = some .directory := by
    obtain ⟨front, last, -, placed⟩ := exists_place t sourceNamed
    rw [placed] at found
    rw [placed, List.dropLast_concat]
    exact rooted _ last entry found
  obtain ⟨fromDirectory, fromName, sourceLocated, sourcePlaced, fromShort⟩ :=
    locate_of_parent rooted sourceDown sourceFits sourceNamed sourceParent
  obtain ⟨toDirectory, toName, targetLocated, targetPlaced, toShort⟩ :=
    locate_of_parent rooted targetDown targetFits targetNamed movable.parent
  rw [sourcePlaced, targetPlaced] at movable
  rw [sourcePlaced] at found
  have notInside : ¬fromDirectory ++ [fromName] <+: toDirectory := by
    rw [← strictly_above_child_iff toName]
    exact movable.notInside
  have notAround : ¬toDirectory ++ [toName] <+: fromDirectory := by
    rw [← strictly_above_child_iff fromName]
    exact movable.notAround
  have looked : t.lookup fromDirectory fromName = .ok (some entry) :=
    lookup_eq_ok_iff.2 ⟨fromShort, found⟩
  have seen : t.lookup toDirectory toName = .ok (t.get? (toDirectory ++ [toName])) :=
    lookup_eq_ok_iff.2 ⟨toShort, rfl⟩
  have admitted : fromDirectory ++ [fromName] ≠ toDirectory ++ [toName] →
      t.admitsReplacement entry (toDirectory ++ [toName]) = .ok () := by
    intro different
    rw [admitsReplacement_eq_ok_iff found]
    rcases movable.replaces with free | same | fits
    · exact Or.inl free
    · exact absurd same.symm different
    · exact Or.inr fits
  rw [move_of_located sourceLocated targetLocated looked seen notInside notAround admitted]
  rfl

end

end WatchTrial.Tree
