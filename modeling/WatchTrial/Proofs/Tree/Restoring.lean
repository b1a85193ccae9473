import WatchTrial.Proofs.Tree.Above
import WatchTrial.Proofs.Tree.Rooted

set_option autoImplicit false

namespace WatchTrial.Tree

section

variable {root location : Location}

theorem filter_put (entry : Entry) (entries : List (Location × Entry)) (below : root <+: location) :
    ((put location entry entries).filter fun e => !root.isPrefixOf e.1) =
      entries.filter fun e => !root.isPrefixOf e.1 := by
  have inside : root.isPrefixOf location = true := List.isPrefixOf_iff_prefix.2 below
  induction entries with
  | nil => simp [put, inside]
  | cons e rest ih =>
      obtain ⟨key, old⟩ := e
      rw [put]
      split
      · rename_i same
        simp [same, inside]
      · rw [List.filter_cons, List.filter_cons, ih]

theorem filter_carry {source target : Location} (entries : List (Location × Entry))
    (origin : root <+: source) (there : root <+: target) :
    ((entries.map fun e => (carry source target e.1, e.2)).filter fun e => !root.isPrefixOf e.1) =
      entries.filter fun e => !root.isPrefixOf e.1 := by
  induction entries with
  | nil => rfl
  | cons e rest ih =>
      obtain ⟨key, entry⟩ := e
      rw [List.map_cons, List.filter_cons, List.filter_cons, ih]
      unfold carry
      split
      · rename_i carried
        rw [List.isPrefixOf_iff_prefix] at carried
        have before : root.isPrefixOf key = true :=
          List.isPrefixOf_iff_prefix.2 (origin.trans carried)
        have after : root.isPrefixOf (target ++ key.drop source.length) = true :=
          List.isPrefixOf_iff_prefix.2 (there.trans (List.prefix_append target _))
        simp [before, after]
      · rfl

/-- What is done at a location and below it leaves the tree without that location as it was. -/
theorem Edits.erase_eq {touched : Location → Prop} {t after : Tree} (edits : Edits touched t after)
    (inside : ∀ location, touched location → root <+: location) :
    after.erase root = t.erase root := by
  induction edits with
  | none t => rfl
  | set t entry inner there =>
      unfold Tree.set Tree.erase
      rw [filter_put entry t.entries (inside _ there)]
  | erase t there => exact erase_erase t (inside _ there)
  | clear t there => exact erase_clear t (inside _ there)
  | relocate t origin there =>
      unfold Tree.relocate Tree.erase
      rw [filter_carry t.entries (inside _ origin) (inside _ there)]
  | append first later before behind => exact behind.trans before

end

section

variable {t : Tree} {location : Location}

theorem not_prefix_of_mem {e : Location × Entry} (none : ∀ rest, t.get? (location ++ rest) = none)
    (member : e ∈ t.entries) : ¬location <+: e.1 := by
  rintro ⟨rest, whole⟩
  obtain ⟨other, found⟩ := exists_get?_of_mem member
  rw [← whole, none rest] at found
  cases found

/-- Nothing is removed where nothing is. -/
theorem erase_eq_self (none : ∀ rest, t.get? (location ++ rest) = none) : t.erase location = t := by
  have kept : (t.entries.filter fun e => !location.isPrefixOf e.1) = t.entries := by
    rw [List.filter_eq_self]
    intro e member
    rw [Bool.not_eq_true', Bool.eq_false_iff, ne_eq, List.isPrefixOf_iff_prefix]
    exact not_prefix_of_mem none member
  unfold erase
  rw [kept]

theorem Rooted.none_of_absent (rooted : t.Rooted) (absent : t.get? location = none)
    (rest : List Name) : t.get? (location ++ rest) = none := by
  by_cases empty : rest = []
  · rw [empty, List.append_nil, absent]
  · exact rooted.bare_of_ne_directory (by simp [absent]) rest empty

end

section

variable {source target : Location} {t : Tree}

theorem carry_carry {key : Location} (free : ¬target <+: key) :
    carry target source (carry source target key) = key := by
  unfold carry
  by_cases carried : source.isPrefixOf key = true
  · obtain ⟨rest, rfl⟩ := List.isPrefixOf_iff_prefix.1 carried
    simp
  · rw [← List.isPrefixOf_iff_prefix] at free
    simp [carried, free]

/-- What has been moved to where nothing was is moved back. -/
theorem replaced_replaced (notAbove : ¬source <+: target) (notBelow : ¬target <+: source)
    (none : ∀ rest, t.get? (target ++ rest) = none) :
    (t.replaced source target).replaced target source = t := by
  have left := erase_eq_self (get?_replaced_source notAbove notBelow t)
  have back : (t.entries.map fun e => (carry source target e.1, e.2)).map
      (fun e => (carry target source e.1, e.2)) = t.entries := by
    rw [List.map_map]
    conv => rhs; rw [← List.map_id t.entries]
    apply List.map_congr_left
    intro e member
    have same := @carry_carry source target e.1 (not_prefix_of_mem none member)
    simp only [Function.comp_apply, same, id_eq]
  rw [replaced, left, replaced, erase_eq_self none]
  unfold relocate
  simp only [back]

end

/-- Something stands at a location, and without it and all below it the tree is as another is
without. -/
structure Built (root : Location) (t after : Tree) : Prop where
  without : after.erase root = t.erase root
  stands : after.get? root ≠ none

namespace Built

variable {root : Location} {t mid after : Tree}

theorem here (built : Built root t after) : after.here = t.here := by
  have same : (after.erase root).here = (t.erase root).here := by rw [built.without]
  exact same

theorem place (built : Built root t after) (p : Path) : after.place p = t.place p := by
  unfold Tree.place Tree.start
  rw [built.here]

theorem alikeAbove (built : Built root t after) : AlikeAbove root t after where
  here := built.here
  get? := by
    intro above inside different
    have outside := not_below_of_above inside different
    rw [← get?_erase_outside after outside, built.without, get?_erase_outside t outside]

theorem set (t : Tree) (inner : root ≠ []) (entry : Entry) : Built root t (t.set root entry) where
  without := (Edits.set t entry inner rfl).erase_eq fun _ same => same ▸ List.prefix_rfl
  stands := by simp [get?_set_self t inner]

/-- Edits strictly below leave what stands there standing. -/
theorem edits (built : Built root t mid)
    (edits : Edits (fun location => root <+: location ∧ location ≠ root) mid after) :
    Built root t after where
  without := (edits.erase_eq fun _ below => below.1).trans built.without
  stands := by
    have same : after.get? root = mid.get? root := by
      apply edits.get?_outside
      rintro location ⟨below, different⟩
      exact not_below_of_above below (Ne.symm different)
    rw [same]
    exact built.stands

theorem writeFile {p : Path} (built : Built (t.place p) t mid) (down : p.Descends)
    (content : Octets) : Built (t.place p) t (mid.writeFile p content).tree := by
  rcases writeFile_cases mid p content with
    ⟨refusal, refused⟩ | ⟨directory, name, old, executable, located, -, -, written⟩
  · rw [refused]
    exact built
  · have placed := (child_of_locate down located).trans (built.place p)
    have inner : t.place p ≠ [] := by
      rw [← placed]
      simp
    rw [written, placed]
    have put := Built.set mid inner (.file content executable)
    exact ⟨put.without.trans built.without, put.stands⟩

end Built

/-- What has been built where nothing was is removed, and the tree is as it was. -/
theorem Built.removeAll {t after : Tree} {p : Path} {directory : Location} {name : Name}
    (built : Built (t.place p) t after) (rooted : t.Rooted) (down : p.Descends)
    (located : t.locate p = .ok (.child directory name))
    (looked : t.lookup directory name = .ok none) : after.removeAll p = done t := by
  have placed := child_of_locate down located
  obtain ⟨short, absent⟩ := lookup_eq_ok_iff.1 looked
  rw [placed] at absent
  obtain ⟨entry, there⟩ := Option.ne_none_iff_exists'.1 built.stands
  have again : after.locate p = .ok (.child directory name) :=
    (locate_congr down built.alikeAbove).trans located
  have found : after.lookup directory name = .ok (some entry) :=
    lookup_eq_ok_iff.2 ⟨short, placed ▸ there⟩
  rw [removeAll_of_located down again found, built.place, built.without,
    erase_eq_self (rooted.none_of_absent absent)]

/-- Above the one place and above the other nothing is replaced. -/
theorem alikeAbove_replaced {t : Tree} {source target location : Location}
    (notAbove : ¬source <+: target) (notBelow : ¬target <+: source)
    (either : location = source ∨ location = target) :
    AlikeAbove location t (t.replaced source target) where
  here := rfl
  get? := by
    intro above inside different
    have outside : ∀ root, root = location ∨ ¬root <+: location → ¬root <+: above := by
      rintro root (rfl | apart) below
      · exact not_below_of_above inside different below
      · exact apart (below.trans inside)
    rcases either with rfl | rfl
    · exact get?_replaced_outside t (outside _ (Or.inl rfl)) (outside _ (Or.inr notBelow))
    · exact get?_replaced_outside t (outside _ (Or.inr notAbove)) (outside _ (Or.inl rfl))

/-- A move to where nothing was can be made the other way round, and the tree is as it was. -/
theorem move_move {t : Tree} {source target : Path} (rooted : t.Rooted)
    (sourceDown : source.Descends) (targetDown : target.Descends)
    (absent : t.get? (t.place target) = none) (succeeded : (t.move source target).result = .ok ()) :
    (t.move source target).tree.move target source = done t := by
  rcases move_cases t source target with ⟨refusal, refused⟩ | ⟨fromDirectory, fromName, toDirectory,
    toName, entry, sourceLocated, targetLocated, looked, seen, notInside, notAround, -, moved⟩
  · rw [refused] at succeeded
    cases succeeded
  · have sourcePlaced := child_of_locate sourceDown sourceLocated
    have targetPlaced := child_of_locate targetDown targetLocated
    obtain ⟨fromShort, present⟩ := lookup_eq_ok_iff.1 looked
    have toShort := (lookup_eq_ok_iff.1 seen).1
    rw [← targetPlaced] at absent
    have different : fromDirectory ++ [fromName] ≠ toDirectory ++ [toName] := by
      intro same
      rw [same, absent] at present
      cases present
    have notAbove := not_prefix_of_child different notInside
    have notBelow := not_prefix_of_child (Ne.symm different) notAround
    have after : (t.move source target).tree =
        t.replaced (fromDirectory ++ [fromName]) (toDirectory ++ [toName]) := by
      rw [moved, if_neg different]
      rfl
    have left := get?_replaced_source notAbove notBelow t []
    have carried := get?_replaced_target notAbove notBelow t []
    rw [List.append_nil] at left
    rw [List.append_nil, List.append_nil, present] at carried
    have sourceAgain := (locate_congr sourceDown
      (alikeAbove_replaced notAbove notBelow (Or.inl sourcePlaced.symm))).trans sourceLocated
    have targetAgain := (locate_congr targetDown
      (alikeAbove_replaced notAbove notBelow (Or.inr targetPlaced.symm))).trans targetLocated
    have admitted : (t.replaced (fromDirectory ++ [fromName]) (toDirectory ++ [toName])
        ).admitsReplacement entry (fromDirectory ++ [fromName]) = .ok () := by
      unfold admitsReplacement
      rw [left]
    rw [after, move_of_located targetAgain sourceAgain (lookup_eq_ok_iff.2 ⟨toShort, carried⟩)
      (lookup_eq_ok_iff.2 ⟨fromShort, left⟩) notAround notInside fun _ => admitted,
      if_neg (Ne.symm different)]
    exact congrArg done (replaced_replaced notAbove notBelow (rooted.none_of_absent absent))

end WatchTrial.Tree
