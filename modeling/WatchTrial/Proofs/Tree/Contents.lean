import WatchTrial.Tree.Basic

set_option autoImplicit false

namespace WatchTrial.Tree

variable {source target other : Location}

theorem get?_set_self (t : Tree) {location : Location} (inner : location ≠ []) (entry : Entry) :
    (t.set location entry).get? location = some entry := by
  rw [get?_set _ _ _ _ inner, if_pos rfl]

theorem get?_set_other (t : Tree) {location : Location} (inner : location ≠ []) (entry : Entry)
    (different : other ≠ location) : (t.set location entry).get? other = t.get? other := by
  rw [get?_set _ _ _ _ inner, if_neg (Ne.symm different)]

theorem get?_erase_outside (t : Tree) {location : Location} (outside : ¬location <+: other) :
    (t.erase location).get? other = t.get? other := by
  by_cases top : other = []
  · rw [top, get?_root, get?_root]
  · rw [get?_erase t location other top, if_neg]
    rw [List.isPrefixOf_iff_prefix]
    exact outside

theorem get?_clear_outside (t : Tree) {location : Location} (outside : ¬location <+: other) :
    (t.clear location).get? other = t.get? other := by
  by_cases top : other = []
  · rw [top, get?_root, get?_root]
  · rw [get?_clear t location other top, if_neg]
    rw [Bool.and_eq_true, List.isPrefixOf_iff_prefix]
    exact fun below => outside below.1

theorem get?_erase_below (t : Tree) {location : Location} (inner : location ≠ []) (rest : List Name) :
    (t.erase location).get? (location ++ rest) = none := by
  rw [get?_erase _ _ _ (List.append_ne_nil_of_left_ne_nil inner rest), if_pos]
  rw [List.isPrefixOf_iff_prefix]
  exact List.prefix_append location rest

/-- What has been dropped at a location and below it is not missed when the location is removed. -/
theorem erase_filter {root : Location} (t : Tree) (keep : Location → Bool)
    (inside : ∀ key, keep key = false → root <+: key) :
    ({ t with entries := t.entries.filter fun e => keep e.1 } : Tree).erase root = t.erase root := by
  unfold erase
  congr 1
  rw [List.filter_filter]
  apply List.filter_congr
  intro e _
  cases kept : keep e.1 with
  | true => rw [Bool.and_true]
  | false => simp [List.isPrefixOf_iff_prefix.2 (inside e.1 kept)]

theorem erase_erase {root location : Location} (t : Tree) (inside : root <+: location) :
    (t.erase location).erase root = t.erase root := by
  refine erase_filter t (fun key => !location.isPrefixOf key) ?_
  intro key dropped
  rw [Bool.not_eq_false', List.isPrefixOf_iff_prefix] at dropped
  exact inside.trans dropped

theorem erase_clear {root location : Location} (t : Tree) (inside : root <+: location) :
    (t.clear location).erase root = t.erase root := by
  refine erase_filter t (fun key => !location.isPrefixOf key || key == location) ?_
  intro key dropped
  rw [Bool.or_eq_false_iff, Bool.not_eq_false', List.isPrefixOf_iff_prefix] at dropped
  exact inside.trans dropped.1

theorem find?_map_key {f : Location → Location} {location origin : Location}
    {entries : List (Location × Entry)} (hit : ∀ e ∈ entries, f e.1 = location ↔ e.1 = origin) :
    find? location (entries.map fun e => (f e.1, e.2)) = find? origin entries := by
  induction entries with
  | nil => rfl
  | cons e rest ih =>
      have first := hit e List.mem_cons_self
      have later := ih fun other member => hit other (List.mem_cons_of_mem e member)
      rw [List.map_cons, find?, find?, later]
      simp only [first]

theorem find?_eq_none {location : Location} {entries : List (Location × Entry)}
    (missed : ∀ e ∈ entries, e.1 ≠ location) : find? location entries = none := by
  induction entries with
  | nil => rfl
  | cons e rest ih =>
      rw [find?, if_neg (missed e List.mem_cons_self)]
      exact ih fun other member => missed other (List.mem_cons_of_mem e member)

theorem carry_eq_append_iff {key rest : Location} (free : ¬target <+: key) :
    carry source target key = target ++ rest ↔ key = source ++ rest := by
  unfold carry
  split
  · rename_i below
    obtain ⟨inner, rfl⟩ := List.isPrefixOf_iff_prefix.1 below
    simp
  · rename_i apart
    rw [List.isPrefixOf_iff_prefix] at apart
    apply iff_of_false
    · rintro rfl
      exact free (List.prefix_append target rest)
    · rintro rfl
      exact apart (List.prefix_append source rest)

theorem carry_eq_outside_iff {key : Location} (notSource : ¬source <+: other)
    (notTarget : ¬target <+: other) : carry source target key = other ↔ key = other := by
  unfold carry
  split
  · rename_i below
    rw [List.isPrefixOf_iff_prefix] at below
    apply iff_of_false
    · rintro rfl
      exact notTarget (List.prefix_append target _)
    · rintro rfl
      exact notSource below
  · exact Iff.rfl

/-- What is carried from one location to another is neither missed elsewhere nor met there. -/
theorem get?_relocate_outside (t : Tree) (notSource : ¬source <+: other)
    (notTarget : ¬target <+: other) : (t.relocate source target).get? other = t.get? other := by
  have same := @find?_map_key (carry source target) other other t.entries fun e _ =>
    carry_eq_outside_iff notSource notTarget
  unfold get? relocate
  rw [same]

/-- The tree when what is at one location has taken the place of what is at another. -/
def replaced (t : Tree) (source target : Location) : Tree :=
  (t.erase target).relocate source target

theorem not_prefix_of_mem_erase {t : Tree} {e : Location × Entry}
    (member : e ∈ (t.erase target).entries) : ¬target <+: e.1 := by
  rw [erase, List.mem_filter, Bool.not_eq_true', Bool.eq_false_iff] at member
  intro below
  exact member.2 (List.isPrefixOf_iff_prefix.2 below)

theorem ne_nil_of_outside {location : Location} (apart : ¬location <+: other) :
    location ≠ [] := by
  rintro rfl
  exact apart List.nil_prefix

section

variable (notAbove : ¬source <+: target) (notBelow : ¬target <+: source) (t : Tree)

include notAbove notBelow

theorem not_prefix_of_apart (rest : List Name) : ¬target <+: source ++ rest := by
  intro both
  rcases List.prefix_or_prefix_of_prefix both (List.prefix_append source rest) with inside | around
  · exact notBelow inside
  · exact notAbove around

theorem get?_replaced_target (rest : List Name) :
    (t.replaced source target).get? (target ++ rest) = t.get? (source ++ rest) := by
  have someSource : source ++ rest ≠ [] :=
    List.append_ne_nil_of_left_ne_nil (ne_nil_of_outside notAbove) rest
  have someTarget : target ++ rest ≠ [] :=
    List.append_ne_nil_of_left_ne_nil (ne_nil_of_outside notBelow) rest
  have carried := @find?_map_key (carry source target) (target ++ rest) (source ++ rest)
    (t.erase target).entries fun e member => carry_eq_append_iff (not_prefix_of_mem_erase member)
  have kept := get?_erase_outside t (not_prefix_of_apart notAbove notBelow rest)
  rw [get?, if_neg someSource] at kept
  rw [replaced, relocate, get?, if_neg someTarget, carried, kept]

theorem get?_replaced_source (rest : List Name) :
    (t.replaced source target).get? (source ++ rest) = none := by
  have someSource : source ++ rest ≠ [] :=
    List.append_ne_nil_of_left_ne_nil (ne_nil_of_outside notAbove) rest
  rw [replaced, relocate, get?, if_neg someSource]
  apply find?_eq_none
  intro e member
  obtain ⟨⟨key, entry⟩, there, rfl⟩ := List.mem_map.1 member
  unfold carry
  split
  · intro same
    apply not_prefix_of_apart notAbove notBelow rest
    rw [← same]
    exact List.prefix_append target _
  · rename_i apart
    rintro rfl
    exact apart (List.isPrefixOf_iff_prefix.2 (List.prefix_append source rest))

omit notAbove notBelow in
theorem get?_replaced_outside (notSource : ¬source <+: other) (notTarget : ¬target <+: other) :
    (t.replaced source target).get? other = t.get? other := by
  rw [replaced, get?_relocate_outside _ notSource notTarget, get?_erase_outside t notTarget]

end

end WatchTrial.Tree
