import WatchTrial.Perform
import WatchTrial.Proofs.Tree.Change
import WatchTrial.Proofs.Tree.Contents

set_option autoImplicit false

namespace WatchTrial.Tree

/-- Whatever is there stands in a directory. -/
def Rooted (t : Tree) : Prop :=
  ∀ directory name entry, t.get? (directory ++ [name]) = some entry →
    t.get? directory = some .directory

/-- Nothing stands strictly below a location. -/
def Bare (t : Tree) (location : Location) : Prop :=
  ∀ rest, rest ≠ [] → t.get? (location ++ rest) = none

theorem mem_of_find? {location : Location} {entry : Entry} {entries : List (Location × Entry)}
    (found : find? location entries = some entry) : (location, entry) ∈ entries := by
  induction entries with
  | nil => cases found
  | cons e rest ih =>
      obtain ⟨key, first⟩ := e
      rw [find?] at found
      split at found
      · rename_i same
        cases found
        rw [same]
        exact List.mem_cons_self
      · exact List.mem_cons_of_mem _ (ih found)

theorem exists_find?_of_mem {location : Location} {entry : Entry} {entries : List (Location × Entry)}
    (member : (location, entry) ∈ entries) : ∃ other, find? location entries = some other := by
  induction entries with
  | nil => cases member
  | cons e rest ih =>
      obtain ⟨key, first⟩ := e
      by_cases same : key = location
      · exact ⟨first, if_pos same⟩
      · rcases List.mem_cons.1 member with here | later
        · cases here
          exact absurd rfl same
        · obtain ⟨other, found⟩ := ih later
          exact ⟨other, (if_neg same).trans found⟩

theorem mem_of_get? {t : Tree} {location : Location} {entry : Entry} (inner : location ≠ [])
    (found : t.get? location = some entry) : (location, entry) ∈ t.entries := by
  rw [get?, if_neg inner] at found
  exact mem_of_find? found

theorem exists_get?_of_mem {t : Tree} {location : Location} {entry : Entry}
    (member : (location, entry) ∈ t.entries) : ∃ other, t.get? location = some other := by
  by_cases top : location = []
  · exact ⟨.directory, by rw [top, get?_root]⟩
  · rw [get?, if_neg top]
    exact exists_find?_of_mem member

/-- It is enough to look at the entries. -/
theorem rooted_of_entries {t : Tree}
    (each : ∀ e ∈ t.entries, t.get? e.1.dropLast = some .directory) : t.Rooted := by
  intro directory name entry found
  have held := each _ (mem_of_get? (by simp) found)
  rwa [List.dropLast_concat] at held

section

variable {t : Tree} {location : Location}

theorem hasBelow_eq_false_iff : t.hasBelow location = false ↔ t.Bare location := by
  unfold hasBelow Bare
  rw [List.any_eq_false]
  constructor
  · intro none rest some
    cases found : t.get? (location ++ rest) with
    | none => rfl
    | some entry =>
        have member := mem_of_get? (by simp [some]) found
        have below := none _ member
        simp [some] at below
  · intro bare e member below
    simp only [Bool.and_eq_true, List.isPrefixOf_iff_prefix, bne_iff_ne] at below
    obtain ⟨⟨rest, whole⟩, strictly⟩ := below
    have some : rest ≠ [] := by
      rintro rfl
      exact strictly (whole.symm.trans (List.append_nil location))
    obtain ⟨other, found⟩ := exists_get?_of_mem member
    rw [← whole, bare rest some] at found
    cases found

namespace Rooted

variable (rooted : t.Rooted)

include rooted

/-- All that something stands below are directories. -/
theorem above {rest : List Name} {entry : Entry} (some : rest ≠ [])
    (found : t.get? (location ++ rest) = Option.some entry) :
    t.get? location = Option.some .directory := by
  induction rest generalizing location with
  | nil => exact absurd rfl some
  | cons name rest ih =>
      have next : ∃ entry, t.get? (location ++ [name]) = Option.some entry := by
        cases rest with
        | nil => exact ⟨entry, found⟩
        | cons other rest => exact ⟨.directory, ih (by simp) (by simpa using found)⟩
      obtain ⟨first, there⟩ := next
      exact rooted location name first there

theorem bare_of_ne_directory (free : t.get? location ≠ some .directory) : t.Bare location := by
  intro rest some
  cases found : t.get? (location ++ rest) with
  | none => rfl
  | some entry => exact absurd (rooted.above some found) free

theorem set {directory : Location} {name : Name} (entry : Entry)
    (inside : t.get? directory = some .directory)
    (fits : entry = .directory ∨ t.get? (directory ++ [name]) ≠ some .directory) :
    (t.set (directory ++ [name]) entry).Rooted := by
  intro above last found there
  have inner : directory ++ [name] ≠ [] := by simp
  rw [get?_set _ _ _ _ inner] at there ⊢
  split
  · rename_i here
    split at there
    · rename_i same
      rw [here] at same
      simp at same
    · have held := rooted above last found there
      rw [← here] at held
      rcases fits with same | free
      · rw [same]
      · exact absurd held free
  · split at there
    · rename_i same
      obtain ⟨rfl, -⟩ := List.append_inj' same rfl
      exact inside
    · exact rooted above last found there

theorem erase (location : Location) : (t.erase location).Rooted := by
  intro above last found there
  rw [get?_erase _ _ _ (by simp)] at there
  simp only [List.isPrefixOf_iff_prefix] at there
  split at there
  · cases there
  · rename_i outside
    by_cases top : above = []
    · rw [top, get?_root]
    · rw [get?_erase _ _ _ top, if_neg]
      · exact rooted above last found there
      · intro below
        rw [List.isPrefixOf_iff_prefix] at below
        exact outside (below.trans (List.prefix_append above [last]))

theorem clear (location : Location) : (t.clear location).Rooted := by
  intro above last found there
  rw [get?_clear _ _ _ (by simp)] at there
  split at there
  · cases there
  · rename_i outside
    by_cases top : above = []
    · rw [top, get?_root]
    · rw [get?_clear _ _ _ top, if_neg]
      · exact rooted above last found there
      · intro below
        simp only [Bool.and_eq_true, List.isPrefixOf_iff_prefix, bne_iff_ne] at below outside
        apply outside
        constructor
        · exact below.1.trans (List.prefix_append above [last])
        · intro same
          have longer := below.1.length_le
          rw [← same, List.length_append, List.length_singleton] at longer
          omega

theorem replaced {source target : Location} (inside : t.get? target.dropLast = some .directory)
    (notAbove : ¬source <+: target) (notBelow : ¬target <+: source) :
    (t.replaced source target).Rooted := by
  intro above last found there
  by_cases carried : target <+: above ++ [last]
  · obtain ⟨rest, whole⟩ := carried
    rcases List.eq_nil_or_concat rest with rfl | ⟨front, name, rfl⟩
    · -- The carried root itself stands in the directory in which the target stood.
      have parent : above = target.dropLast := by
        rw [← List.append_nil target, whole, List.dropLast_concat]
      have within : above <+: target := parent ▸ List.dropLast_prefix target
      rw [get?_replaced_outside, parent]
      · exact inside
      · exact fun below => notAbove (below.trans within)
      · intro below
        have longer := below.length_le
        rw [← List.append_nil target, whole, List.length_append, List.length_singleton] at longer
        omega
    · rw [List.concat_eq_append, ← List.append_assoc] at whole
      obtain ⟨rfl, ends⟩ := List.append_inj' whole rfl
      cases ends
      rw [List.append_assoc, get?_replaced_target notAbove notBelow, ← List.append_assoc] at there
      rw [get?_replaced_target notAbove notBelow]
      exact rooted _ _ _ there
  · by_cases left : source <+: above ++ [last]
    · obtain ⟨rest, whole⟩ := left
      rw [← whole, get?_replaced_source notAbove notBelow] at there
      cases there
    · rw [get?_replaced_outside t left carried] at there
      rw [get?_replaced_outside]
      · exact rooted above last found there
      · exact fun below => left (below.trans (List.prefix_append above [last]))
      · exact fun below => carried (below.trans (List.prefix_append above [last]))

end Rooted

end

section

variable {t : Tree}

theorem directory_of_locate {p : Path} {directory : Location} {name : Name}
    (located : t.locate p = .ok (.child directory name)) : t.get? directory = some .directory := by
  obtain ⟨-, ⟨-, same⟩ | ⟨front, last, other, -, -, there, same⟩⟩ := locate_eq_ok_iff.1 located
  · cases same
  · split at same
    · cases same
    · cases same
      exact there

/-- A location that is neither another one nor above its directory is not above it. -/
theorem not_prefix_of_child {location directory : Location} {name : Name}
    (different : location ≠ directory ++ [name]) (outside : ¬location <+: directory) :
    ¬location <+: directory ++ [name] := by
  rw [List.prefix_concat_iff, not_or]
  exact ⟨different, outside⟩

namespace Rooted

variable (rooted : t.Rooted)

include rooted

theorem makeDirectory (p : Path) : (t.makeDirectory p).tree.Rooted := by
  rcases makeDirectory_cases t p with ⟨refusal, refused⟩ | ⟨directory, name, located, -, made⟩
  · rw [refused]
    exact rooted
  · rw [made]
    exact rooted.set .directory (directory_of_locate located) (Or.inl rfl)

theorem writeFile (p : Path) (content : Octets) : (t.writeFile p content).tree.Rooted := by
  rcases writeFile_cases t p content with
    ⟨refusal, refused⟩ | ⟨directory, name, old, executable, located, found, free, written⟩
  · rw [refused]
    exact rooted
  · rw [written]
    obtain ⟨-, rfl⟩ := lookup_eq_ok_iff.1 found
    exact rooted.set _ (directory_of_locate located) (Or.inr free)

theorem ensure (p : Path) (existOk : Bool) : (t.ensure p existOk).tree.Rooted := by
  have made := rooted.makeDirectory p
  unfold Tree.ensure
  split
  · rename_i same
    rwa [same] at made
  · split
    · exact rooted
    · exact rooted

theorem touch (p : Path) : (t.touch p).tree.Rooted := by
  unfold Tree.touch
  split
  · exact rooted
  · exact rooted.writeFile p []

theorem removeEmptied (p : Path) : (t.removeEmptied p).tree.Rooted := by
  rcases removeEmptied_cases t p with ⟨refusal, refused⟩ | ⟨directory, name, -, removed⟩
  · rw [refused]
    exact rooted
  · rw [removed]
    exact rooted.erase _

theorem removeAll (p : Path) : (t.removeAll p).tree.Rooted := by
  rcases removeAll_cases t p with
    ⟨refusal, refused⟩ | ⟨place, content, executable, -, removed⟩ | ⟨place, -, removed⟩
  · rw [refused]
    exact rooted
  · rw [removed]
    exact rooted.erase place
  · rw [removed]
    exact (rooted.clear place).removeEmptied p

theorem move (source target : Path) : (t.move source target).tree.Rooted := by
  rcases move_cases t source target with
    ⟨refusal, refused⟩ | ⟨fromDirectory, fromName, toDirectory, toName, entry, -, targetLocated, -, -,
      notInside, notAround, -, moved⟩
  · rw [refused]
    exact rooted
  · rw [moved]
    unfold done
    split
    · exact rooted
    · rename_i different
      have parent : t.get? (toDirectory ++ [toName]).dropLast = some .directory := by
        rw [List.dropLast_concat]
        exact directory_of_locate targetLocated
      exact rooted.replaced parent (not_prefix_of_child different notInside)
        (not_prefix_of_child (Ne.symm different) notAround)

/-- Whether an action succeeds or not, everything still stands in a directory. -/
theorem onTree (a : Action) : (a.onTree t).tree.Rooted := by
  cases a with
  | create path directory existOk =>
      cases directory with
      | true => exact rooted.ensure path existOk
      | false => exact rooted.touch path
  | delete path => exact rooted.removeAll path
  | write path content => exact rooted.writeFile path _
  | move source target => exact rooted.move source target
  | wait seconds => exact rooted
  | watch root => exact rooted
  | unspecified => exact rooted

end Rooted

end

end WatchTrial.Tree
