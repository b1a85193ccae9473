import WatchTrial.Proofs.Event.Echo

set_option autoImplicit false

namespace WatchTrial

theorem Path.names_dropComponents_subset (count : Nat) (p : Path) :
    (p.dropComponents count).names ⊆ p.names := by
  cases count with
  | zero => exact fun _ member => member
  | succ count => exact List.drop_subset _ _

namespace Event

variable {base : Path}

theorem relativeTo_eq_empty_iff {full : Path} :
    relativeTo base full = "" ↔ full.depth ≤ base.depth := by
  unfold relativeTo
  split
  · rename_i within
    exact iff_of_true rfl within
  · rename_i deeper
    refine iff_of_false ?_ deeper
    rw [Path.text, ← String.toList_eq_nil_iff, String.toList_ofList]
    exact Path.chars_ne_nil _

/-- What is left of two paths is alike just when their components are, after as many as the base
has. -/
theorem relativeTo_eq_iff {p q : Path} :
    relativeTo base p = relativeTo base q ↔
      p.components.drop base.depth = q.components.drop base.depth := by
  have none {r : Path} : r.depth ≤ base.depth ↔ r.components.drop base.depth = [] := by
    rw [List.drop_eq_nil_iff, Path.length_components]
  by_cases first : p.depth ≤ base.depth
  · rw [relativeTo_eq_empty_iff.2 first, none.1 first, eq_comm, relativeTo_eq_empty_iff, none,
      eq_comm]
  · by_cases second : q.depth ≤ base.depth
    · rw [relativeTo_eq_empty_iff.2 second, none.1 second, relativeTo_eq_empty_iff, none]
    · rw [relativeTo_of_deeper (Nat.not_le.1 first), relativeTo_of_deeper (Nat.not_le.1 second),
        Path.text_inj, ← Path.components_inj, Path.components_dropComponents,
        Path.components_dropComponents]

theorem ofString_relativeTo {full : Path} (deeper : base.depth < full.depth) :
    Path.ofString (relativeTo base full) = full.dropComponents base.depth := by
  rw [relativeTo_of_deeper deeper, Path.ofString_text]

theorem comma_not_mem_relativeTo {full : Path} (plain : ∀ name ∈ full.names, ',' ∉ name) :
    ',' ∉ (relativeTo base full).toList := by
  unfold relativeTo
  split
  · simp
  · rw [Path.text, String.toList_ofList]
    apply Path.comma_not_mem_chars
    intro name member
    exact plain name (Path.names_dropComponents_subset _ _ member)

/-- The fields of an event that a line reports hold no comma. -/
theorem comma_not_mem_of_reported {line : String} {event : Event}
    (reported : ofLine? base line = some event) :
    ',' ∉ event.path.toList ∧ ',' ∉ event.kind.toList := by
  obtain ⟨full, kind, -, plain, one, -, -, rfl⟩ := ofLine?_eq_some_iff.1 reported
  exact ⟨comma_not_mem_relativeTo (Path.not_mem_names_ofString plain), one⟩

theorem text_eq_text_iff {first second : Event}
    (plainFirst : ',' ∉ first.path.toList ∧ ',' ∉ first.kind.toList)
    (plainSecond : ',' ∉ second.path.toList ∧ ',' ∉ second.kind.toList) :
    first.text = second.text ↔ first = second := by
  rw [text, text, fields_inj plainFirst.1 plainFirst.2 plainSecond.1 plainSecond.2]
  cases first
  cases second
  rw [Event.mk.injEq]

/-- What is reported of a path with more components than the base, read without a base, is reported
again. -/
theorem ofLine?_text {full kind : String} {event : Event}
    (reported : ofLine? base (full ++ "," ++ kind) = some event)
    (deeper : base.depth < (Path.ofString full).depth) :
    ofLine? (Path.ofString "") event.text = some event := by
  have free := comma_not_mem_of_reported reported
  obtain ⟨-, -, -, someKind, rfl⟩ := ofLine?_comma_eq_some_iff.1 reported
  have somePath := mt relativeTo_eq_empty_iff.1 (Nat.not_le.2 deeper)
  refine ofLine?_comma_eq_some_iff.2 ⟨free.1, free.2, somePath, someKind, ?_⟩
  have components : (Path.ofString "").depth <
      ((Path.ofString full).dropComponents base.depth).depth := by
    rw [Path.depth_dropComponents]
    exact Nat.sub_pos_of_lt deeper
  rw [ofString_relativeTo deeper, relativeTo_of_deeper components, relativeTo_of_deeper deeper]
  rfl

/-- A line that reports an event is a path and a kind. The kind is kept. Nothing is left of the path
just when it has no more components than the base; else all its components are kept behind as many
as the base has, and what is left is written as it is read, so that the event as it is shown is
reported again without a base. So of paths with the components of the base in front, those with the
same components and kinds, and no others, are reported alike and shown alike. -/
theorem remainder_of_report (base : Path) :
    (∀ line event, ofLine? base line = some event →
        ∃ full kind : String, line = full ++ "," ++ kind) ∧
      (∀ full kind event, ofLine? base (full ++ "," ++ kind) = some event →
        event.kind = kind ∧
          (event.path = "" ↔
            (Path.ofString full).components.length ≤ base.components.length) ∧
          (base.components.length < (Path.ofString full).components.length →
            (Path.ofString full).components =
                (Path.ofString full).components.take base.components.length ++
                  (Path.ofString event.path).components ∧
              (Path.ofString event.path).text = event.path ∧
              ofLine? (Path.ofString "") event.text = some event)) ∧
      ∀ full kind event other sort second, ofLine? base (full ++ "," ++ kind) = some event →
        ofLine? base (other ++ "," ++ sort) = some second →
        base.components <+: (Path.ofString full).components →
        base.components <+: (Path.ofString other).components →
        (event = second ↔
            (Path.ofString full).components = (Path.ofString other).components ∧ kind = sort) ∧
          (event.text = second.text ↔
            (Path.ofString full).components = (Path.ofString other).components ∧ kind = sort) := by
  simp only [Path.length_components]
  refine ⟨?_, ?_, ?_⟩
  · intro line event reported
    obtain ⟨full, kind, written, -⟩ := ofLine?_eq_some_iff.1 reported
    exact ⟨full, kind, written⟩
  · intro full kind event reported
    have fields := ofLine?_comma_eq_some_iff.1 reported
    obtain ⟨-, -, -, -, rfl⟩ := fields
    refine ⟨rfl, relativeTo_eq_empty_iff, fun deeper => ⟨?_, ?_, ofLine?_text reported deeper⟩⟩
    · rw [ofString_relativeTo deeper, Path.components_dropComponents, List.take_append_drop]
    · rw [ofString_relativeTo deeper, relativeTo_of_deeper deeper]
  · intro full kind event other sort second reported again front frontOther
    have shown := text_eq_text_iff (comma_not_mem_of_reported reported)
      (comma_not_mem_of_reported again)
    have alike : event = second ↔
        (Path.ofString full).components = (Path.ofString other).components ∧ kind = sort := by
      obtain ⟨-, -, -, -, rfl⟩ := ofLine?_comma_eq_some_iff.1 reported
      obtain ⟨-, -, -, -, rfl⟩ := ofLine?_comma_eq_some_iff.1 again
      obtain ⟨left, here⟩ := front
      obtain ⟨right, there⟩ := frontOther
      rw [Event.mk.injEq, relativeTo_eq_iff, ← here, ← there, ← Path.length_components,
        List.drop_left, List.drop_left, List.append_cancel_left_eq]
    exact ⟨alike, shown.trans alike⟩

/-- A path below a base with two leading slashes that comes back to it, and the base itself. -/
theorem remainder_of_report_of_double_root :
    let base := Path.ofString "//srv/b/"
    let inner : Event := ⟨"x/..", "Create"⟩
    let outer : Event := ⟨"", "Create"⟩
    ofLine? base ("//srv//b/./x/../" ++ "," ++ "Create") = some inner ∧
      ofLine? base ("//srv/b" ++ "," ++ "Create") = some outer ∧
      base.components <+: (Path.ofString "//srv//b/./x/../").components ∧
      base.components <+: (Path.ofString "//srv/b").components ∧
      ofLine? (Path.ofString "") inner.text = some inner ∧ inner.text ≠ outer.text := by
  intro base inner outer
  have reported : ofLine? base ("//srv//b/./x/../" ++ "," ++ "Create") = some inner := by
    decide +kernel
  have again : ofLine? base ("//srv/b" ++ "," ++ "Create") = some outer := by decide +kernel
  have front : base.components <+: (Path.ofString "//srv//b/./x/../").components := by
    decide +kernel
  have frontBase : base.components <+: (Path.ofString "//srv/b").components := by decide +kernel
  obtain ⟨-, kept, apart⟩ := remainder_of_report base
  obtain ⟨-, -, deeper⟩ := kept _ _ _ reported
  obtain ⟨-, shown⟩ := apart _ _ _ _ _ _ reported again front frontBase
  refine ⟨reported, again, front, frontBase, (deeper (by decide +kernel)).2.2, fun same => ?_⟩
  exact absurd (shown.1 same).1 (by decide +kernel)

end Event

end WatchTrial
