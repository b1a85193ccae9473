import WatchTrial.Proofs.Path

set_option autoImplicit false

namespace WatchTrial

/-- The component that an anchor is, if it is one. -/
def Anchor.components : Anchor → List (List Char)
  | .relative => []
  | .root => [['/']]
  | .doubleRoot => [['/', '/']]

namespace Path

def components (p : Path) : List (List Char) := p.anchor.components ++ p.names

theorem components_of_relative {p : Path} (relative : p.anchor = .relative) :
    p.components = p.names := by
  rw [components, relative]
  rfl

theorem length_components (p : Path) : p.components.length = p.depth := by
  rw [components, depth, isAbsolute, List.length_append]
  cases p.anchor <;> rfl

theorem slash_mem_of_anchor {anchor : Anchor} {piece : List Char}
    (member : piece ∈ anchor.components) : '/' ∈ piece := by
  cases anchor with
  | relative => cases member
  | root => simp [List.mem_singleton.1 member]
  | doubleRoot => simp [List.mem_singleton.1 member]

/-- No name is an anchor, so components tell where the one ends and the others begin. -/
theorem components_inj {p q : Path} : p.components = q.components ↔ p = q := by
  constructor
  · intro same
    have anchors (r : Path) : r.components.filter (fun piece => piece.contains '/') =
        r.anchor.components := by
      rw [components, List.filter_append, List.filter_eq_self.2, List.filter_eq_nil_iff.2,
        List.append_nil]
      · intro name member
        simpa using (r.proper name member).2.2
      · intro piece member
        simpa using slash_mem_of_anchor member
    have anchor : p.anchor.components = q.anchor.components := by
      rw [← anchors p, ← anchors q, same]
    have names : p.names = q.names := by
      rw [components, components, anchor] at same
      exact List.append_cancel_left same
    refine Path.ext ?_ names
    revert anchor
    cases p.anchor <;> cases q.anchor <;> simp [Anchor.components]
  · rintro rfl
    rfl

theorem components_join {base p : Path} (relative : p.anchor = .relative) :
    (base / p).components = base.components ++ p.components := by
  obtain ⟨names, anchor⟩ := names_join_relative base p relative
  rw [components_of_relative relative, components, components, names, anchor, List.append_assoc]

/-- Dropping components drops the root first. -/
theorem components_dropComponents (count : Nat) (p : Path) :
    (p.dropComponents count).components = p.components.drop count := by
  cases count with
  | zero => rfl
  | succ count =>
      rw [components_of_relative rfl, components]
      cases same : p.anchor <;>
        simp [dropComponents, isAbsolute, same, Anchor.components]

theorem depth_of_relative {p : Path} (relative : p.anchor = .relative) :
    p.depth = p.names.length := by
  rw [← length_components, components_of_relative relative]

theorem depth_join {base p : Path} (relative : p.anchor = .relative) :
    (base / p).depth = base.depth + p.depth := by
  rw [← length_components, components_join relative, List.length_append, length_components,
    length_components]

theorem depth_dropComponents (count : Nat) (p : Path) :
    (p.dropComponents count).depth = p.depth - count := by
  rw [← length_components, components_dropComponents, List.length_drop, length_components]

/-- What has no components is seen as nothing. -/
theorem join_of_depth_eq_zero {base : Path} (p : Path) (none : base.depth = 0) : base / p = p := by
  by_cases relative : p.anchor = .relative
  · have empty : base.components = [] := by
      rw [← List.length_eq_zero_iff, length_components, none]
    rw [← components_inj, components_join relative, empty, List.nil_append]
  · exact join_absolute base p relative

/-- The components of the base come off a path that is seen from it. -/
theorem dropComponents_join {base p : Path} (relative : p.anchor = .relative) :
    (base / p).dropComponents base.depth = p := by
  rw [← components_inj, components_dropComponents, components_join relative, ← length_components,
    List.drop_left]

/-- The components of the base stand in front of those of a path that is seen from it just when the
path is relative or has them in front by itself. -/
theorem components_isPrefix_join_iff {base p : Path} :
    base.components <+: (base / p).components ↔
      p.isAbsolute = false ∨ base.components <+: p.components := by
  by_cases relative : p.anchor = .relative
  · rw [components_join relative]
    exact iff_of_true (List.prefix_append _ _) (Or.inl (isAbsolute_eq_false_iff.2 relative))
  · rw [join_absolute base p relative, isAbsolute_eq_false_iff]
    exact (or_iff_right relative).symm

/-- What is left without the components of the base is the path that is seen from it just when that
is relative or the base has no components. -/
theorem dropComponents_join_iff {base p : Path} :
    (base / p).dropComponents base.depth = p ↔ p.isAbsolute = false ∨ base.depth = 0 := by
  by_cases relative : p.anchor = .relative
  · exact iff_of_true (dropComponents_join relative)
      (Or.inl (isAbsolute_eq_false_iff.2 relative))
  · rw [join_absolute base p relative, isAbsolute_eq_false_iff, or_iff_right relative]
    constructor
    · intro same
      -- A path that is absolute has its root to lose.
      have rooted : 0 < p.depth := by
        rw [depth, if_pos (by simpa [isAbsolute] using relative)]
        omega
      have shorter := depth_dropComponents base.depth p
      rw [same] at shorter
      omega
    · intro none
      rw [none]
      rfl

end Path

end WatchTrial
