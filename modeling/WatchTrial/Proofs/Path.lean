import WatchTrial.Perform

set_option autoImplicit false

namespace WatchTrial

namespace Text

theorem mem_join (separator c : Char) (pieces : List (List Char)) (other : c ≠ separator) :
    c ∈ join separator pieces ↔ ∃ piece ∈ pieces, c ∈ piece := by
  induction pieces with
  | nil => simp [join]
  | cons piece rest ih =>
      cases rest with
      | nil => simp [join]
      | cons next more =>
          rw [join, List.mem_append, List.mem_cons, ih]
          · simp [other]
          · intro none
            cases none

theorem mem_of_mem_split {separator c : Char} {text piece : List Char}
    (member : piece ∈ split separator text) (inside : c ∈ piece) : c ∈ text := by
  have other : c ≠ separator := by
    rintro rfl
    exact separator_not_mem_of_mem_split c text piece member inside
  rw [← join_split separator text, mem_join separator c _ other]
  exact ⟨piece, member, inside⟩

end Text

namespace Path

theorem isAbsolute_eq_false_iff {p : Path} : p.isAbsolute = false ↔ p.anchor = .relative := by
  cases same : p.anchor <;> simp [isAbsolute, same]

theorem isAbsolute_join {base p : Path} (relative : p.anchor = .relative) :
    (base / p).isAbsolute = base.isAbsolute := by
  rw [isAbsolute, isAbsolute, (names_join_relative base p relative).2]

theorem ofString_text (p : Path) : ofString p.text = p := by
  rw [ofString, text, String.toList_ofList, ofChars_chars]

/-- A character that no separator, anchor or missing name is written with stands in a name. -/
theorem mem_chars_iff {p : Path} {c : Char} (noSlash : c ≠ '/') (noDot : c ≠ '.') :
    c ∈ p.chars ↔ ∃ name ∈ p.names, c ∈ name := by
  rw [← Text.mem_join '/' c p.names noSlash, chars]
  split
  · rename_i none
    simp [none, Text.join, noDot]
  · rw [List.mem_append]
    cases p.anchor <;> simp [Anchor.chars, noSlash]

theorem hasNul_eq_false_iff (p : Path) : p.hasNul = false ↔ ∀ name ∈ p.names, '\x00' ∉ name := by
  rw [hasNul, List.contains_eq_mem, decide_eq_false_iff_not, mem_chars_iff (by decide) (by decide)]
  constructor
  · intro free name member inside
    exact free ⟨name, member, inside⟩
  · rintro free ⟨name, member, inside⟩
    exact free name member inside

theorem hasNul_ofString {text : String} (free : '\x00' ∉ text.toList) :
    (ofString text).hasNul = false := by
  rw [hasNul_eq_false_iff]
  intro name member inside
  exact free (Text.mem_of_mem_split (List.mem_filter.1 member).1 inside)

theorem hasNul_parent {p : Path} (free : p.hasNul = false) : p.parent.hasNul = false := by
  rw [hasNul_eq_false_iff] at free ⊢
  intro name member
  exact free name (List.dropLast_subset p.names member)

end Path

end WatchTrial
