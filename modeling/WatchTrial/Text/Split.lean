set_option autoImplicit false

namespace WatchTrial.Text

/-- Puts a character in front of the first piece. -/
def consPiece (c : Char) : List (List Char) → List (List Char)
  | [] => [[c]]
  | piece :: pieces => (c :: piece) :: pieces

/-- The pieces of a text between its separators; there is always at least one. -/
def split (separator : Char) : List Char → List (List Char)
  | [] => [[]]
  | c :: rest =>
      if c = separator then [] :: split separator rest else consPiece c (split separator rest)

/-- The pieces with a separator between neighbours. -/
def join (separator : Char) : List (List Char) → List Char
  | [] => []
  | [piece] => piece
  | piece :: rest => piece ++ separator :: join separator rest

theorem split_ne_nil (separator : Char) (text : List Char) : split separator text ≠ [] := by
  cases text with
  | nil => simp [split]
  | cons c rest =>
      rw [split]
      split
      · simp
      · cases Text.split separator rest <;> simp [consPiece]

theorem separator_not_mem_of_mem_split (separator : Char) (text piece : List Char)
    (member : piece ∈ split separator text) : separator ∉ piece := by
  induction text generalizing piece with
  | nil =>
      simp only [split, List.mem_singleton] at member
      simp [member]
  | cons c rest ih =>
      rw [split] at member
      split at member
      · rcases List.mem_cons.1 member with rfl | later
        · simp
        · exact ih piece later
      · rename_i other
        cases same : Text.split separator rest with
        | nil => exact absurd same (split_ne_nil separator rest)
        | cons first more =>
            rw [same] at ih member
            rcases List.mem_cons.1 member with rfl | later
            · simp [Ne.symm other, ih first List.mem_cons_self]
            · exact ih piece (List.mem_cons_of_mem first later)

theorem join_consPiece (separator c : Char) (pieces : List (List Char)) (some : pieces ≠ []) :
    join separator (consPiece c pieces) = c :: join separator pieces := by
  match pieces, some with
  | [piece], _ => rfl
  | piece :: next :: rest, _ => rfl

theorem join_split (separator : Char) (text : List Char) :
    join separator (split separator text) = text := by
  induction text with
  | nil => rfl
  | cons c rest ih =>
      rw [split]
      split
      · rename_i same
        cases shape : Text.split separator rest with
        | nil => exact absurd shape (split_ne_nil separator rest)
        | cons first more =>
            rw [shape] at ih
            simp [join, ih, same]
      · rw [join_consPiece _ _ _ (split_ne_nil separator rest), ih]

theorem split_of_not_mem (separator : Char) (piece : List Char) (free : separator ∉ piece) :
    split separator piece = [piece] := by
  induction piece with
  | nil => rfl
  | cons c piece ih =>
      simp only [List.mem_cons, not_or] at free
      simp [split, Ne.symm free.1, ih free.2, consPiece]

/-- Both sides of a separator are cut by themselves. -/
theorem split_append_separator (separator : Char) (front back : List Char) :
    split separator (front ++ separator :: back) = split separator front ++ split separator back := by
  induction front with
  | nil => simp [split]
  | cons c front ih =>
      rw [List.cons_append, split, split, ih]
      split
      · rfl
      · cases shape : Text.split separator front with
        | nil => exact absurd shape (split_ne_nil separator front)
        | cons piece pieces => rfl

theorem split_append (separator : Char) (piece rest : List Char) (free : separator ∉ piece) :
    split separator (piece ++ separator :: rest) = piece :: split separator rest := by
  rw [split_append_separator, split_of_not_mem _ _ free]
  rfl

theorem split_join (separator : Char) (pieces : List (List Char)) (some : pieces ≠ [])
    (free : ∀ piece ∈ pieces, separator ∉ piece) :
    split separator (join separator pieces) = pieces := by
  induction pieces with
  | nil => contradiction
  | cons piece rest ih =>
      cases rest with
      | nil => exact split_of_not_mem separator piece (free piece List.mem_cons_self)
      | cons next more =>
          rw [join, split_append _ _ _ (free piece List.mem_cons_self),
            ih (by simp) fun p member => free p (List.mem_cons_of_mem piece member)]
          simp

end WatchTrial.Text
