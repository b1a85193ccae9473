import WatchTrial.Proofs.Path.Components

set_option autoImplicit false

namespace WatchTrial

namespace Path

/-- The pieces that the root of a path is written with, all of them empty. -/
def rootPieces (p : Path) : List (List Char) := List.replicate (Anchor.chars p.anchor).length []

theorem split_anchor (anchor : Anchor) (text : List Char) :
    Text.split '/' (Anchor.chars anchor ++ text) =
      List.replicate (Anchor.chars anchor).length [] ++ Text.split '/' text := by
  cases anchor <;> simp [Anchor.chars, Text.split, List.replicate]

variable {p : Path} (some : p.components ≠ [])

include some

/-- Between its slashes the text of a path has the pieces of its root, and behind them its names or,
if it has none, one empty piece. -/
theorem split_chars :
    Text.split '/' p.chars = p.rootPieces ++ if p.names = [] then [[]] else p.names := by
  have written : p.chars = Anchor.chars p.anchor ++ Text.join '/' p.names := by
    unfold chars
    split
    · rename_i relative none
      simp [components, relative, none, Anchor.components] at some
    · rfl
  rw [written, split_anchor, rootPieces]
  congr 1
  split
  · rename_i none
    rw [none]
    rfl
  · rename_i filled
    exact Text.split_join '/' p.names filled fun name member => (p.proper name member).2.2

omit some in
/-- No name is empty, so that behind the root an empty piece stands alone. -/
theorem alone_of_empty_piece {front back : List (List Char)}
    (behind : (if p.names = [] then [[]] else p.names) = front ++ [] :: back) :
    front = [] ∧ back = [] := by
  split at behind
  · rw [List.singleton_eq_append_iff] at behind
    simp_all
  · have empty : [] ∈ p.names := by simp [behind]
    exact absurd rfl (p.proper [] empty).1

/-- An empty piece is one of the root, or the only one behind it. -/
theorem root_of_empty_piece {front back : List (List Char)}
    (cut : Text.split '/' p.chars = front ++ [] :: back) :
    front.length < p.rootPieces.length ∨ front = p.rootPieces ∧ back = [] := by
  rw [split_chars some, List.append_eq_append_iff] at cut
  rcases cut with ⟨between, rfl, behind⟩ | ⟨between, whole, behind⟩
  · obtain ⟨rfl, rfl⟩ := alone_of_empty_piece behind
    exact Or.inr ⟨List.append_nil _, rfl⟩
  · cases between with
    | nil =>
        have alone := alone_of_empty_piece (p := p) (behind.symm.trans (List.nil_append _).symm)
        obtain ⟨-, rfl⟩ := alone
        rw [List.append_nil] at whole
        exact Or.inr ⟨whole.symm, rfl⟩
    | cons piece between =>
        rw [whole]
        simp

theorem idle_not_mem_split : ['.'] ∉ Text.split '/' p.chars := by
  rw [split_chars some, List.mem_append, not_or]
  constructor
  · intro member
    cases List.eq_of_mem_replicate member
  · split
    · simp
    · intro member
      exact absurd rfl (p.proper ['.'] member).2.1

/-- What has fewer pieces than the root in front of which it stands is nothing. -/
theorem eq_nil_of_within_root {text : List Char} {pieces : List (List Char)}
    (cut : Text.split '/' p.chars = Text.split '/' text ++ pieces)
    (within : (Text.split '/' text).length < p.rootPieces.length) : text = [] := by
  rw [split_chars some] at cut
  have front : Text.split '/' text <+: p.rootPieces :=
    List.prefix_of_prefix_length_le ⟨pieces, cut.symm⟩ (List.prefix_append _ _)
      (Nat.le_of_lt within)
  have empty : Text.split '/' text = List.replicate (Text.split '/' text).length [] :=
    List.eq_replicate_iff.2 ⟨rfl, fun piece member => List.eq_of_mem_replicate (front.subset member)⟩
  have one : (Text.split '/' text).length = 1 := by
    have least := List.length_pos_iff.2 (Text.split_ne_nil '/' text)
    have most : p.rootPieces.length ≤ 2 := by
      rw [rootPieces, List.length_replicate]
      cases p.anchor <;> decide
    omega
  rw [← Text.join_split '/' text, empty, one]
  rfl

theorem eq_nil_of_double_slash {front back : List Char}
    (written : p.chars = front ++ '/' :: '/' :: back) : front = [] := by
  have cut : Text.split '/' p.chars = Text.split '/' front ++ [] :: Text.split '/' back := by
    rw [written, Text.split_append_separator]
    simp [Text.split]
  rcases root_of_empty_piece some cut with within | ⟨-, none⟩
  · exact eq_nil_of_within_root some cut within
  · exact absurd none (Text.split_ne_nil '/' back)

theorem root_of_last_slash {front : List Char} (written : p.chars = front ++ ['/']) :
    front = [] ∨ front = ['/'] := by
  have cut : Text.split '/' p.chars = Text.split '/' front ++ [] :: [] := by
    rw [written, Text.split_append_separator]
    rfl
  rcases root_of_empty_piece some cut with within | ⟨root, -⟩
  · exact Or.inl (eq_nil_of_within_root some cut within)
  · have whole := Text.join_split '/' front
    rw [root, rootPieces] at whole
    cases same : p.anchor with
    | relative =>
        rw [rootPieces, same] at root
        exact absurd root (Text.split_ne_nil '/' front)
    | root =>
        rw [same] at whole
        exact Or.inl whole.symm
    | doubleRoot =>
        rw [same] at whole
        exact Or.inr whole.symm

end Path

end WatchTrial
