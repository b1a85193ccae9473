import WatchTrial.Text.Utf8

set_option autoImplicit false

namespace WatchTrial.Text.Utf8

theorem piecesAfter_eq (skip : Nat) (octets : Octets) :
    piecesAfter skip octets = pieces (octets.drop skip) := by
  induction octets generalizing skip with
  | nil => cases skip <;> rfl
  | cons lead rest ih =>
      cases skip with
      | zero => rfl
      | succ n => exact ih n

theorem decodeLossy_cons (lead : UInt8) (rest : Octets) :
    decodeLossy (lead :: rest) =
      (piece lead rest).char :: decodeLossy (rest.drop ((piece lead rest).width - 1)) := by
  simp only [decodeLossy, ← piecesAfter_eq]
  rfl

/-- A piece is the same whatever follows the octets, unless it takes the last of them and is broken for
want of more. -/
theorem piece_append (lead : UInt8) (rest more : Octets) :
    (piece lead (rest ++ more) = piece lead rest ∧ (piece lead rest).width - 1 ≤ rest.length) ∨
      0x80 ≤ lead.toNat ∧ (piece lead rest).char = '\ufffd' ∧
        rest.drop ((piece lead rest).width - 1) = [] := by
  by_cases one : lead.toNat < 0x80
  · left
    simp [piece, one, Piece.width]
  by_cases bad : (decide (lead.toNat < 0xc2) || decide (0xf5 ≤ lead.toNat)) = true
  · left
    simp only [piece, one, bad, if_true, if_false]
    simp [Piece.width]
  have high : 0x80 ≤ lead.toNat := Nat.not_lt.1 one
  rcases rest with _ | ⟨second, rest⟩
  · right
    simp only [piece, one, bad, if_false]
    exact ⟨high, rfl, rfl⟩
  cases admitted : admitsSecond lead second with
  | false =>
      left
      simp only [List.cons_append, piece, one, bad, admitted, Bool.not_false, if_true, if_false]
      simp [Piece.width]
  | true =>
      by_cases two : lead.toNat < 0xe0
      · left
        simp [piece, one, bad, admitted, two, Piece.width]
      rcases rest with _ | ⟨third, rest⟩
      · right
        simp only [piece, one, bad, admitted, two, Bool.not_true, Bool.false_eq_true, if_false]
        exact ⟨high, rfl, rfl⟩
      cases next : isContinuation third with
      | false =>
          left
          simp [piece, one, bad, admitted, two, next, Piece.width]
      | true =>
          by_cases three : lead.toNat < 0xf0
          · left
            simp [piece, one, bad, admitted, two, next, three, Piece.width]
          rcases rest with _ | ⟨fourth, rest⟩
          · right
            simp only [piece, one, bad, admitted, two, next, three, Bool.not_true,
              Bool.false_eq_true, if_false]
            exact ⟨high, rfl, rfl⟩
          · left
            cases last : isContinuation fourth <;>
              simp [piece, one, bad, admitted, two, next, three, last, Piece.width]

theorem ofNat_high {n : Nat} (high : 0x80 ≤ n) :
    Char.ofNat n = '\x00' ∨ 0x80 ≤ (Char.ofNat n).toNat := by
  by_cases valid : n.isValidChar
  · have same : Char.ofNat n = Char.ofNatAux n valid := dif_pos valid
    right
    rw [same]
    exact high
  · exact Or.inl (dif_neg valid)

theorem high_of_admitsSecond {lead second : UInt8} (admitted : admitsSecond lead second = true) :
    (lead.toNat = 0xe0 → 0x20 ≤ payload second) ∧ (lead.toNat = 0xf0 → 0x10 ≤ payload second) := by
  simp only [admitsSecond, isContinuation, Bool.and_eq_true, Bool.or_eq_true, bne_iff_ne,
    decide_eq_true_eq] at admitted
  unfold payload
  omega

/-- A character of more than one octet, or a broken piece, is no character of ASCII but NUL. -/
theorem char_piece_high {lead : UInt8} (rest : Octets) (high : 0x80 ≤ lead.toNat) :
    (piece lead rest).char = '\x00' ∨ 0x80 ≤ (piece lead rest).char.toNat := by
  have mark : 0x80 ≤ '\ufffd'.toNat := by decide
  unfold piece
  simp only
  rw [if_neg (Nat.not_lt.2 high)]
  -- The tests of a piece in their order: what fails one is broken, what passes all of its width is a
  -- character.
  split
  · exact Or.inr mark
  rename_i started
  simp only [Bool.or_eq_true, decide_eq_true_eq, not_or, Nat.not_lt, Nat.not_le] at started
  split
  · exact Or.inr mark
  split
  · exact Or.inr mark
  rename_i second rest refused
  have above := high_of_admitsSecond (by simpa using refused)
  split
  · exact ofNat_high (by omega)
  split
  · exact Or.inr mark
  split
  · exact Or.inr mark
  split
  · exact ofNat_high (by omega)
  split
  · exact Or.inr mark
  split
  · exact Or.inr mark
  · exact ofNat_high (by omega)

/-- With more octets there is more text, but for a piece that was broken for want of them. -/
theorem decodeLossy_append (octets more : Octets) :
    decodeLossy octets <+: decodeLossy (octets ++ more) ∨
      ∃ sure d rest, decodeLossy octets = sure ++ ['\ufffd'] ∧
        decodeLossy (octets ++ more) = sure ++ d :: rest ∧ (d = '\x00' ∨ 0x80 ≤ d.toNat) := by
  induction length : octets.length using Nat.strongRecOn generalizing octets with
  | ind n ih =>
      subst length
      cases octets with
      | nil => exact Or.inl List.nil_prefix
      | cons lead rest =>
          rw [List.cons_append, decodeLossy_cons, decodeLossy_cons]
          rcases piece_append lead rest more with ⟨same, within⟩ | ⟨high, mark, last⟩
          · rw [same, List.drop_append_of_le_length within]
            have shorter : (rest.drop ((piece lead rest).width - 1)).length <
                (lead :: rest).length := by
              rw [List.length_drop, List.length_cons]
              omega
            rcases ih _ shorter _ rfl with start | ⟨sure, d, after, first, second, plain⟩
            · exact Or.inl (List.cons_prefix_cons.2 ⟨rfl, start⟩)
            · refine Or.inr ⟨(piece lead rest).char :: sure, d, after, ?_, ?_, plain⟩
              · rw [first, List.cons_append]
              · rw [second, List.cons_append]
          · refine Or.inr ⟨[], _, _, ?_, rfl, char_piece_high (rest ++ more) high⟩
            rw [mark, last]
            rfl

theorem admitsSecond_of_not_continuation (lead : UInt8) {next : UInt8}
    (start : isContinuation next = false) : admitsSecond lead next = false := by
  simp [admitsSecond, start]

/-- What reads the same as another piece: as the same character, from as many octets. -/
def Piece.Alike (p q : Piece) : Prop := p.char = q.char ∧ p.width = q.width

/-- A piece does not reach beyond an octet that continues no character, and reads as if the octets ended
there. -/
theorem piece_boundary (lead : UInt8) (rest : Octets) {next : UInt8} (more : Octets)
    (start : isContinuation next = false) :
    (piece lead (rest ++ next :: more)).Alike (piece lead rest) ∧
      (piece lead rest).width - 1 ≤ rest.length := by
  by_cases one : lead.toNat < 0x80
  · simp [piece, one, Piece.width, Piece.Alike]
  by_cases bad : (decide (lead.toNat < 0xc2) || decide (0xf5 ≤ lead.toNat)) = true
  · simp only [piece, one, bad, if_true, if_false]
    simp [Piece.width, Piece.Alike]
  rcases rest with _ | ⟨second, rest⟩
  · have refused := admitsSecond_of_not_continuation lead start
    simp only [List.nil_append, piece, one, bad, refused, if_false]
    exact ⟨⟨rfl, rfl⟩, Nat.le_refl _⟩
  cases admitted : admitsSecond lead second with
  | false =>
      simp only [List.cons_append, piece, one, bad, admitted, Bool.not_false, if_true, if_false]
      simp [Piece.width, Piece.Alike]
  | true =>
      by_cases two : lead.toNat < 0xe0
      · simp [piece, one, bad, admitted, two, Piece.width, Piece.Alike]
      rcases rest with _ | ⟨third, rest⟩
      · simp [piece, one, bad, admitted, two, start, Piece.width, Piece.Alike, Piece.char]
      cases after : isContinuation third with
      | false => simp [piece, one, bad, admitted, two, after, Piece.width, Piece.Alike]
      | true =>
          by_cases three : lead.toNat < 0xf0
          · simp [piece, one, bad, admitted, two, after, three, Piece.width, Piece.Alike]
          rcases rest with _ | ⟨fourth, rest⟩
          · simp [piece, one, bad, admitted, two, after, three, start, Piece.width, Piece.Alike,
              Piece.char]
          · cases last : isContinuation fourth <;>
              simp [piece, one, bad, admitted, two, after, three, last, Piece.width, Piece.Alike]

/-- Octets read the same on either side of one that continues no character, broken or not. -/
theorem decodeLossy_boundary (front : Octets) {next : UInt8} (back : Octets)
    (start : isContinuation next = false) :
    decodeLossy (front ++ next :: back) = decodeLossy front ++ decodeLossy (next :: back) := by
  induction length : front.length using Nat.strongRecOn generalizing front with
  | ind n ih =>
      subst length
      cases front with
      | nil => rfl
      | cons lead rest =>
          obtain ⟨⟨char, width⟩, within⟩ := piece_boundary lead rest back start
          have shorter : (rest.drop ((piece lead rest).width - 1)).length <
              (lead :: rest).length := by
            rw [List.length_drop, List.length_cons]
            omega
          rw [List.cons_append, decodeLossy_cons, decodeLossy_cons, char, width,
            List.drop_append_of_le_length within, ih _ shorter _ rfl, List.cons_append]

end WatchTrial.Text.Utf8
