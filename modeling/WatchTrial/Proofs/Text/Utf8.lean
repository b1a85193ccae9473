import Mathlib.Data.List.Basic
import WatchTrial.Text.Utf8

set_option autoImplicit false

namespace WatchTrial.Text.Utf8

theorem toNat_octet {n : Nat} (small : n < 0x100) : (UInt8.ofNat n).toNat = n := by
  rw [UInt8.toNat_ofNat']
  exact Nat.mod_eq_of_lt small

/-- A character is below the surrogates, or above them and within the last plane. -/
theorem toNat_cases (c : Char) :
    c.toNat < 0xd800 ∨ (0xdfff < c.toNat ∧ c.toNat < 0x110000) := c.valid

/-- The octet after the first one that carries the last six bits of a number. -/
def lowOctet (n : Nat) : UInt8 := .ofNat (0x80 + n % 0x40)

theorem toNat_lowOctet (n : Nat) : (lowOctet n).toNat = 0x80 + n % 0x40 := by
  unfold lowOctet
  exact toNat_octet (by omega)

theorem isContinuation_lowOctet (n : Nat) : isContinuation (lowOctet n) = true := by
  simp only [isContinuation, toNat_lowOctet, Bool.and_eq_true, decide_eq_true_eq]
  omega

theorem payload_lowOctet (n : Nat) : payload (lowOctet n) = n % 0x40 := by
  have octet := toNat_lowOctet n
  unfold payload
  omega

/-- A continuation is admitted after a lead that asks no more of it than it has: no overlong form, no
surrogate, nothing beyond the last plane. -/
theorem admitsSecond_lowOctet {lead n : Nat} (small : lead < 0x100)
    (notOfTwo : lead = 0xe0 → 0x20 ≤ n % 0x40) (noSurrogate : lead = 0xed → n % 0x40 < 0x20)
    (notOfThree : lead = 0xf0 → 0x10 ≤ n % 0x40) (inPlanes : lead = 0xf4 → n % 0x40 < 0x10) :
    admitsSecond (.ofNat lead) (lowOctet n) = true := by
  simp only [admitsSecond, isContinuation_lowOctet, toNat_octet small, toNat_lowOctet,
    Bool.and_eq_true, Bool.or_eq_true, bne_iff_ne, decide_eq_true_eq, true_and]
  omega

/-- The part of a lead octet that only tells how many octets there are. -/
def mark (lead : Nat) : Nat := if lead < 0xe0 then 0xc0 else if lead < 0xf0 then 0xe0 else 0xf0

/-- How many octets there are after a lead octet. -/
def following (lead : Nat) : Nat := if lead < 0xe0 then 1 else if lead < 0xf0 then 2 else 3

/-- The number that a lead octet carries with those after it, which carry the last six bits of the
given numbers. -/
def carried (lead : Nat) (parts : List Nat) : Nat :=
  parts.foldl (fun n part => n * 0x40 + part % 0x40) (lead - mark lead)

theorem piece_carried {lead part : Nat} {parts : List Nat} (rest : Octets) (above : 0xc2 ≤ lead)
    (below : lead < 0xf5) (count : (part :: parts).length = following lead)
    (admitted : admitsSecond (.ofNat lead) (lowOctet part) = true) :
    piece (.ofNat lead) ((part :: parts).map lowOctet ++ rest) =
      .scalar (.ofNat (carried lead (part :: parts))) (following lead + 1) := by
  have first := toNat_octet (show lead < 0x100 by omega)
  have starts : ¬(lead < 0xc2 ∨ 0xf5 ≤ lead) := by omega
  have many : ¬lead < 0x80 := by omega
  by_cases two : lead < 0xe0
  · obtain rfl : parts = [] := by simpa [following, two] using count
    simp [piece, first, many, starts, admitted, two, payload_lowOctet, carried, mark, following]
  by_cases three : lead < 0xf0
  · obtain ⟨third, rfl⟩ : ∃ third, parts = [third] := by
      simpa [following, two, three, List.length_eq_one_iff] using count
    simp [piece, first, many, starts, admitted, two, three, payload_lowOctet,
      isContinuation_lowOctet, carried, mark, following]
    exact congrArg Char.ofNat (by omega)
  · obtain ⟨third, fourth, rfl⟩ : ∃ third fourth, parts = [third, fourth] := by
      simpa [following, two, three, List.length_eq_two] using count
    simp [piece, first, many, starts, admitted, two, three, payload_lowOctet,
      isContinuation_lowOctet, carried, mark, following]
    exact congrArg Char.ofNat (by omega)

/-- A character is an octet of its own, or a lead octet with those that carry the rest of it. -/
theorem encodeChar_cases (c : Char) :
    c.toNat < 0x80 ∧ encodeChar c = [.ofNat c.toNat] ∨
      ∃ lead part parts, encodeChar c = .ofNat lead :: (part :: parts).map lowOctet ∧
        0xc2 ≤ lead ∧ lead < 0xf5 ∧ (part :: parts).length = following lead ∧
        admitsSecond (.ofNat lead) (lowOctet part) = true ∧
        carried lead (part :: parts) = c.toNat := by
  have scalar := toNat_cases c
  unfold encodeChar
  by_cases one : c.toNat < 0x80
  · exact Or.inl ⟨one, by simp [one]⟩
  refine Or.inr ?_
  by_cases two : c.toNat < 0x800
  · refine ⟨0xc0 + c.toNat / 0x40, c.toNat, [], by simp [one, two, lowOctet], by omega, by omega, ?_,
      admitsSecond_lowOctet (by omega) (by omega) (by omega) (by omega) (by omega), ?_⟩
    · rw [following, if_pos (by omega)]
      rfl
    · simp only [carried, mark, List.foldl_cons, List.foldl_nil]
      rw [if_pos (by omega)]
      omega
  by_cases three : c.toNat < 0x10000
  · refine ⟨0xe0 + c.toNat / 0x1000, c.toNat / 0x40, [c.toNat],
      by simp [one, two, three, lowOctet], by omega, by omega, ?_,
      admitsSecond_lowOctet (by omega) (by omega) (by omega) (by omega) (by omega), ?_⟩
    · rw [following, if_neg (by omega), if_pos (by omega)]
      rfl
    · simp only [carried, mark, List.foldl_cons, List.foldl_nil]
      rw [if_neg (by omega), if_pos (by omega)]
      omega
  · refine ⟨0xf0 + c.toNat / 0x40000, c.toNat / 0x1000, [c.toNat / 0x40, c.toNat],
      by simp [one, two, three, lowOctet], by omega, by omega, ?_,
      admitsSecond_lowOctet (by omega) (by omega) (by omega) (by omega) (by omega), ?_⟩
    · rw [following, if_neg (by omega), if_neg (by omega)]
      rfl
    · simp only [carried, mark, List.foldl_cons, List.foldl_nil]
      rw [if_neg (by omega), if_neg (by omega)]
      omega

theorem piecesAfter_of_length (octets rest : Octets) :
    piecesAfter octets.length (octets ++ rest) = pieces rest := by
  induction octets with
  | nil => rfl
  | cons octet octets ih => exact ih

/-- The octets of a character are one piece, whatever follows. -/
theorem pieces_encodeChar (c : Char) (rest : Octets) :
    ∃ width, pieces (encodeChar c ++ rest) = .scalar c width :: pieces rest := by
  rcases encodeChar_cases c with
    ⟨one, octets⟩ | ⟨lead, part, parts, octets, above, below, count, admitted, whole⟩
  · have alone : piece (.ofNat c.toNat) rest = .scalar c 1 := by
      have lead := toNat_octet (show c.toNat < 0x100 by omega)
      simp only [piece, lead, one, if_true, Char.ofNat_toNat]
    refine ⟨1, ?_⟩
    rw [octets, List.singleton_append, pieces, piecesAfter, alone]
    rfl
  · have first := piece_carried rest above below count admitted
    rw [whole, Char.ofNat_toNat] at first
    refine ⟨following lead + 1, ?_⟩
    rw [octets, List.cons_append, pieces, piecesAfter, first, Piece.width, Nat.add_sub_cancel,
      ← count, ← List.length_map lowOctet, piecesAfter_of_length]

theorem decodePieces_encode (octets : Octets) (position : Nat) (text : List Char) :
    decodePieces octets position (pieces (encode text)) = .ok text := by
  induction text generalizing position with
  | nil => rfl
  | cons c text ih =>
      obtain ⟨width, first⟩ := pieces_encodeChar c (encode text)
      rw [encode_cons, first, decodePieces, ih]
      rfl

theorem decode_encode (text : List Char) : decode (encode text) = .ok text :=
  decodePieces_encode (encode text) 0 text

theorem decodeLossy_encode (text : List Char) : decodeLossy (encode text) = text := by
  induction text with
  | nil => rfl
  | cons c text ih =>
      obtain ⟨width, first⟩ := pieces_encodeChar c (encode text)
      rw [decodeLossy] at ih
      rw [encode_cons, decodeLossy, first, List.map_cons, ih]
      rfl

end WatchTrial.Text.Utf8
