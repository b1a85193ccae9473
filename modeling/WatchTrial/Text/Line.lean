import WatchTrial.Text.Blank

set_option autoImplicit false

/- Lines of a text. A line ends at a character of some class; what follows the last end is a
line too unless nothing follows. -/

namespace WatchTrial.Text

/-- CR LF and a lone CR both become LF. -/
def unifyEnds : List Char → List Char
  | '\r' :: '\n' :: rest => '\n' :: unifyEnds rest
  | '\r' :: rest => '\n' :: unifyEnds rest
  | c :: rest => c :: unifyEnds rest
  | [] => []

/-- Puts a character in front of the first line. -/
def prependToFirst (c : Char) : List (List Char) → List (List Char)
  | [] => [[c]]
  | line :: rest => (c :: line) :: rest

/-- The lines of a text, cut at every character of the class `ends`. -/
def cutAfter (ends : Char → Bool) : List Char → List (List Char)
  | [] => []
  | c :: rest => if ends c then [] :: cutAfter ends rest else prependToFirst c (cutAfter ends rest)

/-- Characters that end a line of a text file: the ASCII line, tab and separator controls from
LF to CR and U+001C to U+001E, NEL, and the two Unicode separators. -/
def isLineEnd (c : Char) : Bool :=
  (10 ≤ c.toNat && c.toNat ≤ 13) || (28 ≤ c.toNat && c.toNat ≤ 30) || c.toNat == 0x85 ||
    c.toNat == 0x2028 || c.toNat == 0x2029

/-- The lines of a text file. -/
def fileLines (text : List Char) : List (List Char) := cutAfter isLineEnd (unifyEnds text)

/-- The lines of a program's output, which only LF, CR and CR LF end. -/
def outputLines (text : List Char) : List (List Char) := cutAfter (· == '\n') (unifyEnds text)

@[simp] theorem cutAfter_nil (ends : Char → Bool) : cutAfter ends [] = [] := rfl

/-- A line and its end come off the front together. -/
theorem cutAfter_line_append (ends : Char → Bool) (line : List Char) (c : Char) (rest : List Char)
    (inside : ∀ x ∈ line, ends x = false) (last : ends c = true) :
    cutAfter ends (line ++ c :: rest) = line :: cutAfter ends rest := by
  induction line with
  | nil => simp [cutAfter, last]
  | cons x line ih =>
      have inner := ih fun y member => inside y (List.mem_cons_of_mem x member)
      simp [cutAfter, inside x (by simp), inner, prependToFirst]

/-- A text without an end is one line. -/
theorem cutAfter_unended (ends : Char → Bool) (c : Char) (line : List Char)
    (inside : ∀ x ∈ c :: line, ends x = false) : cutAfter ends (c :: line) = [c :: line] := by
  induction line generalizing c with
  | nil => simp [cutAfter, inside c (by simp), prependToFirst]
  | cons d line ih =>
      have inner := ih d fun x member => inside x (List.mem_cons_of_mem c member)
      rw [cutAfter, inner]
      simp [inside c (by simp), prependToFirst]

end WatchTrial.Text
