set_option autoImplicit false

namespace WatchTrial.Text

/-- White space of any script, and the four separators U+001C to U+001F. -/
def isBlank (c : Char) : Bool :=
  (9 ≤ c.toNat && c.toNat ≤ 13) || (28 ≤ c.toNat && c.toNat ≤ 32) || c.toNat == 0x85 ||
    c.toNat == 0xa0 || c.toNat == 0x1680 || (0x2000 ≤ c.toNat && c.toNat ≤ 0x200a) ||
    c.toNat == 0x2028 || c.toNat == 0x2029 || c.toNat == 0x202f || c.toNat == 0x205f ||
    c.toNat == 0x3000

/-- A text without any character that is not blank; the empty text is one. -/
def isBlankText (text : List Char) : Bool := text.all isBlank

/-- The text without the characters of a class at its end. -/
def trimEnd (drop : Char → Bool) (text : List Char) : List Char :=
  (text.reverse.dropWhile drop).reverse

/-- The text without the characters of a class at either end. -/
def trim (drop : Char → Bool) (text : List Char) : List Char := trimEnd drop (text.dropWhile drop)

theorem trimEnd_append_single (drop : Char → Bool) (text : List Char) (c : Char) :
    trimEnd drop (text ++ [c]) = if drop c then trimEnd drop text else text ++ [c] := by
  simp only [trimEnd, List.reverse_append, List.reverse_cons, List.reverse_nil, List.nil_append,
    List.singleton_append, List.dropWhile_cons]
  split <;> simp

end WatchTrial.Text
