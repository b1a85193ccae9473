import WatchTrial.Text.Blank

set_option autoImplicit false

namespace WatchTrial.Text

/-- The digit zero of every script; the other nine digits follow it (Unicode 14). -/
def digitZeros : List Nat :=
  [0x30, 0x660, 0x6f0, 0x7c0, 0x966, 0x9e6, 0xa66, 0xae6, 0xb66, 0xbe6, 0xc66, 0xce6, 0xd66, 0xde6,
  0xe50, 0xed0, 0xf20, 0x1040, 0x1090, 0x17e0, 0x1810, 0x1946, 0x19d0, 0x1a80, 0x1a90, 0x1b50,
  0x1bb0, 0x1c40, 0x1c50, 0xa620, 0xa8d0, 0xa900, 0xa9d0, 0xa9f0, 0xaa50, 0xabf0, 0xff10, 0x104a0,
  0x10d30, 0x11066, 0x110f0, 0x11136, 0x111d0, 0x112f0, 0x11450, 0x114d0, 0x11650, 0x116c0,
  0x11730, 0x118e0, 0x11950, 0x11c50, 0x11d50, 0x11da0, 0x16a60, 0x16ac0, 0x16b50, 0x1d7ce,
  0x1d7d8, 0x1d7e2, 0x1d7ec, 0x1d7f6, 0x1e140, 0x1e2f0, 0x1e950, 0x1fbf0]

/-- The value of a decimal digit of any script. -/
def digitValue? (c : Char) : Option Nat :=
  match digitZeros.find? fun first => first ≤ c.toNat && c.toNat < first + 10 with
  | some first => some (c.toNat - first)
  | none => none

/-- Blanks that may surround a numeral: all but U+001C to U+001F. -/
def isNumeralBlank (c : Char) : Bool := isBlank c && !(28 ≤ c.toNat && c.toNat < 32)

/-- The digits at the start of a text, with single underscores between them, and what follows; none
if an underscore follows a digit and no digit follows it. -/
def spanDigits (digit? : Char → Option Nat) : List Char → Option (List Nat × List Char)
  | [] => some ([], [])
  | c :: rest =>
      match digit? c, rest with
      | none, _ => some ([], c :: rest)
      | some _, ['_'] => none
      | some d, '_' :: next :: rest =>
          match digit? next, spanDigits digit? (next :: rest) with
          | some _, some (digits, after) => some (d :: digits, after)
          | _, _ => none
      | some d, rest => (spanDigits digit? rest).map fun (digits, after) => (d :: digits, after)

/-- The digits of a numeral that is a whole text. -/
def readDigits (digit? : Char → Option Nat) (text : List Char) : Option (List Nat) :=
  match spanDigits digit? text with
  | some (d :: digits, []) => some (d :: digits)
  | _ => none

/-- The number with the given digits, the first one the most significant. -/
def ofDigits (base : Nat) (digits : List Nat) : Nat := digits.foldl (fun n d => n * base + d) 0

/-- A sign, if there is one, and what follows it. -/
def splitSign : List Char → Bool × List Char
  | '-' :: rest => (true, rest)
  | '+' :: rest => (false, rest)
  | text => (false, text)

def applySign (negative : Bool) (n : Nat) : Int := if negative then -(n : Int) else n

/-- The most digits a decimal numeral may have. -/
def maxDigits : Nat := 4300

/-- Why a text is no whole number. -/
inductive NumeralFault where
  | malformed
  | tooLong (digits : Nat)
  deriving DecidableEq, Repr

/-- A whole number in decimal: blanks, a sign, digits of any script with single underscores
between them, blanks. Too many digits are noticed before what follows them. -/
def readInt (text : List Char) : Except NumeralFault Int :=
  let (negative, body) := splitSign (trim isNumeralBlank text)
  match spanDigits digitValue? body with
  | none | some ([], _) => .error .malformed
  | some (digits, after) =>
      if maxDigits < digits.length then .error (.tooLong digits.length)
      else if !after.isEmpty then .error .malformed
      else .ok (applySign negative (ofDigits 10 digits))

end WatchTrial.Text
