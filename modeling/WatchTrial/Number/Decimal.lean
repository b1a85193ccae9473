import WatchTrial.Number.Binary64
import WatchTrial.Text.Numeral

set_option autoImplicit false

namespace WatchTrial.Binary64

/-- The words for what no digits stand for. -/
def ofWord? (negative : Bool) (word : List Char) : Option Binary64 :=
  match String.ofList (word.map Char.toLower) with
  | "inf" | "infinity" => some (.infinite negative)
  | "nan" => some .nan
  | _ => none

/-- The values of the digits a text starts with, and what follows them. -/
def leadingDigits : List Char → List Nat × List Char
  | [] => ([], [])
  | c :: rest =>
      match Text.digitValue? c with
      | none => ([], c :: rest)
      | some d =>
          let (digits, after) := leadingDigits rest
          (d :: digits, after)

/-- The exponent that a whole text is; no text is the exponent zero. -/
def readExponent : List Char → Option Int
  | [] => some 0
  | mark :: rest =>
      let (negative, body) := Text.splitSign rest
      match leadingDigits body with
      | ([], _) => none
      | (digits, []) =>
          if mark.toLower = 'e' then some (Text.applySign negative (Text.ofDigits 10 digits))
          else none
      | _ => none

/-- Digits with a point before, between or after them, and an exponent. -/
def readUnsigned (negative : Bool) (text : List Char) : Option Binary64 :=
  let (whole, rest) := leadingDigits text
  let (fraction, rest) :=
    match rest with
    | '.' :: rest => leadingDigits rest
    | _ => ([], rest)
  let digits := (whole ++ fraction).dropWhile (· = 0)
  if whole.isEmpty && fraction.isEmpty then none
  else
    (readExponent rest).map fun exponent =>
      ofDecimal negative (Text.ofDigits 10 digits) digits.length (exponent - fraction.length)

/-- A number as a decimal numeral, between blanks. -/
def ofNumeral? (text : List Char) : Option Binary64 :=
  let (negative, body) := Text.splitSign (Text.trim Text.isNumeralBlank text)
  (ofWord? negative body).orElse fun _ => readUnsigned negative body

end WatchTrial.Binary64
