set_option autoImplicit false

/- Double-precision numbers as signs, integers and powers of two, with rounding to nearest, ties to
the even mantissa. A finite number is written with a mantissa below 2^53 and an exponent of at
least -1074; the mantissa is at least 2^52 unless the exponent is the least one. -/

namespace WatchTrial

def twoTo (n : Nat) : Nat := Nat.pow 2 n

def tenTo (n : Nat) : Nat := Nat.pow 10 n

inductive Binary64 where
  | finite (negative : Bool) (mantissa : Nat) (exponent : Int)
  | infinite (negative : Bool)
  | nan
  deriving DecidableEq, Repr

namespace Binary64

def leastExponent : Int := -1074
def greatestExponent : Int := 971

def ofBool (b : Bool) : Nat := if b then 1 else 0

/-- A positive zero. -/
def zero : Binary64 := .finite false 0 leastExponent

/-- The quotient rounded to a whole number, a half to the even neighbour. -/
def divRound (num den : Nat) : Nat :=
  let q := num / den
  let twice := 2 * (num % den)
  if twice < den then q
  else if den < twice then q + 1
  else q + q % 2

/-- `num / den` in units of `2^exponent`, as a fraction. -/
def scaled (num den : Nat) (exponent : Int) : Nat × Nat :=
  if exponent < 0 then (num * twoTo (-exponent).toNat, den) else (num, den * twoTo exponent.toNat)

/-- The exponent that the number nearest to `num / den` is written with, before its mantissa is
rounded. -/
def exponentOf (num den : Nat) : Int :=
  let guess := max leastExponent ((num.log2 : Int) - (den.log2 : Int) - 53)
  let (n, d) := scaled num den guess
  if n / d < twoTo 53 then guess else guess + 1

/-- The number nearest to a non-negative fraction. -/
def ofFraction (negative : Bool) (num den : Nat) : Binary64 :=
  let exponent := exponentOf num den
  let (n, d) := scaled num den exponent
  let mantissa := divRound n d
  let (mantissa, exponent) :=
    if mantissa = twoTo 53 then (twoTo 52, exponent + 1) else (mantissa, exponent)
  if greatestExponent < exponent then .infinite negative else .finite negative mantissa exponent

/-- The nearest number, `none` if that is infinite. -/
def ofInt? (n : Int) : Option Binary64 :=
  match ofFraction (n < 0) n.natAbs 1 with
  | .infinite _ => none
  | x => some x

/-- The number nearest to `digits * 10^exponent`, where `digits` has `count` digits. -/
def ofDecimal (negative : Bool) (digits count : Nat) (exponent : Int) : Binary64 :=
  if digits = 0 then .finite negative 0 leastExponent
  else if 320 < exponent + count then .infinite negative
  else if exponent + count < -340 then .finite negative 0 leastExponent
  else if exponent < 0 then ofFraction negative digits (tenTo (-exponent).toNat)
  else ofFraction negative (digits * tenTo exponent.toNat) 1

/-- Below zero; neither a zero nor NaN is. -/
def isNegative : Binary64 → Bool
  | .finite negative mantissa _ => negative && mantissa != 0
  | .infinite negative => negative
  | .nan => false

/-- Above zero. -/
def isPositive : Binary64 → Bool
  | .finite negative mantissa _ => !negative && mantissa != 0
  | .infinite negative => !negative
  | .nan => false

def negate : Binary64 → Binary64
  | .finite negative mantissa exponent => .finite (!negative) mantissa exponent
  | .infinite negative => .infinite (!negative)
  | .nan => .nan

/-- The sign and the exact value of a finite number as a fraction. -/
def fraction (mantissa : Nat) (exponent : Int) : Nat × Nat :=
  if exponent < 0 then (mantissa, twoTo (-exponent).toNat) else (mantissa * twoTo exponent.toNat, 1)

def mul : Binary64 → Binary64 → Binary64
  | .nan, _ => .nan
  | _, .nan => .nan
  | .infinite s, .infinite t => .infinite (s != t)
  | .infinite s, .finite t m _ => if m = 0 then .nan else .infinite (s != t)
  | .finite s m _, .infinite t => if m = 0 then .nan else .infinite (s != t)
  | .finite s m e, .finite t n f =>
      let (num, den) := fraction m e
      let (num', den') := fraction n f
      ofFraction (s != t) (num * num') (den * den')

def add : Binary64 → Binary64 → Binary64
  | .nan, _ => .nan
  | _, .nan => .nan
  | .infinite s, .infinite t => if s = t then .infinite s else .nan
  | .infinite s, _ => .infinite s
  | _, .infinite t => .infinite t
  | .finite s m e, .finite t n f =>
      let (num, den) := fraction m e
      let (num', den') := fraction n f
      let a : Int := (if s then -1 else 1) * (num * den' : Nat)
      let b : Int := (if t then -1 else 1) * (num' * den : Nat)
      let sum := a + b
      ofFraction (if sum = 0 then s && t else sum < 0) sum.natAbs (den * den')

/-- What a number amounts to: a fraction, something beyond all fractions, or nothing. -/
inductive Quantity where
  | exact (num : Int) (den : Nat)
  | beyond (negative : Bool)
  | undefined
  deriving DecidableEq, Repr

def quantity : Binary64 → Quantity
  | .finite negative mantissa exponent =>
      let (num, den) := fraction mantissa exponent
      .exact (if negative then -(num : Int) else num) den
  | .infinite negative => .beyond negative
  | .nan => .undefined

namespace Quantity

/-- Whether two quantities are equal; what is undefined only equals itself. -/
def same : Quantity → Quantity → Bool
  | .exact a b, .exact c d => a * d == c * b
  | .beyond s, .beyond t => s == t
  | .undefined, .undefined => true
  | _, _ => false

/-- Whether the first quantity is below the second. -/
def below : Quantity → Quantity → Bool
  | .exact a b, .exact c d => a * d < c * b
  | .exact _ _, .beyond negative => !negative
  | .beyond negative, .exact _ _ => negative
  | .beyond s, .beyond t => s && !t
  | _, _ => false

end Quantity

/-- The 64 bits of the number: sign, biased exponent, mantissa. -/
def bits : Binary64 → Nat
  | .finite negative mantissa exponent =>
      let sign := ofBool negative * twoTo 63
      if mantissa < twoTo 52 then sign + mantissa
      else sign + (exponent - leastExponent + 1).toNat * twoTo 52 + (mantissa - twoTo 52)
  | .infinite negative => ofBool negative * twoTo 63 + 0x7ff * twoTo 52
  | .nan => 0x7ff * twoTo 52 + twoTo 51

/-- A non-negative finite number in whole billionths, rounded down; `none` if there is no such
number. -/
def billionths? : Binary64 → Option Nat
  | .finite _ mantissa exponent =>
      let (num, den) := fraction mantissa exponent
      some (num * tenTo 9 / den)
  | _ => none

/-- The number with one decimal place, a half going to the even digit. -/
def oneDecimal : Binary64 → String
  | .finite negative mantissa exponent =>
      let (num, den) := fraction mantissa exponent
      let tenths := divRound (num * 10) den
      (if negative then "-" else "") ++ toString (tenths / 10) ++ "." ++ toString (tenths % 10)
  | .infinite negative => if negative then "-inf" else "inf"
  | .nan => "nan"

end Binary64

end WatchTrial
