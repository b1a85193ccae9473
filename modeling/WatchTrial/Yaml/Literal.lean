import WatchTrial.Text.Casing
import WatchTrial.Text.Split
import WatchTrial.Yaml.Base64
import WatchTrial.Yaml.Datum
import WatchTrial.Yaml.Tag

set_option autoImplicit false

namespace WatchTrial.Yaml.Literal

def withoutUnderscores (text : List Char) : List Char := text.filter (· != '_')

/-- A sign and the text after it; a text without a first character is refused. -/
def signed (text : List Char) : Except Fault (Bool × List Char) :=
  if text.isEmpty then .error .emptyNumeral else .ok (Text.splitSign text)

/-- The value of a digit in a base up to sixteen. -/
def digitIn? (base : Nat) (c : Char) : Option Nat :=
  let value :=
    if 'a' ≤ c.toLower && c.toLower ≤ 'f' then some (c.toLower.toNat - 'a'.toNat + 10)
    else Text.digitValue? c
  value.filter (· < base)

/-- The text without the mark of its base, a zero and the given letter. -/
def dropMark (letter : Char) (text : List Char) : List Char :=
  match text with
  | '0' :: c :: rest => if c.toLower = letter then rest else text
  | _ => text

/-- A whole number in a base that is a power of two. -/
def readIn (base : Nat) (letter : Char) (text : List Char) : Except Fault Int :=
  let (negative, body) := Text.splitSign (Text.trim Text.isNumeralBlank text)
  match Text.readDigits (digitIn? base) (dropMark letter body) with
  | some digits => .ok (Text.applySign negative (Text.ofDigits base digits))
  | none => .error (.notANumeral base text)

def readDecimal (text : List Char) : Except Fault Int :=
  (Text.readInt text).mapError fun
    | .malformed => .notANumeral 10 text
    | .tooLong digits => .numeralTooLong digits

/-- A whole number: in base two after a `0b`, sixteen after a `0x`, eight after a zero, sixty
between colons, else ten. -/
def readInt (text : List Char) : Except Fault Int := do
  let (negative, body) ← signed (withoutUnderscores text)
  let size ←
    match body with
    | [] => .error .emptyNumeral
    | ['0'] => pure 0
    | '0' :: 'b' :: digits => readIn 2 'b' digits
    | '0' :: 'x' :: digits => readIn 16 'x' digits
    | '0' :: _ => readIn 8 'o' body
    | _ =>
        if body.contains ':' then
          return applySign negative ((← (Text.split ':' body).mapM readDecimal).foldl
            (fun total part => total * 60 + part) 0)
        else readDecimal body
  return applySign negative size
where
  applySign (negative : Bool) (n : Int) : Int := if negative then -n else n

def readNumber (text : List Char) : Except Fault Binary64 :=
  match Binary64.ofNumeral? text with
  | some x => .ok x
  | none => .error (.notADecimal text)

/-- The sum of numbers, each times its own power of sixty; the first has the given one. -/
def sumSixties (power : Nat) (total : Binary64) : List Binary64 → Except Fault Binary64
  | [] => .ok total
  | part :: rest =>
      match Binary64.ofInt? power with
      | none => .error .numberTooLarge
      | some unit => sumSixties (power * 60) (total.add (part.mul unit)) rest

def readFloat (text : List Char) : Except Fault Binary64 := do
  let (negative, body) ← signed (Text.lower (withoutUnderscores text))
  let size ←
    if body == ".inf".toList then pure (.infinite false)
    else if body == ".nan".toList then pure .nan
    else if body.contains ':' then
      sumSixties 1 .zero (← (Text.split ':' body).mapM readNumber).reverse
    else readNumber body
  return if negative then size.negate else size

def readBool (text : List Char) : Except Fault Bool :=
  let word := Text.lower text
  match Tag.boolWords.find? fun w => w.1.toList == word with
  | some w => .ok w.2
  | none => .error (.notABoolean word)

def number (digits : List Char) : Nat := Text.ofDigits 10 (digits.filterMap Text.digitValue?)

def isLeap (year : Nat) : Bool := year % 4 == 0 && (year % 100 != 0 || year % 400 == 0)

def daysIn (year month : Nat) : Nat :=
  if month = 2 then if isLeap year then 29 else 28
  else if [4, 6, 9, 11].contains month then 30
  else 31

/-- A date, if it is on the calendar. -/
def readDate (s : Tag.Stamp) : Except Fault Date := do
  let date : Date := ⟨number s.year, number s.month, number s.day⟩
  if date.year = 0 then .error (.calendar .year)
  if date.month < 1 || 12 < date.month then .error (.calendar .month)
  if date.day < 1 || daysIn date.year date.month < date.day then .error (.calendar .day)
  return date

/-- The offset from universal time in minutes, less than a day either way. -/
def readOffset (s : Tag.Stamp) : Except Fault (Option Int) :=
  match s.offset with
  | none => .ok (if s.universal then some 0 else none)
  | some (negative, hours, minutes) =>
      let total := number hours * 60 + number minutes
      if 24 * 60 ≤ total then .error (.utcOffset negative total)
      else .ok (some (Text.applySign negative total))

def readStamp (text : List Char) : Except Fault Datum := do
  let some s := Tag.readStamp (Tag.withoutFeed text) | .error .notAStamp
  match s.time with
  | none => return .date (← readDate s)
  | some (hour, minute, second) =>
      let offset ← readOffset s
      let date ← readDate s
      if 23 < number hour then .error (.calendar .hour)
      if 59 < number minute then .error (.calendar .minute)
      if 59 < number second then .error (.calendar .second)
      let fraction := s.fraction.take 6 ++ List.replicate (6 - s.fraction.length) '0'
      return .moment ⟨date, number hour, number minute, number second, number fraction, offset⟩

/-- What a text stands for under a tag. -/
def read (tag : Tag) (text : List Char) : Except Refused Datum :=
  match tag with
  | .null => .ok .null
  | .bool => fault (readBool text) .bool
  | .int => fault (readInt text) .int
  | .float => fault (readFloat text) .float
  | .str => .ok (.text text)
  | .timestamp => fault (readStamp text) id
  | .binary =>
      if text.any fun c => 0x80 ≤ c.toNat then .error (.malformed "expected ASCII characters")
      else
        match Base64.decode text with
        | some octets => .ok (.bytes octets)
        | none => .error (.malformed "failed to decode base 64 data")
  | _ => .error (.malformed "the tag of a scalar is not known")
where
  fault {α : Type} (result : Except Fault α) (datum : α → Datum) : Except Refused Datum :=
    (result.map datum).mapError .fault

end WatchTrial.Yaml.Literal
