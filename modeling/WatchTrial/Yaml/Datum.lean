import WatchTrial.Number.Decimal
import WatchTrial.Yaml.Cursor

set_option autoImplicit false

namespace WatchTrial.Yaml

/-- A date on the calendar. -/
structure Date where
  year : Nat
  month : Nat
  day : Nat
  deriving DecidableEq, Repr

/-- A date with a time of day; the offset from universal time is in minutes. -/
structure Moment where
  date : Date
  hour : Nat
  minute : Nat
  second : Nat
  microsecond : Nat
  offset : Option Int
  deriving DecidableEq, Repr

inductive Datum where
  | null
  | bool (b : Bool)
  | int (n : Int)
  | float (x : Binary64)
  | text (s : List Char)
  | bytes (octets : Octets)
  | date (d : Date)
  | moment (m : Moment)
  | list (items : List Datum)
  | pairs (items : List (Datum × Datum))
  | map (entries : List (Datum × Datum))
  | set (items : List Datum)
  /-- A collection whose content is not told. -/
  | collection
  deriving Inhabited

namespace Moment

/-- The days from the first of March of the year zero to a date, leap days in their places. -/
def days (d : Date) : Nat :=
  let (year, month) := if d.month ≤ 2 then (d.year - 1, d.month + 9) else (d.year, d.month - 3)
  year * 365 + year / 4 - year / 100 + year / 400 + (month * 153 + 2) / 5 + d.day

/-- The minutes on the common clock, offset from universal time taken away. -/
def minutes (m : Moment) : Int :=
  (days m.date * 1440 + m.hour * 60 + m.minute : Nat) - m.offset.getD 0

/-- Whether two moments are the same: with offsets the same instant, else the same reading. -/
def same (a b : Moment) : Bool :=
  a.offset.isSome == b.offset.isSome && a.minutes == b.minutes && a.second == b.second &&
    a.microsecond == b.microsecond

end Moment

namespace Datum

/-- The kind of a value, as messages name it. -/
def kind : Datum → String
  | .null => "NoneType"
  | .bool _ => "bool"
  | .int _ => "int"
  | .float _ => "float"
  | .text _ => "str"
  | .bytes _ => "bytes"
  | .date _ => "datetime.date"
  | .moment _ => "datetime.datetime"
  | .list _ | .pairs _ | .collection => "list"
  | .map _ => "dict"
  | .set _ => "set"

/-- The number a value counts as among keys: truth values count as one and zero. -/
def number? : Datum → Option Binary64.Quantity
  | .bool b => some (.exact (Binary64.ofBool b) 1)
  | .int n => some (.exact n 1)
  | .float x => some x.quantity
  | _ => none

/-- Whether two values are the same key. -/
def sameKey (a b : Datum) : Bool :=
  match a, b with
  | .null, .null => true
  | .text s, .text t => s == t
  | .bytes s, .bytes t => s == t
  | .date d, .date e => d == e
  | .moment m, .moment n => m.same n
  | _, _ =>
      match a.number?, b.number? with
      | some x, some y => x.same y
      | _, _ => false

/-- Gives a key its value: a key that is there keeps its place and takes the new value. -/
def assign {α : Type} (key : Datum) (value : α) : List (Datum × α) → List (Datum × α)
  | [] => [(key, value)]
  | (k, v) :: rest => if k.sameKey key then (k, value) :: rest else (k, v) :: assign key value rest

/-- The entries of a mapping, the last value of a repeated key counting. -/
def lastOfEach {α : Type} (entries : List (Datum × α)) : List (Datum × α) :=
  entries.foldl (fun known e => assign e.1 e.2 known) []

end Datum

end WatchTrial.Yaml
