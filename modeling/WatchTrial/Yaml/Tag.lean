import WatchTrial.Yaml.Cursor

set_option autoImplicit false

namespace WatchTrial.Yaml

inductive Tag where
  | null
  | bool
  | int
  | float
  | binary
  | timestamp
  | omap
  | pairs
  | set
  | str
  | seq
  | map
  /-- The tag of the key `<<`, which merges mappings. -/
  | merge
  /-- The tag of the key `=`, which names the value of a mapping. -/
  | default
  | unknown
  deriving DecidableEq, Repr

namespace Tag

/-- What the names of all standard tags start with. -/
def standard : String := "tag:yaml.org,2002:"

def names : List (String × Tag) :=
  [("null", .null), ("bool", .bool), ("int", .int), ("float", .float), ("binary", .binary),
    ("timestamp", .timestamp), ("omap", .omap), ("pairs", .pairs), ("set", .set), ("str", .str),
    ("seq", .seq), ("map", .map), ("merge", .merge), ("value", .default)]

def ofUri (uri : List Char) : Tag :=
  match names.find? fun n => (standard ++ n.1).toList == uri with
  | some n => n.2
  | none => .unknown

/- The forms of plain scalars. Each recogniser takes the whole text. -/

def isDigitOr_ (c : Char) : Bool := c.isDigit || c == '_'

def isBinaryOr_ (c : Char) : Bool := c == '0' || c == '1' || c == '_'

def isOctalOr_ (c : Char) : Bool := ('0' ≤ c && c ≤ '7') || c == '_'

def isHexOr_ (c : Char) : Bool := isHexDigit c || c == '_'

def isSign (c : Char) : Bool := c == '-' || c == '+'

def dropSign : List Char → List Char
  | c :: rest => if isSign c then rest else c :: rest
  | [] => []

def boolWords : List (String × Bool) :=
  [("yes", true), ("no", false), ("true", true), ("false", false), ("on", true), ("off", false)]

/-- A word as it is, capitalised, and in capitals. -/
def casings (word : String) : List String := [word, word.capitalize, word.map Char.toUpper]

def isBool (text : List Char) : Bool :=
  boolWords.any fun w => (casings w.1).contains (String.ofList text)

def isNull (text : List Char) : Bool :=
  text.isEmpty || text == ['~'] || (casings "null").contains (String.ofList text)

/-- Groups of one or two digits after colons, below sixty; what follows them. At least one group. -/
def sixties : List Char → Option (List Char)
  | ':' :: a :: b :: rest =>
      if '0' ≤ a && a ≤ '5' && b.isDigit then some ((sixties rest).getD rest)
      else if a.isDigit then some ((sixties (b :: rest)).getD (b :: rest))
      else none
  | [':', a] => if a.isDigit then some [] else none
  | _ => none

def isInt (text : List Char) : Bool :=
  match dropSign text with
  | [] => false
  | '0' :: 'b' :: rest => !rest.isEmpty && rest.all isBinaryOr_
  | '0' :: 'x' :: rest => !rest.isEmpty && rest.all isHexOr_
  | '0' :: rest => rest.all isOctalOr_
  | c :: rest =>
      let after := rest.dropWhile isDigitOr_
      c.isDigit && (after.isEmpty || sixties after == some [])

/-- Nothing, or an exponent with its sign. -/
def isExponent : List Char → Bool
  | [] => true
  | e :: sign :: digits =>
      (e == 'e' || e == 'E') && isSign sign && !digits.isEmpty && digits.all Char.isDigit
  | _ => false

def isFloat (text : List Char) : Bool :=
  let special (words : List String) (body : List Char) : Bool := words.contains (String.ofList body)
  let unsigned := dropSign text
  special [".inf", ".Inf", ".INF"] unsigned || special [".nan", ".NaN", ".NAN"] text ||
    match text with
    | '.' :: c :: rest => c.isDigit && isExponent (rest.dropWhile isDigitOr_)
    | _ =>
        match unsigned with
        | c :: rest =>
            let after := rest.dropWhile isDigitOr_
            c.isDigit &&
              match after with
              | '.' :: fraction => isExponent (fraction.dropWhile isDigitOr_)
              | _ =>
                  match sixties after with
                  | some ('.' :: fraction) => fraction.all isDigitOr_
                  | _ => false
        | [] => false

/-- A date and a time as digits, in the order in which they are written. -/
structure Stamp where
  year : List Char
  month : List Char
  day : List Char
  time : Option (List Char × List Char × List Char) := none
  fraction : List Char := []
  /-- The sign, hours and minutes of the offset from universal time. -/
  offset : Option (Bool × List Char × List Char) := none
  universal : Bool := false
  deriving DecidableEq, Repr

/-- At least `least` and at most `most` digits at the start, as many as there are. -/
def digitsUpTo (least most : Nat) (text : List Char) : Option (List Char × List Char) :=
  let run := (text.take most).takeWhile Char.isDigit
  if least ≤ run.length then some (run, text.drop run.length) else none

/-- A character and what follows it. -/
def expect (c : Char) : List Char → Option (List Char)
  | d :: rest => if c == d then some rest else none
  | [] => none

def isBlank (c : Char) : Bool := c == ' ' || c == '\t'

/-- The offset at the end of a time of day. -/
def readOffset (s : Stamp) (text : List Char) : Option Stamp :=
  if text.isEmpty then some s
  else
    match text.dropWhile isBlank with
    | ['Z'] => some { s with universal := true }
    | c :: rest =>
        if isSign c then do
          let (hours, rest) ← digitsUpTo 1 2 rest
          match rest with
          | [] => some { s with offset := some (c == '-', hours, []) }
          | ':' :: rest => do
              let (minutes, rest) ← digitsUpTo 2 2 rest
              if rest.isEmpty then some { s with offset := some (c == '-', hours, minutes) }
              else none
          | _ => none
        else none
    | [] => none

def readTime (s : Stamp) (text : List Char) : Option Stamp := do
  let (hour, text) ← digitsUpTo 1 2 text
  let (minute, text) ← digitsUpTo 2 2 (← expect ':' text)
  let (second, text) ← digitsUpTo 2 2 (← expect ':' text)
  let s := { s with time := some (hour, minute, second) }
  match text with
  | '.' :: rest =>
      readOffset { s with fraction := rest.takeWhile Char.isDigit } (rest.dropWhile Char.isDigit)
  | _ => readOffset s text

/-- A date, alone or with a time of day after it. -/
def readStamp (text : List Char) : Option Stamp := do
  let (year, text) ← digitsUpTo 4 4 text
  let (month, text) ← digitsUpTo 1 2 (← expect '-' text)
  let (day, text) ← digitsUpTo 1 2 (← expect '-' text)
  let s : Stamp := { year, month, day }
  match text with
  | [] => some s
  | c :: rest =>
      if c == 'T' || c == 't' then readTime s rest
      else if isBlank c then readTime s (rest.dropWhile isBlank)
      else none

/-- A date alone has two digits for the month and two for the day. -/
def isTimestamp (text : List Char) : Bool :=
  match readStamp text with
  | some s => s.time.isSome || (s.month.length == 2 && s.day.length == 2)
  | none => false

/-- The text without a line feed at its end. -/
def withoutFeed (text : List Char) : List Char :=
  if text.getLast? = some '\n' then text.dropLast else text

/-- The tag that the text of a plain scalar decides. A line feed at its end does not count, though
a text that is nothing else is not empty. -/
def resolve (text : List Char) : Tag :=
  let body := withoutFeed text
  if text == ['\n'] then .str
  else if isBool body then .bool
  else if isFloat body then .float
  else if isInt body then .int
  else if body == ['<', '<'] then .merge
  else if isNull body then .null
  else if isTimestamp body then .timestamp
  else if body == ['='] then .default
  else if body == ['!'] || body == ['&'] || body == ['*'] then .unknown
  else .str

end Tag

end WatchTrial.Yaml
