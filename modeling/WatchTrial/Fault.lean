import WatchTrial.SystemError

set_option autoImplicit false

namespace WatchTrial

/-- A part of a date or time that is not on the calendar or the clock. -/
inductive CalendarPart where
  | year
  | month
  | day
  | hour
  | minute
  | second
  deriving DecidableEq, Repr

def CalendarPart.message : CalendarPart → String
  | .year => "year 0 is out of range"
  | .month => "month must be in 1..12"
  | .day => "day is out of range for month"
  | .hour => "hour must be in 0..23"
  | .minute => "minute must be in 0..59"
  | .second => "second must be in 0..59"

inductive Fault where
  | system (e : SystemError)
  | undecodable (f : Text.Utf8.Fault)
  | nulCharacter
  /-- A text that was to be a whole number in some base. -/
  | notANumeral (base : Nat) (text : List Char)
  | numeralTooLong (digits : Nat)
  | notADecimal (text : List Char)
  | calendar (part : CalendarPart)
  /-- An offset from universal time of a day or more. -/
  | utcOffset (negative : Bool) (minutes : Nat)
  | notACharacter
  | characterTooLarge
  /-- An escape for half of a character. No text here holds one, so that it ends the reading of the
  text, and not what the text would be passed on to. -/
  | halfCharacter (code : Nat)
  | numberTooLarge
  /-- More billionths of a second than the clock counts. Releases of the runtime differ in what they
  say of a number that is not whole; here it is what they say of a whole one. -/
  | timeTooLarge
  | timeNotANumber
  | emptyNumeral
  | notABoolean (text : List Char)
  | notAStamp
  /-- A mapping where the text of a time is needed. -/
  | mappingAsStamp
  /-- Collections inside of one another without a bound. -/
  | tooDeep
  | declarationPerformed
  | unsupportedAction (kind : String)
  /-- Two kinds of values that have no order between them. -/
  | unordered (left right : String)
  /-- A date and a moment have no order between them. -/
  | dateAndMoment
  /-- Moments of which only one has an offset from universal time have no order between them. -/
  | offsetOnOneSide
  /-- A value of another kind at an index where a text is needed. -/
  | notText (index : Nat) (kind : String)
  deriving DecidableEq, Repr

namespace Fault

/-- A length of time as whole days and the seconds after them. -/
def offsetText (negative : Bool) (minutes : Nat) : String :=
  let total : Int := if negative then -(minutes : Int) * 60 else minutes * 60
  let days := total.fdiv 86400
  let seconds := total.fmod 86400
  "datetime.timedelta(days=" ++ toString days ++
    (if seconds = 0 then "" else ", seconds=" ++ toString seconds) ++ ")"

def message : Fault → String
  | .system e => e.message
  | .undecodable f => f.message
  | .nulCharacter => "embedded null byte"
  | .notANumeral base text =>
      "invalid literal for int() with base " ++ toString base ++ ": " ++
        String.ofList ((Text.quoteChars text).take 200)
  | .numeralTooLong digits =>
      "Exceeds the limit (4300 digits) for integer string conversion: value has " ++
        toString digits ++ " digits; use sys.set_int_max_str_digits() to increase the limit"
  | .notADecimal text =>
      "could not convert string to float: " ++ String.ofList (Text.quoteChars text)
  | .calendar part => part.message
  | .utcOffset negative minutes =>
      "offset must be a timedelta strictly between -timedelta(hours=24) and " ++
        "timedelta(hours=24), not " ++
        offsetText negative minutes ++ "."
  | .notACharacter => "chr() arg not in range(0x110000)"
  | .characterTooLarge => "Python int too large to convert to C int"
  | .halfCharacter code =>
      "\x27utf-8\x27 codec can\x27t encode character \x27\\u" ++
        String.ofList (Nat.toDigits 16 code) ++ "\x27: surrogates not allowed"
  | .numberTooLarge => "int too large to convert to float"
  | .timeTooLarge => "timestamp too large to convert to C _PyTime_t"
  | .timeNotANumber => "Invalid value NaN (not a number)"
  | .emptyNumeral => "string index out of range"
  | .notABoolean text => String.ofList (Text.quoteChars text)
  | .notAStamp => "\x27NoneType\x27 object has no attribute \x27groupdict\x27"
  | .mappingAsStamp => "expected string or bytes-like object, got \x27list\x27"
  | .tooDeep => "maximum recursion depth exceeded"
  | .declarationPerformed => "WatchDir declarations cannot be executed"
  | .unsupportedAction kind => "Unsupported action type " ++ kind
  | .unordered left right =>
      "\x27<\x27 not supported between instances of \x27" ++ left ++ "\x27 and \x27" ++ right ++
        "\x27"
  | .dateAndMoment => "can\x27t compare datetime.datetime to datetime.date"
  | .offsetOnOneSide => "can\x27t compare offset-naive and offset-aware datetimes"
  | .notText index kind =>
      "sequence item " ++ toString index ++ ": expected str instance, " ++ kind ++ " found"

/-- The kinds of faults that are told apart. -/
inductive Family where
  | system
  | decoding
  | value
  | kind
  | range
  | key
  | index
  | missingPart
  | depth
  deriving DecidableEq, Repr

def family : Fault → Family
  | .system _ => .system
  | .undecodable _ => .decoding
  | .declarationPerformed | .unsupportedAction _ | .unordered .. | .dateAndMoment | .offsetOnOneSide
  | .notText .. | .mappingAsStamp => .kind
  | .characterTooLarge | .numberTooLarge | .timeTooLarge => .range
  | .notABoolean _ => .key
  | .emptyNumeral => .index
  | .notAStamp => .missingPart
  | .tooDeep => .depth
  | _ => .value

end Fault

end WatchTrial
