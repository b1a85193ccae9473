import WatchTrial.Shell.Arithmetic
import WatchTrial.Text.Utf8

set_option autoImplicit false

namespace WatchTrial.Shell.Format

def isOctal (c : Char) : Bool := '0' ≤ c && c ≤ '7'

def octalValue (digits : List Char) : Nat :=
  digits.foldl (fun n d => n * 8 + (d.toNat - '0'.toNat)) 0

/-- What an escape stands for, from the character after the backslash, and what follows it. Up to
three octal digits give an octet; a backslash before anything else stands for itself. -/
def escape (text : List Char) : Octets × List Char :=
  match text with
  | c :: rest =>
      if isOctal c then
        let digits := (text.take 3).takeWhile isOctal
        ([.ofNat (octalValue digits)], text.drop digits.length)
      else
        match c with
        | '\\' => ([92], rest)
        | 'a' => ([7], rest)
        | 'b' => ([8], rest)
        | 'f' => ([12], rest)
        | 'n' => ([10], rest)
        | 'r' => ([13], rest)
        | 't' => ([9], rest)
        | 'v' => ([11], rest)
        | _ => ([92], text)
  | [] => ([92], [])

/-- A text with its escapes; an octal escape may have a zero in front. The escape `\c` ends all
output, which the flag tells. -/
def unescape : Nat → List Char → Octets × Bool
  | 0, _ => ([], false)
  | _ + 1, [] => ([], false)
  | n + 1, '\\' :: rest =>
      match rest with
      | 'c' :: _ => ([], true)
      | _ =>
          let body :=
            match rest with
            | '0' :: d :: more => if isOctal d then d :: more else rest
            | _ => rest
          let (octets, after) := escape body
          let (more, ended) := unescape n after
          (octets ++ more, ended)
  | n + 1, c :: rest =>
      let (more, ended) := unescape n rest
      (Text.Utf8.encodeChar c ++ more, ended)

/-- What `echo` writes: its arguments with spaces between them and, unless the first is `-n`, a line
feed. -/
def echo (arguments : List (List Char)) : Octets :=
  let (plain, words) :=
    match arguments with
    | ['-', 'n'] :: rest => (true, rest)
    | _ => (false, arguments)
  let text := [' '].intercalate words
  let (octets, ended) := unescape (text.length + 1) text
  octets ++ if plain || ended then [] else [10]

/-- One conversion of a format. -/
structure Conversion where
  left : Bool := false
  zeros : Bool := false
  plus : Bool := false
  width : Nat := 0
  precision : Option Nat := none
  kind : Char

def readNumber (text : List Char) : Nat × List Char :=
  ((text.takeWhile Char.isDigit).foldl (fun n d => n * 10 + (d.toNat - '0'.toNat)) 0,
    text.dropWhile Char.isDigit)

/-- The conversion after a percent sign, and what follows it. -/
def conversion? (text : List Char) : Option (Conversion × List Char) :=
  let isFlag (c : Char) : Bool := "-0+ #".toList.contains c
  let flags := text.takeWhile isFlag
  let (width, rest) := readNumber (text.dropWhile isFlag)
  let (precision, rest) :=
    match rest with
    | '.' :: rest =>
        let (n, after) := readNumber rest
        (some n, after)
    | _ => (none, rest)
  match rest with
  | [] => none
  | kind :: after =>
      some ({ left := flags.contains '-', zeros := flags.contains '0', plus := flags.contains '+',
              width, precision, kind }, after)

/-- A text in its width. -/
def Conversion.pad (c : Conversion) (text : Octets) : Octets :=
  let missing := List.replicate (c.width - text.length) (32 : UInt8)
  if c.left then text ++ missing else missing ++ text

def digitsIn (base n : Nat) : List Char := Nat.toDigits base n

/-- A number with its sign, in its width. -/
def Conversion.number (c : Conversion) (base : Nat) (n : Int) : Octets :=
  let digits := digitsIn base n.natAbs
  let digits := List.replicate ((c.precision.getD 1) - digits.length) '0' ++ digits
  let sign := if n < 0 then ['-'] else if c.plus then ['+'] else []
  let zeros :=
    if c.zeros && !c.left && c.precision.isNone then c.width - sign.length - digits.length else 0
  c.pad (Text.Utf8.encode (sign ++ List.replicate zeros '0' ++ digits))

/-- The number that an argument writes, and whether it has begun and ended as one. A quote in front
of a character asks for the number of that. -/
def numberOf (text : List Char) : Int × Bool × Bool :=
  match text with
  | [] => (0, true, true)
  | ['\x27'] | ['\x22'] => (0, true, true)
  | '\x27' :: c :: _ | '\x22' :: c :: _ => (c.toNat, true, true)
  | _ =>
      let body := text.dropWhile Arithmetic.isBlank
      let (negative, digits) :=
        match body with
        | '-' :: rest => (true, rest)
        | '+' :: rest => (false, rest)
        | _ => (false, body)
      if digits.head?.any Char.isDigit then
        let (n, after) := Arithmetic.readNumber digits
        (if negative then -(n : Int) else n, true, after.isEmpty)
      else (0, false, false)

/-- What a conversion makes of an argument. -/
structure Converted where
  octets : Octets
  /-- Whether the argument was wrong, and if so whether it has begun as it should. -/
  wrong : Option Bool := none
  /-- Whether output ends. -/
  ended : Bool := false

/-- What a conversion makes of an argument; no argument counts as an empty text, or as zero. -/
def Conversion.apply? (c : Conversion) (argument : Option (List Char)) : Option Converted :=
  let text := argument.getD []
  let number (base : Nat) (isSigned : Bool) : Converted :=
    let (n, started, complete) := numberOf text
    let n := if isSigned || 0 ≤ n then n else n + twoTo 64
    { octets := c.number base n, wrong := if complete then none else some started }
  let limited (octets : Octets) : Octets := c.pad ((c.precision.map octets.take).getD octets)
  match c.kind with
  | 'd' | 'i' => some (number 10 true)
  | 'u' => some (number 10 false)
  | 'o' => some (number 8 false)
  | 'x' => some (number 16 false)
  | 'X' =>
      let made := number 16 false
      some { made with octets := made.octets.map upper }
  | 'c' => some { octets := c.pad (Text.Utf8.encode (text.take 1)) }
  | 's' => some { octets := limited (Text.Utf8.encode text) }
  | 'b' =>
      let (octets, ended) := unescape (text.length + 1) text
      some { octets := limited octets, ended }
  | _ => none
where
  upper (b : UInt8) : UInt8 := if 97 ≤ b && b ≤ 122 then b - 32 else b

/-- What has been written, and what was wrong with it. -/
structure Formatted where
  octets : Octets := []
  /-- The arguments of a wrong kind; the flag tells whether they have begun as they should. -/
  wrong : List (List Char × Bool) := []
  /-- A conversion that there is not, which ends all output; nothing if the format ends in one. -/
  unknown : Option (List Char) := none

/-- What one pass through a format writes. -/
structure Pass extends Formatted where
  /-- The arguments that are left over. -/
  rest : List (List Char)
  /-- Whether an argument was asked for. -/
  asked : Bool := false
  /-- Whether output ends. -/
  ended : Bool := false

def Pass.precede (p : Pass) (octets : Octets) : Pass := { p with octets := octets ++ p.octets }

def pass : Nat → List Char → List (List Char) → Pass
  | 0, _, arguments => { rest := arguments }
  | _ + 1, [], arguments => { rest := arguments }
  | n + 1, '\\' :: text, arguments =>
      match text with
      | 'c' :: _ => { rest := arguments, ended := true }
      | _ =>
          let (octets, after) := escape text
          (pass n after arguments).precede octets
  | n + 1, '%' :: '%' :: text, arguments => (pass n text arguments).precede [37]
  | n + 1, '%' :: text, arguments =>
      match conversion? text with
      | none => { rest := arguments, unknown := some [], ended := true }
      | some (c, after) =>
          match c.apply? arguments.head? with
          | none =>
              { rest := arguments
                unknown := some (text.take (text.length - after.length))
                ended := true }
          | some made =>
              let wrong := (made.wrong.map fun started => (arguments.headD [], started)).toList
              if made.ended then
                { octets := made.octets, rest := arguments.tail, asked := true, ended := true }
              else
                let later := (pass n after arguments.tail).precede made.octets
                { later with asked := true, wrong := wrong ++ later.wrong }
  | n + 1, c :: text, arguments => (pass n text arguments).precede (Text.Utf8.encodeChar c)

/-- What `printf` writes, going through its format as long as arguments are left. -/
def printf : Nat → List Char → List (List Char) → Formatted
  | 0, _, _ => {}
  | n + 1, format, arguments =>
      let one := pass (format.length + 1) format arguments
      if one.ended || !one.asked || one.rest.isEmpty then one.toFormatted
      else
        let later := printf n format one.rest
        { later with octets := one.octets ++ later.octets, wrong := one.wrong ++ later.wrong }

end WatchTrial.Shell.Format
