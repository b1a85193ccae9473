import WatchTrial.Number.Binary64
import WatchTrial.Shell.Token

set_option autoImplicit false

namespace WatchTrial.Shell.Arithmetic

inductive Expression where
  | number (n : Int)
  | name (text : List Char)
  | unary (operator : String) (a : Expression)
  | binary (operator : String) (a b : Expression)
  | choose (condition a b : Expression)
  | assign (name : List Char) (a : Expression)

inductive Symbol where
  | number (n : Int)
  | name (text : List Char)
  | operator (text : String)
  /-- A character with no meaning. -/
  | other (c : Char)
  deriving DecidableEq, Repr

def operators : List String :=
  ["<<=", ">>=", "<=", ">=", "==", "!=", "&&", "||", "<<", ">>", "+=", "-=", "*=", "/=", "%=", "&=",
    "|=", "^=", "<", ">", "+", "-", "*", "/", "%", "(", ")", "!", "~", "&", "|", "^", "?", ":", "="]

def isBlank (c : Char) : Bool := c == ' ' || c == '\t' || c == '\n'

/-- The value of a digit, if it is one in any base. -/
def digitValue (c : Char) : Nat :=
  if c.isDigit then c.toNat - '0'.toNat
  else if 'a' ≤ c.toLower && c.toLower ≤ 'f' then c.toLower.toNat - 'a'.toNat + 10
  else 16

/-- The greatest number; no numeral stands for more. -/
def greatest : Nat := twoTo 63 - 1

/-- The number that the digits of a base at the start of a text write, and what follows them. -/
def readDigits (base : Nat) (text : List Char) : Nat × List Char :=
  let digits := text.takeWhile fun c => digitValue c < base
  (min greatest (digits.foldl (fun n c => n * base + digitValue c) 0), text.drop digits.length)

/-- A number at the start of a text, and what follows it: in base ten, in base eight after a zero, in
base sixteen after `0x`. -/
def readNumber (text : List Char) : Nat × List Char :=
  match text with
  | '0' :: x :: c :: rest =>
      if x.toLower == 'x' && digitValue c < 16 then readDigits 16 (c :: rest)
      else readDigits 8 text
  | '0' :: _ => readDigits 8 text
  | _ => readDigits 10 text

def symbols : Nat → List Char → List Symbol
  | 0, _ => []
  | _ + 1, [] => []
  | n + 1, c :: rest =>
      if isBlank c then symbols n rest
      else if c.isDigit then
        let (value, after) := readNumber (c :: rest)
        .number value :: symbols n after
      else if Token.isNameStart c then
        let text := (c :: rest).takeWhile Token.isNameChar
        .name text :: symbols n ((c :: rest).drop text.length)
      else
        match operators.find? fun o => o.toList.isPrefixOf (c :: rest) with
        | some o => .operator o :: symbols n ((c :: rest).drop o.length)
        | none => .other c :: symbols n rest

/-- How strongly an operator binds; `none` if it does not stand between two operands. -/
def strength? : String → Option Nat
  | "||" => some 1
  | "&&" => some 2
  | "|" => some 3
  | "^" => some 4
  | "&" => some 5
  | "==" | "!=" => some 6
  | "<" | "<=" | ">" | ">=" => some 7
  | "<<" | ">>" => some 8
  | "+" | "-" => some 9
  | "*" | "/" | "%" => some 10
  | _ => none

def truth (b : Bool) : Int := if b then 1 else 0

/-- A number as 64 bits hold it. -/
def wrap (n : Int) : Int := n.bmod (twoTo 64)

def bits (n : Int) : UInt64 := Int64.ofInt n |>.toUInt64

def ofBits (b : UInt64) : Int := b.toInt64.toInt

/-- Operators that need both of their operands. -/
def apply (operator : String) (a b : Int) : Option Int :=
  match operator with
  | "|" => some (ofBits (bits a ||| bits b))
  | "^" => some (ofBits (bits a ^^^ bits b))
  | "&" => some (ofBits (bits a &&& bits b))
  | "==" => some (truth (a == b))
  | "!=" => some (truth (a != b))
  | "<" => some (truth (a < b))
  | "<=" => some (truth (a ≤ b))
  | ">" => some (truth (b < a))
  | ">=" => some (truth (b ≤ a))
  | "<<" => some (ofBits (bits a <<< bits b))
  | ">>" => some ((Int64.ofInt a >>> Int64.ofInt b).toInt)
  | "+" => some (wrap (a + b))
  | "-" => some (wrap (a - b))
  | "*" => some (wrap (a * b))
  | "/" => if b = 0 then none else some (wrap (a.tdiv b))
  | "%" => if b = 0 then none else some (a.tmod b)
  | _ => none

/-- The operator that an assignment applies first. -/
def assignment? (operator : String) : Option (Option String) :=
  if operator == "=" then some none
  else if (strength? operator).isNone && operator.endsWith "=" then
    some (some (String.ofList operator.toList.dropLast))
  else none

/-- Why an expression has no value. -/
inductive Trouble where
  | expecting (what : String)
  | division
  | illegal (text : List Char)
  deriving DecidableEq, Repr

def Trouble.message (t : Trouble) (text : List Char) : String :=
  let shown := "\x22" ++ String.ofList text ++ "\x22"
  match t with
  | .expecting what => "arithmetic expression: expecting " ++ what ++ ": " ++ shown
  | .division => "arithmetic expression: division by zero: " ++ shown
  | .illegal value => "Illegal number: " ++ String.ofList value

abbrev Reading := Except Trouble (Expression × List Symbol)

mutual

def operand : Nat → List Symbol → Reading
  | _ + 1, .number a :: rest => .ok (.number a, rest)
  | n + 1, .name text :: rest =>
      match rest with
      | .operator o :: after =>
          match assignment? o with
          | some first => do
              let (a, after) ← whole n after
              let value := first.elim a fun o => .binary o (.name text) a
              return (.assign text value, after)
          | none => .ok (.name text, rest)
      | _ => .ok (.name text, rest)
  | n + 1, .operator o :: rest =>
      if o == "(" then
        match whole n rest with
        | .ok (a, .operator ")" :: after) => .ok (a, after)
        | .ok _ => .error (.expecting "\x27)\x27")
        | .error t => .error t
      else if ["-", "+", "!", "~"].contains o then
        (operand n rest).map fun (a, after) => (.unary o a, after)
      else .error (.expecting "primary")
  | _, _ => .error (.expecting "primary")

/-- An expression whose operators bind more strongly than the given strength. -/
def expression : Nat → Nat → List Symbol → Reading
  | 0, _, _ => .error (.expecting "primary")
  | n + 1, least, text => do
      let (a, rest) ← operand n text
      continued n least a rest

/-- What operators make of an operand to their left. -/
def continued : Nat → Nat → Expression → List Symbol → Reading
  | n + 1, least, a, .operator o :: rest =>
      match strength? o with
      | some strength =>
          if least < strength then do
            let (b, after) ← expression n strength rest
            continued n least (.binary o a b) after
          else .ok (a, .operator o :: rest)
      | none => .ok (a, .operator o :: rest)
  | _, _, a, rest => .ok (a, rest)

/-- An expression, with a choice between two others if a question mark follows it. -/
def whole : Nat → List Symbol → Reading
  | 0, _ => .error (.expecting "primary")
  | n + 1, text => do
      let (a, rest) ← expression n 0 text
      match rest with
      | .operator "?" :: rest =>
          let (b, rest) ← whole n rest
          match rest with
          | .operator ":" :: rest => do
              let (c, rest) ← whole n rest
              return (.choose a b c, rest)
          | _ => throw (.expecting "\x27:\x27")
      | _ => return (a, rest)

end

/-- The expression that a text writes. -/
def read (text : List Char) : Except Trouble Expression := do
  let found := symbols (text.length + 1) text
  match ← whole (4 * found.length + 4) found with
  | (e, []) => return e
  | _ => throw (.expecting "EOF")

abbrev Bindings := List (List Char × List Char)

/-- The number that the value of a name is; a name without a value is zero. -/
def valueOf (known : Bindings) (name : List Char) : Except Trouble Int :=
  let text := ((known.lookup name).getD []).dropWhile isBlank
  if text.isEmpty then .ok 0
  else
    let (negative, digits) :=
      match text with
      | '-' :: rest => (true, rest)
      | '+' :: rest => (false, rest)
      | _ => (false, text)
    match digits, readNumber digits with
    | c :: _, (n, []) =>
        if c.isDigit then .ok (if negative then -(n : Int) else n) else .error (.illegal text)
    | _, _ => .error (.illegal text)

def Bindings.put (known : Bindings) (name : List Char) (value : Int) : Bindings :=
  (name, (toString value).toList) :: known.filter fun b => b.1 != name

/-- The value of an expression, and what is bound afterwards. -/
def eval : Expression → Bindings → Except Trouble (Int × Bindings)
  | .number n, known => .ok (n, known)
  | .name text, known => do return (← valueOf known text, known)
  | .unary operator a, known => do
      let (m, known) ← eval a known
      match operator with
      | "-" => return (wrap (-m), known)
      | "!" => return (truth (m == 0), known)
      | "~" => return (-m - 1, known)
      | _ => return (m, known)
  | .binary "&&" a b, known => do
      let (m, known) ← eval a known
      if m = 0 then return (0, known)
      let (n, known) ← eval b known
      return (truth (n != 0), known)
  | .binary "||" a b, known => do
      let (m, known) ← eval a known
      if m ≠ 0 then return (1, known)
      let (n, known) ← eval b known
      return (truth (n != 0), known)
  | .binary operator a b, known => do
      let (m, known) ← eval a known
      let (n, known) ← eval b known
      match apply operator m n with
      | some value => return (value, known)
      | none => .error .division
  | .choose condition a b, known => do
      let (m, known) ← eval condition known
      if m ≠ 0 then eval a known else eval b known
  | .assign name a, known => do
      let (m, known) ← eval a known
      return (m, known.put name m)

/-- The value of the expression that a text writes, and what is bound afterwards. -/
def evalText (text : List Char) (known : Bindings) : Except Trouble (Int × Bindings) := do
  eval (← read text) known

end WatchTrial.Shell.Arithmetic
