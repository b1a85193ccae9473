import WatchTrial.Yaml.Cursor

set_option autoImplicit false

namespace WatchTrial.Yaml.Scalar

/-- What a run of line breaks contributes when lines are folded: a single break a space, more of
them all but the first. -/
def folded (first : List Char) (more : List Char) : List Char :=
  if first != ['\n'] then first ++ more
  else if more.isEmpty then [' ']
  else more

/- Plain scalars -/

/-- Whether a plain scalar goes on with the character here. -/
def goesOn (inFlow : Bool) (c : Cursor) : Bool :=
  let ch := c.head
  !(isWideGap ch ||
    (ch == ':' && (isWideGap (c.peek 1) || (inFlow && isOneOf ",[]\x7b\x7d" (c.peek 1)))) ||
    (inFlow && isOneOf ",?[]\x7b\x7d" ch))

def plainWord (inFlow : Bool) : Nat → Cursor → List Char × Cursor
  | 0, c => ([], c)
  | n + 1, c =>
      if goesOn inFlow c then
        let (word, after) := plainWord inFlow n c.next
        (c.head :: word, after)
      else ([], c)

/-- Breaks and spaces between the lines of a plain scalar; `none` when a document marker follows. -/
def plainBreaks : Nat → Cursor → Option (List Char) × Cursor
  | 0, c => (some [], c)
  | n + 1, c =>
      if c.head == ' ' then plainBreaks n c.next
      else if isBreak c.head then
        let (found, after) := c.lineBreak
        if after.isDocumentMarker then (none, after)
        else
          let (more, after) := plainBreaks n after
          (more.map (found ++ ·), after)
      else (some [], c)

/-- The white space after a word of a plain scalar, whether it spans lines, and where it ends;
empty if the scalar ends with it. -/
def plainSpaces (c : Cursor) : List Char × Bool × Cursor :=
  let (blanks, c) := c.span (· == ' ')
  if isBreak c.head then
    let (first, c) := c.lineBreak
    if c.isDocumentMarker then ([], true, c)
    else
      match plainBreaks c.left c with
      | (none, c) => ([], true, c)
      | (some more, c) => (folded first more, true, c)
  else (blanks, false, c)

structure Plain where
  text : List Char
  /-- Whether the scalar was followed by a line break. -/
  brokeLine : Bool
  after : Cursor

/-- The words of a plain scalar. `indent` is the least column at which its later lines may start. -/
def plainFrom (inFlow : Bool) (indent : Int) : Nat → List Char → Bool → Cursor → Plain
  | 0, _, brokeLine, c => ⟨[], brokeLine, c⟩
  | n + 1, spaces, brokeLine, c =>
      if c.head == '#' || !goesOn inFlow c then ⟨[], brokeLine, c⟩
      else
        let (word, c) := plainWord inFlow c.left c
        let (next, broke, c) := plainSpaces c
        if next.isEmpty || c.head == '#' || (!inFlow && (c.column : Int) < indent) then
          ⟨spaces ++ word, broke, c⟩
        else
          let more := plainFrom inFlow indent n next broke c
          ⟨spaces ++ word ++ more.text, more.brokeLine, more.after⟩

def plain (inFlow : Bool) (indent : Int) (c : Cursor) : Plain :=
  plainFrom inFlow indent c.left [] false c

/- Quoted scalars -/

/-- The characters that a single letter stands for after a backslash. -/
def escapes : List (Char × Char) :=
  [('0', '\x00'), ('a', '\x07'), ('b', '\x08'), ('t', '\t'), ('\t', '\t'), ('n', '\n'),
    ('v', '\x0b'), ('f', '\x0c'), ('r', '\r'), ('e', '\x1b'), (' ', ' '), ('\x22', '\x22'),
    ('\\', '\\'), ('/', '/'), ('N', '\u0085'), ('_', '\u00a0'), ('L', '\u2028'), ('P', '\u2029')]

/-- How many hexadecimal digits follow a letter after a backslash. -/
def hexWidth? (c : Char) : Option Nat :=
  if c == 'x' then some 2 else if c == 'u' then some 4 else if c == 'U' then some 8 else none

def hexDigit (c : Char) : Nat :=
  if c.isDigit then c.toNat - 48 else if c.toNat < 97 then c.toNat - 55 else c.toNat - 87

def hexValue (digits : List Char) : Nat := digits.foldl (fun n c => n * 16 + hexDigit c) 0

/-- The character with a number, if that is one. -/
def charOf (n : Nat) : Except Refused Char :=
  if 0x80000000 ≤ n then .error (.fault .characterTooLarge)
  else if 0x110000 ≤ n then .error (.fault .notACharacter)
  else if 0xd800 ≤ n && n < 0xe000 then .error (.fault (.halfCharacter n))
  else .ok (Char.ofNat n)

def isQuotedStop (c : Char) : Bool := c == '\x27' || c == '\x22' || c == '\\' || isWideGap c

/-- Breaks and blanks between the lines of a quoted scalar. -/
def quotedBreaks : Nat → Cursor → Except Refused (List Char × Cursor)
  | 0, c => .ok ([], c)
  | n + 1, c =>
      if c.isDocumentMarker then .error (.malformed "found unexpected document separator")
      else
        let c := c.skipWhile fun ch => ch == ' ' || ch == '\t'
        if isBreak c.head then do
          let (found, c) := c.lineBreak
          let (more, c) ← quotedBreaks n c
          return (found ++ more, c)
        else .ok ([], c)

/-- White space inside quotes. -/
def quotedSpaces (c : Cursor) : Except Refused (List Char × Cursor) :=
  let (blanks, c) := c.span fun ch => ch == ' ' || ch == '\t'
  if c.rest.isEmpty then .error (.malformed "found unexpected end of stream")
  else if isBreak c.head then do
    let (first, c) := c.lineBreak
    let (more, c) ← quotedBreaks (c.left + 1) c
    return (folded first more, c)
  else .ok (blanks, c)

/-- What an escape stands for; the backslash has been read. -/
def escaped (c : Cursor) : Except Refused (List Char × Cursor) :=
  match escapes.lookup c.head with
  | some ch => .ok ([ch], c.next)
  | none =>
      match hexWidth? c.head with
      | some width =>
          let c := c.next
          let digits := c.rest.take width
          if digits.length = width && digits.all isHexDigit then do
            return ([← charOf (hexValue digits)], c.skip width)
          else .error (.malformed "expected escape sequence of hexadecimal numbers")
      | none =>
          if isBreak c.head then
            let c := c.lineBreak.2
            quotedBreaks (c.left + 1) c
          else .error (.malformed "found unknown escape character")

/-- The text up to white space or the closing quote. -/
def quotedWord (double : Bool) : Nat → Cursor → Except Refused (List Char × Cursor)
  | 0, c => .ok ([], c)
  | n + 1, c =>
      let (word, c) := c.span (!isQuotedStop ·)
      let ch := c.head
      if !double && ch == '\x27' && c.peek 1 == '\x27' then do
        let (more, c) ← quotedWord double n (c.skip 2)
        return (word ++ '\x27' :: more, c)
      else if (double && ch == '\x27') || (!double && (ch == '\x22' || ch == '\\')) then do
        let (more, c) ← quotedWord double n c.next
        return (word ++ ch :: more, c)
      else if double && ch == '\\' then do
        let (found, c) ← escaped c.next
        let (more, c) ← quotedWord double n c
        return (word ++ found ++ more, c)
      else .ok (word, c)

def quotedFrom (double : Bool) (mark : Char) : Nat → Cursor → Except Refused (List Char × Cursor)
  | 0, _ => .error (.malformed "found unexpected end of stream")
  | n + 1, c => do
      let (word, c) ← quotedWord double (c.left + 1) c
      if c.head == mark then return (word, c.next)
      let (spaces, c) ← quotedSpaces c
      let (more, c) ← quotedFrom double mark n c
      return (word ++ spaces ++ more, c)

/-- A scalar between quotes, from its opening quote on. -/
def quoted (c : Cursor) : Except Refused (List Char × Cursor) :=
  let mark := c.head
  quotedFrom (mark == '\x22') mark (c.left + 1) c.next

/- Block scalars -/

/-- What becomes of the line breaks at the end of a block scalar. -/
inductive Chomping where
  | strip
  | clip
  | keep
  deriving DecidableEq, Repr

structure Header where
  chomping : Chomping
  increment : Option Nat

def readChomping? (c : Char) : Option Chomping :=
  if c == '+' then some .keep else if c == '-' then some .strip else none

/-- The indentation indicator, if there is one. -/
def readIncrement (c : Cursor) : Except Refused (Option Nat × Cursor) :=
  if c.head == '0' then .error (.malformed "expected indentation indicator in the range 1-9")
  else if c.head.isDigit then .ok (some (c.head.toNat - 48), c.next)
  else .ok (none, c)

/-- The indicators of a block scalar, in either order. -/
def header (c : Cursor) : Except Refused (Header × Cursor) := do
  let (found, c) ←
    match readChomping? c.head with
    | some chomping => do
        let (increment, c) ← readIncrement c.next
        pure (⟨chomping, increment⟩, c)
    | none => do
        let (increment, c) ← readIncrement c
        match increment, readChomping? c.head with
        | some _, some chomping => pure (⟨chomping, increment⟩, c.next)
        | _, _ => pure ((⟨.clip, increment⟩ : Header), c)
  if isGap c.head then return (found, c)
  else .error (.malformed "expected chomping or indentation indicators")

/-- Empty lines at the start of a block scalar, with the greatest column that spaces reach. -/
def leadingBreaks : Nat → Nat → Cursor → List Char × Nat × Cursor
  | 0, widest, c => ([], widest, c)
  | n + 1, widest, c =>
      if c.head == ' ' then leadingBreaks n (max widest c.next.column) c.next
      else if isBreak c.head then
        let (found, c) := c.lineBreak
        let (more, widest, c) := leadingBreaks n widest c
        (found ++ more, widest, c)
      else ([], widest, c)

/-- Spaces up to the column of the block. -/
def indentTo (indent : Nat) (c : Cursor) : Cursor :=
  (c.spanUpTo (· == ' ') (indent - c.column)).2

/-- Empty lines inside a block scalar. -/
def innerBreaks (indent : Nat) : Nat → Cursor → List Char × Cursor
  | 0, c => ([], c)
  | n + 1, c =>
      let c := indentTo indent c
      if isBreak c.head then
        let (found, c) := c.lineBreak
        let (more, c) := innerBreaks indent n c
        (found ++ more, c)
      else ([], c)

/-- The lines of a block scalar from the start of one on, with the last line break and the empty
lines after it. -/
def blockLines (fold : Bool) (indent : Nat) :
    Nat → Cursor → List Char × List Char × List Char × Cursor
  | 0, c => ([], [], [], c)
  | n + 1, c =>
      let starts := c.head != ' ' && c.head != '\t'
      let (line, c) := c.span (!isBreakOrStop ·)
      let (last, c) := c.lineBreak
      let (breaks, c) := innerBreaks indent (c.left + 1) c
      if c.column = indent && !c.rest.isEmpty then
        let flows := fold && last == ['\n'] && starts && c.head != ' ' && c.head != '\t'
        let between := if !flows then last else if breaks.isEmpty then [' '] else []
        let (more, final, trailing, c) := blockLines fold indent n c
        (line ++ between ++ breaks ++ more, final, trailing, c)
      else (line, last, breaks, c)

/-- A block scalar, from its indicator on. `parent` is the column of the block it stands in. -/
def block (parent : Int) (c : Cursor) : Except Refused (List Char × Cursor) := do
  let fold := c.head == '>'
  let (found, c) ← header c.next
  let c ← c.restOfLine
  let least := (max (parent + 1) 1).toNat
  let (leading, indent, c) :=
    match found.increment with
    | none =>
        let (breaks, widest, c) := leadingBreaks (c.left + 1) 0 c
        (breaks, max least widest, c)
    | some increment =>
        let indent := least + increment - 1
        let (breaks, c) := innerBreaks indent (c.left + 1) c
        (breaks, indent, c)
  let (text, last, trailing, c) :=
    if c.column = indent && !c.rest.isEmpty then
      let (text, last, trailing, c) := blockLines fold indent (c.left + 1) c
      (leading ++ text, last, trailing, c)
    else ([], [], leading, c)
  match found.chomping with
  | .strip => return (text, c)
  | .clip => return (text ++ last, c)
  | .keep => return (text ++ last ++ trailing, c)

end WatchTrial.Yaml.Scalar
