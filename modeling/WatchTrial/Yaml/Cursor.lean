import WatchTrial.Fault

set_option autoImplicit false

namespace WatchTrial.Yaml

/-- Why a text is no YAML document: it is malformed, or a value in it cannot be made. -/
inductive Refused where
  | malformed (what : String)
  | fault (f : Fault)
  deriving DecidableEq, Repr

/-- Characters that a document may hold. -/
def isPermitted (c : Char) : Bool :=
  c.toNat == 9 || c.toNat == 10 || c.toNat == 13 || (0x20 ≤ c.toNat && c.toNat ≤ 0x7e) ||
    c.toNat == 0x85 || (0xa0 ≤ c.toNat && c.toNat ≤ 0xfffd) || 0x10000 ≤ c.toNat

def isBreak (c : Char) : Bool :=
  c == '\r' || c == '\n' || c == '\u0085' || c == '\u2028' || c == '\u2029'

/-- The mark for the end of the text; no document holds it. -/
def stop : Char := '\x00'

def isBreakOrStop (c : Char) : Bool := c == stop || isBreak c

/-- A space, a line break or the end. -/
def isGap (c : Char) : Bool := c == ' ' || isBreakOrStop c

/-- A space, a tab, a line break or the end. -/
def isWideGap (c : Char) : Bool := c == '\t' || isGap c

def isWordChar (c : Char) : Bool := c.isAlphanum || c == '-' || c == '_'

def isHexDigit (c : Char) : Bool := c.isDigit || ('a' ≤ c && c ≤ 'f') || ('A' ≤ c && c ≤ 'F')

def isOneOf (text : String) (c : Char) : Bool := text.toList.contains c

structure Cursor where
  rest : List Char
  /-- How many characters the whole text has. -/
  size : Nat
  index : Nat := 0
  line : Nat := 0
  column : Nat := 0
  deriving Repr

namespace Cursor

/-- The character a number of places ahead. -/
def peek (c : Cursor) (ahead : Nat) : Char := c.rest.getD ahead stop

def head (c : Cursor) : Char := c.rest.headD stop

/-- The start of a text. -/
def ofText (text : List Char) : Cursor := { rest := text, size := text.length }

/-- How many characters are left. -/
def left (c : Cursor) : Nat := c.size - c.index

/-- One character on. A byte order mark takes no column. -/
def next (c : Cursor) : Cursor :=
  match c.rest with
  | [] => c
  | ch :: rest =>
      if isBreak ch && !(ch == '\r' && rest.head? == some '\n') then
        { c with rest, index := c.index + 1, line := c.line + 1, column := 0 }
      else
        let column := if ch == '\ufeff' then c.column else c.column + 1
        { c with rest, index := c.index + 1, column }

def skip : Nat → Cursor → Cursor
  | 0, c => c
  | n + 1, c => skip n c.next

/-- The characters of a class from here on, at most the given number of them. -/
def spanUpTo (p : Char → Bool) : Nat → Cursor → List Char × Cursor
  | 0, c => ([], c)
  | n + 1, c =>
      match c.rest with
      | [] => ([], c)
      | ch :: _ =>
          if p ch then
            let (taken, after) := spanUpTo p n c.next
            (ch :: taken, after)
          else ([], c)

def span (p : Char → Bool) (c : Cursor) : List Char × Cursor := c.spanUpTo p c.left

def skipWhile (p : Char → Bool) (c : Cursor) : Cursor := (c.span p).2

/-- A line break, if one stands here, in the form it takes in a value. -/
def lineBreak (c : Cursor) : List Char × Cursor :=
  if c.head == '\r' || c.head == '\n' || c.head == '\u0085' then
    (['\n'], if c.head == '\r' && c.peek 1 == '\n' then c.skip 2 else c.next)
  else if c.head == '\u2028' || c.head == '\u2029' then ([c.head], c.next)
  else ([], c)

/-- Past blanks, a comment and the rest of the line, which holds nothing else. -/
def restOfLine (c : Cursor) : Except Refused Cursor :=
  let c := c.skipWhile (· == ' ')
  let c := if c.head == '#' then c.skipWhile (!isBreakOrStop ·) else c
  if isBreakOrStop c.head then .ok c.lineBreak.2
  else .error (.malformed "expected a comment or a line break")

/-- Whether a document marker, three of the given character, stands here. -/
def isMarker (mark : Char) (c : Cursor) : Bool :=
  c.head == mark && c.peek 1 == mark && c.peek 2 == mark && isWideGap (c.peek 3)

def isDocumentMarker (c : Cursor) : Bool := c.isMarker '-' || c.isMarker '.'

end Cursor

end WatchTrial.Yaml
