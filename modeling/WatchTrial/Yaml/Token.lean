import WatchTrial.Text.Numeral
import WatchTrial.Yaml.Scalar

set_option autoImplicit false

/- Tokens of a YAML text. Indentation opens and closes blocks; a colon makes the token at which a
simple key could have started the key of a mapping. -/

namespace WatchTrial.Yaml

inductive Directive where
  | version (major : Nat)
  | tag (handle lead : List Char)
  | other
  deriving DecidableEq, Repr

inductive Token where
  | directive (d : Directive)
  | documentStart
  | documentEnd
  | streamEnd
  | blockSequenceStart
  | blockMappingStart
  | blockEnd
  | flowSequenceStart
  | flowSequenceEnd
  | flowMappingStart
  | flowMappingEnd
  | blockEntry
  | flowEntry
  | key
  | value
  | reference (name : List Char)
  | anchor (name : List Char)
  | tag (handle : Option (List Char)) (suffix : List Char)
  | scalar (text : List Char) (plain : Bool)
  deriving DecidableEq, Repr

/-- A place at which a simple key may have started. -/
structure KeyStart where
  /-- How many tokens come before it. -/
  position : Nat
  /-- Whether nothing but a key can stand there. -/
  required : Bool
  index : Nat
  line : Nat
  column : Nat

structure Lexer where
  cursor : Cursor
  /-- The tokens so far, the last one first. -/
  tokens : List Token := []
  /-- How many tokens there are so far. -/
  count : Nat := 0
  /-- How many flow collections are open. -/
  flow : Nat := 0
  /-- The column of the open block, -1 outside of all. -/
  indent : Int := -1
  outer : List Int := []
  keyAllowed : Bool := true
  /-- The possible key of each level of flow collections. -/
  keys : List (Nat × KeyStart) := []
  finished : Bool := false

namespace Lexer

abbrev Step := Except Refused Lexer

def emit (t : Token) (s : Lexer) : Lexer :=
  { s with tokens := t :: s.tokens, count := s.count + 1 }

/-- Puts a token behind the first so many. -/
def insertAt (position : Nat) (t : Token) (s : Lexer) : Lexer :=
  { s with tokens := s.tokens.insertIdx (s.count - position) t, count := s.count + 1 }

def moveTo (c : Cursor) (s : Lexer) : Lexer := { s with cursor := c }

def allowKey (allowed : Bool) (s : Lexer) : Lexer := { s with keyAllowed := allowed }

def inFlow (s : Lexer) : Bool := s.flow != 0

/-- Forgets the possible key of this level; one that is required must have been followed by a
colon. -/
def dropKey (s : Lexer) : Step :=
  match s.keys.lookup s.flow with
  | some start =>
      if start.required then .error (.malformed "could not find expected ':'")
      else .ok { s with keys := s.keys.filter (·.1 != s.flow) }
  | none => .ok s

/-- The longest simple key. -/
def maxKey : Nat := 1024

/-- Whether a possible key is on an earlier line or too far back. -/
def isStale (s : Lexer) (start : KeyStart) : Bool :=
  start.line != s.cursor.line || maxKey < s.cursor.index - start.index

/-- Forgets the possible keys that are stale. -/
def dropStaleKeys (s : Lexer) : Step :=
  if s.keys.any fun k => s.isStale k.2 && k.2.required then
    .error (.malformed "could not find expected ':'")
  else .ok { s with keys := s.keys.filter fun k => !s.isStale k.2 }

/-- Notes that a simple key may start here. -/
def noteKey (s : Lexer) : Step := do
  if !s.keyAllowed then return s
  let required := !s.inFlow && s.indent == (s.cursor.column : Int)
  let s ← s.dropKey
  let start : KeyStart :=
    ⟨s.count, required, s.cursor.index, s.cursor.line, s.cursor.column⟩
  return { s with keys := (s.flow, start) :: s.keys }

/-- Closes the blocks that are indented further than a column. -/
def closeBlocks (column : Int) : List Int → Lexer → Lexer
  | [], s => s
  | indent :: outer, s =>
      if column < s.indent then
        closeBlocks column outer (emit .blockEnd { s with indent, outer })
      else s

def unwind (column : Int) (s : Lexer) : Lexer :=
  if s.inFlow then s else closeBlocks column s.outer s

/-- Opens a block at a column if it is further in than the open one. -/
def openBlock (column : Nat) (opening : Token) (position : Nat) (s : Lexer) : Lexer :=
  if s.indent < (column : Int) then
    { s with outer := s.indent :: s.outer, indent := column }.insertAt position opening
  else s

/-- Past spaces, comments and line breaks. A line break outside of flow collections allows a simple
key. -/
def skipGaps : Nat → Lexer → Lexer
  | 0, s => s
  | n + 1, s =>
      let c := s.cursor.skipWhile (· == ' ')
      let c := if c.head == '#' then c.skipWhile (!isBreakOrStop ·) else c
      if isBreak c.head then
        skipGaps n ((s.moveTo c.lineBreak.2).allowKey (s.keyAllowed || !s.inFlow))
      else s.moveTo c

/- Directives -/

def directiveName (c : Cursor) : Except Refused (List Char × Cursor) :=
  let (name, c) := c.span isWordChar
  if name.isEmpty then .error (.malformed "expected alphabetic or numeric character")
  else if isGap c.head then .ok (name, c)
  else .error (.malformed "expected alphabetic or numeric character")

def versionNumber (c : Cursor) : Except Refused (Nat × Cursor) :=
  let (digits, c) := c.span Char.isDigit
  if digits.isEmpty then .error (.malformed "expected a digit")
  else if Text.maxDigits < digits.length then .error (.fault (.numeralTooLong digits.length))
  else .ok (digits.foldl (fun n d => n * 10 + (d.toNat - 48)) 0, c)

def versionValue (c : Cursor) : Except Refused (Directive × Cursor) := do
  let (major, c) ← versionNumber (c.skipWhile (· == ' '))
  if c.head != '.' then .error (.malformed "expected a digit or '.'")
  let (_, c) ← versionNumber c.next
  if isGap c.head then return (.version major, c)
  else .error (.malformed "expected a digit or ' '")

/-- A tag handle: `!`, `!!`, or a word between exclamation marks. -/
def tagHandle (c : Cursor) : Except Refused (List Char × Cursor) :=
  if c.head != '!' then .error (.malformed "expected '!'")
  else if c.peek 1 == ' ' then .ok (['!'], c.next)
  else
    let (word, c) := c.next.span isWordChar
    if c.head == '!' then .ok ('!' :: word ++ ['!'], c.next)
    else .error (.malformed "expected '!'")

def isUriChar (c : Char) : Bool := c.isAlphanum || isOneOf "-;/?:@&=+$,_.!~*\x27()[]" c

/-- The octets of a run of percent escapes. -/
def uriOctets : Nat → Cursor → Except Refused (Octets × Cursor)
  | 0, c => .ok ([], c)
  | n + 1, c =>
      if c.head == '%' then do
        let digits := c.next.rest.take 2
        if digits.length = 2 && digits.all isHexDigit then
          let (more, c) ← uriOctets n (c.skip 3)
          return (.ofNat (Scalar.hexValue digits) :: more, c)
        else .error (.malformed "expected URI escape sequence of 2 hexadecimal numbers")
      else .ok ([], c)

def uriFrom : Nat → Cursor → Except Refused (List Char × Cursor)
  | 0, c => .ok ([], c)
  | n + 1, c =>
      let (word, c) := c.span isUriChar
      if c.head == '%' then do
        let (octets, c) ← uriOctets (c.left + 1) c
        match Text.Utf8.decode octets with
        | .error _ => .error (.malformed "an escaped octet string is not UTF-8")
        | .ok text =>
            let (more, c) ← uriFrom n c
            return (word ++ text ++ more, c)
      else .ok (word, c)

def tagUri (c : Cursor) : Except Refused (List Char × Cursor) := do
  let (uri, after) ← uriFrom (c.left + 1) c
  if after.index = c.index then .error (.malformed "expected URI")
  else return (uri, after)

def tagValue (c : Cursor) : Except Refused (Directive × Cursor) := do
  let (handle, c) ← tagHandle (c.skipWhile (· == ' '))
  if c.head != ' ' then .error (.malformed "expected ' '")
  let (lead, c) ← tagUri (c.skipWhile (· == ' '))
  if isGap c.head then return (.tag handle lead, c)
  else .error (.malformed "expected ' '")

def readDirective (c : Cursor) : Except Refused (Directive × Cursor) := do
  let (name, c) ← directiveName c.next
  let (found, c) ←
    if name == "YAML".toList then versionValue c
    else if name == "TAG".toList then tagValue c
    else pure (.other, c.skipWhile (!isBreakOrStop ·))
  return (found, ← c.restOfLine)

/- Properties of nodes -/

def anchorName (c : Cursor) : Except Refused (List Char × Cursor) :=
  let (name, c) := c.next.span isWordChar
  if name.isEmpty then .error (.malformed "expected alphabetic or numeric character")
  else if isWideGap c.head || isOneOf "?:,]\x7d%@\x60" c.head then .ok (name, c)
  else .error (.malformed "expected alphabetic or numeric character")

/-- Whether a tag has an exclamation mark after its first one. -/
def hasHandle (c : Cursor) : Bool := (c.next.skipWhile fun ch => !isGap ch && ch != '!').head == '!'

def readTag (c : Cursor) : Except Refused (Token × Cursor) := do
  let (found, c) ←
    if c.peek 1 == '<' then do
      let (suffix, c) ← tagUri (c.skip 2)
      if c.head != '>' then .error (.malformed "expected '>'")
      pure (Token.tag none suffix, c.next)
    else if isWideGap (c.peek 1) then pure (Token.tag none ['!'], c.next)
    else do
      let (handle, c) ← if hasHandle c then tagHandle c else pure (['!'], c.next)
      let (suffix, c) ← tagUri c
      pure (Token.tag (some handle) suffix, c)
  if isGap c.head then return (found, c)
  else .error (.malformed "expected ' '")

/- One token after another -/

/-- Ends all blocks before a directive, a document marker or the end. -/
def endBlocks (s : Lexer) : Step := do
  let s ← (s.unwind (-1)).dropKey
  return s.allowKey false

def lexFlowStart (t : Token) (s : Lexer) : Step := do
  let s ← s.noteKey
  return ({ s with flow := s.flow + 1, cursor := s.cursor.next }.allowKey true).emit t

def lexFlowEnd (t : Token) (s : Lexer) : Step := do
  if !s.inFlow then .error (.malformed "no flow collection is open")
  let s ← s.dropKey
  return ({ s with flow := s.flow - 1, cursor := s.cursor.next }.allowKey false).emit t

def lexFlowEntry (s : Lexer) : Step := do
  let s ← (s.allowKey true).dropKey
  return (s.moveTo s.cursor.next).emit .flowEntry

/-- Opens a block here, where one may start, unless in a flow collection. -/
def startBlock (opening : Token) (s : Lexer) : Step :=
  if s.inFlow then .ok s
  else if s.keyAllowed then .ok (s.openBlock s.cursor.column opening s.count)
  else .error (.malformed "a block entry, key or value is not allowed here")

def lexBlockEntry (s : Lexer) : Step := do
  let s ← s.startBlock .blockSequenceStart
  let s ← (s.allowKey true).dropKey
  return (s.moveTo s.cursor.next).emit .blockEntry

def lexKey (s : Lexer) : Step := do
  let s ← s.startBlock .blockMappingStart
  let s ← (s.allowKey (!s.inFlow)).dropKey
  return (s.moveTo s.cursor.next).emit .key

def lexValue (s : Lexer) : Step := do
  match s.keys.lookup s.flow with
  | some start =>
      let s := { s with keys := s.keys.filter (·.1 != s.flow) }.insertAt start.position .key
      let s := if s.inFlow then s else s.openBlock start.column .blockMappingStart start.position
      return ((s.allowKey false).moveTo s.cursor.next).emit .value
  | none =>
      let s ← s.startBlock .blockMappingStart
      let s ← (s.allowKey (!s.inFlow)).dropKey
      return (s.moveTo s.cursor.next).emit .value

def lexDocumentMarker (t : Token) (s : Lexer) : Step := do
  let s ← s.endBlocks
  return (s.moveTo (s.cursor.skip 3)).emit t

def lexDirective (s : Lexer) : Step := do
  let s ← s.endBlocks
  let (found, c) ← readDirective s.cursor
  return (s.moveTo c).emit (.directive found)

/-- A token that may start a simple key. -/
def lexNode (read : Cursor → Except Refused (Token × Cursor)) (s : Lexer) : Step := do
  let s ← s.noteKey
  let (t, c) ← read s.cursor
  return ((s.moveTo c).allowKey false).emit t

def lexBlockScalar (s : Lexer) : Step := do
  let s ← (s.allowKey true).dropKey
  let (text, c) ← Scalar.block s.indent s.cursor
  return (s.moveTo c).emit (.scalar text false)

def lexPlain (s : Lexer) : Step := do
  let s ← s.noteKey
  let found := Scalar.plain s.inFlow (s.indent + 1) s.cursor
  return ((s.moveTo found.after).allowKey found.brokeLine).emit (.scalar found.text true)

def lexEnd (s : Lexer) : Step := do
  let s ← s.endBlocks
  return { s with keys := [], finished := true }.emit .streamEnd

/-- Whether a plain scalar can start here. -/
def startsPlain (s : Lexer) : Bool :=
  let ch := s.cursor.head
  !(isWideGap ch || isOneOf "-?:,[]\x7b\x7d#&*!|>\x27\x22%@\x60" ch) ||
    (!isWideGap (s.cursor.peek 1) && (ch == '-' || (!s.inFlow && (ch == '?' || ch == ':'))))

/-- The token at the cursor, with the tokens that go with it. -/
def lexHere (s : Lexer) : Step :=
  let c := s.cursor
  let before := isWideGap (c.peek 1)
  if c.rest.isEmpty then s.lexEnd
  else if c.head == '%' && c.column == 0 then s.lexDirective
  else if c.column == 0 && c.isMarker '-' then s.lexDocumentMarker .documentStart
  else if c.column == 0 && c.isMarker '.' then s.lexDocumentMarker .documentEnd
  else if c.head == '[' then s.lexFlowStart .flowSequenceStart
  else if c.head == '\x7b' then s.lexFlowStart .flowMappingStart
  else if c.head == ']' then s.lexFlowEnd .flowSequenceEnd
  else if c.head == '\x7d' then s.lexFlowEnd .flowMappingEnd
  else if c.head == ',' then s.lexFlowEntry
  else if c.head == '-' && before then s.lexBlockEntry
  else if c.head == '?' && (s.inFlow || before) then s.lexKey
  else if c.head == ':' && (s.inFlow || before) then s.lexValue
  else if c.head == '*' then s.lexNode fun c => do
    let (name, c) ← anchorName c
    return (.reference name, c)
  else if c.head == '&' then s.lexNode fun c => do
    let (name, c) ← anchorName c
    return (.anchor name, c)
  else if c.head == '!' then s.lexNode readTag
  else if (c.head == '|' || c.head == '>') && !s.inFlow then s.lexBlockScalar
  else if c.head == '\x27' || c.head == '\x22' then s.lexNode fun c => do
    let (text, c) ← Scalar.quoted c
    return (.scalar text false, c)
  else if s.startsPlain then s.lexPlain
  else .error (.malformed "found a character that cannot start any token")

def lexNext (s : Lexer) : Step := do
  let s := s.skipGaps (s.cursor.left + 1)
  let s ← s.dropStaleKeys
  (s.unwind s.cursor.column).lexHere

/-- How many tokens are settled: no key can be put before them any more. -/
def settled (s : Lexer) : Nat :=
  (s.keys.filter fun k => !s.isStale k.2).foldl (fun least k => min least k.2.position)
    s.count

/-- All tokens; if one cannot be read, those that are settled before it. -/
def lexAll : Nat → Lexer → List Token × Option Refused
  | 0, s => (s.tokens.reverse, some (.malformed "no token can be read"))
  | n + 1, s =>
      if s.finished then (s.tokens.reverse, none)
      else
        match s.lexNext with
        | .ok s => lexAll n s
        | .error refused => (s.tokens.reverse.take s.settled, some refused)

end Lexer

/-- The tokens of a text, and what stopped reading them before the end. -/
def tokens (text : List Char) : List Token × Option Refused :=
  if text.all isPermitted then
    let start := Cursor.ofText text
    let start := if start.head == '\ufeff' then start.next else start
    Lexer.lexAll (text.length + 2) { cursor := start }
  else ([], some (.malformed "special characters are not allowed"))

end WatchTrial.Yaml
