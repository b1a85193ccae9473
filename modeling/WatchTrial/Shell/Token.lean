set_option autoImplicit false

/- Tokens of a shell script. A word is a list of parts, which keep whether they were quoted. What
stands inside a substitution is kept as text and read when the word is expanded. -/

namespace WatchTrial.Shell

/-- What the value of a parameter is replaced by. -/
inductive Operation where
  | length
  /-- The word, if the parameter is not set; with the flag also if it is empty. -/
  | orElse (empty : Bool)
  /-- As `orElse`, and the parameter is set to the word. -/
  | orAssign (empty : Bool)
  /-- The word, if the parameter is set; with the flag only if it is not empty. -/
  | instead (empty : Bool)
  /-- As `orElse`, but the word is a complaint that ends the shell. -/
  | orFail (empty : Bool)
  /-- The value without what matches the word at its start. -/
  | cutFront (longest : Bool)
  /-- The value without what matches the word at its end. -/
  | cutBack (longest : Bool)
  deriving DecidableEq, Repr

/-- Whether the word is a pattern, which quotes around it leave as it is. -/
def Operation.isCut : Operation → Bool
  | .cutFront _ | .cutBack _ => true
  | _ => false

/-- One part of a word. -/
inductive Part where
  | text (chars : List Char) (quoted : Bool)
  | parameter (name : List Char) (quoted : Bool)
  | replaced (name : List Char) (operation : Operation) (word : List Char) (quoted : Bool)
  | command (script : List Char) (quoted : Bool)
  | arithmetic (expression : List Char) (quoted : Bool)
  deriving DecidableEq, Repr

abbrev Word := List Part

/-- What a redirection does with the file or the channel it names. -/
inductive Direction where
  | create
  | append
  | duplicate
  | input
  | duplicateInput
  /-- What is read is given with the script. -/
  | document
  deriving DecidableEq, Repr

inductive Token where
  | word (w : Word)
  | operator (text : String)
  | redirect (channel : Nat) (direction : Direction)
  | newline
  /-- The end of the script. -/
  | finish
  /-- From here on the script cannot be read. -/
  | trouble (what : String)
  deriving DecidableEq, Repr

/-- Why a script cannot be read, and on which line. -/
structure Misread where
  line : Nat
  what : String
  deriving DecidableEq, Repr

namespace Token

def isNameStart (c : Char) : Bool := c.isAlpha || c == '_'

def isNameChar (c : Char) : Bool := c.isAlphanum || c == '_'

/-- Characters that end a word. -/
def isBoundary (c : Char) : Bool := " \t\n;&|<>()".toList.contains c

/-- Parameters with a name of one special character. -/
def isSpecial (c : Char) : Bool := "@*#?$!-".toList.contains c || c.isDigit

/-- A text up to a closing character, and what follows that. Quotes and substitutions inside are
passed over. The flag says whether double quotes are open. -/
def untilClosed (close : Char) : Nat → Bool → List Char → Option (List Char × List Char)
  | 0, _, _ => none
  | _ + 1, _, [] => none
  | n + 1, double, c :: rest =>
      let go (double : Bool) (taken : List Char) (text : List Char) :
          Option (List Char × List Char) :=
        (untilClosed close n double text).map fun (inner, after) => (taken ++ inner, after)
      let nested (taken : List Char) (inside : Char) (text : List Char) :
          Option (List Char × List Char) :=
        match untilClosed inside n false text with
        | some (inner, after) => go double (taken ++ inner ++ [inside]) after
        | none => none
      match c, rest with
      | '\\', d :: after => go double ['\\', d] after
      | '\x22', _ => go (!double) [c] rest
      | '\x60', _ =>
          let inner := rest.takeWhile (· != '\x60')
          go double ('\x60' :: inner ++ ['\x60']) (rest.drop (inner.length + 1))
      | '$', '(' :: after => nested ['$', '('] ')' after
      | '$', '{' :: after => nested ['$', '{'] '}' after
      | '\x27', _ =>
          if double then go double [c] rest
          else
            let inner := rest.takeWhile (· != '\x27')
            go double ('\x27' :: inner ++ ['\x27']) (rest.drop (inner.length + 1))
      | _, _ =>
          if double then go double [c] rest
          else if c == close then some ([], rest)
          else if c == '(' && close == ')' then nested ['('] ')' rest
          else go double [c] rest

/-- A text up to the parenthesis that closes it, and what follows. -/
def balanced (text : List Char) : Option (List Char × List Char) :=
  untilClosed ')' (text.length + 1) false text

/-- The expression between double parentheses. -/
def doubled? (inner : List Char) : Option (List Char) :=
  match inner with
  | '(' :: rest =>
      match balanced rest with
      | some (expression, []) => some expression
      | _ => none
  | _ => none

/-- The operation after the name of a parameter, and its word. -/
def operation? (text : List Char) : Option (Operation × List Char) :=
  match text with
  | ':' :: '-' :: own => some (.orElse true, own)
  | '-' :: own => some (.orElse false, own)
  | ':' :: '=' :: own => some (.orAssign true, own)
  | '=' :: own => some (.orAssign false, own)
  | ':' :: '+' :: own => some (.instead true, own)
  | '+' :: own => some (.instead false, own)
  | ':' :: '?' :: own => some (.orFail true, own)
  | '?' :: own => some (.orFail false, own)
  | '%' :: '%' :: own => some (.cutBack true, own)
  | '%' :: own => some (.cutBack false, own)
  | '#' :: '#' :: own => some (.cutFront true, own)
  | '#' :: own => some (.cutFront false, own)
  | _ => none

/-- The name of a parameter at the start of a text, and what follows it. -/
def parameterName (text : List Char) : Option (List Char × List Char) :=
  match text with
  | c :: rest =>
      if isNameStart c then some (text.takeWhile isNameChar, text.dropWhile isNameChar)
      else if c.isDigit then some (text.takeWhile Char.isDigit, text.dropWhile Char.isDigit)
      else if isSpecial c then some ([c], rest)
      else none
  | [] => none

/-- The part that stands between braces. -/
def braced (quoted : Bool) (inner : List Char) : Option Part :=
  match inner with
  | '#' :: c :: rest =>
      match parameterName (c :: rest) with
      | some (name, []) => some (.replaced name .length [] quoted)
      | _ => plain
  | _ => plain
where
  plain : Option Part :=
    match parameterName inner with
    | some (name, []) => some (.parameter name quoted)
    | some (name, rest) => (operation? rest).map fun (o, own) => .replaced name o own quoted
    | none => none

/-- What may stand in front of a character that a backslash keeps as it is between backquotes. -/
def isBackquotable (double : Bool) (c : Char) : Bool :=
  c == '$' || c == '\x60' || c == '\\' || (double && c == '\x22')

/-- A script between backquotes, without the backslashes that only the quotes need, and what
follows. -/
def backquoted (double : Bool) : List Char → Option (List Char × List Char)
  | [] => none
  | '\x60' :: rest => some ([], rest)
  | '\\' :: c :: rest =>
      (backquoted double rest).map fun (inner, after) =>
        (if isBackquotable double c then c :: inner else '\\' :: c :: inner, after)
  | c :: rest => (backquoted double rest).map fun (inner, after) => (c :: inner, after)

/-- The part that starts with a dollar sign, which has been read; `none` if there is no such part
in this shell. -/
def dollar (quoted : Bool) (text : List Char) : Option (Part × List Char) :=
  match text with
  | '(' :: rest =>
      (balanced rest).map fun (inner, after) =>
        match doubled? inner with
        | some expression => (.arithmetic expression quoted, after)
        | none => (.command inner quoted, after)
  | '{' :: rest => do
      let (inner, after) ← untilClosed '}' (rest.length + 1) false rest
      let part ← braced quoted inner
      return (part, after)
  | c :: rest =>
      if isNameStart c then
        some (.parameter (c :: rest.takeWhile isNameChar) quoted, rest.dropWhile isNameChar)
      else if isSpecial c then some (.parameter [c] quoted, rest)
      else some (.text ['$'] quoted, text)
  | [] => some (.text ['$'] quoted, [])

/-- What a backslash keeps as it is between double quotes. -/
def isEscapable (c : Char) : Bool := "$\x60\x22\\".toList.contains c

def unterminated : String := "Syntax error: Unterminated quoted string"

/-- Why a text that starts with a dollar sign is no substitution. -/
def unsupported (text : List Char) : String :=
  match text with
  | '(' :: _ => "Syntax error: end of file unexpected (expecting \x22)\x22)"
  | '{' :: rest =>
      if rest.contains '}' then "Bad substitution" else "Syntax error: Missing \x27\x7d\x27"
  | _ => "Bad substitution"

/-- How a text is read that becomes part of a word. -/
inductive Mode where
  /-- As a word of a script, up to the next boundary. -/
  | bare
  /-- Between double quotes, up to the closing one. -/
  | double
  /-- As a whole, boundaries being nothing special. -/
  | whole
  /-- As a whole, quotes being nothing special either. -/
  | document
  deriving DecidableEq, Repr

/-- The parts of a text, and what follows it. The first mode is the one around double quotes. -/
def parts : Nat → Mode → Mode → List Char → Except String (Word × List Char)
  | 0, _, _, _ => .error unterminated
  | _ + 1, _, .double, [] => .error unterminated
  | _ + 1, _, _, [] => .ok ([], [])
  | n + 1, outer, mode, c :: rest =>
      let quoted := mode = .double || mode = .document
      let go (part : Part) (after : List Char) : Except String (Word × List Char) := do
        let (more, after) ← parts n outer mode after
        return (part :: more, after)
      let plain (after : List Char) : Except String (Word × List Char) :=
        go (.text [c] quoted) after
      if mode = .bare && isBoundary c then .ok ([], c :: rest)
      else
        match c, rest with
        | '\x22', _ =>
            match mode, rest with
            | .document, _ => plain rest
            | .double, _ => parts n outer outer rest
            -- A pair of quotes with nothing between them is a part all the same.
            | _, '\x22' :: after => go (.text [] true) after
            | _, _ => parts n outer .double rest
        | '\x27', _ =>
            if quoted then plain rest
            else
              match rest.dropWhile (· != '\x27') with
              | _ :: after => go (.text (rest.takeWhile (· != '\x27')) true) after
              | [] => .error unterminated
        | '\\', '\n' :: after => parts n outer mode after
        | '\\', d :: after =>
            if !quoted then go (.text [d] true) after
            else if isEscapable d && !(mode = .document && d == '\x22') then
              go (.text [d] true) after
            else plain rest
        | '$', _ =>
            match dollar quoted rest with
            | none => .error (unsupported rest)
            | some (part, after) => go part after
        | '\x60', _ =>
            match backquoted (mode = .double) rest with
            | none => .error "Syntax error: EOF in backquote substitution"
            | some (script, after) => go (.command script quoted) after
        | _, _ => plain rest

/-- Joins neighbouring texts that were not quoted. -/
def join : Word → Word
  | .text a false :: rest =>
      match join rest with
      | .text b false :: after => .text (a ++ b) false :: after
      | after => .text a false :: after
  | part :: rest => part :: join rest
  | [] => []

/-- The word that a text is as a whole. -/
def wholeWord (mode : Mode) (text : List Char) : Except String Word :=
  (parts (2 * text.length + 3) mode mode text).map fun found => join found.1

def operators : List String := ["&&", "||", ";;", ";", "&", "|", "(", ")"]

/-- The operator that a text starts with. -/
def operator? (text : List Char) : Option (String × List Char) :=
  (operators.find? fun o => o.toList.isPrefixOf text).map fun o => (o, text.drop o.length)

/-- The redirection that a text starts with, with its usual channel. -/
def direction? (text : List Char) : Option (Direction × Nat × List Char) :=
  match text with
  | '>' :: '>' :: rest => some (.append, 1, rest)
  | '>' :: '&' :: rest => some (.duplicate, 1, rest)
  | '>' :: '|' :: rest => some (.create, 1, rest)
  | '>' :: rest => some (.create, 1, rest)
  | '<' :: '<' :: rest => some (.document, 0, rest)
  | '<' :: '&' :: rest => some (.duplicateInput, 0, rest)
  | '<' :: rest => some (.input, 0, rest)
  | _ => none

/-- A digit in front of a redirection names its channel. -/
def redirect? (text : List Char) : Option (Direction × Nat × List Char) :=
  match text with
  | c :: rest =>
      if c.isDigit then
        (direction? rest).map fun (d, _, after) => (d, c.toNat - '0'.toNat, after)
      else direction? text
  | [] => none

def lines (text : List Char) : Nat := text.count '\n'

/-- The lines of a document up to the one that ends it, and what follows; `strip` takes the tabs
away at the start of a line. -/
def documentLines (ending : List Char) (strip : Bool) : Nat → List Char → List Char × List Char
  | 0, text => ([], text)
  | n + 1, text =>
      if text.isEmpty then ([], [])
      else
        let line := text.takeWhile (· != '\n')
        let after := text.drop (line.length + 1)
        let line := if strip then line.dropWhile (· == '\t') else line
        if line == ending then ([], after)
        else
          let (more, after) := documentLines ending strip n after
          (line ++ '\n' :: more, after)

/-- A document: the word that its text is, and the script without it. The document starts on the
line after the one on which it is asked for; it is expanded unless its end is quoted. -/
def document (text : List Char) : Except String (Word × List Char) := do
  let strip := text.head? == some '-'
  let text := ((if strip then text.drop 1 else text).dropWhile fun c => c == ' ' || c == '\t')
  let (mark, after) ← parts (2 * text.length + 3) .bare .bare text
  let ending := mark.flatMap fun
    | .text chars _ => chars
    | _ => []
  let isQuoted := mark.any fun
    | .text _ quoted => quoted
    | _ => false
  let sameLine := after.takeWhile (· != '\n')
  let below := after.drop (sameLine.length + 1)
  let (body, rest) := documentLines ending strip (below.length + 1) below
  let found ← if isQuoted then pure [.text body true] else wholeWord .document body
  -- An empty document is a word all the same.
  return (if found.isEmpty then [.text [] true] else found, sameLine ++ '\n' :: rest)

/-- The tokens of a text whose first line has the given number, each with its line. -/
def read : Nat → Nat → List Char → List (Nat × Token)
  | 0, line, _ => [(line, .finish)]
  | _ + 1, line, [] => [(line, .finish)]
  | n + 1, line, c :: rest =>
      if c == ' ' || c == '\t' then read n line rest
      else if c == '\\' && rest.head? == some '\n' then read n (line + 1) rest.tail
      else if c == '\n' then (line, .newline) :: read n (line + 1) rest
      else if c == '#' then read n line (rest.dropWhile (· != '\n'))
      else
        match redirect? (c :: rest), operator? (c :: rest) with
        | some (.document, channel, after), _ =>
            match document after with
            | .error what => [(line, .trouble what)]
            | .ok (body, after) =>
                (line, .redirect channel .document) :: (line, .word body) :: read n line after
        | some (direction, channel, after), _ =>
            (line, .redirect channel direction) :: read n line after
        | none, some (text, after) => (line, .operator text) :: read n line after
        | none, none =>
            match parts (2 * rest.length + 3) .bare .bare (c :: rest) with
            | .error what => [(line, .trouble what)]
            | .ok (found, after) =>
                let passed := lines (c :: rest) - lines after
                (line, .word (join found)) :: read n (line + passed) after

def ofText (text : List Char) : List (Nat × Token) := read (text.length + 1) 1 text

end Token

end WatchTrial.Shell
