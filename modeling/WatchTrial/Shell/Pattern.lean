import WatchTrial.Tree.Walk

set_option autoImplicit false

namespace WatchTrial.Shell

/-- A character, and whether it was quoted. -/
structure Glyph where
  char : Char
  quoted : Bool
  deriving DecidableEq, Repr

namespace Pattern

inductive Atom where
  | star
  | any
  | char (c : Char)
  /-- A character in one of the ranges, or in none of them. -/
  | within (negated : Bool) (ranges : List (Char × Char))
  deriving DecidableEq, Repr

/-- Classes of characters with a name. -/
def classes : List (String × List (Char × Char)) :=
  [("alpha", [('a', 'z'), ('A', 'Z')]), ("digit", [('0', '9')]),
    ("alnum", [('a', 'z'), ('A', 'Z'), ('0', '9')]), ("lower", [('a', 'z')]),
    ("upper", [('A', 'Z')]), ("space", [(' ', ' '), ('\t', '\r')])]

/-- The ranges up to a closing bracket, and what follows it. The flag tells whether this is the
first of them, at which a bracket is a character like any other. -/
def ranges : Nat → Bool → List Glyph → Option (List (Char × Char) × List Glyph)
  | 0, _, _ => none
  | _ + 1, _, [] => none
  | n + 1, first, g :: rest =>
      if g.char == ']' && !g.quoted && !first then some ([], rest)
      else
        match g.char, rest with
        | '[', ⟨':', false⟩ :: after =>
            let name := (after.takeWhile (·.char != ':')).map (·.char)
            match classes.lookup (String.ofList name) with
            | some found =>
                (ranges n false (after.drop (name.length + 2))).map fun (more, rest) =>
                  (found ++ more, rest)
            | none => none
        | c, ⟨'-', false⟩ :: last :: after =>
            if last.char == ']' && !last.quoted then
              (ranges n false rest).map fun (more, rest) => ((c, c) :: more, rest)
            else (ranges n false after).map fun (more, rest) => ((c, last.char) :: more, rest)
        | c, _ => (ranges n false rest).map fun (more, rest) => ((c, c) :: more, rest)

/-- The pattern that glyphs write. -/
def read : Nat → List Glyph → List Atom
  | 0, _ => []
  | _ + 1, [] => []
  | n + 1, g :: rest =>
      if g.quoted then .char g.char :: read n rest
      else
        match g.char with
        | '*' => .star :: read n rest
        | '?' => .any :: read n rest
        | '[' =>
            let (negated, inner) :=
              match rest with
              | ⟨'!', false⟩ :: inner | ⟨'^', false⟩ :: inner => (true, inner)
              | _ => (false, rest)
            match ranges (inner.length + 1) true inner with
            | some (found, after) => .within negated found :: read n after
            | none => .char '[' :: read n rest
        | c => .char c :: read n rest

/-- A character as those of its octets, which is how patterns see it. -/
def octetChars (c : Char) : List Char :=
  if c.toNat < 128 then [c] else (Text.Utf8.encodeChar c).map fun b => Char.ofNat b.toNat

def ofGlyphs (glyphs : List Glyph) : List Atom :=
  let found := glyphs.flatMap fun g => (octetChars g.char).map fun c => (⟨c, g.quoted⟩ : Glyph)
  read (found.length + 1) found

/-- Whether glyphs hold a character that is more than itself. -/
def isPattern (glyphs : List Glyph) : Bool :=
  glyphs.any fun g => !g.quoted && "*?[".toList.contains g.char

def Atom.admits (a : Atom) (c : Char) : Bool :=
  match a with
  | .star | .any => true
  | .char d => c == d
  | .within negated found => found.any (fun r => r.1 ≤ c && c ≤ r.2) != negated

/-- Whether a whole text fits a pattern. -/
def fits : List Atom → List Char → Bool
  | [], text => text.isEmpty
  | .star :: rest, text => (List.range (text.length + 1)).any fun n => fits rest (text.drop n)
  | a :: rest, c :: text => a.admits c && fits rest text
  | _ :: _, [] => false

def isMatch (pattern : List Atom) (text : List Char) : Bool := fits pattern (text.flatMap octetChars)

/-- A text without what a pattern matches at its start. -/
def cutFront (pattern : List Atom) (longest : Bool) (text : List Char) : List Char :=
  let cuts := (List.range (text.length + 1)).filter fun n => isMatch pattern (text.take n)
  match if longest then cuts.getLast? else cuts.head? with
  | some n => text.drop n
  | none => text

/-- A text without what a pattern matches at its end. -/
def cutBack (pattern : List Atom) (longest : Bool) (text : List Char) : List Char :=
  let cuts := (List.range (text.length + 1)).filter fun n => isMatch pattern (text.drop n)
  match if longest then cuts.head? else cuts.getLast? with
  | some n => text.take n
  | none => text

/-- Glyphs between slashes. -/
def pieces (glyphs : List Glyph) : List (List Glyph) :=
  glyphs.foldr
    (fun g found =>
      match found with
      | piece :: rest => if g.char == '/' then [] :: piece :: rest else (g :: piece) :: rest
      | [] => [])
    [[]]

def chars (glyphs : List Glyph) : List Char := glyphs.map (·.char)

/-- The names in a directory, in order. -/
def namesIn (t : Tree) (directory : Location) : List Name :=
  let names := t.entries.filterMap fun e =>
    if e.1.length = directory.length + 1 && e.1.dropLast = directory then e.1.getLast? else none
  names.mergeSort fun a b => decide (String.ofList a ≤ String.ofList b)

/-- The names in the directory that a text names; an empty text names the working directory. -/
def namesAt (t : Tree) (text : List Char) : List Name :=
  match t.resolve (Path.ofChars text) with
  | .ok (place, .directory) => namesIn t place
  | _ => []

/-- The paths that match: what comes before, then the pieces that are left. -/
def expandFrom (t : Tree) (before : List Char) : List (List Glyph) → List (List Char)
  | [] => [before]
  | [piece] => (candidates piece).filter fun path => isThere path
  | piece :: rest => (candidates piece).flatMap fun path => expandFrom t (path ++ ['/']) rest
where
  isThere (path : List Char) : Bool := (t.resolve (Path.ofChars path)).isOk
  candidates (piece : List Glyph) : List (List Char) :=
    if isPattern piece then
      let pattern := ofGlyphs piece
      let isHidden := (chars piece).head? == some '.'
      let names := (if isHidden then [['.'], ['.', '.']] else []) ++ namesAt t before
      let shown := names.filter fun name =>
        isMatch pattern name && (name.head? != some '.' || isHidden)
      shown.map fun name => before ++ name
    else [before ++ chars piece]

/-- The paths that glyphs stand for: what they match, or else themselves. -/
def expand (t : Tree) (glyphs : List Glyph) : List (List Char) :=
  if isPattern glyphs then
    match expandFrom t [] (pieces glyphs) with
    | [] => [chars glyphs]
    | found => found
  else [chars glyphs]

end Pattern

end WatchTrial.Shell
