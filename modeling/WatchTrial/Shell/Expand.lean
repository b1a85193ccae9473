import WatchTrial.Shell.Arithmetic
import WatchTrial.Shell.Pattern
import WatchTrial.Shell.Session
import WatchTrial.Text.Blank

set_option autoImplicit false

/- Expansion of words into fields. The value of a parameter that is not quoted is cut into fields at
separators; the arguments between double quotes stay fields of their own. A field with an unquoted
pattern becomes the paths that match it. -/

namespace WatchTrial.Shell

/-- What comes after the last character of a field. -/
inductive Gap where
  | start
  | none
  /-- Separators that are blanks. -/
  | soft
  /-- Separators one of which is no blank. -/
  | hard
  deriving DecidableEq, Repr

/-- Fields under construction: those that are complete, the last first, and the one that is open. -/
structure Fields where
  complete : List (List Glyph) := []
  current : Option (List Glyph) := none
  gap : Gap := .start

namespace Fields

def glyphs (quoted : Bool) (text : List Char) : List Glyph := text.map fun c => ⟨c, quoted⟩

def extend (f : Fields) (quoted : Bool) (text : List Char) : Fields :=
  { f with current := some (f.current.getD [] ++ glyphs quoted text), gap := .none }

def cut (f : Fields) (gap : Gap) : Fields :=
  match f.current with
  | none => { f with gap }
  | some found => ⟨found :: f.complete, none, gap⟩

/-- Puts a separator in. Blanks around one that is no blank count with it. -/
def separate (f : Fields) (c : Char) : Fields :=
  if Arithmetic.isBlank c then
    match f.gap with
    | .none => f.cut .soft
    | _ => f
  else
    match f.gap with
    | .none => f.cut .hard
    | .soft => { f with gap := .hard }
    | .start | .hard => { f with complete := [] :: f.complete, gap := .hard }

/-- Puts an unquoted value in. -/
def addSplit (f : Fields) (separators value : List Char) : Fields :=
  value.foldl (fun f c => if separators.contains c then f.separate c else f.extend false [c]) f

/-- Puts the arguments in, the first at the end of the open field. -/
def addAll (f : Fields) : List (List Char) → Fields
  | [] => f
  | [last] => f.extend true last
  | a :: rest => addAll ((f.extend true a).cut .start) rest

def toList (f : Fields) : List (List Glyph) := (f.cut .start).complete.reverse

end Fields

/-- How words are expanded. -/
structure Expansion where
  line : Nat
  /-- Gives the output of a script. -/
  substitute : List Char → Doing Octets

namespace Expansion

/-- The text of an output that is put into a word: without the line feeds at its end. -/
def textOf (octets : Octets) : List Char :=
  (Text.trimEnd (· == '\n') (Text.Utf8.decodeLossy octets)).filter (· != '\x00')

/-- Puts a value in, cut into fields if that is asked for and it is not quoted. -/
def addValue (splits quoted : Bool) (f : Fields) (value : List Char) : Doing Fields := do
  let s ← Doing.get
  return if quoted then f.extend true value
    else if splits then f.addSplit s.separators value
    else f.extend false value

/-- Ends the shell if a parameter is not set where that is asked for. -/
def needValue (e : Expansion) (name : List Char) : Doing Unit := do
  let s ← Doing.get
  let isFree := name = ['@'] || name = ['*']
  if s.careful && !isFree && (s.parameter? name).isNone then
    Doing.give e.line (String.ofList name ++ ": parameter not set") 2

/-- The parts of the word after an operation. -/
def wordOf (quoted : Bool) (text : List Char) : Word :=
  let found :=
    if quoted then Token.wholeWord .document (text.filter (· != '\x22'))
    else Token.wholeWord .whole text
  match found with
  | .ok w => w
  | .error _ => [.text text quoted]

/-- The value of an arithmetic expression. -/
def arithmetic (e : Expansion) (text : List Char) : Doing (List Char) := do
  match Arithmetic.evalText text (← Doing.get).bindings with
  | .ok (n, bindings) => do
      Doing.modify fun s => { s with bindings }
      return (toString n).toList
  | .error t => do
      Doing.give e.line (t.message text) 2
      return []

def isUsable (value : Option (List Char)) (empty : Bool) : Bool :=
  match value with
  | some text => !(empty && text.isEmpty)
  | none => false

/-- Puts the parts of a word in, one after the other. -/
def addParts (e : Expansion) (splits : Bool) : Nat → Fields → Word → Doing Fields
  | 0, f, _ => return f
  | _ + 1, f, [] => return f
  | n + 1, f, part :: rest => do
      let s ← Doing.get
      let f ←
        match part with
        | .text chars quoted => pure (f.extend quoted chars)
        | .parameter ['@'] true =>
            if splits then pure (f.addAll s.arguments)
            else pure (f.extend true (s.parameter ['@']))
        | .parameter name quoted =>
            if !quoted && splits && (name = ['@'] || name = ['*']) then
              pure (s.arguments.foldl
                (fun f a => (f.addSplit s.separators a).cut .start) f)
            else do
              e.needValue name
              addValue splits quoted f (s.parameter name)
        | .command script quoted => do
            let found ← e.substitute script
            addValue splits quoted f (textOf found)
        | .arithmetic text quoted => do
            let inner ← addParts e false n {} (wordOf true text)
            let value ← e.arithmetic (inner.toList.flatten.map (·.char))
            addValue splits quoted f value
        | .replaced name operation text quoted => do
            let value := s.parameter? name
            let inner := wordOf (quoted && !operation.isCut) text
            let usual : Doing Fields := addValue splits quoted f (value.getD [])
            match operation with
            | .length => do
                e.needValue name
                let size := (Text.Utf8.encode (value.getD [])).length
                addValue splits quoted f (toString size).toList
            | .orElse empty =>
                if isUsable value empty then usual else addParts e splits n f inner
            | .instead empty =>
                if isUsable value empty then addParts e splits n f inner
                else if quoted then pure (f.extend true []) else pure f
            | .orAssign empty =>
                if isUsable value empty then usual
                else do
                  let found ← addParts e false n {} inner
                  let text := found.toList.flatten.map (·.char)
                  Doing.assign e.line "" name text
                  addValue splits quoted f text
            | .orFail empty =>
                if isUsable value empty then usual
                else do
                  let found ← addParts e false n {} inner
                  let given := found.toList.flatten.map (·.char)
                  let what :=
                    if !given.isEmpty then String.ofList given
                    else if empty then "parameter not set or null"
                    else "parameter not set"
                  Doing.give e.line (String.ofList name ++ ": " ++ what) 2
                  pure f
            | .cutFront longest => do
                e.needValue name
                let found ← addParts e false n {} inner
                let pattern := Pattern.ofGlyphs found.toList.flatten
                addValue splits quoted f (Pattern.cutFront pattern longest (value.getD []))
            | .cutBack longest => do
                e.needValue name
                let found ← addParts e false n {} inner
                let pattern := Pattern.ofGlyphs found.toList.flatten
                addValue splits quoted f (Pattern.cutBack pattern longest (value.getD []))
      addParts e splits n f rest

/-- The glyphs of a word that stays one field. -/
def glyphsOf (e : Expansion) (n : Nat) (w : Word) : Doing (List Glyph) := do
  return (← e.addParts false n {} w).toList.flatten

/-- A word that stays one field. -/
def one (e : Expansion) (n : Nat) (w : Word) : Doing (List Char) := do
  return Pattern.chars (← e.glyphsOf n w)

/-- The fields of words. -/
def fields (e : Expansion) (n : Nat) : List Word → Doing (List (List Char))
  | [] => return []
  | w :: rest => do
      let found := (← e.addParts true n {} w).toList
      let paths ←
        if !(← Doing.get).literal && found.any Pattern.isPattern then Doing.look fun t => found.flatMap (Pattern.expand t)
        else pure (found.map Pattern.chars)
      return paths ++ (← e.fields n rest)

end Expansion

end WatchTrial.Shell
