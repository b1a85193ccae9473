import WatchTrial.Shell.Pattern

set_option autoImplicit false

/- Regular expressions of the commands that search in text. In the basic form the signs for choices,
repetitions and groups are written with a backslash, in the extended form without one. -/

namespace WatchTrial.Shell

inductive Regex where
  | empty
  | char (c : Char)
  | any
  | within (negated : Bool) (ranges : List (Char × Char))
  | start
  | finish
  | seq (a b : Regex)
  | either (a b : Regex)
  /-- Any number of times, at least as often as said. -/
  | many (least : Nat) (a : Regex)
  | optional (a : Regex)
  deriving DecidableEq, Repr

namespace Regex

/-- Signs of an expression. -/
inductive Sign where
  | char (c : Char)
  | any
  | within (negated : Bool) (ranges : List (Char × Char))
  | start
  | finish
  | star
  | plus
  | question
  | bar
  | opening
  | closing
  deriving DecidableEq, Repr

/-- A set between brackets, from the character after the opening one. -/
def readSet (text : List Char) : Option (Sign × List Char) :=
  let (negated, inner) :=
    match text with
    | '^' :: inner => (true, inner)
    | _ => (false, text)
  let glyphs := inner.map fun c => (⟨c, false⟩ : Glyph)
  (Pattern.ranges (inner.length + 1) true glyphs).map fun (found, after) =>
    (.within negated found, Pattern.chars after)

/-- The signs with a meaning of their own in the extended form. -/
def special? (c : Char) : Option Sign :=
  match c with
  | '+' => some .plus
  | '?' => some .question
  | '|' => some .bar
  | '(' => some .opening
  | ')' => some .closing
  | _ => none

def signs (extended : Bool) : Nat → List Char → List Sign
  | 0, _ => []
  | _ + 1, [] => []
  | n + 1, c :: rest =>
      match c, rest with
      | '\\', d :: after =>
          match special? d with
          | some sign => (if extended then .char d else sign) :: signs extended n after
          | none => .char d :: signs extended n after
      | '.', _ => .any :: signs extended n rest
      | '*', _ => .star :: signs extended n rest
      | '^', _ => .start :: signs extended n rest
      | '$', _ => .finish :: signs extended n rest
      | '[', _ =>
          match readSet rest with
          | some (sign, after) => sign :: signs extended n after
          | none => .char '[' :: signs extended n rest
      | _, _ =>
          match special? c with
          | some sign => (if extended then sign else .char c) :: signs extended n rest
          | none => .char c :: signs extended n rest

/-- Repetitions of what stands before them. -/
def repeated (a : Regex) : List Sign → Regex × List Sign
  | .star :: rest => repeated (.many 0 a) rest
  | .plus :: rest => repeated (.many 1 a) rest
  | .question :: rest => repeated (.optional a) rest
  | rest => (a, rest)

mutual

/-- Expressions between bars. -/
def choices : Nat → List Sign → Regex × List Sign
  | 0, text => (.empty, text)
  | n + 1, text =>
      match sequence n text with
      | (a, .bar :: rest) =>
          let (b, rest) := choices n rest
          (.either a b, rest)
      | found => found

/-- Expressions one after the other. -/
def sequence : Nat → List Sign → Regex × List Sign
  | 0, text => (.empty, text)
  | n + 1, text =>
      let go (a : Regex) (rest : List Sign) : Regex × List Sign :=
        let (a, rest) := repeated a rest
        let (b, rest) := sequence n rest
        (.seq a b, rest)
      match text with
      | [] | .bar :: _ | .closing :: _ => (.empty, text)
      | .opening :: rest =>
          let (a, rest) := choices n rest
          go a (rest.drop 1)
      | .char c :: rest => go (.char c) rest
      | .any :: rest => go .any rest
      | .within negated found :: rest => go (.within negated found) rest
      | .start :: rest => go .start rest
      | .finish :: rest => go .finish rest
      | .star :: rest => go (.char '*') rest
      | .plus :: rest => go (.char '+') rest
      | .question :: rest => go (.char '?') rest

end

def read (extended : Bool) (text : List Char) : Regex :=
  let found := signs extended (text.length + 1) text
  (choices (3 * found.length + 3) found).1

/-- An expression that stands for a text as it is. -/
def literal (text : List Char) : Regex := text.foldr (fun c rest => .seq (.char c) rest) .empty

/-- Places that can be reached by going on from others, with what is given for one step. -/
def closure (step : Nat → List Nat) : Nat → List Nat → List Nat
  | 0, found => found
  | n + 1, found =>
      let next := (found.flatMap step).filter fun place => !found.contains place
      if next.isEmpty then found else closure step n (found ++ next.eraseDups)

/-- The places at which a match that starts at a place of a line can end. -/
def ends (chars : Array Char) : Regex → Nat → List Nat
  | .empty, place => [place]
  | .char c, place => if chars[place]? == some c then [place + 1] else []
  | .any, place => if place < chars.size then [place + 1] else []
  | .within negated ranges, place =>
      match chars[place]? with
      | some c => if (Pattern.Atom.within negated ranges).admits c then [place + 1] else []
      | none => []
  | .start, place => if place = 0 then [place] else []
  | .finish, place => if place = chars.size then [place] else []
  | .seq a b, place => ((ends chars a place).flatMap (ends chars b)).eraseDups
  | .either a b, place => (ends chars a place ++ ends chars b place).eraseDups
  | .many 0 a, place => closure (ends chars a) (chars.size + 1) [place]
  | .many (_ + 1) a, place =>
      closure (ends chars a) (chars.size + 1) (ends chars a place).eraseDups
  | .optional a, place => (place :: ends chars a place).eraseDups

/-- The first match from a place on, the longest of those: where it starts and ends. -/
def find? (r : Regex) (chars : Array Char) (place : Nat) : Option (Nat × Nat) :=
  (List.range' place (chars.size + 1 - place)).findSome? fun start =>
    match ends chars r start with
    | [] => none
    | found => some (start, found.foldl max 0)

def isIn (r : Regex) (line : List Char) : Bool := (r.find? line.toArray 0).isSome

end Regex

end WatchTrial.Shell
