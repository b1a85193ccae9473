import WatchTrial.Shell.Regex
import WatchTrial.Shell.Tool

set_option autoImplicit false

namespace WatchTrial.Shell.Tool

/-- The lines of octets, each with its line feed. -/
def linesOf : Octets → List Octets
  | [] => []
  | b :: rest =>
      if b = 10 then [b] :: linesOf rest
      else
        match linesOf rest with
        | line :: more => (b :: line) :: more
        | [] => [[b]]

/-- A line without its line feed. -/
def bare (line : Octets) : Octets := if line.getLast? = some 10 then line.dropLast else line

def charsOf (line : Octets) : List Char := Text.Utf8.decodeLossy (bare line)

def octetsOf (text : List Char) : Octets := Text.Utf8.encode text

/-- What the operands of a program hold, or what can be read if there are none; complaints about
those that cannot be read. -/
def gather (program : String) (operands : List (List Char)) (input : Octets) (t : Tree) :
    List (List Char × Octets) × Answer :=
  let operands := if operands.isEmpty then [['-']] else operands
  operands.foldl
    (fun (found, a) file =>
      if file == ['-'] then (found ++ [(file, input)], a)
      else
        match readFile t file with
        | .ok content => (found ++ [(file, content)], a)
        | .error refusal =>
            (found, a.complain (program ++ ": " ++ String.ofList file ++ ": " ++ refusal.text) 1))
    ([], .ofTree t)

/-- A count given as an option: the value of the letter, or digits alone. -/
def countOption (letter : Char) (arguments : List (List Char)) :
    Option (List Char) × List (List Char) :=
  match valued letter arguments with
  | (some value, others) => (some value, others)
  | (none, others) =>
      match others with
      | ('-' :: c :: digits) :: rest =>
          if (c :: digits).all Char.isDigit then (some (c :: digits), rest) else (none, others)
      | _ => (none, others)

/-- The parts of files that a choice takes, with heads if there are several. -/
def excerpts (program : String) (operands : List (List Char)) (input : Octets) (t : Tree)
    (choice : Octets → Octets) : Answer :=
  let isOperand (file : List Char) : Bool := file == ['-'] || file.head? != some '-'
  let (found, a) := gather program (operands.filter isOperand) input t
  let many := 1 < found.length
  (found.foldl
    (fun (a, first) (file, content) =>
      let head :=
        if many then
          (if first then "" else "\n") ++ "==> " ++ String.ofList file ++ " <==\n"
        else ""
      ((a.sayText head).say (choice content), false))
    (a, true)).1

/-- The first lines, or with the option `c` the first octets. -/
def head : Tool := fun arguments input t =>
  match valued 'c' arguments with
  | (some count, operands) =>
      let n := ((number? count).getD 0).toNat
      excerpts "head" operands input t fun content => content.take n
  | (none, _) =>
      let (count, operands) := countOption 'n' arguments
      let n := (count.bind number?).getD 10
      excerpts "head" operands input t fun content =>
        let lines := linesOf content
        (if n < 0 then lines.take (lines.length - n.natAbs) else lines.take n.toNat).flatten

/-- The last lines, or with the option `c` the last octets; after a plus sign all from a place on. -/
def tail : Tool := fun arguments input t =>
  let from_ {α : Type} (count : List Char) (items : List α) : List α :=
    match count with
    | '+' :: digits => items.drop (((String.ofList digits).toNat?).getD 1 - 1)
    | _ => items.drop (items.length - ((number? count).getD 10).natAbs)
  match valued 'c' arguments with
  | (some count, operands) => excerpts "tail" operands input t (from_ count)
  | (none, _) =>
      let (count, operands) := countOption 'n' arguments
      excerpts "tail" operands input t fun content =>
        (from_ (count.getD ['1', '0']) (linesOf content)).flatten

/-- How many words there are in a text. -/
def wordCount (text : List Char) : Nat :=
  let isGap (c : Char) : Bool := c == ' ' || ('\t' ≤ c && c ≤ '\r')
  (text.foldl
    (fun (count, inside) c =>
      if isGap c then (count, false) else (if inside then count else count + 1, true))
    (0, false)).1

def padLeft (width : Nat) (text : String) : String :=
  String.ofList (List.replicate (width - text.length) ' ') ++ text

/-- Counts lines, words, characters and octets. -/
def countAll : Tool := fun arguments input t =>
  let (letters, operands) := options arguments
  let (found, a) := gather "wc" operands input t
  let has (c : Char) : Bool :=
    letters.contains c || ("lwmc".toList.all (!letters.contains ·) && c != 'm')
  let counts (content : Octets) : List Nat :=
    let text := Text.Utf8.decodeLossy content
    (if has 'l' then [content.count 10] else []) ++ (if has 'w' then [wordCount text] else []) ++
      (if has 'm' then [text.length] else []) ++ (if has 'c' then [content.length] else [])
  let rows := found.map fun (file, content) => (file, counts content)
  let total := (found.map fun f => counts f.2).foldl
    (fun a b => if a.isEmpty then b else List.zipWith (· + ·) a b) []
  let rows := if 1 < operands.length then rows ++ [("total".toList, total)] else rows
  let isSingle := total.length ≤ 1 && rows.length ≤ 1
  let octets := (found.map fun f => f.2.length).foldl (· + ·) 0
  let width :=
    if isSingle then 1
    else if operands.isEmpty || operands.contains ['-'] then 7
    else (toString octets).length
  let row (r : List Char × List Nat) : String :=
    " ".intercalate (r.2.map fun n => padLeft width (toString n)) ++
      (if r.1 == ['-'] && operands.isEmpty then "" else " " ++ String.ofList r.1) ++ "\n"
  a.sayText (String.join (rows.map row))

/-- The number at the start of a line. -/
def leadingNumber (text : List Char) : Int :=
  let body := text.dropWhile fun c => c == ' ' || c == '\t'
  let (negative, digits) :=
    match body with
    | '-' :: rest => (true, rest)
    | _ => (false, body)
  let n : Int := ((String.ofList (digits.takeWhile Char.isDigit)).toNat?).getD 0
  if negative then -n else n

/-- Keeps one of neighbouring lines that are the same, with their number. -/
def neighbours : List (List Char) → List (Nat × List Char)
  | [] => []
  | line :: rest =>
      match neighbours rest with
      | (count, other) :: more =>
          if other == line then (count + 1, line) :: more else (1, line) :: (count, other) :: more
      | [] => [(1, line)]

/-- Writes text lines. -/
def sayLines (a : Answer) (lines : List (List Char)) : Answer :=
  a.say (lines.flatMap fun line => octetsOf line ++ [10])

/-- All lines of the operands, in order. -/
def sort : Tool := fun arguments input t =>
  let (letters, operands) := options arguments
  let (found, a) := gather "sort" operands input t
  let lines := found.flatMap fun f => (linesOf f.2).map charsOf
  let isNumeric := letters.contains 'n'
  let isBelow (a b : List Char) : Bool :=
    if isNumeric && leadingNumber a != leadingNumber b then leadingNumber a < leadingNumber b
    else decide (String.ofList a ≤ String.ofList b)
  let ordered := lines.mergeSort isBelow
  let ordered := if letters.contains 'u' then (neighbours ordered).map Prod.snd else ordered
  sayLines a (if letters.contains 'r' then ordered.reverse else ordered)

def unique : Tool := fun arguments input t =>
  let (letters, operands) := options arguments
  let (found, a) := gather "uniq" operands input t
  let groups := neighbours (found.flatMap fun f => (linesOf f.2).map charsOf)
  let groups := groups.filter fun g =>
    (!letters.contains 'd' || 1 < g.1) && (!letters.contains 'u' || g.1 = 1)
  sayLines a (groups.map fun (count, line) =>
    if letters.contains 'c' then (padLeft 7 (toString count)).toList ++ ' ' :: line else line)

/-- Writes what is read to files as well. -/
def tee : Tool := fun arguments input t =>
  let (letters, operands) := options arguments
  operands.foldl
    (fun a file =>
      let p := Path.ofChars file
      let before :=
        match letters.contains 'a', readFile a.tree file with
        | true, .ok content => content
        | _, _ => []
      a.attempt (a.tree.writeFile p (before ++ input)) fun refusal =>
        "tee: " ++ String.ofList file ++ ": " ++ refusal.text)
    ((Answer.ofTree t).say input)

/-- The expression that options ask for. -/
def readExpression (letters : List Char) (text : List Char) : Regex :=
  let inner :=
    if letters.contains 'F' then Regex.literal text else Regex.read (letters.contains 'E') text
  if letters.contains 'x' then .seq .start (.seq inner .finish) else inner

/-- Searches in lines. -/
def grep : Tool := fun arguments input t =>
  let (given, others) := valued 'e' arguments
  let (letters, operands) := options others
  let pattern? := if given.isSome then given else operands.head?
  let files := if given.isSome then operands else operands.drop 1
  match pattern? with
  | none =>
      (Answer.ofTree t).complain
        "Usage: grep [OPTION]... PATTERNS [FILE]...\nTry \x27grep --help\x27 for more information." 2
  | some pattern =>
      let fold (text : List Char) : List Char :=
        if letters.contains 'i' then text.map Char.toLower else text
      let r := readExpression letters (fold pattern)
      let (found, a) := gather "grep" files input t
      let a :=
        if letters.contains 's' then { a with said := a.said.filter fun s => !s.1 } else a
      let matching (content : Octets) : List (Nat × List Char) :=
        (((linesOf content).map charsOf).zipIdx 1).filterMap fun (line, n) =>
          if r.isIn (fold line) != letters.contains 'v' then some (n, line) else none
      let lead (file : List Char) : List Char :=
        if 1 < files.length && !letters.contains 'h' then file ++ [':'] else []
      let (told, any) := found.foldl
        (fun (a, any) (file, content) =>
          let lines := matching content
          let name := if file == ['-'] then "(standard input)".toList else file
          let a :=
            if letters.contains 'q' then a
            else if letters.contains 'l' then if lines.isEmpty then a else sayLines a [name]
            else if letters.contains 'c' then
              sayLines a [lead file ++ (toString lines.length).toList]
            else
              sayLines a (lines.map fun (n, line) =>
                lead file ++ (if letters.contains 'n' then (toString n).toList ++ [':'] else []) ++
                  line)
          (a, any || !lines.isEmpty))
        (a, false)
      let failed := a.status ≠ 0
      { told with
        status := if any && letters.contains 'q' then 0 else if failed then 2
          else if any then 0 else 1 }

/-- What a match is replaced by: an ampersand stands for the match. -/
def replacement (found : List Char) : List Char → List Char
  | [] => []
  | '\\' :: 'n' :: rest => '\n' :: replacement found rest
  | '\\' :: c :: rest => c :: replacement found rest
  | '&' :: rest => found ++ replacement found rest
  | c :: rest => c :: replacement found rest

/-- A line with matches replaced, the first one or all. -/
def substituteFrom (r : Regex) (by_ : List Char) (all : Bool) (chars : Array Char) :
    Nat → Nat → List Char
  | 0, place => (chars.extract place chars.size).toList
  | n + 1, place =>
      match r.find? chars place with
      | none => (chars.extract place chars.size).toList
      | some (start, finish) =>
          let before := (chars.extract place start).toList
          let found := (chars.extract start finish).toList
          let middle := before ++ replacement found by_
          if !all then middle ++ (chars.extract finish chars.size).toList
          else if finish = start then
            match chars[start]? with
            | some c => middle ++ c :: substituteFrom r by_ all chars n (start + 1)
            | none => middle
          else if finish = chars.size then middle
          else middle ++ substituteFrom r by_ all chars n finish

/-- The pieces of a text between delimiters that no backslash precedes. -/
def delimited (mark : Char) : List Char → List (List Char)
  | [] => [[]]
  | '\\' :: c :: rest =>
      let taken := if c == mark then [c] else ['\\', c]
      match delimited mark rest with
      | piece :: more => (taken ++ piece) :: more
      | [] => [taken]
  | c :: rest =>
      if c == mark then [] :: delimited mark rest
      else
        match delimited mark rest with
        | piece :: more => (c :: piece) :: more
        | [] => [[c]]

/-- Replaces in lines what matches. -/
def edit : Tool := fun arguments input t =>
  let (given, others) := valued 'e' arguments
  let (letters, operands) := options others
  let script? := if given.isSome then given else operands.head?
  let files := if given.isSome then operands else operands.drop 1
  let (found, a) := gather "sed" files input t
  match script? with
  | some ('s' :: mark :: rest) =>
      match delimited mark rest with
      | [pattern, by_, flags] =>
          let r := readExpression letters pattern
          let lines := found.flatMap fun f => linesOf f.2
          a.say (lines.flatMap fun line =>
            let chars := (charsOf line).toArray
            let made := substituteFrom r by_ (flags.contains 'g') chars (chars.size + 1) 0
            octetsOf made ++ line.drop (bare line).length)
      | _ => a.complain "sed: -e expression #1, char 1: unterminated \x60s\x27 command" 1
  | _ => a.complain "sed: -e expression #1, char 1: unknown command" 1

/-- The numbers that a list of ranges holds, up to a greatest one. -/
def inRanges (ranges : List Char) (n : Nat) : Bool :=
  (Text.split ',' ranges).any fun range =>
    match Text.split '-' range with
    | [one] => (String.ofList one).toNat? == some n
    | [first, last] =>
        ((String.ofList first).toNat?).getD 1 ≤ n &&
          (last.isEmpty || n ≤ ((String.ofList last).toNat?).getD 0)
    | _ => false

/-- Parts of lines: characters, or fields between delimiters. -/
def cut : Tool := fun arguments input t =>
  let (delimiter, others) := valued 'd' arguments
  let (fields, others) := valued 'f' others
  let (places, others) := valued 'c' others
  let (letters, operands) := options others
  let mark := (delimiter.bind List.head?).getD '\t'
  let (found, a) := gather "cut" operands input t
  let keep (line : List Char) : Option (List Char) :=
    match fields, places with
    | some ranges, _ =>
        if line.contains mark then
          let kept := ((Text.split mark line).zipIdx 1).filter fun f => inRanges ranges f.2
          some (Text.join mark (kept.map Prod.fst))
        else if letters.contains 's' then none
        else some line
    | none, some ranges =>
        some (((line.zipIdx 1).filter fun c => inRanges ranges c.2).map Prod.fst)
    | none, none => some line
  sayLines a ((found.flatMap fun f => (linesOf f.2).map charsOf).filterMap keep)

/-- The characters of a set, in order. -/
def charSet : Nat → List Char → List Char
  | 0, _ => []
  | _ + 1, [] => []
  | n + 1, '\\' :: c :: rest =>
      (if c == 'n' then '\n' else if c == 't' then '\t' else c) :: charSet n rest
  | n + 1, a :: '-' :: b :: rest =>
      ((List.range' a.toNat (b.toNat + 1 - a.toNat)).map Char.ofNat) ++ charSet n rest
  | n + 1, '[' :: ':' :: rest =>
      let name := rest.takeWhile (· != ':')
      let found := (Pattern.classes.lookup (String.ofList name)).getD []
      found.flatMap (fun (a, b) =>
        (List.range' a.toNat (b.toNat + 1 - a.toNat)).map Char.ofNat) ++
        charSet n (rest.drop (name.length + 2))
  | n + 1, c :: rest => c :: charSet n rest

/-- Replaces characters one by one, or with the option `d` leaves them out. -/
def translate : Tool := fun arguments input t =>
  let (letters, operands) := options arguments
  let text := Text.Utf8.decodeLossy input
  let set (n : Nat) : List Char :=
    let chars := operands.getD n []
    charSet (chars.length + 1) chars
  let first := set 0
  let second := set 1
  let made :=
    if letters.contains 'd' then text.filter fun c => !first.contains c
    else
      text.map fun c =>
        match first.idxOf? c with
        | some n => (second[n]?).getD (second.getLast?.getD c)
        | none => c
  (Answer.ofTree t).say (octetsOf made)

/-- Counts from one number to another. -/
def sequence : Tool := fun arguments _ t =>
  let count (first step last : Int) : Answer :=
    let size := if step = 0 then 0 else ((last - first).tdiv step + 1).toNat
    let size := if (step > 0 && last < first) || (step < 0 && first < last) then 0 else size
    let numbers := (List.range size).map fun (n : Nat) => first + step * (n : Int)
    sayLines (.ofTree t) (numbers.map fun n => (toString n).toList)
  match arguments, arguments.mapM number? with
  | _, some [last] => count 1 1 last
  | _, some [first, last] => count first 1 last
  | _, some [first, step, last] => count first step last
  | [], _ => (Answer.ofTree t).complain (missingOperand "seq") 1
  | _, _ =>
      let bad := (arguments.find? fun a => (number? a).isNone).getD []
      (Answer.ofTree t).complain
        ("seq: invalid floating point argument: " ++ quoted bad ++ tryHelp "seq") 1

/-- A text without slashes at its end. -/
def withoutSlashes (text : List Char) : List Char :=
  let trimmed := Text.trimEnd (· == '/') text
  if trimmed.isEmpty && !text.isEmpty then ['/'] else trimmed

/-- The last name of a path, without an ending if one is given. -/
def baseName : Tool := fun arguments _ t =>
  match arguments with
  | [] => (Answer.ofTree t).complain (missingOperand "basename") 1
  | path :: rest =>
      let whole := withoutSlashes path
      let name := ((Text.split '/' whole).getLast?).getD []
      let name := if whole == ['/'] then whole else name
      let ending := rest.headD []
      let short :=
        if ending.isSuffixOf name && ending.length < name.length then
          name.take (name.length - ending.length)
        else name
      sayLines (.ofTree t) [short]

/-- A path without its last name. -/
def directoryName : Tool := fun arguments _ t =>
  if arguments.isEmpty then (Answer.ofTree t).complain (missingOperand "dirname") 1
  else
    sayLines (.ofTree t) (arguments.map fun path =>
      let whole := withoutSlashes path
      if whole == ['/'] then whole
      else
        let name := ((Text.split '/' whole).getLast?).getD []
        let front := whole.take (whole.length - name.length)
        if front.isEmpty then ['.'] else withoutSlashes front)

/-- Arithmetic and comparison of two numbers. -/
def calculate : Tool := fun arguments _ t =>
  let give (value : String) (isZero : Bool) : Answer :=
    { (Answer.ofTree t).sayText (value ++ "\n") with status := if isZero then 1 else 0 }
  let truth (b : Bool) : Answer := give (if b then "1" else "0") !b
  match arguments with
  | [a] => give (String.ofList a) (a.isEmpty || a == ['0'])
  | [a, o, b] =>
      match number? a, number? b, String.ofList o with
      | some m, some n, "+" => give (toString (m + n)) (m + n == 0)
      | some m, some n, "-" => give (toString (m - n)) (m - n == 0)
      | some m, some n, "*" => give (toString (m * n)) (m * n == 0)
      | some m, some n, "/" =>
          if n = 0 then (Answer.ofTree t).complain "expr: division by zero" 2
          else give (toString (m.tdiv n)) (m.tdiv n == 0)
      | some m, some n, "%" =>
          if n = 0 then (Answer.ofTree t).complain "expr: division by zero" 2
          else give (toString (m.tmod n)) (m.tmod n == 0)
      | some m, some n, "<" => truth (m < n)
      | some m, some n, "<=" => truth (m ≤ n)
      | some m, some n, ">" => truth (n < m)
      | some m, some n, ">=" => truth (n ≤ m)
      | _, _, "=" => truth (a == b)
      | _, _, "!=" => truth (a != b)
      | _, _, _ => (Answer.ofTree t).complain "expr: non-integer argument" 2
  | [] => (Answer.ofTree t).complain (missingOperand "expr") 2
  | _ => (Answer.ofTree t).complain "expr: syntax error" 2

end WatchTrial.Shell.Tool
