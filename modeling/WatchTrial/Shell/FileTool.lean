import WatchTrial.Shell.Pattern
import WatchTrial.Shell.Tool

set_option autoImplicit false

namespace WatchTrial.Shell.Tool

/-- Does something for each operand, one after the other. -/
def forEach (operands : List (List Char)) (step : Answer → List Char → Answer) (t : Tree) : Answer :=
  operands.foldl step (.ofTree t)

/-- Writes out files; a dash stands for what can be read. -/
def cat : Tool := fun arguments input t =>
  let (_, operands) := options arguments
  let operands := if operands.isEmpty then [['-']] else operands
  forEach operands
    (fun a file =>
      if file == ['-'] then a.say input
      else
        match readFile a.tree file with
        | .ok content => a.say content
        | .error refusal => a.complain ("cat: " ++ String.ofList file ++ ": " ++ refusal.text) 1)
    t

def hasHidden (letters : List Char) : Bool := letters.contains 'a' || letters.contains 'A'

/-- The names in a directory that are listed. -/
def listed (t : Tree) (letters : List Char) (place : Location) : List String :=
  let names := (Pattern.namesIn t place).filter fun name =>
    hasHidden letters || name.head? != some '.'
  let names := names.map String.ofList
  if letters.contains 'a' then "." :: ".." :: names else names

/-- Lists what files there are: first those that are named, then what is in directories. The
`separator` stands between the names of one directory. -/
def list (program separator : String) : Tool := fun arguments _ t =>
  let (letters, operands) := options arguments
  let order (names : List (List Char)) : List (List Char) :=
    names.mergeSort fun a b => decide (String.ofList a ≤ String.ofList b)
  let operands := if operands.isEmpty then [['.']] else order operands
  let isWhole (file : List Char) : Bool :=
    match find t file with
    | .ok (_, .directory) => !letters.contains 'd'
    | _ => false
  let missing := operands.filter fun file => !(find t file).isOk
  let files := operands.filter fun file => (find t file).isOk && !isWhole file
  let directories := operands.filter isWhole
  let lines (names : List String) : String :=
    if names.isEmpty then "" else separator.intercalate names ++ "\n"
  let complained := missing.foldl
    (fun a file =>
      let refusal :=
        match find t file with
        | .error refusal => refusal
        | .ok _ => .noEntry
      a.complain (program ++ ": cannot access " ++ shown file ++ ": " ++ refusal.text) 2)
    (Answer.ofTree t)
  let told := complained.sayText (lines (files.map String.ofList))
  let hasHeads := 1 < operands.length
  let (found, _) := directories.foldl
    (fun (a, first) file =>
      let names :=
        match find t file with
        | .ok (place, _) => listed t letters place
        | .error _ => []
      let head := if hasHeads then String.ofList file ++ ":\n" else ""
      let gap := if first then "" else "\n"
      (a.sayText (gap ++ head ++ lines names), false))
    (told, files.isEmpty)
  found

/-- Makes directories; with the option `p` also those above, and one that is there is no fault. -/
def makeDirectory : Tool := fun arguments _ t =>
  let (letters, operands) := options arguments
  if operands.isEmpty then (Answer.ofTree t).complain (missingOperand "mkdir") 1
  else
    forEach operands
      (fun a file =>
        let p := Path.ofChars file
        let told (refusal : Refusal) : String :=
          "mkdir: cannot create directory " ++ quoted file ++ ": " ++ refusal.text
        if file.isEmpty then a.complain (told .noEntry) 1
        else if letters.contains 'p' then
          match a.tree.ensureDirectory p.names.length p with
          | (.ok (), made) => { a with tree := made }
          | (.error (refusal, _), left) => { a with tree := left }.complain (told refusal) 1
        else a.attempt (a.tree.makeDirectory p) told)
      t

/-- Removes directories that have nothing below them. -/
def removeDirectory : Tool := fun arguments _ t =>
  let (_, operands) := options arguments
  if operands.isEmpty then (Answer.ofTree t).complain (missingOperand "rmdir") 1
  else
    forEach operands
      (fun a file =>
        let told (refusal : Refusal) : String :=
          "rmdir: failed to remove " ++ shown file ++ ": " ++ refusal.text
        match find a.tree file with
        | .error refusal => a.complain (told refusal) 1
        | .ok (_, .file ..) => a.complain (told .notDirectory) 1
        | .ok (place, .directory) =>
            if a.tree.hasBelow place then a.complain (told .notEmpty) 1
            else a.attempt (a.tree.removeEmptied (Path.ofChars file)) told)
      t

/-- Removes files, with the option `r` also directories, and with the option `f` nothing need be
there. -/
def remove : Tool := fun arguments _ t =>
  let (letters, operands) := options arguments
  let forced := letters.contains 'f'
  let deep := letters.contains 'r' || letters.contains 'R'
  if operands.isEmpty && !forced then (Answer.ofTree t).complain (missingOperand "rm") 1
  else
    forEach operands
      (fun a file =>
        let told (refusal : Refusal) : String :=
          "rm: cannot remove " ++ shown file ++ ": " ++ refusal.text
        match find a.tree file with
        | .error .noEntry | .error .notDirectory =>
            if forced then a
            else
              match find a.tree file with
              | .error refusal => a.complain (told refusal) 1
              | .ok _ => a
        | .error refusal => a.complain (told refusal) 1
        | .ok (_, .file ..) => a.attempt (a.tree.removeAll (Path.ofChars file)) told
        | .ok (place, .directory) =>
            if deep then a.attempt (a.tree.removeAll (Path.ofChars file)) told
            else if letters.contains 'd' && !a.tree.hasBelow place then
              a.attempt (a.tree.removeEmptied (Path.ofChars file)) told
            else a.complain (told .isDirectory) 1)
      t

/-- The last name in a text. -/
def lastName (text : List Char) : List Char :=
  let p := Path.ofChars text
  p.names.getLast?.getD (if p.isAbsolute then ['/'] else ['.'])

/-- Where something goes that is carried to a target: into it, if it is a directory. -/
def destination (t : Tree) (source target : List Char) : List Char :=
  match find t target with
  | .ok (_, .directory) => target ++ '/' :: lastName source
  | _ => target

/-- Carries each of the sources to the target, which must be a directory if there are several. -/
def carryAll (program : String) (operands : List (List Char))
    (step : Answer → List Char → List Char → Answer) (t : Tree) : Answer :=
  match operands.reverse with
  | [] => (Answer.ofTree t).complain (program ++ ": missing file operand" ++ tryHelp program) 1
  | [source] =>
      (Answer.ofTree t).complain
        (program ++ ": missing destination file operand after " ++ shown source ++
          tryHelp program) 1
  | [target, source] => step (.ofTree t) source (destination t source target)
  | target :: sources =>
      match find t target with
      | .ok (_, .directory) =>
          forEach sources.reverse (fun a source => step a source (destination t source target)) t
      | .ok _ =>
          (Answer.ofTree t).complain (program ++ ": target " ++ shown target ++ ": " ++
            Refusal.text .notDirectory) 1
      | .error refusal =>
          (Answer.ofTree t).complain (program ++ ": target " ++ shown target ++ ": " ++
            refusal.text) 1

def move : Tool := fun arguments _ t =>
  carryAll "mv" (options arguments).2
    (fun a source target =>
      match find a.tree source with
      | .error refusal =>
          a.complain ("mv: cannot stat " ++ shown source ++ ": " ++ refusal.text) 1
      | .ok (place, _) =>
          match find a.tree target with
          | .ok (other, _) =>
              if other = place then
                a.complain ("mv: " ++ shown source ++ " and " ++ shown target ++
                  " are the same file") 1
              else carried a source target
          | .error _ => carried a source target)
    t
where
  carried (a : Answer) (source target : List Char) : Answer :=
    a.attempt (a.tree.move (Path.ofChars source) (Path.ofChars target)) fun refusal =>
      "mv: cannot move " ++ shown source ++ " to " ++ shown target ++ ": " ++ refusal.text

/-- The tree with a copy of what stands at one location at another one. -/
def copyTo (t : Tree) (source target : Location) : Tree :=
  let copied := t.entries.filterMap fun e =>
    if source.isPrefixOf e.1 then some (target ++ e.1.drop source.length, e.2) else none
  copied.foldl (fun t e => t.set e.1 e.2) t

def copy : Tool := fun arguments _ t =>
  let (letters, operands) := options arguments
  let deep := "rRa".toList.any letters.contains
  carryAll "cp" operands
    (fun a source target =>
      let told (refusal : Refusal) : String :=
        "cp: cannot create regular file " ++ shown target ++ ": " ++ refusal.text
      match find a.tree source with
      | .error refusal =>
          a.complain ("cp: cannot stat " ++ shown source ++ ": " ++ refusal.text) 1
      | .ok (place, .directory) =>
          if !deep then
            a.complain ("cp: -r not specified; omitting directory " ++ shown source) 1
          else
            match a.tree.locate (Path.ofChars target) with
            | .ok (.child directory name) =>
                let below := place.isPrefixOf (directory ++ [name])
                if below then
                  a.complain ("cp: cannot copy a directory, " ++ shown source ++
                    ", into itself, " ++ shown target) 1
                else { a with tree := copyTo a.tree place (directory ++ [name]) }
            | .ok _ => a
            | .error refusal =>
                a.complain ("cp: cannot create directory " ++ shown target ++ ": " ++
                  refusal.text) 1
      | .ok (_, .file content executable) =>
          let isNew := !(find a.tree target).isOk
          let written := a.attempt (a.tree.writeFile (Path.ofChars target) content) told
          match isNew && executable, written.tree.resolve (Path.ofChars target) with
          | true, .ok (place, .file content _) =>
              { written with tree := written.tree.set place (.file content true) }
          | _, _ => written)
    t

/-- Makes empty files where nothing stands. -/
def touch : Tool := fun arguments _ t =>
  let (letters, operands) := options arguments
  if operands.isEmpty then
    (Answer.ofTree t).complain ("touch: missing file operand" ++ tryHelp "touch") 1
  else
    forEach operands
      (fun a file =>
        let told (refusal : Refusal) : String :=
          "touch: cannot touch " ++ shown file ++ ": " ++ refusal.text
        match find a.tree file with
        | .ok _ => a
        | .error .noEntry =>
            if letters.contains 'c' then a
            else if file.isEmpty || file.getLast? == some '/' then a.complain (told .noEntry) 1
            else a.attempt (a.tree.touch (Path.ofChars file)) told
        | .error refusal => a.complain (told refusal) 1)
      t

/-- Whether a mode makes files executable, if it says anything about that. -/
def makesExecutable? (mode : List Char) : Option Bool :=
  if mode.all Char.isDigit then
    some (mode.any fun c => (c.toNat - '0'.toNat) % 2 == 1)
  else if !mode.contains 'x' then none
  else some (mode.contains '+' || mode.contains '=')

/-- Changes who may do what with files; only whether they can be run counts. -/
def changeMode : Tool := fun arguments _ t =>
  let isMode (a : List Char) : Bool :=
    a.head? != some '-' || a.drop 1 == ['x'] || a.drop 1 == ['r'] || a.drop 1 == ['w']
  match arguments.filter isMode with
  | [] => (Answer.ofTree t).complain (missingOperand "chmod") 1
  | mode :: operands =>
      forEach operands
        (fun a file =>
          match find a.tree file, makesExecutable? mode with
          | .error refusal, _ =>
              a.complain ("chmod: cannot access " ++ shown file ++ ": " ++ refusal.text) 1
          | .ok (place, .file content _), some executable =>
              { a with tree := a.tree.set place (.file content executable) }
          | .ok _, _ => a)
        t

/-- How many octets two files have in common at their start. -/
def sameFor (first second : Octets) : Nat := ((first.zip second).takeWhile fun p => p.1 = p.2).length

/-- Where two files that are not the same differ, in a sentence; the flag tells whether it is a
complaint. -/
def difference (a b : String) (first second : Octets) : Bool × String :=
  let same := sameFor first second
  let line := (first.take same).count 10
  let ended (name : String) (octets : Octets) : String :=
    if octets.isEmpty then "cmp: EOF on " ++ name ++ " which is empty"
    else
      "cmp: EOF on " ++ name ++ " after byte " ++ toString same ++
        if octets.getLast? = some 10 then ", line " ++ toString line
        else ", in line " ++ toString (line + 1)
  if first.length = same then (true, ended a first)
  else if second.length = same then (true, ended b second)
  else
    (false, a ++ " " ++ b ++ " differ: byte " ++ toString (same + 1) ++ ", line " ++
      toString (line + 1))

/-- Compares two files octet by octet. -/
def compareFiles : Tool := fun arguments input t =>
  let (letters, operands) := options arguments
  let read (file : List Char) : Except Refusal Octets :=
    if file == ['-'] then .ok input else readFile t file
  match operands with
  | [a, b] =>
      match read a, read b with
      | .ok first, .ok second =>
          if first == second then .ofTree t
          else if letters.contains 's' then { tree := t, status := 1 }
          else
            match difference (String.ofList a) (String.ofList b) first second with
            | (true, what) => (Answer.ofTree t).complain what 1
            | (false, what) => { (Answer.ofTree t).sayText (what ++ "\n") with status := 1 }
      | .error refusal, _ =>
          (Answer.ofTree t).complain ("cmp: " ++ String.ofList a ++ ": " ++ refusal.text) 2
      | _, .error refusal =>
          (Answer.ofTree t).complain ("cmp: " ++ String.ofList b ++ ": " ++ refusal.text) 2
  | _ => (Answer.ofTree t).complain (missingOperand "cmp") 2

/-- What `search` looks for. -/
structure Wanted where
  kind : Option Char := none
  names : List (List Pattern.Atom) := []
  most : Option Nat := none
  least : Nat := 0

def readWanted : List (List Char) → Wanted
  | o :: value :: rest =>
      let others := readWanted rest
      match String.ofList o with
      | "-type" => { others with kind := value.head? }
      | "-name" =>
          let glyphs := value.map fun c => (⟨c, false⟩ : Glyph)
          { others with names := Pattern.ofGlyphs glyphs :: others.names }
      | "-maxdepth" => { others with most := (String.ofList value).toNat? }
      | "-mindepth" => { others with least := ((String.ofList value).toNat?).getD 0 }
      | _ => readWanted (value :: rest)
  | _ => {}

/-- Lists files at and below places, each directory before what is in it. -/
def search : Tool := fun arguments _ t =>
  let isPlace (a : List Char) : Bool := a.head? != some '-' && a != ['!'] && a != ['(']
  let places := arguments.takeWhile isPlace
  let wanted := readWanted (arguments.dropWhile isPlace)
  let isWanted (depth : Nat) (name : List Char) (e : Entry) : Bool :=
    let kind := match e with
      | .directory => 'd'
      | .file .. => 'f'
    wanted.kind.all (· == kind) && wanted.names.all (fun p => Pattern.isMatch p name) &&
      wanted.most.all (depth ≤ ·) && wanted.least ≤ depth
  let order (e : List Char × Location × Entry) : String :=
    String.ofList (Text.join '\x00' e.2.1)
  let isBefore (a b : List Char × Location × Entry) : Bool := decide (order a ≤ order b)
  forEach (if places.isEmpty then [['.']] else places)
    (fun a file =>
      match find a.tree file with
      | .error refusal =>
          a.complain ("find: " ++ quoted file ++ ": " ++ refusal.text) 1
      | .ok (place, entry) =>
          let below := (a.tree.entries.filter fun e => place.isPrefixOf e.1 && e.1 != place).map
            fun e => (Text.join '/' (file :: e.1.drop place.length), e.1, e.2)
          let ordered := below.mergeSort isBefore
          let kept := ((file, place, entry) :: ordered).filter fun (_, location, e) =>
            let depth := location.length - place.length
            isWanted depth (if depth = 0 then lastName file else location.getLast?.getD []) e
          a.sayText (String.join (kept.map fun e => String.ofList e.1 ++ "\n")))
    t

end WatchTrial.Shell.Tool
