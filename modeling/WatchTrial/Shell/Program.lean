import WatchTrial.Shell.Condition
import WatchTrial.Shell.FileTool
import WatchTrial.Shell.Format
import WatchTrial.Shell.Runner
import WatchTrial.Shell.TextTool

set_option autoImplicit false

namespace WatchTrial.Shell

/-- `echo` as a program of its own: escapes are not read. -/
def plainEcho : Tool := fun arguments _ t =>
  let (final, words) : Octets × List (List Char) :=
    match arguments with
    | ['-', 'n'] :: rest => ([], rest)
    | _ => ([10], arguments)
  (Answer.ofTree t).say (Text.Utf8.encode ([' '].intercalate words) ++ final)

/-- `printf` as a program of its own. -/
def plainPrintf : Tool := fun arguments _ t =>
  match arguments with
  | [] => (Answer.ofTree t).complain (Tool.missingOperand "printf") 1
  | format :: rest =>
      let f := Format.printf (rest.length + 1) format rest
      let told := f.wrong.foldl
        (fun a (text, started) =>
          a.complain
            ("printf: " ++ Tool.quoted text ++
              (if started then ": value not completely converted"
                else ": expected a numeric value")) 1)
        ((Answer.ofTree t).say f.octets)
      match f.unknown with
      | some [] => told.complain "printf: missing conversion" 1
      | some text =>
          told.complain
            ("printf: %" ++ String.ofList text ++ ": invalid conversion specification") 1
      | none => told

/-- `test` as a program of its own. -/
def plainTest (closed : Bool) : Tool := fun arguments _ t =>
  let name := if closed then "[" else "test"
  if closed && arguments.getLast? != some [']'] then
    (Answer.ofTree t).complain "[: missing \u2018]\u2019" 2
  else
    match Condition.test t (if closed then arguments.dropLast else arguments) with
    | .ok answer => { tree := t, status := if answer then 0 else 1 }
    | .error what => (Answer.ofTree t).complain (name ++ ": " ++ what) 2

/-- The programs that take no time, by their names. -/
def tools : List (String × Tool) :=
  [("true", fun _ _ t => .ofTree t), ("false", fun _ _ t => { tree := t, status := 1 }),
    ("echo", plainEcho), ("printf", plainPrintf), ("test", plainTest false), ("[", plainTest true),
    ("cat", Tool.cat), ("ls", Tool.list "ls" "\n"), ("dir", Tool.list "dir" "  "),
    ("mkdir", Tool.makeDirectory), ("rmdir", Tool.removeDirectory), ("rm", Tool.remove),
    ("mv", Tool.move), ("cp", Tool.copy), ("touch", Tool.touch), ("chmod", Tool.changeMode),
    ("cmp", Tool.compareFiles), ("find", Tool.search), ("head", Tool.head), ("tail", Tool.tail),
    ("wc", Tool.countAll), ("sort", Tool.sort), ("uniq", Tool.unique), ("tee", Tool.tee),
    ("grep", Tool.grep), ("sed", Tool.edit), ("cut", Tool.cut), ("tr", Tool.translate),
    ("seq", Tool.sequence), ("basename", Tool.baseName), ("dirname", Tool.directoryName),
    ("expr", Tool.calculate)]

/-- Where programs of the system are. -/
def systemDirectories : List String := ["/usr/local/bin/", "/usr/bin/", "/bin/"]

/-- The name of a program of the system. -/
def systemName (text : List Char) : List Char :=
  match systemDirectories.find? fun d => d.toList.isPrefixOf text with
  | some d => text.drop d.length
  | none => text

def isShell (name : List Char) : Bool := ["sh", "dash", "bash"].contains (String.ofList name)

/-- Whether the system has a program with a name. -/
def isProgram (name : List Char) : Bool :=
  isShell name || ["sleep", "env"].contains (String.ofList name) ||
    (tools.lookup (String.ofList name)).isSome

/-- Runs a program that takes no time. -/
def runTool (tool : Tool) (arguments : List (List Char)) : Doing Unit := do
  let s ← Doing.get
  let a ← Doing.change fun t =>
    let a := tool arguments s.input t
    (a, a.tree)
  a.said.forM fun (isError, octets) => Doing.put (s.sink (if isError then 2 else 1)) octets
  Doing.setStatus a.status

/-- The interpreter that the first line of a file names, with its argument. -/
def interpreter? (content : Octets) : Option (List (List Char)) :=
  match Text.Utf8.decodeLossy (content.take 255) with
  | '#' :: '!' :: rest =>
      let isGap (c : Char) : Bool := c == ' ' || c == '\t'
      let line := (rest.takeWhile (· != '\n')).dropWhile isGap
      let name := line.takeWhile (!isGap ·)
      let argument := Text.trim isGap (line.dropWhile (!isGap ·))
      if name.isEmpty then none else some (name :: if argument.isEmpty then [] else [argument])
  | _ => none

/-- A program of the system that is to be run. -/
structure Found where
  name : List Char
  arguments : List (List Char) := []
  /-- What `env` sets. -/
  assignments : List (List Char × List Char) := []

/-- A program that cannot be run. -/
structure Missing where
  name : List Char
  refusal : Refusal
  /-- Whether it was `env` that was to run it. -/
  byEnv : Bool := false

namespace Found

/-- The assignments in front of the program that `env` runs, and that program. -/
def underEnv : List (List Char) → List (List Char × List Char) × List (List Char)
  | [] => ([], [])
  | a :: rest =>
      if a.contains '=' then
        let (found, words) := underEnv rest
        ((a.takeWhile (· != '='), (a.dropWhile (· != '=')).drop 1) :: found, words)
      else ([], a :: rest)

/-- What a file is run with. -/
def interpreterOf (t : Tree) (file : List Char) : Except Refusal (List (List Char)) :=
  match Tool.find t file with
  | .error refusal => .error refusal
  | .ok (_, .directory) | .ok (_, .file _ false) => .error .accessDenied
  | .ok (_, .file content true) =>
      match interpreter? content with
      | none => .error .execFormat
      | some [] => .error .noEntry
      | some (name :: extra) =>
          if systemName name = name then .error .noEntry else .ok (name :: extra)

/-- The program of the system that words come to in the end. The number bounds through how many
programs that run others. -/
def resolve (t : Tree) : Nat → List (List Char) → Except Missing Found
  | _, [] => .ok { name := "true".toList }
  | 0, name :: _ => .error ⟨name, .noEntry, false⟩
  | n + 1, name :: arguments =>
      let system := systemName name
      if system == "env".toList then
        let (found, words) := underEnv arguments
        match resolve t n words with
        | .ok f => .ok { f with assignments := found ++ f.assignments }
        | .error m => .error { m with byEnv := true }
      else if isProgram system then .ok ⟨system, arguments, []⟩
      else if name.contains '/' then
        match interpreterOf t name with
        | .error refusal => .error ⟨name, refusal, false⟩
        | .ok words =>
            match resolve t n (words ++ name :: arguments) with
            | .ok f => .ok f
            | .error m => if m.byEnv then .error m else .error ⟨name, m.refusal, false⟩
      else .error ⟨name, if Tree.isTooLong Tree.maxName name then .nameTooLong else .noEntry, false⟩

/-- Through how many programs that run others a program may be run. -/
def maxTurns : Nat := 16

def ofWords (t : Tree) (words : List (List Char)) : Except Missing Found := resolve t maxTurns words

end Found

namespace Runner

/-- Runs what a shell with the given arguments is to run. -/
def shellBody (r : Runner) (arguments : List (List Char)) : Doing Unit := do
  match Options.read ['c', 's'] arguments (← Doing.get) with
  | .error what => Doing.give 0 what 2
  | .ok o => do
      Doing.set o.session
      if o.own.contains 'c' then
        match o.rest with
        | [] => Doing.give 0 "-c requires an argument" 2
        | text :: rest => do
            Doing.modify fun s => { s with name := rest.headD s.name, arguments := rest.tail }
            r.runText text
      else if o.own.contains 's' then fromInput o.rest
      else
        match o.rest with
        | [] => fromInput []
        | file :: rest => fromFile file rest
where
  fromInput (rest : List (List Char)) : Doing Unit := do
    let s ← Doing.get
    Doing.set { s with input := [], arguments := rest }
    r.runText (Text.Utf8.decodeLossy s.input)
  fromFile (file : List Char) (rest : List (List Char)) : Doing Unit := do
    match ← Doing.look fun t => Tool.readFile t file with
    | .ok content => do
        Doing.modify fun s => { s with name := file, arguments := rest }
        r.runText (Text.Utf8.decodeLossy content)
    | .error .isDirectory => return
    | .error _ => Doing.give 0 ("cannot open " ++ String.ofList file ++ ": No such file") 2

/-- A shell that is started from a session. -/
def shell (r : Runner) (name : List Char) (arguments : List (List Char)) (s : Session) : Process :=
  r.process (r.shellBody arguments) (s.program name [])

/-- A sleeper. -/
def sleeper (s : Session) (duration : Nat) : Process :=
  .pause duration s.programHeed .nothing false fun _ => .nothing

/-- Runs a process in place of the shell, if the shell has nothing to do after it, or else waits for
it. -/
def runProcess (last : Bool) (p : Session → Process) : Doing Unit := do
  let s ← Doing.get
  if last && !s.hasTraps then becomeProcess (p s) else waitFor (p s)

/-- Runs a program of the system. -/
def runSystem (r : Runner) (last : Bool) (name : List Char) (arguments : List (List Char)) :
    Doing Unit := do
  if isShell name then runProcess last (r.shell name arguments)
  else if name == "sleep".toList then
    match Tool.sleepTime arguments with
    | .ok duration => runProcess last fun s => sleeper s duration
    | .error what => do
        Doing.complain what
        Doing.setStatus 1
  else
    match tools.lookup (String.ofList name) with
    | some tool => runTool tool arguments
    | none => Doing.setStatus 0

/-- Runs a program, with what `env` sets only meanwhile. -/
def runFound (r : Runner) (last : Bool) (f : Found) : Doing Unit := do
  let s ← Doing.get
  f.assignments.forM fun (name, value) =>
    Doing.modify fun s => { s.assign name value with exported := name :: s.exported }
  r.runSystem last f.name f.arguments
  if !f.assignments.isEmpty then
    Doing.modify fun after => { after with bindings := s.bindings, exported := s.exported }

/-- The complaint of `env` about a program, and the status it gives. -/
def complainUnderEnv (m : Missing) : Doing Unit := do
  Doing.complain ("env: " ++ Tool.quoted m.name ++ ": " ++ m.refusal.text)
  Doing.setStatus (if m.refusal = .noEntry then 127 else 126)

/-- Runs a program by its name. `who` stands in front of complaints. A file that names no
interpreter is run by a shell. -/
def runProgram (r : Runner) (last : Bool) (line : Nat) (who : String) (name : List Char)
    (arguments : List (List Char)) : Doing Unit := do
  match ← Doing.look fun t => Found.ofWords t (name :: arguments) with
  | .ok f => r.runFound last f
  | .error m =>
      let said (why : String) : String := who ++ String.ofList name ++ ": " ++ why
      if m.byEnv then complainUnderEnv m
      else
        match m.refusal with
        | .execFormat => runProcess last (r.shell name (name :: arguments))
        | _ =>
            if name.isEmpty then Doing.fail line (said (Refusal.text .accessDenied)) 127
            else other said m.refusal
where
  other (said : String → String) : Refusal → Doing Unit
    | .noEntry | .notDirectory => Doing.fail line (said "not found") 127
    | refusal => Doing.fail line (said refusal.text) 126

end Runner

end WatchTrial.Shell
