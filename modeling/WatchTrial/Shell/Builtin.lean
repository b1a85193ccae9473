import WatchTrial.Shell.Program

set_option autoImplicit false

namespace WatchTrial.Shell

def signals : List (String × Nat) :=
  [("EXIT", 0), ("HUP", 1), ("INT", 2), ("QUIT", 3), ("ABRT", 6), ("KILL", 9), ("USR1", 10),
    ("USR2", 12), ("PIPE", 13), ("ALRM", 14), ("TERM", 15), ("CHLD", 17), ("CONT", 18),
    ("STOP", 19)]

def signal? (text : List Char) : Option Nat :=
  match (String.ofList text).toNat? with
  | some n => some n
  | none =>
      match text with
      | 'S' :: 'I' :: 'G' :: name => signals.lookup (String.ofList name)
      | _ => signals.lookup (String.ofList text)

namespace Builtin

/-- Sends a signal to the shell itself. -/
def sendSelf (r : Runner) (signal : Nat) : Doing Unit := do
  let s ← Doing.get
  match s.trap? signal with
  | some [] => return
  | some action =>
      if signal = 0 then return
      else do
        r.runText action
        Doing.modify fun after => { after with status := s.status }
  | none => if signal ≠ 0 then Doing.modify fun s => { s with ended := some (.signalled signal) }

/-- Sends a signal to processes, which may be the shell itself. -/
def sendTo (r : Runner) (line signal : Nat) : List (List Char) → Doing Unit
  | [] => return
  | target :: rest => do
      match (String.ofList target).toNat? with
      | some n =>
          if n = Session.processNumber + (← Doing.get).number then sendSelf r signal
          else if n < Session.processNumber || !(← Doing.send (n - Session.processNumber) signal) then
            Doing.fail line "kill: No such process\n" 1
      | none => Doing.fail line ("kill: Illegal number: " ++ String.ofList target) 2
      sendTo r line signal rest

def killUsage : String :=
  "kill: Usage: kill [-s sigspec | -signum | -sigspec] [pid | job]... or\nkill -l [exitstatus]"

def kill (r : Runner) (line : Nat) (arguments : List (List Char)) : Doing Unit := do
  Doing.setStatus 0
  match arguments with
  | ['-', 's'] :: name :: targets =>
      match signal? name with
      | some signal => sendAll signal targets
      | none =>
          Doing.fail line ("kill: invalid signal number or name: " ++ String.ofList name) 2
  | ['-', '-'] :: targets => sendAll Process.termination targets
  | ('-' :: name) :: targets =>
      match signal? name with
      | some signal => sendAll signal targets
      | none => Doing.fail line ("kill: Illegal option -" ++ String.ofList (name.take 1)) 2
  | targets => sendAll Process.termination targets
where
  sendAll (signal : Nat) (targets : List (List Char)) : Doing Unit :=
    if targets.isEmpty then Doing.fail line killUsage 2 else sendTo r line signal targets

/-- A text between single quotes; the single quotes in it stand between double ones. -/
def quote : Nat → List Char → List Char
  | 0, _ => []
  | n + 1, text =>
      let plain := text.takeWhile (· != '\x27')
      let after := text.drop plain.length
      let quotes := after.takeWhile (· == '\x27')
      let rest := after.drop quotes.length
      '\x27' :: plain ++ ['\x27'] ++
        (if quotes.isEmpty then [] else '\x22' :: quotes ++ ['\x22']) ++
        (if rest.isEmpty then [] else quote n rest)

/-- Tells what is done on signals. -/
def tellTraps : Doing Unit := do
  let s ← Doing.get
  let ordered := s.traps.mergeSort fun a b => decide (a.1 ≤ b.1)
  ordered.forM fun (signal, action) => do
    let name := ((signals.find? fun entry => entry.2 = signal).map Prod.fst).getD (toString signal)
    let quoted := String.ofList (quote (action.length + 1) action)
    Doing.writeText ("trap -- " ++ quoted ++ " " ++ name ++ "\n")

/-- Sets what is done on signals; without an action what is usual is done again. -/
def trap (arguments : List (List Char)) : Doing Unit := do
  let isReset (a : List Char) (rest : List (List Char)) : Bool :=
    a == ['-'] || (String.ofList a).toNat?.isSome || (rest.isEmpty && (signal? a).isSome)
  Doing.setStatus 0
  match arguments with
  | [] => tellTraps
  | ['-', '-'] :: action :: names => put (some action) names
  | a :: rest =>
      if isReset a rest then put none (if a == ['-'] then rest else a :: rest)
      else put (some a) rest
where
  put (action : Option (List Char)) (names : List (List Char)) : Doing Unit :=
    names.forM fun name =>
      Doing.modify fun s =>
        match signal? name with
        | some signal =>
            let others := s.traps.filter fun t => t.1 != signal
            { s with traps := (action.map fun a => (signal, a)).toList ++ others }
        | none => s.withStatus 1

def exit (line : Nat) (arguments : List (List Char)) : Doing Unit := do
  match arguments with
  | [] => Doing.exit (← Doing.get).status
  | text :: _ =>
      match (String.ofList text).toNat? with
      | some n => Doing.exit n
      | none => Doing.give line ("exit: Illegal number: " ++ String.ofList text) 2

def goBack (arguments : List (List Char)) : Doing Unit := do
  let s ← Doing.get
  let status := ((arguments.head?.bind fun a => (String.ofList a).toNat?).getD s.status) % 256
  Doing.set { s with leaving := some .function, status }

def shift (line : Nat) (arguments : List (List Char)) : Doing Unit := do
  let s ← Doing.get
  let count := (arguments.head?.bind fun a => (String.ofList a).toNat?).getD 1
  if s.arguments.length < count then Doing.give line "shift: can\x27t shift that many" 2
  else Doing.set { s with arguments := s.arguments.drop count, status := 0 }

/-- Leaves loops, but not more of them than there are. -/
def leave (goesOn : Bool) (arguments : List (List Char)) : Doing Unit :=
  let count := (arguments.head?.bind fun a => (String.ofList a).toNat?).getD 1
  Doing.modify fun s =>
    let count := min count s.nest
    { s with
      leaving := if count = 0 then s.leaving else some (.loops count goesOn)
      status := 0 }

/-- Waits for processes that go on by themselves: those that are named, or all of them. -/
def wait (line : Nat) (arguments : List (List Char)) : Doing Unit := do
  if let some bad := arguments.find? fun a => (String.ofList a).toNat?.isNone then
    Doing.fail line ("wait: Illegal number: " ++ String.ofList bad) 2
    return
  let s ← Doing.get
  let named := arguments.filterMap fun a =>
    ((String.ofList a).toNat?).map fun n => n - Session.processNumber
  let jobs := if arguments.isEmpty then s.jobs else named
  if jobs.any fun job => !s.jobs.contains job then Doing.setStatus 127
  else if jobs.isEmpty then Doing.setStatus 0
  else
    let e ← Doing.await jobs
    Doing.modify fun s =>
      if s.asked then s.withStatus (128 + Process.termination)
      else if arguments.isEmpty then { s with jobs := [], status := 0 }
      else s.withStatus ((e.map Doing.statusOf).getD 127)

/-- Sets arguments and options. -/
def setOptions (line : Nat) (arguments : List (List Char)) : Doing Unit := do
  match Options.read [] arguments (← Doing.get) with
  | .error what => Doing.give line ("set: " ++ what) 2
  | .ok o =>
      let given := if o.closed || !o.rest.isEmpty then o.rest else o.session.arguments
      Doing.set { o.session with arguments := given, status := 0 }

/-- The name in an assignment, and its value if it has one. -/
def splitAssignment (text : List Char) : List Char × Option (List Char) :=
  match text.dropWhile (· != '=') with
  | _ :: value => (text.takeWhile (· != '='), some value)
  | [] => (text, none)

/-- Makes the assignment that an argument is, if it is one. -/
def assign (line : Nat) (who : String) (text : List Char) : Doing (List Char) := do
  let (name, value) := splitAssignment text
  if let some value := value then Doing.assign line who name value
  return name

/-- Lets programs see names, which may be given values. -/
def exportAll (line : Nat) (arguments : List (List Char)) : Doing Unit := do
  Doing.setStatus 0
  (arguments.filter fun a => a.head? != some '-').forM fun text => do
    let name ← assign line "export: " text
    Doing.modify fun s => { s with exported := name :: s.exported }

/-- Lets names keep their values, which may be given here. -/
def fixAll (line : Nat) (arguments : List (List Char)) : Doing Unit := do
  Doing.setStatus 0
  (arguments.filter fun a => a.head? != some '-').forM fun text => do
    let name ← assign line "readonly: " text
    Doing.modify fun s => { s with fixed := name :: s.fixed }

/-- Gives names values that are forgotten when the function is left. -/
def makeLocal (line : Nat) (arguments : List (List Char)) : Doing Unit := do
  match (← Doing.get).saved with
  | none => Doing.give line "local: not in a function" 2
  | some _ => do
      Doing.setStatus 0
      arguments.forM fun text => do
        let (name, _) := splitAssignment text
        Doing.modify fun s =>
          { s with saved := s.saved.map fun saved => (name, s.lookUp? name) :: saved }
        let _ ← assign line "local: " text

def unset (line : Nat) (arguments : List (List Char)) : Doing Unit := do
  Doing.setStatus 0
  let functions := arguments.contains ['-', 'f']
  (arguments.filter fun a => a.head? != some '-').forM fun name => do
    let s ← Doing.get
    if functions then
      Doing.set { s with functions := s.functions.filter fun f => f.1 != name }
    else if s.fixed.contains name then
      Doing.give line ("unset: " ++ String.ofList name ++ ": is read only") 2
    else Doing.set (s.unassign name)

/-- The name of the working directory. -/
def directoryName : Doing (List Char) := do
  let place ← Doing.look fun t => t.here
  return '/' :: Text.join '/' place

def tellDirectory : Doing Unit := do
  Doing.writeText (String.ofList (← directoryName) ++ "\n")
  Doing.setStatus 0

/-- Goes to a directory: the one that is named, the usual one, or after a dash the one before. -/
def changeDirectory (line : Nat) (arguments : List (List Char)) : Doing Unit := do
  let s ← Doing.get
  let given := (arguments.filter fun a => a != ['-', '-']).head?
  let target := given.getD (s.parameter "HOME".toList)
  let isBack := target == ['-']
  let target := if isBack then s.parameter "OLDPWD".toList else target
  let before ← directoryName
  match ← Doing.look fun t => Tool.find t target with
  | .ok (place, .directory) => do
      Doing.modify fun s => { s with here := some place, status := 0 }
      let after ← directoryName
      Doing.modify fun s => (s.assign "OLDPWD".toList before).assign "PWD".toList after
      if isBack then tellDirectory
  | _ =>
      if given.isSome then Doing.fail line ("cd: can\x27t cd to " ++ String.ofList target) 2
      else Doing.setStatus 0

/-- The first line of what can be read, the rest, and whether the line has an end. A backslash keeps
the next character from being a separator or, before a line feed, joins lines. -/
def readLine (raw : Bool) : Nat → List Char → List Glyph × List Char × Bool
  | 0, text => ([], text, false)
  | _ + 1, [] => ([], [], false)
  | n + 1, c :: rest =>
      if c == '\n' then ([], rest, true)
      else
        match c, rest with
        | '\\', d :: after =>
            if raw then
              let (more, rest, ended) := readLine raw n rest
              (⟨c, false⟩ :: more, rest, ended)
            else
              let (more, rest, ended) := readLine raw n after
              (if d == '\n' then more else ⟨d, true⟩ :: more, rest, ended)
        | _, _ =>
            let (more, rest, ended) := readLine raw n rest
            (⟨c, false⟩ :: more, rest, ended)

/-- Gives names the fields of a line, the last one all that is left. -/
def distribute (separators : List Char) : List (List Char) → List Glyph → Session → Session
  | [], _, s => s
  | [name], text, s =>
      let kept := (text.reverse.dropWhile isBlank).reverse
      s.assign name (Pattern.chars (withoutLast kept))
  | name :: names, text, s =>
      let field := text.takeWhile (!isSeparator ·)
      let after := (text.drop field.length).dropWhile isBlank
      let after :=
        match after with
        | g :: rest => if isSeparator g then rest.dropWhile isBlank else after
        | [] => []
      distribute separators names after (s.assign name (Pattern.chars field))
where
  isSeparator (g : Glyph) : Bool := !g.quoted && separators.contains g.char
  isBlank (g : Glyph) : Bool := isSeparator g && Arithmetic.isBlank g.char
  /-- A field that ends with the only separator in it does not hold that. -/
  withoutLast (text : List Glyph) : List Glyph :=
    match text.reverse with
    | g :: rest =>
        if isSeparator g && !(rest.any isSeparator) then (rest.dropWhile isBlank).reverse else text
    | [] => []

def read (line : Nat) (arguments : List (List Char)) : Doing Unit := do
  let (_, others) := Tool.valued 'p' arguments
  let raw := others.any fun a => a.head? == some '-' && a.contains 'r'
  let names := others.filter fun a => a.head? != some '-'
  if names.isEmpty then Doing.fail line "read: arg count" 2
  else
    let s ← Doing.get
    let text := Text.Utf8.decodeLossy s.input
    let (found, rest, ended) := readLine raw (text.length + 1) text
    Doing.set { s with input := Text.Utf8.encode rest, status := if ended then 0 else 1 }
    match names.find? s.fixed.contains with
    | some name => Doing.fail line ("read: " ++ String.ofList name ++ ": is read only") 2
    | none =>
        let separators := s.separators
        let start := found.dropWhile fun g =>
          !g.quoted && separators.contains g.char && Arithmetic.isBlank g.char
        Doing.modify (distribute separators names start)

def printf (line : Nat) (arguments : List (List Char)) : Doing Unit := do
  match arguments with
  | [] => Doing.fail line "printf: usage: printf format [arg ...]" 2
  | ['-', '-'] :: format :: rest | format :: rest => do
      let f := Format.printf (rest.length + 1) format rest
      Doing.write f.octets
      f.wrong.forM fun (text, started) =>
        Doing.complainAt line ("printf: " ++ String.ofList text ++
          if started then ": not completely converted" else ": expected numeric value")
      match f.unknown with
      | some [] => Doing.fail line "printf: missing format character" 2
      | some text => Doing.fail line ("printf: %" ++ String.ofList text ++ ": invalid directive") 2
      | none => Doing.setStatus (if f.wrong.isEmpty then 0 else 1)

def test (line : Nat) (name : String) (arguments : List (List Char)) : Doing Unit := do
  match ← Doing.look fun t => Condition.test t arguments with
  | .ok answer => Doing.setStatus (if answer then 0 else 1)
  | .error what => Doing.fail line (name ++ ": " ++ what) 2

/-- Runs a file in this shell. Without a slash its name would have to be that of a program. -/
def source (r : Runner) (line : Nat) (arguments : List (List Char)) : Doing Unit := do
  match arguments with
  | [] => Doing.setStatus 0
  | file :: _ =>
      if !file.contains '/' then Doing.give line (".: " ++ String.ofList file ++ ": not found") 2
      else
        match ← Doing.look fun t => Tool.readFile t file with
        | .ok content => do
            Doing.setStatus 0
            r.runText (Text.Utf8.decodeLossy content)
            Doing.modify fun s =>
              { s with leaving := if s.leaving = some .function then none else s.leaving }
        | .error refusal => Doing.give line (".: " ++ Redirect.cannotOpen file refusal) 2

/-- Commands after whose failure the shell does not go on, and whose assignments stay. -/
def special : List String :=
  [".", ":", "break", "continue", "eval", "exec", "exit", "export", "readonly", "return", "set",
    "shift", "times", "trap", "unset", "local"]

/-- The other commands that a shell carries out itself. -/
def ordinary : List String :=
  ["true", "false", "echo", "printf", "test", "[", "kill", "wait", "read", "cd", "pwd",
    "command", "type", "umask", "hash", "alias", "unalias", "ulimit", "jobs", "getopts"]

/-- Where the programs of the system are found. -/
def programDirectory : String := "/usr/bin/"

/-- What is run under a name, and how that is found; nothing if there is nothing. -/
def nature? (s : Session) (t : Tree) (name : List Char) : Option (String × String) :=
  let text := String.ofList name
  if Command.closers.contains text || Command.openers.contains text then
    some ("a shell keyword", text)
  else if (s.functions.lookup name).isSome then some ("a shell function", text)
  else if special.contains text then some ("a special shell builtin", text)
  else if ordinary.contains text then some ("a shell builtin", text)
  else if name.contains '/' then
    match Found.ofWords t [name] with
    | .ok _ | .error ⟨_, .execFormat, _⟩ => some (text, text)
    | .error _ => none
  else if isProgram name then some (programDirectory ++ text, programDirectory ++ text)
  else none

/-- Tells what is run under names: in a sentence, or just how it is found. -/
def describe (inSentences : Bool) (arguments : List (List Char)) : Doing Unit := do
  Doing.setStatus 0
  arguments.forM fun name => do
    let s ← Doing.get
    let text := String.ofList name
    match ← Doing.look fun t => nature? s t name with
    | some (what, found) =>
        Doing.writeText ((if inSentences then text ++ " is " ++ what else found) ++ "\n")
    | none => do
        if inSentences then Doing.writeText (text ++ ": not found\n")
        Doing.setStatus 127

/-- Runs a command by its name. -/
def runNamed (r : Runner) (last : Bool) (line : Nat) (name : List Char)
    (arguments : List (List Char)) : Doing Unit := do
  match String.ofList name, arguments with
  | "umask", [] => do
      Doing.writeText "0022\n"
      Doing.setStatus 0
  | ":", _ | "true", _ | "times", _ | "umask", _ | "hash", _ | "alias", _ | "unalias", _
  | "ulimit", _ | "jobs", _ => Doing.setStatus 0
  | "false", _ | "getopts", _ => Doing.setStatus 1
  | "echo", _ => do
      Doing.write (Format.echo arguments)
      Doing.setStatus 0
  | "printf", _ => printf line arguments
  | "test", _ => test line "test" arguments
  | "[", _ =>
      if arguments.getLast? = some [']'] then test line "[" arguments.dropLast
      else Doing.fail line "[: missing ]" 2
  | "exit", _ => exit line arguments
  | "return", _ => goBack arguments
  | "kill", _ => kill r line arguments
  | "trap", _ => trap arguments
  | "shift", _ => shift line arguments
  | "wait", _ => wait line arguments
  | "break", _ => leave false arguments
  | "continue", _ => leave true arguments
  | "set", _ => setOptions line arguments
  | "export", _ => exportAll line arguments
  | "readonly", _ => fixAll line arguments
  | "local", _ => makeLocal line arguments
  | "unset", _ => unset line arguments
  | "cd", _ => changeDirectory line arguments
  | "pwd", _ => tellDirectory
  | "read", _ => read line arguments
  | "eval", _ => do
      Doing.setStatus 0
      r.runText ([' '].intercalate arguments)
  | ".", _ => source r line arguments
  | "command", ['-', 'v'] :: rest => describe false rest
  | "command", ['-', 'V'] :: rest | "type", rest => describe true rest
  | "exec", [] => Doing.setStatus 0
  | "exec", target :: rest => do
      Doing.modify fun s => { s with traps := s.ignored }
      r.runProgram true line "exec: " target rest
      Doing.modify fun s => { s with ended := some (s.ended.getD (.exited s.status)) }
  | _, _ => r.runProgram last line "" name arguments

/-- Runs the command that is named after the word `command`. -/
def runCommand (r : Runner) (last : Bool) (line : Nat) (name : List Char)
    (arguments : List (List Char)) : Doing Unit :=
  match String.ofList name, arguments with
  | "command", first :: rest =>
      if first.head? == some '-' && first != ['-', 'p'] then runNamed r last line name arguments
      else if first == ['-', 'p'] then
        match rest with
        | target :: rest => runNamed r last line target rest
        | [] => Doing.setStatus 0
      else runNamed r last line first rest
  | "command", [] => Doing.setStatus 0
  | _, _ => runNamed r last line name arguments

end Builtin

end WatchTrial.Shell
