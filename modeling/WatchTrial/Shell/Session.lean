import WatchTrial.Shell.Command
import WatchTrial.Tree.Change
import WatchTrial.Watcher.Process

set_option autoImplicit false

namespace WatchTrial.Shell

/-- Where written octets go. -/
inductive Sink where
  | channel (c : Channel)
  | file (location : Location)
  | nowhere
  deriving DecidableEq, Repr

/-- Why the commands that follow are passed over. -/
inductive Leaving where
  /-- So many loops are being left, and the last of them goes on or not. -/
  | loops (count : Nat) (goesOn : Bool)
  | function
  deriving DecidableEq, Repr

structure Session where
  name : List Char
  arguments : List (List Char)
  bindings : List (List Char × List Char) := []
  /-- The names that programs see. -/
  exported : List (List Char) := []
  /-- The names whose values stay as they are. -/
  fixed : List (List Char) := []
  functions : List (List Char × Command) := []
  /-- In a function the values to which the names that are local to it go back. -/
  saved : Option (List (List Char × Option (List Char))) := none
  /-- The status of the last command. -/
  status : Nat := 0
  /-- The status of the last script whose output went into the command at hand. -/
  outcome : Option Nat := none
  /-- What is left to be read. -/
  input : Octets := []
  sinks : List (Nat × Sink) := [(1, .channel .output), (2, .channel .errors)]
  /-- The working directory, if it is not the usual one. -/
  here : Option Location := none
  /-- What is done on a signal, zero standing for the end; nothing at all for one that is
  ignored. -/
  traps : List (Nat × List Char) := []
  /-- Whether it has been asked to end and has not dealt with that. -/
  asked : Bool := false
  ended : Option Ending := none
  leaving : Option Leaving := none
  /-- How many loops are around the command at hand. -/
  nest : Nat := 0
  /-- Whether a command that fails ends the shell. -/
  strict : Bool := false
  /-- Whether a parameter that is not set ends the shell. -/
  careful : Bool := false
  /-- Whether patterns stand for themselves. -/
  literal : Bool := false
  /-- The number of this process among all that a program starts. -/
  number : Nat := 0
  /-- The number of the shell that this process is a part of. -/
  shell : Nat := 0
  /-- How many processes it has started. -/
  started : Nat := 0
  /-- The processes that were started to go on by themselves, the last first. -/
  jobs : List Nat := []
  /-- How many pipes are around it. -/
  depth : Nat := 0

namespace Session

/-- The number that the system gives the first process; nothing depends on it. -/
def processNumber : Nat := 4242

/-- Whether the commands that follow are passed over. -/
def isPassing (s : Session) : Bool := s.ended.isSome || s.leaving.isSome

def withStatus (s : Session) (status : Nat) : Session := { s with status }

/-- Ended with a status, of which eight bits are kept. -/
def exit (s : Session) (status : Int) : Session :=
  { s with ended := some (.exited (status % 256).toNat) }

def lookUp? (s : Session) (name : List Char) : Option (List Char) := s.bindings.lookup name

def assign (s : Session) (name value : List Char) : Session :=
  { s with bindings := (name, value) :: s.bindings.filter fun v => v.1 != name }

def unassign (s : Session) (name : List Char) : Session :=
  { s with bindings := s.bindings.filter fun v => v.1 != name }

/-- Gives a name its value, or takes it away. -/
def restore (s : Session) (name : List Char) (value : Option (List Char)) : Session :=
  match value with
  | some value => s.assign name value
  | none => s.unassign name

/-- Characters at which values are cut into fields. -/
def separators (s : Session) : List Char := (s.lookUp? "IFS".toList).getD [' ', '\t', '\n']

/-- The text that stands for a job. -/
def jobText (job : Nat) : List Char := (toString (processNumber + job)).toList

/-- The letters of the options that are on. -/
def optionLetters (s : Session) : List Char :=
  (if s.careful then ['u'] else []) ++ (if s.literal then ['f'] else []) ++
    (if s.strict then ['e'] else [])

/-- The value of a parameter, if it is set. -/
def parameter? (s : Session) (name : List Char) : Option (List Char) :=
  match String.ofList name with
  | "#" => some (toString s.arguments.length).toList
  | "?" => some (toString s.status).toList
  | "$" => some (jobText s.shell)
  | "0" => some s.name
  | "@" => if s.arguments.isEmpty then none else some ([' '].intercalate s.arguments)
  | "*" =>
      if s.arguments.isEmpty then none
      else some ((s.separators.take 1).intercalate s.arguments)
  | "!" => s.jobs.head?.map jobText
  | "-" => some s.optionLetters
  | text =>
      match text.toNat? with
      | some n => s.arguments[n - 1]?
      | none => s.lookUp? name

def parameter (s : Session) (name : List Char) : List Char := (s.parameter? name).getD []

def sink (s : Session) (channel : Nat) : Sink := (s.sinks.lookup channel).getD .nowhere

def setSink (s : Session) (channel : Nat) (sink : Sink) : Session :=
  { s with sinks := (channel, sink) :: s.sinks.filter fun c => c.1 != channel }

/-- Whether a process with the sinks of this one can write to the output. -/
def holds (s : Session) : Bool := s.sinks.any fun c => c.2 = .channel .output

/-- The tree as it is seen from the working directory. -/
def seen (s : Session) (t : Tree) : Tree :=
  match s.here with
  | some here => { t with here }
  | none => t

/-- What is done when the shell is asked to end, if anything is. -/
def trap? (s : Session) (signal : Nat) : Option (List Char) := s.traps.lookup signal

/-- How a program that takes the place of the shell takes being asked to end. -/
def programHeed (s : Session) : Heed :=
  match s.trap? 15 with
  | some [] => .ignores
  | _ => .dies

/-- How the shell takes being asked to end while it waits for a command. -/
def heed (s : Session) : Heed :=
  match s.trap? 15 with
  | none => .dies
  | some [] => .ignores
  | some _ => .notes

/-- Whether something is to be done on some signal. -/
def hasTraps (s : Session) : Bool := s.traps.any fun t => !t.2.isEmpty

/-- The signals that are ignored, which processes that are started ignore too. -/
def ignored (s : Session) : List (Nat × List Char) := s.traps.filter fun t => t.2.isEmpty

/-- The number of the next process to be started. -/
def nextNumber (s : Session) : Nat := s.number * 1000 + s.started + 1

/-- A process of its own that starts from a session. -/
def apart (s : Session) : Session :=
  { s with
    traps := s.ignored
    asked := false
    ended := none
    leaving := none
    number := s.nextNumber
    started := 0
    jobs := [] }

/-- The values that a program sees. -/
def environment (s : Session) : List (List Char × List Char) :=
  s.bindings.filter fun b => s.exported.contains b.1

/-- The session of a program that is started from a session. -/
def program (s : Session) (name : List Char) (arguments : List (List Char)) : Session :=
  { name
    arguments
    bindings := s.environment
    exported := s.exported
    input := s.input
    sinks := s.sinks
    here := s.here
    traps := s.ignored
    number := s.nextNumber
    shell := s.nextNumber
    depth := s.depth }

/-- The session with the sinks of another one, and with its input if that was replaced. -/
def backTo (inner outer : Session) (replaced : Bool) : Session :=
  { inner with
    sinks := outer.sinks
    input := if replaced then outer.input else inner.input }

end Session

/-- Something that a shell does. It may change its session, and other processes may have their turn
before it goes on. -/
def Doing (α : Type) : Type := Session → (α → Session → Process) → Process

namespace Doing

variable {α : Type}

instance : Monad Doing where
  pure a := fun s next => next a s
  bind doing further := fun s next => doing s fun a s => further a s next

def get : Doing Session := fun s next => next s s

def modify (f : Session → Session) : Doing Unit := fun s next => next () (f s)

def set (s : Session) : Doing Unit := modify fun _ => s

def setStatus (status : Nat) : Doing Unit := modify fun s => s.withStatus status

/-- What stands in the tree. -/
def look (f : Tree → α) : Doing α := fun s next => .look fun t => next (f (s.seen t)) s

/-- Changes the tree. -/
def change (f : Tree → α × Tree) : Doing α := fun s next =>
  .look fun t =>
    let (a, changed) := f (s.seen t)
    .put { changed with here := t.here } fun _ => next a s

/-- Adds octets to a file, if it is still there. -/
def append (t : Tree) (location : Location) (octets : Octets) : Tree :=
  match t.get? location with
  | some (.file content executable) => t.set location (.file (content ++ octets) executable)
  | _ => t

/-- Writes to a sink. -/
def put (sink : Sink) (octets : Octets) : Doing Unit := fun s next =>
  if octets.isEmpty then next () s
  else
    match sink with
    | .channel c => .write c octets fun _ => next () s
    | .file location => .look fun t => .put (append t location octets) fun _ => next () s
    | .nowhere => next () s

def write (octets : Octets) : Doing Unit := do put ((← get).sink 1) octets

def writeText (text : String) : Doing Unit := write (Text.Utf8.encode text.toList)

def writeError (octets : Octets) : Doing Unit := do put ((← get).sink 2) octets

def complain (text : String) : Doing Unit := writeError (Text.Utf8.encode (text ++ "\n").toList)

/-- A message of the shell about the command on a line. -/
def complainAt (line : Nat) (text : String) : Doing Unit := do
  complain (String.ofList (← get).name ++ ": " ++ toString line ++ ": " ++ text)

/-- Complains and gives a status. -/
def fail (line : Nat) (text : String) (status : Nat) : Doing Unit := do
  complainAt line text
  setStatus status

def exit (status : Int) : Doing Unit := modify fun s => s.exit status

/-- Complains and ends the shell. -/
def give (line : Nat) (text : String) (status : Nat) : Doing Unit := do
  complainAt line text
  exit status

/-- Gives a name a value. One whose value is to stay as it is ends the shell. -/
def assign (line : Nat) (who : String) (name value : List Char) : Doing Unit := do
  if (← get).fixed.contains name then give line (who ++ String.ofList name ++ ": is read only") 2
  else modify fun s => s.assign name value

/-- Stands still for a time. -/
def pause (duration : Nat) : Doing Unit := fun s next =>
  .pause duration s.heed .nothing false fun asked => next () { s with asked := s.asked || asked }

/-- Waits for a process, with its output read if it writes to the given channel. -/
def within (p : Process) (reads : Option Channel) : Doing (Ending × Octets) := fun s next =>
  let watch : Process.Watch := ⟨s.number, s.heed, s.holds, reads⟩
  p.within watch
    (fun e asked found =>
      next (e, found) { s with asked := s.asked || asked, started := s.started + 1 })
    false []

/-- Goes on as a process, and as the shell again only to end with it. -/
def become (p : Process) : Doing Ending := fun s next => p.follow fun e => next e s

/-- Starts a process that goes on by itself. The flag says whether it can write to the output. -/
def launch (holds : Bool) (p : Process) : Doing Unit := fun s next =>
  let number := s.nextNumber
  .launch number holds p fun _ =>
    next () { s with started := s.started + 1, jobs := number :: s.jobs }

/-- Sends a signal to a process, and learns whether there is one. -/
def send (job signal : Nat) : Doing Bool := fun s next => .send job signal fun found => next found s

/-- Waits for processes that were started to go on by themselves. -/
def await (jobs : List Nat) : Doing (Option Ending) := fun s next =>
  let heed := if s.heed = .notes then .wakes else s.heed
  .await jobs heed .nothing false fun asked e => next e { s with asked := s.asked || asked }

/-- The status that a shell gives for an ending. -/
def statusOf : Ending → Nat
  | .exited status => status
  | .signalled signal => 128 + signal

end Doing

end WatchTrial.Shell
