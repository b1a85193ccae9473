import WatchTrial.Shell.Options
import WatchTrial.Shell.Redirect
import WatchTrial.Watcher.Child

set_option autoImplicit false

namespace WatchTrial.Shell

structure Runner where
  /-- Runs a command. The first flag says whether the shell has nothing to do after it, so that a
  program may take its place; the second whether a failure is looked at. -/
  run : Bool → Bool → Command → Doing Unit
  /-- How deep words may be nested. -/
  depth : Nat

namespace Runner

/-- Runs the commands of a text. -/
def runText (r : Runner) (text : List Char) : Doing Unit := r.run false false (Command.ofText text)

/-- The status that a session has come to. -/
def statusOf (s : Session) : Nat :=
  match s.ended with
  | none => s.status
  | some e => Doing.statusOf e

/-- Does what is to be done at the end of a shell. -/
def finish (r : Runner) : Doing Unit := do
  let s ← Doing.get
  match s.trap? 0, s.ended with
  | _, some (.signalled _) | none, _ | some [], _ => return
  | some action, _ => do
      let status := statusOf s
      Doing.set
        { s with
          status
          ended := none
          leaving := none
          traps := s.traps.filter fun t => t.1 != 0 }
      r.runText action
      Doing.modify fun s => { s with ended := some (s.ended.getD (.exited status)) }

/-- A process that runs something in a session and does what is to be done at the end. -/
def process (r : Runner) (body : Doing Unit) (s : Session) : Process :=
  let whole : Doing Unit := do
    body
    r.finish
  whole s fun _ s => .ended (s.ended.getD (.exited s.status))

/-- Waits for a process and takes its status. -/
def waitFor (p : Process) : Doing Unit := do
  let (e, _) ← Doing.within p none
  Doing.setStatus (Doing.statusOf e)

/-- Lets a process take the place of the shell. -/
def becomeProcess (p : Process) : Doing Unit := do
  let e ← Doing.become p
  Doing.modify fun s => { s with ended := some e, traps := [] }

/-- Does what is to be done when the shell has been asked to end. -/
def heedRequest (r : Runner) : Doing Unit := do
  let s ← Doing.get
  if s.asked && s.ended.isNone then
    Doing.set { s with asked := false }
    match s.trap? Process.termination with
    | some (c :: action) => do
        r.runText (c :: action)
        Doing.modify fun after => { after with status := s.status }
    | _ => return

/-- A session whose output is read by the shell. -/
def readFrom (s : Session) : Session × Channel :=
  let channel := Channel.pipe (s.depth + 1)
  ({ s.apart.setSink 1 (.channel channel) with depth := s.depth + 1 }, channel)

/-- The output of a script. -/
def substitute (r : Runner) (script : List Char) : Doing Octets := do
  let s ← Doing.get
  let (inner, channel) := readFrom s
  let p := r.process (r.run true false (Command.ofText script)) inner
  let (e, found) ← Doing.within p (some channel)
  Doing.modify fun s => { s with outcome := some (Doing.statusOf e) }
  return found

/-- How words on a line are expanded. -/
def expansion (r : Runner) (line : Nat) : Expansion := ⟨line, r.substitute⟩

/-- A process in which one command reads what another one writes. -/
def pipeline (r : Runner) (tested : Bool) (a b : Command) (s : Session) : Process :=
  let (writer, channel) := readFrom s
  let first := r.process (r.run true tested a) writer
  let reader := { s with started := s.started + 1 }.apart
  first.within ⟨reader.number, .dies, false, some channel⟩
    (fun _ _ found => r.process (r.run true tested b) { reader with input := found })
    false []

end Runner

end WatchTrial.Shell
