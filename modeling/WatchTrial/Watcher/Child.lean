import WatchTrial.Watcher.Capture
import WatchTrial.Watcher.Process

set_option autoImplicit false

namespace WatchTrial

/-- A process that stands still, or is about to go on. -/
structure Task where
  /-- The number under which it was started. -/
  job : Nat
  process : Process
  /-- Since when it stands where it does. -/
  since : Nat
  /-- Whether it has been asked to end and is still to be told. -/
  asked : Bool := false
  /-- Whether it can write to the output. -/
  holds : Bool := true

namespace Task

def isOver (t : Task) : Bool := t.process.isOver

/-- Whether a task cannot write to the output any more. -/
def isMute (t : Task) : Bool := t.isOver || !t.holds

/-- Ended by a signal. -/
def die (t : Task) (signal : Nat) : Task := { t with process := .ended (.signalled signal) }

/-- What goes on by itself when a task dies. It cannot write to the output if the task could not. -/
def remains (t : Task) : List Task :=
  let (left, holds) := t.process.remains
  if left.isOver then []
  else [{ job := 0, process := left, since := t.since, holds := t.holds && holds }]

/-- The signal that no process withstands. -/
def kill : Nat := 9

/-- A task that is sent a signal, and what it leaves if it dies of it. -/
def receive (t : Task) (signal : Nat) : Task × List Task :=
  if t.isOver || signal = 0 then (t, [])
  else if signal = Process.termination then
    match t.process.heed with
    | .dies => (t.die signal, t.remains)
    | .ignores => (t, [])
    | .notes | .wakes => ({ t with asked := true }, [])
  else (t.die signal, t.remains)

theorem isOver_die (t : Task) (signal : Nat) : (t.die signal).isOver = true := rfl

theorem isOver_receive_kill (t : Task) : (t.receive kill).1.isOver = true := by
  by_cases ended : t.isOver = true
  · simp [receive, ended]
  · simp [receive, ended, kill, Process.termination, isOver_die]

end Task

structure Child where
  main : Task
  helpers : List Task := []
  /-- What has been written to the output, the last first. -/
  written : List Octets := []
  /-- What has been written as errors, the last first. -/
  complaints : List Octets := []

namespace Child

/-- A program that has just been started. Its own number is zero. -/
def ofProcess (p : Process) (now : Nat) : Child :=
  { main := { job := 0, process := p, since := now } }

def isRunning (c : Child) : Bool := !c.main.isOver

def output (c : Child) : Octets := c.written.reverse.flatten

def errors (c : Child) : Octets := c.complaints.reverse.flatten

/-- Whether no process can write to the output any more. -/
def isReleased (c : Child) : Bool := c.main.isOver && c.helpers.all Task.isMute

/-- Whether all processes have ended. -/
def isSettled (c : Child) : Bool := c.main.isOver && c.helpers.all Task.isOver

/-- How the helper with a number has ended, if it has. -/
def ending? (c : Child) (job : Nat) : Option Ending :=
  (c.helpers.find? fun t => t.job = job).bind fun t => t.process.ending?

/-- Whether no helper with one of the numbers goes on. -/
def haveEnded (c : Child) (jobs : List Nat) : Bool :=
  c.helpers.all fun t => !jobs.contains t.job || t.isOver

/-- Sends a signal to the program itself. -/
def receive (c : Child) (signal : Nat) : Child :=
  let (main, left) := c.main.receive signal
  { c with main, helpers := c.helpers ++ left }

def kill (c : Child) : Child := c.receive Task.kill

/-- Sends a signal to the process with a number. -/
def send (c : Child) (job signal : Nat) : Child :=
  if job = c.main.job then c.receive signal
  else
    let answers := c.helpers.map fun t => if t.job = job then t.receive signal else (t, [])
    { c with helpers := answers.map Prod.fst ++ answers.flatMap Prod.snd }

/-- Whether the process with a number goes on. -/
def goesOn (c : Child) (job : Nat) : Bool :=
  (c.main :: c.helpers).any fun t => t.job = job && !t.isOver

/-- What has been captured, with a reader that keeps up. -/
def capture (c : Child) : Capture :=
  let sofar := Capture.start.write c.output
  (if c.isReleased then sofar.close else sofar).drain

/-- The task with a place in the order main program, helpers. -/
def task (c : Child) : Nat → Task
  | 0 => c.main
  | n + 1 => c.helpers.getD n c.main

def setTask (c : Child) (t : Task) : Nat → Child
  | 0 => { c with main := t }
  | n + 1 => { c with helpers := c.helpers.set n t }

/-- When a task goes on. -/
def due? (c : Child) (t : Task) : Option Nat :=
  match t.process with
  | .ended _ => none
  | .pause duration .. => some (t.since + duration)
  | .await jobs heed .. =>
      if (t.asked && heed = .wakes) || c.haveEnded jobs then some t.since else none
  | _ => some t.since

/-- What a task does when it goes on. -/
def resumed (c : Child) (t : Task) : Process :=
  match t.process with
  | .pause _ _ _ _ next => next t.asked
  | .await jobs _ _ _ next => next t.asked (jobs.getLast?.bind c.ending?)
  | p => p

theorem written_send (c : Child) (job signal : Nat) : (c.send job signal).written = c.written := by
  unfold send
  split <;> rfl

theorem isRunning_kill (c : Child) : c.kill.isRunning = false := by
  simp [kill, receive, isRunning, Task.isOver_receive_kill]

end Child

end WatchTrial
