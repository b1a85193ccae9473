import WatchTrial.SystemError
import WatchTrial.Tree.Basic

set_option autoImplicit false

/- Processes, as trees of what they do: each step leads to what is done next, given what has been
seen. A process takes time only where it pauses or waits for others. Times are in billionths of a
second. -/

namespace WatchTrial

/-- How a process ends. -/
inductive Ending where
  | exited (status : Nat)
  | signalled (signal : Nat)
  deriving DecidableEq, Repr

/-- The status of an ended process; a signal counts below zero. -/
def Ending.status : Ending → Int
  | .exited status => status
  | .signalled signal => -(signal : Int)

/-- How a process that stands still takes being asked to end. -/
inductive Heed where
  | dies
  | ignores
  /-- It is told when it goes on. -/
  | notes
  /-- It goes on at once and is told. -/
  | wakes
  deriving DecidableEq, Repr

/-- Where a process writes: to its output, to its errors, or to a process that reads from it. -/
inductive Channel where
  | output
  | errors
  | pipe (depth : Nat)
  deriving DecidableEq, Repr

inductive Process where
  | ended (e : Ending)
  | write (channel : Channel) (octets : Octets) (next : Unit → Process)
  /-- Sees the file tree. -/
  | look (next : Tree → Process)
  /-- Leaves the file tree as given. -/
  | put (t : Tree) (next : Unit → Process)
  /-- Starts another process under a number. The flag says whether that one can write to the
  output. -/
  | launch (job : Nat) (holds : Bool) (started : Process) (next : Unit → Process)
  /-- Sends a signal to a process with a number, and learns whether there is one that goes on. -/
  | send (job signal : Nat) (next : Bool → Process)
  /-- Stands still for a time. Should it die, `left` goes on by itself; the flag says whether that
  can write to the output. -/
  | pause (duration : Nat) (heed : Heed) (left : Process) (holds : Bool) (next : Bool → Process)
  /-- Stands still until processes that it has started have ended, and learns how the last of them
  did. -/
  | await (jobs : List Nat) (heed : Heed) (left : Process) (holds : Bool)
      (next : Bool → Option Ending → Process)

namespace Process

/-- A process that does nothing. -/
def nothing : Process := .ended (.exited 0)

/-- One process, and in its place another one when it has ended. -/
def follow (next : Ending → Process) : Process → Process
  | .ended e => next e
  | .write channel octets rest => .write channel octets fun u => (rest u).follow next
  | .look rest => .look fun t => (rest t).follow next
  | .put t rest => .put t fun u => (rest u).follow next
  | .launch job holds started rest => .launch job holds started fun u => (rest u).follow next
  | .send job signal rest => .send job signal fun found => (rest found).follow next
  | .pause duration heed left holds rest =>
      .pause duration heed left holds fun asked => (rest asked).follow next
  | .await jobs heed left holds rest =>
      .await jobs heed left holds fun asked e => (rest asked e).follow next

/-- The signal that asks a process to end. -/
def termination : Nat := 15

/-- How a process waits for one that it has started. -/
structure Watch where
  /-- The number of the process that waits. -/
  number : Nat
  /-- How it takes being asked to end meanwhile. -/
  heed : Heed
  /-- Whether the other process can write to the output. -/
  holds : Bool
  /-- What is read from the other process, instead of being passed on. -/
  reads : Option Channel := none

/-- A process that waits for another one. It goes on with how that one has ended, whether it has
been asked to end meanwhile, and what has been read. The other process outlives it, unless it is
read from, also when it is the other one that sends the signal. -/
def within (w : Watch) (next : Ending → Bool → Octets → Process) :
    Process → Bool → Octets → Process
  | .ended e, asked, found => next e asked found
  | .write channel octets rest, asked, found =>
      if w.reads = some channel then (rest ()).within w next asked (found ++ octets)
      else .write channel octets fun u => (rest u).within w next asked found
  | .look rest, asked, found => .look fun t => (rest t).within w next asked found
  | .put t rest, asked, found => .put t fun u => (rest u).within w next asked found
  | .launch job holds started rest, asked, found =>
      .launch job holds started fun u => (rest u).within w next asked found
  | .send job signal rest, asked, found =>
      if job = w.number && signal ≠ 0 then
        if signal = termination && w.heed ≠ .dies then
          (rest true).within w next (asked || w.heed ≠ .ignores) found
        else .launch 0 w.holds (rest true) fun _ => .ended (.signalled signal)
      else .send job signal fun isThere => (rest isThere).within w next asked found
  | .pause duration heed left holds rest, asked, found =>
      let remains := if w.reads.isSome then nothing else .pause duration heed left holds rest
      .pause duration w.heed remains w.holds fun more =>
        (rest false).within w next (asked || more) found
  | .await jobs heed left holds rest, asked, found =>
      let remains := if w.reads.isSome then nothing else .await jobs heed left holds rest
      .await jobs w.heed remains w.holds fun more e =>
        (rest false e).within w next (asked || more) found

/-- How a process takes being asked to end where it stands. -/
def heed : Process → Heed
  | .pause _ heed .. | .await _ heed .. => heed
  | _ => .dies

/-- What goes on by itself if a process dies where it stands, and whether it can write to the
output. -/
def remains : Process → Process × Bool
  | .pause _ _ left holds _ | .await _ _ left holds _ => (left, holds)
  | _ => (nothing, false)

def ending? : Process → Option Ending
  | .ended e => some e
  | _ => none

def isOver (p : Process) : Bool := p.ending?.isSome

end Process

/-- What starts programs: given the file tree and the words of a command, the process that runs the
program. -/
abbrev Launcher := Tree → List String → Except Refusal Process

end WatchTrial
