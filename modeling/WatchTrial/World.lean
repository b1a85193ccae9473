import WatchTrial.Failure
import WatchTrial.Number.Binary64
import WatchTrial.Tree.Change
import WatchTrial.Watcher.Scene

set_option autoImplicit false

/- What a trial acts on: the file tree, a clock, the log, and the watcher. An act changes the world
and either gives a value or stops; what it has changed by then stays changed. -/

namespace WatchTrial

/-- The longest time that can be waited for, in billionths of a second. -/
def maxTime : Nat := twoTo 63 - 1

/-- Why a number of seconds cannot be waited for, if so. -/
def Binary64.timeFault? (seconds : Binary64) : Option Fault :=
  match seconds, seconds.billionths? with
  | .nan, _ => some .timeNotANumber
  | _, none => some .timeTooLarge
  | _, some time => if maxTime < time then some .timeTooLarge else none

/-- A pause, as it is asked for. -/
inductive Nap where
  | wait (seconds : Nat)
  | grace (seconds : Binary64)
  deriving DecidableEq, Repr

namespace Nap

/-- How long a pause is to be, in billionths of a second. -/
def time : Nap → Nat
  | .wait seconds => seconds * tenTo 9
  | .grace seconds => seconds.billionths?.getD 0

/-- Why a pause cannot be asked for, if so. -/
def fault? : Nap → Option Fault
  | .wait seconds => if maxTime < seconds * tenTo 9 then some .timeTooLarge else none
  | .grace seconds => seconds.timeFault?

end Nap

inductive Level where
  | debug
  | info
  | warning
  deriving DecidableEq, Repr

def Level.name : Level → String
  | .debug => "DEBUG"
  | .info => "INFO"
  | .warning => "WARNING"

def Level.rank : Level → Nat
  | .debug => 0
  | .info => 1
  | .warning => 2

/-- The parts of the library that keep a log. -/
inductive Topic where
  | script
  | actions
  | watcher
  | trial
  deriving DecidableEq, Repr

def Topic.name : Topic → String
  | .script => "watch_harness.script_parser"
  | .actions => "watch_harness.actions"
  | .watcher => "watch_harness.watcher_process"
  | .trial => "watch_harness.conformance"

structure Record where
  level : Level
  topic : Topic
  text : String
  deriving DecidableEq, Repr

def Record.line (r : Record) : String := r.level.name ++ " " ++ r.topic.name ++ ": " ++ r.text

/-- What a program is started for. -/
inductive Purpose where
  | build
  | watch
  deriving DecidableEq, Repr

/-- A program that has been started. -/
structure Launch where
  purpose : Purpose
  words : List String
  deriving DecidableEq, Repr

structure World where
  tree : Tree
  /-- The time in billionths of a second. -/
  clock : Nat := 0
  /-- Whether a pause takes the time that it is to take. Where it takes none of its own, it lasts
  until the watcher has ended. -/
  timed : Bool := false
  naps : List Nap := []
  log : List Record := []
  /-- The programs started so far. -/
  launches : List Launch := []
  /-- Whether a build has succeeded. -/
  built : Bool := false
  /-- The watcher, once it has been started. -/
  child : Option Child := none
  /-- Whether the watcher's output is still being waited for. -/
  reading : Bool := false
  /-- Whether the reader has been written off: it was at work when it turned out that it cannot be
  waited for, and from then on it passes for done. -/
  writtenOff : Bool := false

/-- Something done in the world. -/
abbrev Act (α : Type) := ExceptT Stop (StateM World) α

namespace World

def warnings (w : World) : List String :=
  (w.log.filter fun r => r.level = .warning).map (·.text)

/-- The watchers started so far. -/
def watchers (w : World) : List Launch := w.launches.filter fun l => l.purpose = .watch

/-- Whether the watcher has been started and has not ended. -/
def isWatching (w : World) : Bool := w.child.any Child.isRunning

/-- Whether the reader of the watcher's output is to be waited for. -/
def awaits (w : World) : Bool := w.reading && !w.writtenOff

/-- The lines captured from the watcher so far. -/
def output (w : World) : List String :=
  match w.child with
  | none => []
  | some c => c.capture.lines

/-- Lets time pass until the watcher is as wanted, but not beyond the last moment. -/
def advance (w : World) (wanted : Child → Bool) (last : Option Nat) : World :=
  match w.child with
  | none => w
  | some c =>
      let s := Scene.runUntil wanted last Scene.turns ⟨w.tree, w.clock, c⟩
      { w with tree := s.tree, clock := s.clock, child := some s.child }

/-- The world when the watcher has ended by itself. -/
def afterWatcher (w : World) : World := w.advance (!·.isRunning) none

/-- Sends a signal to the watcher. -/
def signalWatcher (w : World) (signal : Nat) : World :=
  { w with child := w.child.map fun c => c.receive signal }

/-- The world when some time has gone by. -/
def lapse (w : World) (time : Nat) : World :=
  let after := w.advance (fun _ => false) (some (w.clock + time))
  { after with clock := max after.clock (w.clock + time) }

/-- Why a pause cannot be asked for in a world, if so. -/
def napFault? (w : World) (n : Nap) : Option Fault := if w.timed then n.fault? else none

/-- Whether a pause would end when the clock has come to its end. -/
def outlasts (w : World) (n : Nap) : Bool := w.timed && maxTime < w.clock + n.time

/-- The world after a pause that can be made. -/
def nap (w : World) (n : Nap) : World :=
  let after := if w.timed then w.lapse n.time else w.afterWatcher
  { after with naps := w.naps ++ [n] }

theorem isWatching_kill (w : World) : (w.signalWatcher Task.kill).isWatching = false := by
  cases started : w.child with
  | none => simp [signalWatcher, isWatching, started]
  | some c =>
      simp only [signalWatcher, isWatching, started, Option.map_some, Option.any_some]
      exact c.isRunning_kill

end World

namespace Act

variable {α : Type}

/-- Runs an act in a world. -/
def run (act : Act α) (w : World) : Except Stop α × World := (ExceptT.run act : StateM World _) w

def ofFunction (f : World → Except Stop α × World) : Act α := ExceptT.mk f

def stop (s : Stop) : Act α := throw s

def fail (f : Failure) : Act α := stop (.failed f)

def crash (f : Fault) : Act α := stop (.broken f)

def ofExcept (result : Except Stop α) : Act α := ofFunction fun w => (result, w)

def change (f : World → World) : Act Unit := ofFunction fun w => (.ok (), f w)

def look (f : World → α) : Act α := ofFunction fun w => (.ok (f w), w)

def note (level : Level) (topic : Topic) (text : String) : Act Unit :=
  change fun w => { w with log := w.log ++ [⟨level, topic, text⟩] }

/-- Makes a pause. The operating system refuses one that the clock does not reach as far as. -/
def nap (n : Nap) (refused : Refusal → Stop) : Act Unit :=
  ofFunction fun w =>
    match w.napFault? n with
    | some f => (.error (.broken f), w)
    | none => if w.outlasts n then (.error (refused .invalid), w) else (.ok (), w.nap n)

/-- Does something on the tree; a refusal stops in the given way. -/
def onTree (operation : Tree → Tree.Changed) (refused : Refusal → Stop) : Act Unit :=
  ofFunction fun w =>
    let changed := operation w.tree
    (changed.result.mapError refused, { w with tree := changed.tree })

/-- A first act, and whatever comes of it a second one, which it is for to stop if it must. -/
def followedBy (first : Act α) (second : Act Unit) : Act α :=
  ofFunction fun w =>
    let (result, after) := first.run w
    match second.run after with
    | (.error s, last) => (.error s, last)
    | (.ok (), last) => (result, last)

@[simp] theorem run_pure (a : α) (w : World) : (pure a : Act α).run w = (.ok a, w) := rfl

theorem run_bind {β : Type} (act : Act α) (next : α → Act β) (w : World) :
    (act >>= next).run w =
      match act.run w with
      | (.ok a, after) => (next a).run after
      | (.error s, after) => (.error s, after) := by
  change (ExceptT.bindCont next (act w).1) (act w).2 = _
  change _ = match act w with
      | (.ok a, after) => (next a).run after
      | (.error s, after) => (.error s, after)
  cases act w with
  | mk result after => cases result <;> rfl

@[simp] theorem run_ofFunction (f : World → Except Stop α × World) (w : World) :
    (ofFunction f).run w = f w := rfl

@[simp] theorem run_stop (s : Stop) (w : World) : (stop s : Act α).run w = (.error s, w) := rfl

end Act

end WatchTrial
