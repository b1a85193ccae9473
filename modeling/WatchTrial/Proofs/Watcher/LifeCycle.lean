import WatchTrial.Proofs.Trial.Lifetime

set_option autoImplicit false

/- The life of a watcher under calls in any number and order, while time goes by, signals arrive and
others change files. -/

namespace WatchTrial

namespace Watcher

/-- What is asked of a watcher, or happens meanwhile. -/
inductive Call where
  | build
  | start (roots : List Path)
  | terminate
  /-- The block in which the watcher is used is left. -/
  | leave
  | running
  | output
  /-- Time goes by until the watcher is as wanted, but not beyond the last moment. -/
  | elapse (wanted : Child → Bool) (last : Option Nat)
  | signal (number : Nat)
  /-- Somebody else changes the files. -/
  | alter (tree : Tree)

end Watcher

namespace World

open Watcher (Call)

variable (launcher : Launcher) (s : Settings)

def next (w : World) : Call → World
  | .build => ((Watcher.build launcher s).run w).2
  | .start roots => ((Watcher.start launcher s roots).run w).2
  | .terminate | .leave => ((Watcher.terminate s.terminateTimeout).run w).2
  | .running | .output => w
  | .elapse wanted last => w.advance wanted last
  | .signal number => w.signalWatcher number
  | .alter tree => { w with tree }

/-- What calls lead to. -/
def after (w : World) (calls : List Call) : World := calls.foldl (next launcher s) w

@[simp] theorem after_nil (w : World) : w.after launcher s [] = w := rfl

@[simp] theorem after_cons (w : World) (call : Call) (rest : List Call) :
    w.after launcher s (call :: rest) = (w.next launcher s call).after launcher s rest := rfl

variable {launcher s}

/-- What each of the calls keeps is kept by all of them. -/
theorem keeps_after {P : World → Prop} {calls : List Call}
    (kept : ∀ call ∈ calls, ∀ w, P w → P (w.next launcher s call)) {w : World} (held : P w) :
    P (w.after launcher s calls) := by
  induction calls generalizing w with
  | nil => exact held
  | cons call rest ih =>
      exact ih (fun other member => kept other (List.mem_cons_of_mem call member))
        (kept call List.mem_cons_self w held)

theorem isWatching_of_idle {w : World} (idle : w.child = none) : w.isWatching = false := by
  simp [isWatching, idle]

theorem isWatching_signalWatcher {w : World} (signal : Nat) (ended : w.isWatching = false) :
    (w.signalWatcher signal).isWatching = false := by
  rw [isWatching_eq_false] at ended ⊢
  intro after same
  simp only [signalWatcher, Option.map_eq_some_iff] at same
  obtain ⟨c, started, rfl⟩ := same
  have past := ended c started
  rw [Child.main_receive_of_isOver c signal past]
  exact past

end World

namespace Watcher

variable {launcher : Launcher} {s : Settings} {w after : World}

/-- There is nothing more to build. -/
def Built (s : Settings) (w : World) : Prop := w.built = true ∨ s.buildCommand = []

/-- What comes of a build. -/
theorem build_cases (launcher : Launcher) (s : Settings) (w : World) :
    Built s w ∧ (build launcher s).run w = (.ok (), w) ∨
      ¬Built s w ∧ (∃ note tree launches, (build launcher s).run w =
        (.ok (), { w with tree, launches, log := w.log ++ [note], built := true })) ∨
      ¬Built s w ∧ ∃ stop note tree launches, (build launcher s).run w =
        (.error stop, { w with tree, launches, log := w.log ++ [note] }) := by
  by_cases done : Built s w
  · exact Or.inl ⟨done, run_build_of_done done⟩
  · have new := done
    rw [Built, not_or, Bool.not_eq_true] at new
    obtain ⟨note, ran⟩ := run_build_of_new launcher new.1 new.2
    rw [ran]
    rcases runBuild_cases launcher s { w with log := w.log ++ [note] } with
      ⟨stop, refused⟩ | ⟨stop, tree, failed⟩ | ⟨tree, succeeded⟩
    · rw [refused]
      exact Or.inr (Or.inr ⟨done, stop, note, _, _, rfl⟩)
    · rw [failed]
      exact Or.inr (Or.inr ⟨done, stop, note, _, _, rfl⟩)
    · rw [succeeded]
      exact Or.inr (Or.inl ⟨done, note, _, _, rfl⟩)

theorem built_of_build (ran : (build launcher s).run w = (.ok (), after)) : Built s after := by
  rcases build_cases launcher s w with
    ⟨done, same⟩ | ⟨-, note, tree, launches, same⟩ | ⟨-, stop, note, tree, launches, same⟩
  · cases same.symm.trans ran
    exact done
  · cases same.symm.trans ran
    exact Or.inl rfl
  · cases same.symm.trans ran

theorem unchanged_of_build_error {stop : Stop}
    (ran : (build launcher s).run w = (.error stop, after)) :
    ¬Built s w ∧
      after = { w with tree := after.tree, log := after.log, launches := after.launches } := by
  rcases build_cases launcher s w with
    ⟨done, same⟩ | ⟨-, note, tree, launches, same⟩ | ⟨new, other, note, tree, launches, same⟩
  · cases same.symm.trans ran
  · cases same.symm.trans ran
  · cases same.symm.trans ran
    exact ⟨new, rfl⟩

theorem built_start (launcher : Launcher) (s : Settings) (roots : List Path) (w : World) :
    ((start launcher s roots).run w).2.built = w.built := by
  cases started : w.child with
  | some c => rw [run_start_of_started launcher s roots (by simp [started])]
  | none =>
      rcases start_cases launcher s roots started with ⟨stop, -, refused⟩ | ⟨process, -, going⟩
      · rw [refused]
      · rw [going]
        exact (continues_grace s _).built

/-- A first start that makes no program go leaves no watcher, and one that does leaves it, whatever
becomes of its time of grace. -/
theorem isSome_start (launcher : Launcher) (s : Settings) (roots : List Path)
    (idle : w.child = none) :
    ((start launcher s roots).run w).2.child.isSome = true ↔
      ∃ process, Launches launcher s roots w.tree process := by
  by_cases going : ∃ process, Launches launcher s roots w.tree process
  · obtain ⟨process, launches⟩ := going
    rw [run_start_of_launches idle launches]
    exact ⟨fun _ => ⟨process, launches⟩, fun _ => (continues_grace s _).started⟩
  · obtain ⟨stop, refused⟩ := run_start_of_not_launches idle going
    rw [refused]
    constructor
    · intro some
      rw [Option.isSome_iff_exists] at some
      obtain ⟨c, started⟩ := some
      cases idle.symm.trans started
    · exact fun launches => absurd launches going

/-- What becomes of a first start whose program can be started. -/
theorem outcome_of_launches {roots : List Path} {process : Process} (idle : w.child = none)
    (launches : Launches launcher s roots w.tree process) :
    let ran := (start launcher s roots).run w
    ran.2.watchers = w.watchers ++ [⟨.watch, words s roots⟩] ∧ ran.2.child.isSome = true ∧
      ran.1 = match graceFault? s w with
        | none => .ok ()
        | some f => .error (.broken f) := by
  intro ran
  have going : ran = (grace s).run (begun s roots process w) := run_start_of_launches idle launches
  have goes : (begun s roots process w).Continues ran.2 := going ▸ continues_grace s _
  refine ⟨goes.watchers.trans (watchers_add w _), goes.started, ?_⟩
  have same : graceFault? s (begun s roots process w) = graceFault? s w := rfl
  rw [going, ← same]
  rcases grace_cases s (begun s roots process w) with ⟨f, fault, graced⟩ | ⟨none, _, graced, -⟩
  · rw [graced, fault]
  · rw [graced, none]

theorem isSome_of_start_ok {roots : List Path}
    (ran : (start launcher s roots).run w = (.ok (), after)) : after.child.isSome = true := by
  cases begun : w.child with
  | some c =>
      rw [run_start_of_started launcher s roots (by simp [begun])] at ran
      cases ran
  | none =>
      rcases start_cases launcher s roots begun with ⟨stop, -, refused⟩ | ⟨process, launches, -⟩
      · cases refused.symm.trans ran
      · have started := (isSome_start launcher s roots begun).2 ⟨process, launches⟩
        rwa [ran] at started

/-- A watcher that has been ended, and whose output is not waited for any more. -/
structure Ended (w : World) : Prop where
  started : w.child.isSome = true
  past : w.isWatching = false
  waited : w.awaits = false

theorem ended_of_terminate (started : w.child.isSome = true)
    (ran : (terminate s.terminateTimeout).run w = (.ok (), after)) : Ended after := by
  have goes := continues_terminate s.terminateTimeout w
  have past := isWatching_terminate s.terminateTimeout w
  rw [ran] at goes past
  exact ⟨goes.started.trans started, past, awaits_of_terminate ran⟩

theorem keeps_ended_build : Act.Keeps Ended (build launcher s) :=
  keeps_build launcher s (fun _ _ _ _ ended => ⟨ended.started, ended.past, ended.waited⟩)
    fun _ _ ended => ⟨ended.started, ended.past, ended.waited⟩

theorem Ended.next (ended : Ended w) (call : Call) : Ended (w.next launcher s call) := by
  cases call with
  | build => exact keeps_ended_build w ended
  | start roots =>
      rw [World.next, run_start_of_started launcher s roots ended.started]
      exact ended
  | terminate | leave =>
      rw [World.next, terminate_of_done _ w ended.past ended.waited]
      exact ended
  | running | output => exact ended
  | elapse wanted last =>
      exact ⟨(World.continues_advance w _ last).started.trans ended.started,
        World.isWatching_advance w _ last ended.past,
        (World.awaits_advance w _ last).trans ended.waited⟩
  | signal number =>
      exact ⟨(World.continues_signalWatcher w number).started.trans ended.started,
        World.isWatching_signalWatcher number ended.past, ended.waited⟩
  | alter tree => exact ⟨ended.started, ended.past, ended.waited⟩

/-- Only a start changes whether a watcher has been started, and it does not take it back. -/
theorem isSome_next (launcher : Launcher) (s : Settings) (started : w.child.isSome = true)
    (call : Call) : (w.next launcher s call).child.isSome = true := by
  cases call with
  | build =>
      rw [World.next, child_build]
      exact started
  | start roots =>
      rw [World.next, run_start_of_started launcher s roots started]
      exact started
  | terminate | leave => exact (continues_terminate _ w).started.trans started
  | running | output | alter => exact started
  | elapse wanted last => exact (World.continues_advance w _ last).started.trans started
  | signal number => exact (World.continues_signalWatcher w number).started.trans started

/-- Only a build changes whether the watcher has been built. -/
theorem built_next {call : Call} (other : call ≠ .build) :
    (w.next launcher s call).built = w.built := by
  cases call with
  | build => exact absurd rfl other
  | start roots => exact built_start launcher s roots w
  | terminate | leave => exact (continues_terminate _ w).built
  | running | output | alter => rfl
  | elapse wanted last => exact (World.continues_advance w _ last).built
  | signal number => rfl

/-- A build that has succeeded is the last one to do anything. -/
theorem Built.next (built : Built s w) (call : Call) : Built s (w.next launcher s call) := by
  by_cases again : call = .build
  · subst again
    rw [World.next, run_build_of_done built]
    exact built
  · exact built.imp_left (built_next again).trans

/-- Of the watchers started, at most one has been started since the given ones; and as long as there
is none there is no reader to wait for. -/
structure Lived (before : List Launch) (w : World) : Prop where
  tracks : w.Tracks before
  quiet : w.child = none → w.awaits = false

variable {before : List Launch}

theorem Lived.next (lived : Lived before w) (call : Call) :
    Lived before (w.next launcher s call) where
  tracks := by
    cases call with
    | build => exact keeps_tracks_build launcher s w lived.tracks
    | start roots => exact keeps_tracks_start launcher s roots w lived.tracks
    | terminate | leave => exact keeps_tracks_terminate _ w lived.tracks
    | running | output | alter => exact lived.tracks
    | elapse wanted last => exact lived.tracks.continues (World.continues_advance w _ last)
    | signal number => exact lived.tracks.continues (World.continues_signalWatcher w number)
  quiet idle := by
    by_cases begun : w.child.isSome = true
    · have still := isSome_next launcher s begun call
      rw [idle] at still
      cases still
    · have none : w.child = none := by simpa using begun
      have quiet := lived.quiet none
      cases call with
      | build =>
          exact keeps_build (P := fun v => v.awaits = false) launcher s (fun _ _ _ _ quiet => quiet)
            (fun _ _ quiet => quiet) w quiet
      | start roots =>
          rcases start_cases launcher s roots none with ⟨stop, -, refused⟩ | ⟨process, launches, -⟩
          · rw [World.next, refused]
            exact quiet
          · have started := (isSome_start launcher s roots none).2 ⟨process, launches⟩
            rw [← World.next, idle] at started
            cases started
      | terminate | leave =>
          rw [World.next, terminate_of_done _ w (World.isWatching_of_idle none) quiet]
          exact quiet
      | running | output | alter | signal => exact quiet
      | elapse wanted last => exact (World.awaits_advance w _ last).trans quiet

end Watcher

/-- A world in which no watcher has been started yet. -/
structure World.Unused (w : World) : Prop where
  idle : w.child = none
  quiet : w.reading = false

theorem World.Unused.awaits {w : World} (unused : w.Unused) : w.awaits = false := by
  simp [World.awaits, unused.quiet]

namespace Watcher

variable {before : List Launch} {launcher : Launcher} {s : Settings}

/-- What holds wherever the calls of one watcher have led, besides the watchers started before. -/
structure LifeCycle (launcher : Launcher) (s : Settings) (before : List Launch) (w : World) :
    Prop where
  /-- At most one watcher has been started. -/
  one : w.watchers = before ∧ w.child = none ∨
    ∃ words, w.watchers = before ++ [⟨.watch, words⟩] ∧ w.child.isSome = true
  /-- After a start that succeeds, whatever happens, a start fails and does nothing. -/
  startedOnce : ∀ roots after, (start launcher s roots).run w = (.ok (), after) →
    ∀ calls again, let last := after.after launcher s calls
      (start launcher s again).run last = (.error (.failed (.launch .alreadyStarted)), last)
  /-- Nor does it do anything once a watcher has been started, even if that start has failed. -/
  spawnedOnce : w.child.isSome = true → ∀ calls again, let last := w.after launcher s calls
    (start launcher s again).run last = (.error (.failed (.launch .alreadyStarted)), last)
  /-- A first start whose program cannot be started fails, and nothing but the log has changed, so
  that the next one is again a first start. -/
  startRefused : w.child = none → ∀ roots,
    (¬∃ process, Launches launcher s roots w.tree process) →
      ∃ stop log, (start launcher s roots).run w = (.error stop, { w with log })
  /-- A first start whose program can be started starts it. It succeeds unless the watcher cannot be
  given its time of grace. -/
  mayStart : w.child = none → ∀ roots process, Launches launcher s roots w.tree process →
    let ran := (start launcher s roots).run w
    ran.2.watchers = w.watchers ++ [⟨.watch, words s roots⟩] ∧ ran.2.child.isSome = true ∧
      ran.1 = match graceFault? s w with
        | none => .ok ()
        | some f => .error (.broken f)
  /-- After a build that succeeds, whatever happens, a build does nothing. -/
  builtOnce : ∀ after, (build launcher s).run w = (.ok (), after) →
    ∀ calls, let last := after.after launcher s calls
      (build launcher s).run last = (.ok (), last)
  /-- A build that fails has left what its command has left, and nothing else has changed. The next
  build runs the command. -/
  buildFailed : ∀ stop after, (build launcher s).run w = (.error stop, after) →
    after = { w with tree := after.tree, log := after.log, launches := after.launches } ∧
      ∀ calls, (∀ call ∈ calls, call ≠ .build) → let last := after.after launcher s calls
        ∃ note, (build launcher s).run last =
          (runBuild launcher s).run { last with log := last.log ++ [note] }
  /-- Once a watcher has been ended, whatever happens, it is not running, and ending it does nothing. -/
  ended : w.child.isSome = true → ∃ after,
    (terminate s.terminateTimeout).run w = (.ok (), after) ∧
      ∀ calls, let last := after.after launcher s calls
        last.isWatching = false ∧ (terminate s.terminateTimeout).run last = (.ok (), last)
  /-- Where no watcher has been started, there is nothing to end. -/
  unstarted : w.child = none → (terminate s.terminateTimeout).run w = (.ok (), w)

theorem lived_after {first : World} (unused : first.Unused) (calls : List Call) :
    Lived first.watchers (first.after launcher s calls) :=
  World.keeps_after (P := Lived first.watchers) (fun call _ _ lived => lived.next call)
    ⟨Or.inl ⟨rfl, unused.idle⟩, fun _ => unused.awaits⟩

/-- For any launcher and settings that allow to wait for the reader. -/
theorem lifeCycle_after (launcher : Launcher) (s : Settings)
    (limited : s.terminateTimeout.timeFault? = none) {first : World} (unused : first.Unused)
    (calls : List Call) : LifeCycle launcher s first.watchers (first.after launcher s calls) where
  one := (lived_after unused calls).tracks
  startedOnce roots after ran calls again := by
    refine run_start_of_started launcher s again ?_
    exact World.keeps_after (P := fun w => w.child.isSome = true)
      (fun call _ _ started => isSome_next launcher s started call) (isSome_of_start_ok ran)
  spawnedOnce begun calls again := by
    refine run_start_of_started launcher s again ?_
    exact World.keeps_after (P := fun w => w.child.isSome = true)
      (fun call _ _ started => isSome_next launcher s started call) begun
  startRefused idle roots none := by
    obtain ⟨stop, refused⟩ := run_start_of_not_launches idle none
    exact ⟨stop, _, refused⟩
  mayStart idle roots process launches := outcome_of_launches idle launches
  builtOnce after ran calls := by
    refine run_build_of_done ?_
    exact World.keeps_after (P := Built s) (fun call _ _ built => built.next call)
      (built_of_build ran)
  buildFailed stop after ran := by
    obtain ⟨new, same⟩ := unchanged_of_build_error ran
    rw [Built, not_or, Bool.not_eq_true] at new
    obtain ⟨unbuilt, some⟩ := new
    refine ⟨same, fun calls others => run_build_of_new launcher ?_ some⟩
    refine World.keeps_after (P := fun w => w.built = false)
      (fun call member w unbuilt => (built_next (others call member)).trans unbuilt) ?_
    rw [same]
    exact unbuilt
  ended started := by
    have ok := terminate_of_limit (first.after launcher s calls) limited
    refine ⟨((terminate s.terminateTimeout).run (first.after launcher s calls)).2,
      Prod.ext ok rfl, fun more => ?_⟩
    have last : Ended (World.after launcher s
        ((terminate s.terminateTimeout).run (first.after launcher s calls)).2 more) :=
      World.keeps_after (P := Ended) (fun call _ _ ended => ended.next call)
        (ended_of_terminate started (Prod.ext ok rfl))
    exact ⟨last.past, terminate_of_done _ _ last.past last.waited⟩
  unstarted idle :=
    terminate_of_done _ _ (World.isWatching_of_idle idle) ((lived_after unused calls).quiet idle)

/-- The same of a watcher that there is only after a start in vain, and that heeds no request to
end. -/
theorem lifeCycle_of_late_program :
    let deaf : Process := .pause 9000000000 .ignores .nothing false fun _ => .nothing
    let launcher : Launcher := fun t _ => if t.entries.isEmpty then .error .noEntry else .ok deaf
    let first : World := { tree := { entries := [] }, timed := true }
    let calls : List Call :=
      [.start [], .alter { entries := [([['w']], .file [] true)] }, .start [], .build, .terminate,
        .start [], .leave]
    let reached (count : Nat) := first.after launcher Settings.usual (calls.take count)
    first.Unused ∧ Settings.usual.terminateTimeout.timeFault? = none ∧
      (reached 1).child.isSome = false ∧ (reached 3).isWatching = true ∧
      (reached 4).built = true ∧ (reached 5).child.isSome = true ∧
      ∀ count, LifeCycle launcher Settings.usual first.watchers (reached count) := by
  intro deaf launcher first calls reached
  have unused : first.Unused := ⟨rfl, rfl⟩
  have limited : Settings.usual.terminateTimeout.timeFault? = none := by decide +kernel
  exact ⟨unused, limited, by decide +kernel, by decide +kernel, by decide +kernel,
    by decide +kernel,
    fun count => lifeCycle_after launcher Settings.usual limited unused (calls.take count)⟩

end Watcher

end WatchTrial
