import WatchTrial.Proofs.Act
import WatchTrial.Watcher

set_option autoImplicit false

namespace WatchTrial

namespace Child

theorem main_receive_of_isOver (c : Child) (signal : Nat) (past : c.main.isOver = true) :
    (c.receive signal).main = c.main := by
  simp [receive, Task.receive, past]

theorem main_send_of_isOver (c : Child) (job signal : Nat) (past : c.main.isOver = true) :
    (c.send job signal).main = c.main := by
  unfold send
  split
  · exact main_receive_of_isOver c signal past
  · rfl

end Child

namespace Scene

/-- What a process does until it stands still cannot bring the main program back. -/
theorem main_perform (holds : Bool) (p : Process) (s : Scene)
    (past : s.child.main.isOver = true) :
    (perform holds p s).2.child.main = s.child.main := by
  fun_induction perform holds p s with
  | case1 octets next s ih =>
      have same : (if holds then s.written octets else s).child.main = s.child.main := by
        split <;> rfl
      exact (ih (same ▸ past)).trans same
  | case7 job signal next s ih =>
      have same := Child.main_send_of_isOver s.child job signal past
      exact (ih (same ▸ past)).trans same
  | _ => first | rfl | (rename_i ih; exact ih past)

theorem isOver_resume (s : Scene) (place time : Nat) (past : s.child.main.isOver = true) :
    (s.resume place time).child.main.isOver = true := by
  have resuming : (s.resuming (s.child.task place) place time).child.main.isOver = true := by
    cases place with
    | zero => exact past
    | succ n => exact past
  have after : (perform (s.child.task place).holds (s.child.resumed (s.child.task place))
      (s.resuming (s.child.task place) place time)).2.child.main.isOver = true := by
    rw [main_perform _ _ _ resuming]
    exact resuming
  unfold resume
  simp only
  cases place with
  | zero =>
      -- The main program itself: it is still over after its turn, so its turn puts nothing back.
      split
      · exact after
      · rename_i running
        exact absurd after running
  | succ n => split <;> exact after

theorem isOver_runUntil (wanted : Child → Bool) (last : Option Nat) (count : Nat) (s : Scene)
    (past : s.child.main.isOver = true) :
    (s.runUntil wanted last count).child.main.isOver = true := by
  fun_induction runUntil wanted last count s with
  | case5 n s going place time found within ih => exact ih (isOver_resume s place time past)
  | _ => exact past

theorem runUntil_of_wanted {wanted : Child → Bool} (last : Option Nat) (count : Nat) {s : Scene}
    (done : wanted s.child = true) : s.runUntil wanted last count = s := by
  cases count with
  | zero => rfl
  | succ count => rw [runUntil, if_pos done]

/-- When all processes have ended, nothing is due any more. -/
theorem next?_of_isSettled {s : Scene} (settled : s.child.isSettled = true) : s.next? = none := by
  have ended (t : Task) (past : t.isOver = true) : s.child.due? t = none := by
    cases same : t.process with
    | ended e => simp [Child.due?, same]
    | _ => simp [Task.isOver, Process.isOver, Process.ending?, same] at past
  have past : ∀ t ∈ s.child.main :: s.child.helpers, s.child.due? t = none := by
    rw [Child.isSettled, Bool.and_eq_true, List.all_eq_true] at settled
    refine List.forall_mem_cons.2 ⟨ended _ settled.1, fun t member => ?_⟩
    exact ended t (settled.2 t member)
  have none (entries : List (Task × Nat)) (idle : ∀ entry ∈ entries, s.child.due? entry.1 = none) :
      entries.foldl (next?.earlier s) none = none := by
    induction entries with
    | nil => rfl
    | cons entry rest ih =>
        rw [List.forall_mem_cons] at idle
        have same : next?.earlier s Option.none entry = Option.none := by
          simp only [next?.earlier, idle.1]
        rw [List.foldl_cons, same]
        exact ih idle.2
  refine none _ fun entry member => past entry.1 ?_
  exact List.fst_mem_of_mem_zipIdx member

theorem runUntil_of_isSettled (wanted : Child → Bool) (last : Option Nat) (count : Nat) {s : Scene}
    (settled : s.child.isSettled = true) : s.runUntil wanted last count = s := by
  cases count with
  | zero => rfl
  | succ count =>
      rw [runUntil, next?_of_isSettled settled]
      exact ite_self s

end Scene

namespace World

theorem isWatching_eq_false (w : World) :
    w.isWatching = false ↔ ∀ c, w.child = some c → c.main.isOver = true := by
  unfold isWatching
  cases w.child <;> simp [Child.isRunning]

/-- Time that passes does not start a watcher that has ended. -/
theorem isWatching_advance (w : World) (wanted : Child → Bool) (last : Option Nat)
    (ended : w.isWatching = false) : (w.advance wanted last).isWatching = false := by
  rw [isWatching_eq_false] at ended ⊢
  unfold advance
  cases started : w.child with
  | none => simpa using ended
  | some c =>
      intro after same
      cases same
      exact Scene.isOver_runUntil wanted last Scene.turns ⟨w.tree, w.clock, c⟩ (ended c started)

/-- No time passes when the watcher is as wanted. -/
theorem advance_of_wanted {w : World} {c : Child} {wanted : Child → Bool} (last : Option Nat)
    (started : w.child = some c) (done : wanted c = true) : w.advance wanted last = w := by
  obtain ⟨tree, clock, timed, naps, log, launches, built, child, reading, writtenOff⟩ := w
  cases started
  rw [advance]
  simp only [Scene.runUntil_of_wanted (s := ⟨tree, clock, c⟩) last Scene.turns done]

theorem advance_of_settled {w : World} (wanted : Child → Bool) (last : Option Nat)
    (settled : w.child.all Child.isSettled = true) : w.advance wanted last = w := by
  obtain ⟨tree, clock, timed, naps, log, launches, built, child, reading, writtenOff⟩ := w
  cases child with
  | none => rfl
  | some c =>
      have still : Scene.runUntil wanted last Scene.turns ⟨tree, clock, c⟩ = ⟨tree, clock, c⟩ :=
        Scene.runUntil_of_isSettled wanted last Scene.turns settled
      simp only [advance, still]

theorem afterWatcher_of_ended {w : World} (ended : w.isWatching = false) : w.afterWatcher = w := by
  unfold afterWatcher
  cases started : w.child with
  | none =>
      unfold advance
      rw [started]
  | some c =>
      have past : c.main.isOver = true := (isWatching_eq_false w).1 ended c started
      exact advance_of_wanted none started (by simp [Child.isRunning, past])

/-- Programs have gone on, but the trial has started none and has lost none. -/
structure Continues (w after : World) : Prop where
  launches : after.launches = w.launches
  built : after.built = w.built
  started : after.child.isSome = w.child.isSome

namespace Continues

theorem refl (w : World) : w.Continues w := ⟨rfl, rfl, rfl⟩

theorem trans {w between after : World} (first : w.Continues between)
    (second : between.Continues after) : w.Continues after :=
  ⟨second.launches.trans first.launches, second.built.trans first.built,
    second.started.trans first.started⟩

theorem watchers {w after : World} (goes : w.Continues after) : after.watchers = w.watchers := by
  rw [World.watchers, World.watchers, goes.launches]

end Continues

/-- Time that passes changes nothing but the files, the clock and the watcher. -/
theorem advance_eq (w : World) (wanted : Child → Bool) (last : Option Nat) :
    ∃ tree clock child, child.isSome = w.child.isSome ∧
      w.advance wanted last = { w with tree, clock, child } := by
  unfold advance
  split
  · exact ⟨w.tree, w.clock, w.child, rfl, rfl⟩
  · rename_i c started
    exact ⟨_, _, _, by rw [started]; rfl, rfl⟩

/-- Neither does a pause, but that it is kept count of. -/
theorem nap_eq (w : World) (n : Nap) :
    ∃ tree clock child, child.isSome = w.child.isSome ∧
      w.nap n = { w with tree, clock, child, naps := w.naps ++ [n] } := by
  cases timed : w.timed with
  | true =>
      obtain ⟨tree, clock, child, same, waited⟩ :=
        w.advance_eq (fun _ => false) (some (w.clock + n.time))
      exact ⟨tree, max clock (w.clock + n.time), child, same, by simp [nap, lapse, waited, timed]⟩
  | false =>
      obtain ⟨tree, clock, child, same, waited⟩ := w.advance_eq (!·.isRunning) none
      exact ⟨tree, clock, child, same, by simp [nap, afterWatcher, waited, timed]⟩

theorem continues_advance (w : World) (wanted : Child → Bool) (last : Option Nat) :
    w.Continues (w.advance wanted last) := by
  obtain ⟨tree, clock, child, same, waited⟩ := w.advance_eq wanted last
  rw [waited]
  exact ⟨rfl, rfl, same⟩

theorem awaits_advance (w : World) (wanted : Child → Bool) (last : Option Nat) :
    (w.advance wanted last).awaits = w.awaits := by
  obtain ⟨tree, clock, child, -, waited⟩ := w.advance_eq wanted last
  rw [waited]
  rfl

theorem continues_signalWatcher (w : World) (signal : Nat) :
    w.Continues (w.signalWatcher signal) := by
  refine ⟨rfl, rfl, ?_⟩
  cases started : w.child <;> simp [signalWatcher, started]

theorem continues_nap (w : World) (n : Nap) : w.Continues (w.nap n) := by
  obtain ⟨tree, clock, child, same, waited⟩ := w.nap_eq n
  rw [waited]
  exact ⟨rfl, rfl, same⟩

theorem awaits_nap (w : World) (n : Nap) : (w.nap n).awaits = w.awaits := by
  obtain ⟨tree, clock, child, -, waited⟩ := w.nap_eq n
  rw [waited]
  rfl

theorem log_nap (w : World) (n : Nap) : (w.nap n).log = w.log := by
  obtain ⟨tree, clock, child, -, waited⟩ := w.nap_eq n
  rw [waited]

end World

namespace Watcher

open World (Continues)

theorem continues_halt (timeout : Binary64) (w : World) : w.Continues (halt timeout w) := by
  have asked := World.continues_signalWatcher w Process.termination
  have killed (v : World) := World.continues_signalWatcher v Task.kill
  simp only [halt]
  split
  · split
    · exact asked.trans ((World.continues_advance _ _ _).trans (killed _))
    · rename_i last limited
      have waited := asked.trans (World.continues_advance _ (!·.isRunning) (some last))
      split
      · have past := waited.trans (killed _)
        exact ⟨past.launches, past.built, past.started⟩
      · exact waited
  · exact asked

theorem awaits_halt (timeout : Binary64) (w : World) : (halt timeout w).awaits = w.awaits := by
  simp only [halt]
  split
  · split
    · exact World.awaits_advance _ _ _
    · split <;> exact World.awaits_advance _ _ _
  · rfl

/-- What is noted when the reader is not done in time. -/
def unfinished : Record :=
  ⟨.warning, .watcher, "Watcher output reader did not finish; output may be partial"⟩

/-- What is left when the reader cannot be waited for. -/
def left (w : World) : World := { w with writtenOff := !w.child.all Child.isReleased }

/-- The reader is waited for until it is done or time is up, and then no longer, unless it cannot be
waited for at all. -/
theorem awaitReader_cases (timeout : Binary64) (w : World) :
    (∃ f, timeout.timeFault? = some f ∧ awaitReader timeout w = (.error (.broken f), left w)) ∨
      timeout.timeFault? = none ∧ ∃ last, let waited := w.advance Child.isReleased (some last)
        waited.child.all Child.isReleased = true ∧
            awaitReader timeout w = (.ok (), { waited with reading := false }) ∨
          waited.child.all Child.isReleased = false ∧ ∃ clock,
            awaitReader timeout w =
              (.ok (), { waited with clock, reading := false, log := waited.log ++ [unfinished] }) := by
  unfold awaitReader
  cases timeout.timeFault? with
  | some f => exact Or.inl ⟨f, rfl, rfl⟩
  | none =>
      refine Or.inr ⟨rfl, w.clock + timeout.billionths?.getD 0, ?_⟩
      simp only
      split
      · rename_i released
        exact Or.inl ⟨released, rfl⟩
      · rename_i held
        exact Or.inr ⟨by simpa using held, _, rfl⟩

theorem awaitReader_of_fault {timeout : Binary64} {f : Fault} (w : World)
    (fault : timeout.timeFault? = some f) :
    awaitReader timeout w = (.error (.broken f), left w) := by
  rcases awaitReader_cases timeout w with ⟨other, found, refused⟩ | ⟨limited, -⟩
  · cases fault.symm.trans found
    exact refused
  · cases fault.symm.trans limited

theorem awaitReader_of_limit {timeout : Binary64} (w : World)
    (limited : timeout.timeFault? = none) :
    ∃ after, awaitReader timeout w = (.ok (), after) ∧ after.reading = false ∧
      w.Continues after ∧ (w.isWatching = false → after.isWatching = false) := by
  rcases awaitReader_cases timeout w with ⟨f, fault, -⟩ | ⟨-, last, waited⟩
  · cases limited.symm.trans fault
  · have goes := World.continues_advance w Child.isReleased (some last)
    have ended := World.isWatching_advance w Child.isReleased (some last)
    rcases waited with ⟨-, done⟩ | ⟨-, clock, givenUp⟩
    · exact ⟨_, done, rfl, ⟨goes.launches, goes.built, goes.started⟩, ended⟩
    · exact ⟨_, givenUp, rfl, ⟨goes.launches, goes.built, goes.started⟩, ended⟩

/-- Ending the watcher is having it halted, if it runs, and then waiting for the reader. -/
theorem run_terminate (timeout : Binary64) (w : World) :
    ∃ halted, w.Continues halted ∧ halted.awaits = w.awaits ∧ halted.isWatching = false ∧
      (terminate timeout).run w =
        if w.awaits then awaitReader timeout halted else (.ok (), halted) := by
  by_cases watching : w.isWatching = true
  · exact ⟨halt timeout w, continues_halt timeout w, awaits_halt timeout w,
      isWatching_halt timeout w, by simp [terminate, watching, awaits_halt]⟩
  · have ended : w.isWatching = false := by simpa using watching
    exact ⟨w, Continues.refl w, rfl, ended, by simp [terminate, ended]⟩

/-- Whatever the watcher is at, and whether or not its output can be waited for. -/
theorem isWatching_terminate (timeout : Binary64) (w : World) :
    ((terminate timeout).run w).2.isWatching = false := by
  obtain ⟨halted, -, -, ended, ran⟩ := run_terminate timeout w
  rw [ran]
  split
  · cases fault : timeout.timeFault? with
    | some f =>
        rw [awaitReader_of_fault halted fault]
        exact ended
    | none =>
        obtain ⟨after, waited, -, -, past⟩ := awaitReader_of_limit halted fault
        rw [waited]
        exact past ended
  · exact ended

theorem continues_terminate (timeout : Binary64) (w : World) :
    w.Continues ((terminate timeout).run w).2 := by
  obtain ⟨halted, goes, -, -, ran⟩ := run_terminate timeout w
  rw [ran]
  split
  · cases fault : timeout.timeFault? with
    | some f =>
        rw [awaitReader_of_fault halted fault]
        exact ⟨goes.launches, goes.built, goes.started⟩
    | none =>
        obtain ⟨after, waited, -, continues, -⟩ := awaitReader_of_limit halted fault
        rw [waited]
        exact goes.trans continues
  · exact goes

/-- With a time limit that the reader cannot be waited for with, no watcher is ended in order. -/
theorem terminate_of_fault {timeout : Binary64} {f : Fault} (w : World)
    (fault : timeout.timeFault? = some f) (awaits : w.awaits = true) :
    ((terminate timeout).run w).1 = .error (.broken f) := by
  obtain ⟨halted, -, -, -, ran⟩ := run_terminate timeout w
  rw [ran, if_pos awaits, awaitReader_of_fault halted fault]

theorem terminate_of_limit {timeout : Binary64} (w : World) (limited : timeout.timeFault? = none) :
    ((terminate timeout).run w).1 = .ok () := by
  obtain ⟨halted, -, -, -, ran⟩ := run_terminate timeout w
  rw [ran]
  split
  · obtain ⟨after, waited, -⟩ := awaitReader_of_limit halted limited
    rw [waited]
  · rfl

/-- A watcher that has ended, and of which nothing can write any more, is ended without waiting. -/
theorem terminate_of_released {timeout : Binary64} {w : World} {c : Child}
    (limited : timeout.timeFault? = none) (awaits : w.awaits = true) (started : w.child = some c)
    (released : c.isReleased = true) :
    (terminate timeout).run w = (.ok (), { w with reading := false }) := by
  have past : w.isWatching = false := by
    simp only [Child.isReleased, Bool.and_eq_true] at released
    simp [World.isWatching, started, Child.isRunning, released.1]
  have ran : (terminate timeout).run w = awaitReader timeout w := by
    simp [terminate, past, awaits]
  rw [ran]
  rcases awaitReader_cases timeout w with ⟨f, fault, -⟩ | ⟨-, last, waited⟩
  · cases limited.symm.trans fault
  · have still : w.advance Child.isReleased (some last) = w :=
      World.advance_of_wanted (some last) started released
    simp only [still] at waited
    rcases waited with ⟨-, done⟩ | ⟨held, -⟩
    · exact done
    · simp [started, released] at held

theorem awaits_of_terminate {timeout : Binary64} {w after : World}
    (ran : (terminate timeout).run w = (.ok (), after)) : after.awaits = false := by
  obtain ⟨halted, -, same, -, ended⟩ := run_terminate timeout w
  rw [ran] at ended
  split at ended
  · cases fault : timeout.timeFault? with
    | some f =>
        rw [awaitReader_of_fault halted fault] at ended
        cases ended
    | none =>
        obtain ⟨last, waited, done, -⟩ := awaitReader_of_limit halted fault
        rw [waited] at ended
        cases ended
        simp [World.awaits, done]
  · rename_i done
    cases ended
    simpa [done] using same

/-- Ending the watcher ends in a fault just when there is a reader that cannot be waited for. -/
theorem breaks_terminate_iff (timeout : Binary64) (w : World) :
    (terminate timeout).Breaks w ↔ w.awaits = true ∧ ∃ f, timeout.timeFault? = some f := by
  obtain ⟨halted, -, -, -, ran⟩ := run_terminate timeout w
  constructor
  · rintro ⟨f, broken⟩
    cases fault : timeout.timeFault? with
    | none =>
        rw [terminate_of_limit w fault] at broken
        cases broken
    | some f =>
        refine ⟨?_, f, rfl⟩
        by_cases awaits : w.awaits = true
        · exact awaits
        · rw [ran, if_neg awaits] at broken
          cases broken
  · rintro ⟨awaits, f, fault⟩
    exact ⟨f, terminate_of_fault w fault awaits⟩

/-- Ending the watcher is no stage of its own that could fail. -/
theorem isBroken_of_terminate_error {timeout : Binary64} {w last : World} {stop : Stop}
    (ran : (terminate timeout).run w = (.error stop, last)) : ∃ f, stop = .broken f := by
  have first : ((terminate timeout).run w).1 = .error stop := by rw [ran]
  cases fault : timeout.timeFault? with
  | none =>
      rw [terminate_of_limit w fault] at first
      cases first
  | some f =>
      obtain ⟨halted, -, -, -, ended⟩ := run_terminate timeout w
      rw [ran, awaitReader_of_fault halted fault] at ended
      split at ended
      · cases ended
        exact ⟨f, rfl⟩
      · cases ended

theorem terminate_of_not_breaks {timeout : Binary64} {w : World}
    (whole : ¬(terminate timeout).Breaks w) :
    ∃ after, (terminate timeout).run w = (.ok (), after) := by
  cases ran : (terminate timeout).run w with
  | mk result after =>
      have first : ((terminate timeout).run w).1 = result := by rw [ran]
      cases fault : timeout.timeFault? with
      | none =>
          rw [terminate_of_limit w fault] at first
          exact ⟨after, by rw [← first]⟩
      | some f =>
          obtain ⟨halted, -, -, -, ended⟩ := run_terminate timeout w
          have quiet : ¬w.awaits = true := fun awaits =>
            whole ((breaks_terminate_iff timeout w).2 ⟨awaits, f, fault⟩)
          rw [if_neg quiet, ran] at ended
          cases ended
          exact ⟨_, rfl⟩

/-- A watcher that has ended and whose output has been waited for is left alone. -/
theorem terminate_of_done (timeout : Binary64) (w : World) (ended : w.isWatching = false)
    (done : w.awaits = false) : (terminate timeout).run w = (.ok (), w) := by
  simp [terminate, ended, done]

end Watcher

end WatchTrial
