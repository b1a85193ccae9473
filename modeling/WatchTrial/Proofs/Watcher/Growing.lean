import WatchTrial.Proofs.Watcher.LifeCycle

set_option autoImplicit false

namespace WatchTrial

namespace Task

/-- What a signal makes of a task that cannot write to the output cannot write to it either. -/
theorem isMute_receive {t : Task} (mute : t.isMute = true) (signal : Nat) :
    (t.receive signal).1.isMute = true ∧ (t.receive signal).2.all isMute = true := by
  unfold isMute at mute
  unfold receive
  split
  · exact ⟨mute, rfl⟩
  · rename_i going
    have silent : t.holds = false := by
      rw [Bool.or_eq_true, not_or] at going
      simpa [Bool.eq_false_iff.2 going.1] using mute
    have remains : t.remains.all isMute = true := by
      unfold remains
      simp only
      split
      · rfl
      · simp [isMute, silent]
    split
    · split
      · exact ⟨rfl, remains⟩
      · exact ⟨by simp [isMute, silent], rfl⟩
      · exact ⟨by simp [isMute, silent], rfl⟩
      · exact ⟨by simp [isMute, silent], rfl⟩
    · exact ⟨rfl, remains⟩

end Task

namespace Child

variable {c : Child}

theorem isRunning_eq_false : c.isRunning = false ↔ c.main.isOver = true := by
  simp [isRunning]

theorem isReleased_iff :
    c.isReleased = true ↔ c.main.isOver = true ∧ ∀ t ∈ c.helpers, t.isMute = true := by
  rw [isReleased, Bool.and_eq_true, List.all_eq_true]

theorem isReleased_receive (released : c.isReleased = true) (signal : Nat) :
    c.receive signal = c := by
  simp [receive, Task.receive, (isReleased_iff.1 released).1]

/-- Signals let nothing write to the output that could not. -/
theorem isReleased_send (released : c.isReleased = true) (job signal : Nat) :
    (c.send job signal).isReleased = true := by
  unfold send
  split
  · rw [isReleased_receive released]
    exact released
  · obtain ⟨past, mute⟩ := isReleased_iff.1 released
    have answers (t : Task) (member : t ∈ c.helpers) :
        (if t.job = job then t.receive signal else (t, [])).1.isMute = true ∧
          (if t.job = job then t.receive signal else (t, [])).2.all Task.isMute = true := by
      split
      · exact Task.isMute_receive (mute t member) signal
      · exact ⟨mute t member, rfl⟩
    refine isReleased_iff.2 ⟨past, fun t member => ?_⟩
    rcases List.mem_append.1 member with first | later
    · simp only [List.map_map, List.mem_map, Function.comp_apply] at first
      obtain ⟨old, there, rfl⟩ := first
      exact (answers old there).1
    · simp only [List.flatMap_map, List.mem_flatMap] at later
      obtain ⟨old, there, left⟩ := later
      exact List.all_eq_true.1 (answers old there).2 t left

theorem isMute_task (released : c.isReleased = true) (place : Nat) :
    (c.task place).isMute = true := by
  obtain ⟨past, mute⟩ := isReleased_iff.1 released
  have main : c.main.isMute = true := by simp [Task.isMute, past]
  cases place with
  | zero => exact main
  | succ n =>
      rw [task, List.getD_eq_getElem?_getD]
      cases found : c.helpers[n]? with
      | none => exact main
      | some t => exact mute t (List.mem_of_getElem? found)

/-- A task that cannot write to the output takes the place of one. -/
theorem isReleased_setTask (released : c.isReleased = true) {t : Task} {place : Nat}
    (mute : t.isMute = true) (main : place = 0 → t.isOver = true) :
    (c.setTask t place).isReleased = true := by
  obtain ⟨past, others⟩ := isReleased_iff.1 released
  cases place with
  | zero => exact isReleased_iff.2 ⟨main rfl, others⟩
  | succ n =>
      refine isReleased_iff.2 ⟨past, fun other member => ?_⟩
      rcases List.mem_or_eq_of_mem_set member with old | rfl
      · exact others other old
      · exact mute

end Child

namespace Scene

/-- A process that cannot write to the output, and starts none that can. -/
theorem released_perform {holds : Bool} (p : Process) (s : Scene) (silent : holds = false)
    (released : s.child.isReleased = true) :
    (perform holds p s).2.child.isReleased = true ∧
      (perform holds p s).2.child.written = s.child.written := by
  fun_induction perform holds p s with
  | case1 octets next s ih =>
      have same : (if holds then s.written octets else s) = s := by simp [silent]
      rw [same] at ih ⊢
      exact ih released
  | case6 job passed started next s ih =>
      refine ih (Child.isReleased_iff.2 ⟨(Child.isReleased_iff.1 released).1, fun t member => ?_⟩)
      rcases List.mem_append.1 member with old | new
      · exact (Child.isReleased_iff.1 released).2 t old
      · rw [List.mem_singleton] at new
        simp [new, Task.isMute, silent]
  | case7 job signal next s ih =>
      have sent := ih (Child.isReleased_send released job signal)
      exact ⟨sent.1, sent.2.trans (Child.written_send s.child job signal)⟩
  | _ => first | exact ⟨released, rfl⟩ | (rename_i ih; exact ih released)

theorem released_resume {s : Scene} (place time : Nat) (released : s.child.isReleased = true) :
    (s.resume place time).child.isReleased = true ∧
      (s.resume place time).child.written = s.child.written := by
  have mute := Child.isMute_task released place
  have main (c : Child) (free : c.isReleased = true) (first : place = 0) :
      (c.task place).isOver = true := by
    subst first
    exact (Child.isReleased_iff.1 free).1
  have resuming : (s.resuming (s.child.task place) place time).child.isReleased = true :=
    Child.isReleased_setTask released mute (main _ released)
  have performed : (perform (s.child.task place).holds (s.child.resumed (s.child.task place))
        (s.resuming (s.child.task place) place time)).2.child.isReleased = true ∧
      (perform (s.child.task place).holds (s.child.resumed (s.child.task place))
        (s.resuming (s.child.task place) place time)).2.child.written = s.child.written := by
    rw [← written_setTask s.child { s.child.task place with asked := false } place]
    cases holds : (s.child.task place).holds with
    | false => exact released_perform _ _ rfl resuming
    | true =>
        -- A task that could still write has ended, and does nothing.
        obtain ⟨e, ended⟩ : ∃ e, (s.child.task place).process = .ended e := by
          rw [Task.isMute, holds, Bool.not_true, Bool.or_false] at mute
          cases same : (s.child.task place).process with
          | ended e => exact ⟨e, rfl⟩
          | _ => simp [Task.isOver, Process.isOver, Process.ending?, same] at mute
        rw [Child.resumed, ended]
        exact ⟨resuming, rfl⟩
  unfold resume
  simp only
  split
  · exact performed
  · rename_i going
    have later := Child.isMute_task performed.1 place
    refine ⟨Child.isReleased_setTask performed.1 ?_ fun first => ?_, ?_⟩
    · simpa [Task.isMute, Bool.eq_false_iff.2 going] using Or.inr later
    · exact absurd (main _ performed.1 first) going
    · rw [written_setTask]
      exact performed.2

theorem released_runUntil (wanted : Child → Bool) (last : Option Nat) (count : Nat) (s : Scene)
    (released : s.child.isReleased = true) :
    (s.runUntil wanted last count).child.isReleased = true ∧
      (s.runUntil wanted last count).child.written = s.child.written := by
  fun_induction runUntil wanted last count s with
  | case5 n s going place time found within ih =>
      have first := released_resume place time released
      have later := ih first.1
      exact ⟨later.1, later.2.trans first.2⟩
  | _ => exact ⟨released, rfl⟩

end Scene

namespace Child

/-- A program has gone on. It has only written more and does not come back, and once nothing of it
can write nothing of it ever writes. -/
structure Grows (c later : Child) : Prop where
  output : c.output <+: later.output
  past : c.isRunning = false → later.isRunning = false
  released : c.isReleased = true → later.isReleased = true ∧ later.output = c.output

theorem Grows.refl (c : Child) : c.Grows c := ⟨List.prefix_refl _, id, fun free => ⟨free, rfl⟩⟩

theorem Grows.trans {c between later : Child} (first : c.Grows between)
    (second : between.Grows later) : c.Grows later where
  output := first.output.trans second.output
  past ended := second.past (first.past ended)
  released released := by
    obtain ⟨still, same⟩ := first.released released
    obtain ⟨last, most⟩ := second.released still
    exact ⟨last, most.trans same⟩

theorem grows_receive (c : Child) (signal : Nat) : c.Grows (c.receive signal) where
  output := List.prefix_refl _
  past ended := by
    rw [isRunning_eq_false] at ended ⊢
    rw [main_receive_of_isOver c signal ended]
    exact ended
  released released := by
    rw [isReleased_receive released]
    exact ⟨released, rfl⟩

end Child

theorem Scene.grows_runUntil (wanted : Child → Bool) (last : Option Nat) (count : Nat) (s : Scene) :
    s.child.Grows (s.runUntil wanted last count).child where
  output := output_runUntil wanted last count s
  past ended := by
    rw [Child.isRunning_eq_false] at ended ⊢
    exact isOver_runUntil wanted last count s ended
  released released := by
    obtain ⟨still, same⟩ := released_runUntil wanted last count s released
    exact ⟨still, by rw [Child.output, same, Child.output]⟩

/-- A watcher that has been started has gone on, and all that has been noted stays noted. -/
structure World.Grows (w after : World) : Prop where
  child : ∀ c, w.child = some c → ∃ later, after.child = some later ∧ c.Grows later
  log : w.log <+: after.log
  reading : after.reading = w.reading
  writtenOff : after.writtenOff = w.writtenOff

namespace World

theorem Grows.refl (w : World) : w.Grows w :=
  ⟨fun c started => ⟨c, started, Child.Grows.refl c⟩, List.prefix_refl _, rfl, rfl⟩

theorem Grows.trans {w between after : World} (first : w.Grows between)
    (second : between.Grows after) : w.Grows after where
  child c started := by
    obtain ⟨mid, going, grows⟩ := first.child c started
    obtain ⟨later, gone, more⟩ := second.child mid going
    exact ⟨later, gone, grows.trans more⟩
  log := first.log.trans second.log
  reading := second.reading.trans first.reading
  writtenOff := second.writtenOff.trans first.writtenOff

theorem Grows.awaits {w after : World} (grows : w.Grows after) : after.awaits = w.awaits := by
  rw [World.awaits, World.awaits, grows.reading, grows.writtenOff]

theorem grows_of_same {w after : World} (child : after.child = w.child)
    (reading : after.reading = w.reading) (writtenOff : after.writtenOff = w.writtenOff)
    (log : w.log <+: after.log) : w.Grows after :=
  ⟨fun c started => ⟨c, child.trans started, Child.Grows.refl c⟩, log, reading, writtenOff⟩

theorem grows_advance (w : World) (wanted : Child → Bool) (last : Option Nat) :
    w.Grows (w.advance wanted last) := by
  unfold advance
  cases begun : w.child with
  | none => exact Grows.refl w
  | some c =>
      refine ⟨fun d started => ?_, List.prefix_refl _, rfl, rfl⟩
      cases begun.symm.trans started
      exact ⟨_, rfl, Scene.grows_runUntil wanted last Scene.turns ⟨w.tree, w.clock, c⟩⟩

theorem grows_signalWatcher (w : World) (signal : Nat) : w.Grows (w.signalWatcher signal) := by
  refine ⟨fun c started => ⟨c.receive signal, ?_, c.grows_receive signal⟩, List.prefix_refl _,
    rfl, rfl⟩
  simp [signalWatcher, started]

theorem grows_lapse (w : World) (time : Nat) : w.Grows (w.lapse time) := by
  have waited := grows_advance w (fun _ => false) (some (w.clock + time))
  exact ⟨waited.child, waited.log, waited.reading, waited.writtenOff⟩

theorem grows_nap (w : World) (n : Nap) : w.Grows (w.nap n) := by
  have waited : w.Grows (if w.timed then w.lapse n.time else w.afterWatcher) := by
    split
    · exact grows_lapse w n.time
    · exact grows_advance w _ none
  exact ⟨waited.child, waited.log, waited.reading, waited.writtenOff⟩

end World

namespace Watcher

open World (Grows)

theorem grows_build (launcher : Launcher) (s : Settings) (w : World) :
    w.Grows ((build launcher s).run w).2 := by
  rcases build_cases launcher s w with
    ⟨-, ran⟩ | ⟨-, note, tree, launches, ran⟩ | ⟨-, stop, note, tree, launches, ran⟩
  · rw [ran]
    exact Grows.refl w
  · rw [ran]
    exact World.grows_of_same rfl rfl rfl (List.prefix_append _ _)
  · rw [ran]
    exact World.grows_of_same rfl rfl rfl (List.prefix_append _ _)

theorem grows_grace (s : Settings) (w : World) : w.Grows ((grace s).run w).2 :=
  keeps_grace (P := w.Grows) (fun v n grows => grows.trans (World.grows_nap v n)) s w (Grows.refl w)

theorem grows_halt (timeout : Binary64) (w : World) : w.Grows (halt timeout w) := by
  have asked := World.grows_signalWatcher w Process.termination
  have killed (v : World) := World.grows_signalWatcher v Task.kill
  simp only [halt]
  split
  · split
    · exact asked.trans
        ((World.grows_advance _ _ none).trans (killed _))
    · rename_i last limited
      have waited := asked.trans
        (World.grows_advance _ (!·.isRunning) (some last))
      split
      · have past := waited.trans (killed _)
        exact ⟨past.child, past.log.trans (List.prefix_append _ _), past.reading, past.writtenOff⟩
      · exact waited
  · exact asked

/-- Whatever is asked or happens, a watcher is ended, or the world goes on with what it has, or with a
watcher that has just been started. -/
theorem next_cases (launcher : Launcher) (s : Settings) (w : World) (call : Call) :
    (call = .terminate ∨ call = .leave) ∧
        w.next launcher s call = ((terminate s.terminateTimeout).run w).2 ∨
      w.Grows (w.next launcher s call) ∧
        (w.next launcher s call).child.isSome = w.child.isSome ∨
      w.child = none ∧
        ∃ roots process, (begun s roots process w).Grows (w.next launcher s call) := by
  cases call with
  | build =>
      exact Or.inr (Or.inl ⟨grows_build launcher s w, congrArg _ (child_build launcher s w)⟩)
  | start roots =>
      rw [World.next]
      cases going : w.child with
      | some c =>
          rw [run_start_of_started launcher s roots (by simp [going])]
          exact Or.inr (Or.inl ⟨Grows.refl w, congrArg _ going⟩)
      | none =>
          rcases start_cases launcher s roots going with ⟨stop, -, refused⟩ | ⟨process, -, ran⟩
          · rw [refused]
            exact Or.inr (Or.inl
              ⟨World.grows_of_same rfl rfl rfl (List.prefix_append _ _), congrArg _ going⟩)
          · rw [ran]
            exact Or.inr (Or.inr ⟨rfl, roots, process, grows_grace s _⟩)
  | terminate => exact Or.inl ⟨Or.inl rfl, rfl⟩
  | leave => exact Or.inl ⟨Or.inr rfl, rfl⟩
  | running | output => exact Or.inr (Or.inl ⟨Grows.refl w, rfl⟩)
  | elapse wanted last =>
      exact Or.inr (Or.inl
        ⟨World.grows_advance w wanted last, (World.continues_advance w wanted last).started⟩)
  | signal number =>
      exact Or.inr (Or.inl
        ⟨World.grows_signalWatcher w number, (World.continues_signalWatcher w number).started⟩)
  | alter tree =>
      exact Or.inr (Or.inl ⟨World.grows_of_same rfl rfl rfl (List.prefix_refl _), rfl⟩)

end Watcher

end WatchTrial
