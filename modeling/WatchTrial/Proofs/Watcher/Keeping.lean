import WatchTrial.Proofs.Watcher.Starting

set_option autoImplicit false

namespace WatchTrial

variable {P : Tree → Prop}

namespace Process

/-- As long as the trees that the process sees have the property, so have those that it leaves; and
the same of all that it starts and of what goes on when it dies. -/
def Keeps (P : Tree → Prop) : Process → Prop
  | .ended _ => True
  | .write _ _ next => (next ()).Keeps P
  | .look next => ∀ t, P t → (next t).Keeps P
  | .put t next => P t ∧ (next ()).Keeps P
  | .launch _ _ started next => started.Keeps P ∧ (next ()).Keeps P
  | .send _ _ next => ∀ found, (next found).Keeps P
  | .pause _ _ left _ next => left.Keeps P ∧ ∀ asked, (next asked).Keeps P
  | .await _ _ left _ next => left.Keeps P ∧ ∀ asked e, (next asked e).Keeps P

theorem keeps_remains {p : Process} (kept : p.Keeps P) : p.remains.1.Keeps P := by
  cases p with
  | pause duration heed left holds next => exact kept.1
  | await jobs heed left holds next => exact kept.1
  | _ => trivial

end Process

namespace Task

def Keeps (P : Tree → Prop) (t : Task) : Prop := t.process.Keeps P

theorem keeps_of_mem_remains {t left : Task} (kept : t.Keeps P) (member : left ∈ t.remains) :
    left.Keeps P := by
  unfold remains at member
  simp only at member
  split at member
  · cases member
  · rw [List.mem_singleton] at member
    subst member
    exact Process.keeps_remains kept

theorem keeps_receive {t : Task} (signal : Nat) (kept : t.Keeps P) :
    (t.receive signal).1.Keeps P ∧ ∀ left ∈ (t.receive signal).2, left.Keeps P := by
  have none : ∀ left ∈ ([] : List Task), left.Keeps P := by
    intro left member
    cases member
  have dead : (t.die signal).Keeps P := trivial
  unfold receive
  split
  · exact ⟨kept, none⟩
  · split
    · split
      · exact ⟨dead, fun left member => keeps_of_mem_remains kept member⟩
      · exact ⟨kept, none⟩
      · exact ⟨kept, none⟩
      · exact ⟨kept, none⟩
    · exact ⟨dead, fun left member => keeps_of_mem_remains kept member⟩

end Task

namespace Child

/-- All processes of the program keep the property. -/
structure Keeps (P : Tree → Prop) (c : Child) : Prop where
  main : c.main.Keeps P
  helpers : ∀ t ∈ c.helpers, t.Keeps P

variable {c : Child}

theorem keeps_ofProcess {p : Process} (now : Nat) (kept : p.Keeps P) :
    (ofProcess p now).Keeps P := by
  refine ⟨kept, fun t member => ?_⟩
  cases member

theorem keeps_receive (signal : Nat) (kept : c.Keeps P) : (c.receive signal).Keeps P := by
  obtain ⟨main, left⟩ := Task.keeps_receive signal kept.main
  refine ⟨main, fun t member => ?_⟩
  rcases List.mem_append.1 member with old | new
  · exact kept.helpers t old
  · exact left t new

theorem keeps_send (job signal : Nat) (kept : c.Keeps P) : (c.send job signal).Keeps P := by
  have answer (t : Task) (member : t ∈ c.helpers) :
      (if t.job = job then t.receive signal else (t, [])).1.Keeps P ∧
        ∀ left ∈ (if t.job = job then t.receive signal else (t, [])).2, left.Keeps P := by
    split
    · exact Task.keeps_receive signal (kept.helpers t member)
    · refine ⟨kept.helpers t member, fun left none => ?_⟩
      cases none
  unfold send
  split
  · exact keeps_receive signal kept
  · refine ⟨kept.main, fun t member => ?_⟩
    rcases List.mem_append.1 member with stays | left
    · rw [List.map_map, List.mem_map] at stays
      obtain ⟨old, there, rfl⟩ := stays
      exact (answer old there).1
    · rw [List.flatMap_map, List.mem_flatMap] at left
      obtain ⟨old, there, left⟩ := left
      exact (answer old there).2 t left

theorem keeps_task (place : Nat) (kept : c.Keeps P) : (c.task place).Keeps P := by
  cases place with
  | zero => exact kept.main
  | succ n =>
      change (c.helpers.getD n c.main).Keeps P
      rw [List.getD_eq_getElem?_getD]
      cases found : c.helpers[n]? with
      | none => exact kept.main
      | some t => exact kept.helpers t (List.mem_of_getElem? found)

theorem keeps_setTask {t : Task} (place : Nat) (kept : c.Keeps P) (task : t.Keeps P) :
    (c.setTask t place).Keeps P := by
  cases place with
  | zero => exact ⟨task, kept.helpers⟩
  | succ n =>
      refine ⟨kept.main, fun other member => ?_⟩
      rcases List.mem_or_eq_of_mem_set member with old | rfl
      · exact kept.helpers other old
      · exact task

theorem keeps_resumed {t : Task} (kept : t.Keeps P) : (c.resumed t).Keeps P := by
  unfold Task.Keeps at kept
  unfold resumed
  split
  · rename_i same
    rw [same] at kept
    exact kept.2 _
  · rename_i same
    rw [same] at kept
    exact kept.2 _ _
  · exact kept

end Child

namespace Scene

/-- The property holds, and all processes keep it. -/
structure Keeps (P : Tree → Prop) (s : Scene) : Prop where
  tree : P s.tree
  child : s.child.Keeps P

theorem keeps_launched {s : Scene} {p : Process} (job : Nat) (holds : Bool) (kept : s.Keeps P)
    (started : p.Keeps P) : (s.launched job holds p).Keeps P := by
  refine ⟨kept.tree, kept.child.main, fun t member => ?_⟩
  rcases List.mem_append.1 member with old | new
  · exact kept.child.helpers t old
  · rw [List.mem_singleton] at new
    subst new
    exact started

/-- What a process does in one go. -/
theorem keeps_perform (holds : Bool) (p : Process) (s : Scene) (process : p.Keeps P)
    (kept : s.Keeps P) :
    (perform holds p s).1.Keeps P ∧ (perform holds p s).2.Keeps P := by
  fun_induction perform holds p s with
  | case1 octets next s ih =>
      have written : (if holds then s.written octets else s).Keeps P := by
        split
        · exact ⟨kept.tree, kept.child.main, kept.child.helpers⟩
        · exact kept
      exact ih process written
  | case2 octets next s ih => exact ih process ⟨kept.tree, kept.child.main, kept.child.helpers⟩
  | case3 depth octets next s ih => exact ih process kept
  | case4 next s ih =>
      -- What it sees is the tree as it stands, which has the property.
      exact ih (process s.tree kept.tree) kept
  | case5 tree next s ih => exact ih process.2 ⟨process.1, kept.child⟩
  | case6 job passed started next s ih =>
      exact ih process.2 (keeps_launched job (holds && passed) kept process.1)
  | case7 job signal next s ih =>
      exact ih (process _) ⟨kept.tree, Child.keeps_send job signal kept.child⟩
  | _ => exact ⟨process, kept⟩

theorem keeps_resume {s : Scene} (place time : Nat) (kept : s.Keeps P) :
    (s.resume place time).Keeps P := by
  have task := Child.keeps_task place kept.child
  have resuming : (s.resuming (s.child.task place) place time).Keeps P :=
    ⟨kept.tree, Child.keeps_setTask place kept.child task⟩
  obtain ⟨process, after⟩ := keeps_perform _ _ _ (Child.keeps_resumed task) resuming
  unfold resume
  simp only
  split
  · exact after
  · exact ⟨after.tree, Child.keeps_setTask place after.child process⟩

theorem keeps_runUntil (wanted : Child → Bool) (last : Option Nat) (count : Nat) (s : Scene)
    (kept : s.Keeps P) : (s.runUntil wanted last count).Keeps P := by
  fun_induction runUntil wanted last count s with
  | case5 n s going place time found within ih => exact ih (keeps_resume place time kept)
  | _ => exact kept

end Scene

/-- The property holds of the file tree, and the watcher keeps it. -/
structure World.Keeps (P : Tree → Prop) (w : World) : Prop where
  tree : P w.tree
  child : ∀ c, w.child = some c → c.Keeps P

namespace World

variable {w : World}

theorem keeps_of_idle (idle : w.child = none) (held : P w.tree) : w.Keeps P := by
  refine ⟨held, fun c started => ?_⟩
  rw [idle] at started
  cases started

theorem keeps_advance (wanted : Child → Bool) (last : Option Nat) (kept : w.Keeps P) :
    (w.advance wanted last).Keeps P := by
  unfold advance
  cases started : w.child with
  | none => exact kept
  | some c =>
      have after := Scene.keeps_runUntil wanted last Scene.turns ⟨w.tree, w.clock, c⟩
        ⟨kept.tree, kept.child c started⟩
      refine ⟨after.tree, fun later same => ?_⟩
      cases same
      exact after.child

theorem keeps_signalWatcher (signal : Nat) (kept : w.Keeps P) :
    (w.signalWatcher signal).Keeps P := by
  refine ⟨kept.tree, fun later same => ?_⟩
  simp only [signalWatcher, Option.map_eq_some_iff] at same
  obtain ⟨c, started, rfl⟩ := same
  exact Child.keeps_receive signal (kept.child c started)

theorem keeps_nap (n : Nap) (kept : w.Keeps P) : (w.nap n).Keeps P := by
  have waited : (if w.timed then w.lapse n.time else w.afterWatcher).Keeps P := by
    split
    · have lapsed := keeps_advance (fun _ => false) (some (w.clock + n.time)) kept
      exact ⟨lapsed.tree, lapsed.child⟩
    · exact keeps_advance (!·.isRunning) none kept
  exact ⟨waited.tree, waited.child⟩

end World

namespace Watcher

/-- A build whose processes keep a property keeps it until all of them have ended. -/
theorem keeps_finished {p : Process} {t : Tree} (kept : p.Keeps P) (held : P t) :
    P (finished p t).2 :=
  (Scene.keeps_runUntil Child.isSettled none Scene.turns ⟨t, 0, .ofProcess p 0⟩
    ⟨held, Child.keeps_ofProcess 0 kept⟩).tree

theorem keeps_halt (timeout : Binary64) {w : World} (kept : w.Keeps P) :
    (halt timeout w).Keeps P := by
  have asked := World.keeps_signalWatcher Process.termination kept
  simp only [halt]
  split
  · split
    · exact World.keeps_signalWatcher _ (World.keeps_advance _ _ asked)
    · rename_i last limited
      have waited := World.keeps_advance (!·.isRunning) (some last) asked
      split
      · have killed := World.keeps_signalWatcher Task.kill waited
        exact ⟨killed.tree, killed.child⟩
      · exact waited
  · exact asked

theorem keeps_awaitReader (timeout : Binary64) {w : World} (kept : w.Keeps P) :
    (awaitReader timeout w).2.Keeps P := by
  rcases awaitReader_cases timeout w with ⟨f, -, ran⟩ | ⟨-, last, waited⟩
  · rw [ran]
    exact ⟨kept.tree, kept.child⟩
  · have later := World.keeps_advance Child.isReleased (some last) kept
    rcases waited with ⟨-, ran⟩ | ⟨-, clock, ran⟩
    · rw [ran]
      exact ⟨later.tree, later.child⟩
    · rw [ran]
      exact ⟨later.tree, later.child⟩

theorem keeps_terminate (timeout : Binary64) : (terminate timeout).Keeps (World.Keeps P) := by
  intro w kept
  have halted : World.Keeps P (if w.isWatching then halt timeout w else w) := by
    split
    · exact keeps_halt timeout kept
    · exact kept
  rw [terminate, Act.run_ofFunction]
  generalize (if w.isWatching then halt timeout w else w) = after at halted ⊢
  simp only
  split
  · exact keeps_awaitReader timeout halted
  · exact halted

theorem keeps_awaitBuild {p : Process} (process : p.Keeps P) :
    (awaitBuild p).Keeps (World.Keeps P) := by
  refine Act.keeps_bind (fun w kept => ⟨keeps_finished process kept.tree, kept.child⟩) fun ran => ?_
  refine Act.keeps_bind (Act.keeps_ofExcept _) fun _ => ?_
  exact fun w kept => ⟨kept.tree, kept.child⟩

/-- A build keeps what the processes of its program keep. -/
theorem keeps_build_of_program (launcher : Launcher) (s : Settings) {w : World} (kept : w.Keeps P)
    (program : ∀ p, s.buildCommand ≠ [] → s.buildCommand.any hasNul = false →
      launcher w.tree s.buildCommand = .ok p → p.Keeps P) :
    World.Keeps P ((build launcher s).run w).2 := by
  by_cases done : w.built = true ∨ s.buildCommand = []
  · rw [run_build_of_done done]
    exact kept
  · rw [not_or, Bool.not_eq_true] at done
    obtain ⟨note, ran⟩ := run_build_of_new launcher done.1 done.2
    rw [ran, runBuild]
    rcases run_launch_cases launcher .build s.buildCommand
      (.buildRefused (s.buildCommand.headD "")) { w with log := w.log ++ [note] } with
      ⟨stop, refused⟩ | ⟨p, launched⟩
    · rw [Act.run_bind_of_error _ refused]
      exact ⟨kept.tree, kept.child⟩
    · obtain ⟨clean, found, -⟩ := run_launch_eq_ok.1 launched
      rw [Act.run_bind_of_ok _ launched]
      exact keeps_awaitBuild (program p done.2 clean found) _ ⟨kept.tree, kept.child⟩

theorem keeps_start_of_program (launcher : Launcher) (s : Settings) (roots : List Path) {w : World}
    (kept : w.Keeps P) (idle : w.child = none)
    (program : ∀ p, (words s roots).any hasNul = false →
      launcher w.tree (words s roots) = .ok p → p.Keeps P) :
    World.Keeps P ((start launcher s roots).run w).2 := by
  rcases start_cases launcher s roots idle with ⟨stop, -, refused⟩ | ⟨p, found, going⟩
  · rw [refused]
    exact ⟨kept.tree, kept.child⟩
  · have begun : World.Keeps P (begun s roots p w) := by
      refine ⟨kept.tree, fun c same => ?_⟩
      cases same
      exact Child.keeps_ofProcess w.clock (program p found.1 found.2)
    rw [going]
    exact keeps_grace (fun _ n kept => World.keeps_nap n kept) s _ begun

end Watcher

end WatchTrial
