import Mathlib.Control.Monad.Basic
import WatchTrial.Proofs.Watcher.Failing
import WatchTrial.Proofs.Watcher.LifeCycle

set_option autoImplicit false

namespace WatchTrial

/-- A program that writes the given octets to its output and to its errors, and ends. -/
def Process.uttering (output errors : Octets) (e : Ending) : Process :=
  .write .output output fun _ => .write .errors errors fun _ => .ended e

/-- The program that has written the given octets and has ended. -/
def Child.uttered (output errors : Octets) (e : Ending) : Child :=
  { main := { job := 0, process := .ended e, since := 0 }, written := [output],
    complaints := [errors] }

namespace Watcher

variable {launcher : Launcher} {s : Settings} {w : World} {t : Tree}

theorem finished_uttering (output errors : Octets) (e : Ending) (t : Tree) :
    finished (.uttering output errors e) t = (.uttered output errors e, t) := by
  -- A single turn writes both and ends the program; then nothing is left to wait for.
  have ⟨turns, many⟩ : ∃ turns, Scene.turns = turns + 1 := ⟨_, rfl⟩
  have said : (⟨t, 0, .ofProcess (.uttering output errors e) 0⟩ : Scene).resume 0 0 =
      ⟨t, 0, .uttered output errors e⟩ := by
    simp [Scene.resume, Scene.resuming, Child.task, Child.ofProcess, Child.resumed,
      Process.uttering, Scene.perform, Child.setTask, Scene.written, Scene.complained,
      Child.uttered, Task.isOver, Process.isOver, Process.ending?]
  have first : (⟨t, 0, .ofProcess (.uttering output errors e) 0⟩ : Scene).next? = some (0, 0) := rfl
  have going : (Child.ofProcess (.uttering output errors e) 0).isSettled = false := rfl
  have done : (Child.uttered output errors e).isSettled = true := rfl
  rw [finished, many, Scene.runUntil]
  simp only [going, first, Option.any_none, Bool.false_eq_true, if_false, said]
  rw [Scene.runUntil_of_wanted none turns done]

/-- The command of the build can be run, and when all that it starts has ended it has done so with the
status. -/
def Exits (launcher : Launcher) (s : Settings) (t : Tree) (status : Int) : Prop :=
  s.buildCommand.any hasNul = false ∧
    ∃ process, launcher t s.buildCommand = .ok process ∧
      (ending (finished process t).1).status = status

/-- What a build is to come to: it succeeds, or it fails and names the reason. -/
structure Documented (launcher : Launcher) (s : Settings) (w : World) : Prop where
  succeeds : ((build launcher s).run w).1 = .ok () ↔ Built s w ∨ Exits launcher s w.tree 0
  ended : ¬Built s w → ∀ status ≠ 0, Exits launcher s w.tree status → ∃ errors,
    ((build launcher s).run w).1 = .error (.failed (.launch (.buildFailed status errors)))
  refused : ¬Built s w → (∀ status, ¬Exits launcher s w.tree status) → ∃ e,
    ((build launcher s).run w).1 =
      .error (.failed (.launch (.buildRefused (s.buildCommand.headD "") e)))

/-- The command can be passed on, and what it writes can be read. -/
def Readable (launcher : Launcher) (s : Settings) (t : Tree) : Prop :=
  s.buildCommand.any hasNul = false ∧
    ∀ process, launcher t s.buildCommand = .ok process →
      ¬Undecodable (finished process t).1.output ∧ ¬Undecodable (finished process t).1.errors

theorem exists_textOf_iff (octets : Octets) :
    (∃ text, textOf octets = .ok text) ↔ ¬Undecodable octets := by
  unfold textOf Undecodable
  cases Text.Utf8.decode octets <;> simp

/-- A build whose output can be read is judged by its status. -/
theorem judgeBuild_of_readable {c : Child} (output : ¬Undecodable c.output)
    (errors : ¬Undecodable c.errors) :
    ∃ complaint, judgeBuild c =
      if (ending c).status = 0 then .ok ()
      else .error (.failed (.launch (.buildFailed (ending c).status complaint))) := by
  obtain ⟨text, first⟩ := (exists_textOf_iff _).2 output
  obtain ⟨complaint, second⟩ := (exists_textOf_iff _).2 errors
  refine ⟨String.ofList (Text.trim Text.isBlank complaint), ?_⟩
  rw [judgeBuild, first, second]
  by_cases sound : (ending c).status = 0 <;> simp [bind, Except.bind, pure, Except.pure, sound]

theorem result_build_of_launched {process : Process} (new : ¬Built s w)
    (clean : s.buildCommand.any hasNul = false)
    (launched : launcher w.tree s.buildCommand = .ok process) :
    ((build launcher s).run w).1 = judgeBuild (finished process w.tree).1 := by
  rw [Built, not_or, Bool.not_eq_true] at new
  obtain ⟨note, ran⟩ := run_build_of_new launcher new.1 new.2
  have going : (launch launcher .build s.buildCommand
      (.buildRefused (s.buildCommand.headD ""))).run { w with log := w.log ++ [note] } =
        (.ok process, _) := run_launch_eq_ok.2 ⟨clean, launched, rfl⟩
  rw [ran, runBuild, Act.run_bind_of_ok _ going, result_awaitBuild]

theorem result_build_of_refused {refusal : Refusal} (new : ¬Built s w)
    (clean : s.buildCommand.any hasNul = false)
    (refused : launcher w.tree s.buildCommand = .error refusal) :
    ∃ e, ((build launcher s).run w).1 =
      .error (.failed (.launch (.buildRefused (s.buildCommand.headD "") e))) := by
  rw [Built, not_or, Bool.not_eq_true] at new
  obtain ⟨program, arguments, command⟩ := List.exists_cons_of_ne_nil new.2
  have name : s.buildCommand.headD "" = program := by simp [command]
  have fails := BuildFails.refused program arguments refusal command clean refused
  rw [name]
  exact ⟨_, (build_eq_failed_iff new.1).2 ⟨_, rfl, fails⟩⟩

theorem result_build_of_nul (new : ¬Built s w) (nul : s.buildCommand.any hasNul = true) :
    ((build launcher s).run w).1 = .error (.broken .nulCharacter) := by
  rw [Built, not_or, Bool.not_eq_true] at new
  obtain ⟨note, ran⟩ := run_build_of_new launcher new.1 new.2
  have refused : (launch launcher .build s.buildCommand
      (.buildRefused (s.buildCommand.headD ""))).run { w with log := w.log ++ [note] } =
        (.error (.broken .nulCharacter), { w with log := w.log ++ [note] }) := by
    rw [launch, Act.run_ofFunction, if_pos nul]
  rw [ran, runBuild, Act.run_bind_of_error _ refused]

/-- A build ends in a fault just when it has something to do and its command cannot be passed on or
read. -/
theorem breaks_build_iff_unreadable :
    Act.Breaks (build launcher s) w ↔ ¬(Built s w ∨ Readable launcher s w.tree) := by
  by_cases done : Built s w
  · exact iff_of_false (Act.not_breaks_of_ok (run_build_of_done done)) fun new => new (Or.inl done)
  · rw [not_or, and_iff_right done]
    rw [Built, not_or, Bool.not_eq_true] at done
    rw [breaks_build_iff launcher s done.1, Readable]
    cases clean : s.buildCommand.any hasNul with
    | true => simp
    | false => simp [done.2, Classical.not_imp, Classical.or_iff_not_imp_left]

/-- When the command can be passed on and read, a build does what it is to. -/
theorem documented_of_readable (new : ¬Built s w) (readable : Readable launcher s w.tree) :
    Documented launcher s w := by
  obtain ⟨clean, plain⟩ := readable
  cases launched : launcher w.tree s.buildCommand with
  | error refusal =>
      have none (status : Int) : ¬Exits launcher s w.tree status := by
        rintro ⟨-, process, going, -⟩
        cases launched.symm.trans going
      obtain ⟨e, refused⟩ := result_build_of_refused new clean launched
      exact {
        succeeds := by simp [refused, new, none]
        ended := fun _ status _ exits => absurd exits (none status)
        refused := fun _ _ => ⟨e, refused⟩ }
  | ok process =>
      have exits (status : Int) : Exits launcher s w.tree status ↔
          (ending (finished process w.tree).1).status = status := by
        simp [Exits, clean, launched]
      obtain ⟨complaint, judged⟩ :=
        judgeBuild_of_readable (plain process launched).1 (plain process launched).2
      rw [← result_build_of_launched new clean launched] at judged
      refine { succeeds := ?_, ended := ?_, refused := ?_ }
      · rw [judged, exits]
        by_cases sound : (ending (finished process w.tree).1).status = 0 <;> simp [sound, new]
      · rintro - status unsound exit
        obtain rfl := (exits status).1 exit
        exact ⟨complaint, judged.trans (if_neg unsound)⟩
      · exact fun _ none => absurd ((exits _).2 rfl) (none _)

theorem documented_of_built (done : Built s w) : Documented launcher s w where
  succeeds := by simp [run_build_of_done done, done]
  ended new := absurd done new
  refused new := absurd done new

/-- What is documented leaves no room for a fault. -/
theorem Documented.not_breaks (documented : Documented launcher s w) :
    ¬Act.Breaks (build launcher s) w := by
  rintro ⟨fault, broken⟩
  have failed : ¬(Built s w ∨ Exits launcher s w.tree 0) := by
    rw [← documented.succeeds, broken]
    intro ok
    cases ok
  rw [not_or] at failed
  by_cases none : ∀ status, ¬Exits launcher s w.tree status
  · obtain ⟨e, refused⟩ := documented.refused failed.1 none
    cases broken.symm.trans refused
  · simp only [Classical.not_forall, Classical.not_not] at none
    obtain ⟨status, exits⟩ := none
    have unsound : status ≠ 0 := by
      rintro rfl
      exact failed.2 exits
    obtain ⟨errors, ended⟩ := documented.ended failed.1 status unsound exits
    cases broken.symm.trans ended

theorem fault_of_textOf {octets : Octets} {fault : Fault}
    (broken : textOf octets = .error (.broken fault)) : ∃ flaw, fault = .undecodable flaw := by
  unfold textOf at broken
  split at broken
  · cases broken
  · cases broken
    exact ⟨_, rfl⟩

theorem fault_of_judgeBuild {c : Child} {fault : Fault}
    (broken : judgeBuild c = .error (.broken fault)) : ∃ flaw, fault = .undecodable flaw := by
  rcases bind_eq_error_iff.1 broken with first | ⟨output, -, later⟩
  · exact fault_of_textOf first
  · rcases bind_eq_error_iff.1 later with second | ⟨errors, -, judged⟩
    · exact fault_of_textOf second
    · simp only at judged
      split at judged
      · cases judged
      · cases judged

/-- The fault of a build is a word that cannot be passed on, or what cannot be read. -/
theorem fault_of_build {fault : Fault}
    (broken : ((build launcher s).run w).1 = .error (.broken fault)) :
    fault = .nulCharacter ∨ ∃ flaw, fault = .undecodable flaw := by
  by_cases done : Built s w
  · rw [run_build_of_done done] at broken
    cases broken
  · cases clean : s.buildCommand.any hasNul with
    | true =>
        rw [result_build_of_nul done clean] at broken
        cases broken
        exact Or.inl rfl
    | false =>
        cases launched : launcher w.tree s.buildCommand with
        | error refusal =>
            obtain ⟨e, refused⟩ := result_build_of_refused done clean launched
            cases broken.symm.trans refused
        | ok process =>
            rw [result_build_of_launched done clean launched] at broken
            exact Or.inr (fault_of_judgeBuild broken)

theorem documented_iff : Documented launcher s w ↔ Built s w ∨ Readable launcher s w.tree := by
  constructor
  · intro documented
    exact Classical.byContradiction fun unread =>
      documented.not_breaks (breaks_build_iff_unreadable.2 unread)
  · intro sound
    by_cases done : Built s w
    · exact documented_of_built done
    · exact documented_of_readable done (sound.resolve_left done)

theorem result_build_eq_ok_iff :
    ((build launcher s).run w).1 = .ok () ↔
      Built s w ∨ Readable launcher s w.tree ∧ Exits launcher s w.tree 0 := by
  constructor
  · intro ok
    have sound : Built s w ∨ Readable launcher s w.tree := by
      refine Classical.byContradiction fun unread => ?_
      obtain ⟨fault, broken⟩ := breaks_build_iff_unreadable.2 unread
      cases ok.symm.trans broken
    rcases (documented_iff.2 sound).succeeds.1 ok with done | exits
    · exact Or.inl done
    · exact sound.imp_right fun readable => ⟨readable, exits⟩
  · rintro (done | ⟨readable, exits⟩)
    · exact congrArg Prod.fst (run_build_of_done done)
    · exact (documented_iff.2 (Or.inr readable)).succeeds.2 (Or.inr exits)

/-- Of a program that writes what it has to say and ends, it is only this that counts. -/
theorem documented_uttering_iff {output errors : Octets} {e : Ending} (new : ¬Built s w)
    (clean : s.buildCommand.any hasNul = false)
    (launched : launcher w.tree s.buildCommand = .ok (.uttering output errors e)) :
    Documented launcher s w ↔ ¬Undecodable output ∧ ¬Undecodable errors := by
  have first : (Child.uttered output errors e).output = output := by
    simp [Child.output, Child.uttered]
  have second : (Child.uttered output errors e).errors = errors := by
    simp [Child.errors, Child.uttered]
  rw [documented_iff, Readable]
  simp [new, clean, launched, finished_uttering, first, second]

/-- A build does what it is documented to do just when it has been done, or its command can be passed
on and writes nothing but text. -/
theorem build_documented_iff (launcher : Launcher) (s : Settings) (w : World) :
    let result := ((build launcher s).run w).1
    (Documented launcher s w ↔ Built s w ∨ Readable launcher s w.tree) ∧
      (result = .ok () ↔ Built s w ∨ Readable launcher s w.tree ∧ Exits launcher s w.tree 0) ∧
      (IsBroken result ↔ ¬Built s w ∧ ¬Readable launcher s w.tree) ∧
      ∀ fault, result = .error (.broken fault) →
        fault = .nulCharacter ∨ ∃ flaw, fault = .undecodable flaw := by
  intro result
  have broken : IsBroken result ↔ ¬Built s w ∧ ¬Readable launcher s w.tree :=
    breaks_build_iff_unreadable.trans not_or
  exact ⟨documented_iff, result_build_eq_ok_iff, broken, fun _ => fault_of_build⟩

/-- The same of a command that complains and ends with status 3. -/
theorem build_documented_iff_of_failed_command :
    let s : Settings := { Settings.usual with buildCommand := ["make", "all"] }
    let launcher : Launcher := fun _ _ => .ok (.uttering [111, 107] [98, 97, 100, 10] (.exited 3))
    let w : World := { tree := { entries := [] } }
    let f : LaunchFault := .buildFailed 3 "bad"
    ¬Built s w ∧ Readable launcher s w.tree ∧ ¬Exits launcher s w.tree 0 ∧
      ((build launcher s).run w).1 = .error (.failed (.launch f)) ∧
      f.message = "Build command exited with status 3\nbad" ∧ Documented launcher s w := by
  intro s launcher w f
  have new : ¬Built s w := by simp [Built, s, w]
  have ran : ((build launcher s).run w).1 = .error (.failed (.launch f)) := by decide +kernel
  obtain ⟨documented, succeeds, broken, -⟩ := build_documented_iff launcher s w
  have readable : Readable launcher s w.tree := by
    refine Classical.byContradiction fun unread => ?_
    obtain ⟨fault, stopped⟩ := broken.2 ⟨new, unread⟩
    cases ran.symm.trans stopped
  have unsound : ¬Exits launcher s w.tree 0 := by
    intro exits
    cases ran.symm.trans (succeeds.2 (Or.inr ⟨readable, exits⟩))
  exact ⟨new, readable, unsound, ran, by decide +kernel, documented.2 (Or.inr readable)⟩

/-- A single octet that is no text is a fault of the build, whether the command succeeds or not. -/
theorem build_undocumented_of_stray_octet :
    let s : Settings := { Settings.usual with buildCommand := ["printf", "\\377"] }
    let launcher (e : Ending) : Launcher := fun _ _ => .ok (.uttering [0xff] [] e)
    let w : World := { tree := { entries := [] } }
    Exits (launcher (.exited 0)) s w.tree 0 ∧
      (∀ e, ((build (launcher e) s).run w).1 =
        .error (.broken (.undecodable ⟨0, 1, 0xff, .invalidStart⟩))) ∧
      ¬∀ launcher s w, Documented launcher s w := by
  intro s launcher w
  have new : ¬Built s w := by simp [Built, s, w]
  have clean : s.buildCommand.any hasNul = false := by decide
  have exits : Exits (launcher (.exited 0)) s w.tree 0 :=
    ⟨clean, _, rfl, by rw [finished_uttering]; rfl⟩
  refine ⟨exits, fun e => ?_, fun all => ?_⟩
  · have launched : launcher e w.tree s.buildCommand = .ok (.uttering [0xff] [] e) := rfl
    rw [result_build_of_launched new clean launched, finished_uttering]
    rfl
  · have documented := (documented_uttering_iff new clean rfl).1 (all (launcher (.exited 0)) s w)
    exact documented.1 ⟨_, rfl⟩

end Watcher

end WatchTrial
