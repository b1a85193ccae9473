import Mathlib.Control.Monad.Basic
import WatchTrial.Proofs.Script.Reading
import WatchTrial.Proofs.Trial.Preparation

set_option autoImplicit false

namespace WatchTrial.Trial

/-- The failure of the first check that a trial does not pass before it begins. -/
inductive Refused (t : Tree) (s : Settings) (r : Request) : Failure → Prop where
  | script (text : List Char) (e : Script.LineError) (readable : readText t r.script = .ok text)
      (flawed : Script.read r.base (Script.linesOf text) = .error e) : Refused t s r (.script e)
  | lateRoot (text : List Char) (actions : List Action) (root : Path)
      (readable : readText t r.script = .ok text)
      (read : Script.read r.base (Script.linesOf text) = .ok actions)
      (late : Script.plan actions = .error root) : Refused t s r (.setup (.lateRoot root))
  | noRoots (text : List Char) (actions : List Action) (plan : Script.Plan)
      (readable : readText t r.script = .ok text)
      (read : Script.read r.base (Script.linesOf text) = .ok actions)
      (planned : Script.plan actions = .ok plan) (rootless : plan.roots = [])
      (needed : s.allowEmptyRoots = false) : Refused t s r (.setup (.noRoots r.script))
  | results (plan : Script.Plan) (refusal : Refusal) (planned : planOf t s r = .ok plan)
      (compares : r.update = false) (clean : r.results.hasNul = false)
      (refused : t.readFile r.results = .error refusal) :
      Refused t s r
        (.setup (.unreadableResults r.results ⟨refusal, r.results.text, none⟩))

section

variable {t : Tree} {s : Settings} {r : Request} {text : List Char} {f : Failure}

theorem planOf_of_flawed {e : Script.LineError} (readable : readText t r.script = .ok text)
    (flawed : Script.read r.base (Script.linesOf text) = .error e) :
    planOf t s r = .error (.failed (.script e)) := by
  simp only [planOf, actionsOf, readable, flawed, mapError_ok, mapError_error, bind, Except.bind]

theorem planOf_of_late {actions : List Action} {root : Path}
    (readable : readText t r.script = .ok text)
    (read : Script.read r.base (Script.linesOf text) = .ok actions)
    (late : Script.plan actions = .error root) :
    planOf t s r = .error (.failed (.setup (.lateRoot root))) := by
  simp only [planOf, actionsOf, readable, read, late, mapError_ok, mapError_error, bind, Except.bind]

theorem planOf_of_planned {actions : List Action} {plan : Script.Plan}
    (readable : readText t r.script = .ok text)
    (read : Script.read r.base (Script.linesOf text) = .ok actions)
    (planned : Script.plan actions = .ok plan) :
    planOf t s r =
      if plan.roots.isEmpty && !s.allowEmptyRoots then .error (.failed (.setup (.noRoots r.script)))
      else .ok plan := by
  simp only [planOf, actionsOf, readable, read, planned, mapError_ok, bind, Except.bind]

theorem planOf_of_unreadable {fault : Fault} (unreadable : readText t r.script = .error fault) :
    planOf t s r = .error (.broken fault) := by
  simp only [planOf, actionsOf, unreadable, mapError_error, bind, Except.bind]

theorem preparation_of_planOf_error {stop : Stop} (stopped : planOf t s r = .error stop) :
    preparation t s r = .error stop := by
  rw [preparation, stopped]
  rfl

theorem preparation_of_unreadable_results {plan : Script.Plan} {refusal : Refusal}
    (planned : planOf t s r = .ok plan) (compares : r.update = false)
    (clean : r.results.hasNul = false) (refused : t.readFile r.results = .error refusal) :
    preparation t s r = .error (.failed
      (.setup (.unreadableResults r.results ⟨refusal, r.results.text, none⟩))) := by
  simp only [preparation, planned, compares, expectation_of_clean t clean, refused, bind,
    Except.bind, Bool.false_eq_true, if_false]

theorem refused_of_expectation {plan : Script.Plan} (planned : planOf t s r = .ok plan)
    (compares : r.update = false) (failed : expectation t r.results = .error (.failed f)) :
    Refused t s r f := by
  cases clean : r.results.hasNul with
  | true =>
      rw [expectation, readExpectation, readFile, clean] at failed
      cases failed
  | false =>
      rw [expectation_of_clean t clean] at failed
      split at failed
      · rename_i refusal refused
        cases failed
        exact .results plan refusal planned compares clean refused
      · split at failed
        · cases failed
        · cases failed

theorem refused_of_planOf (failed : planOf t s r = .error (.failed f)) : Refused t s r f := by
  cases readable : readText t r.script with
  | error fault =>
      rw [planOf_of_unreadable readable] at failed
      cases failed
  | ok text =>
      cases read : Script.read r.base (Script.linesOf text) with
      | error e =>
          rw [planOf_of_flawed readable read] at failed
          cases failed
          exact .script text e readable read
      | ok actions =>
          cases planned : Script.plan actions with
          | error root =>
              rw [planOf_of_late readable read planned] at failed
              cases failed
              exact .lateRoot text actions root readable read planned
          | ok plan =>
              rw [planOf_of_planned readable read planned] at failed
              split at failed
              · rename_i rootless
                cases failed
                simp only [Bool.and_eq_true, List.isEmpty_iff, Bool.not_eq_true'] at rootless
                exact .noRoots text actions plan readable read planned rootless.1 rootless.2
              · cases failed

/-- The list of checks is complete, and the first that is not passed decides. -/
theorem preparation_eq_failed_iff :
    preparation t s r = .error (.failed f) ↔ Refused t s r f := by
  constructor
  · intro failed
    cases planned : planOf t s r with
    | error stop =>
        rw [preparation_of_planOf_error planned] at failed
        cases failed
        exact refused_of_planOf planned
    | ok plan =>
        cases update : r.update with
        | true =>
            rw [preparation, planned, update] at failed
            cases failed
        | false =>
            cases known : expectation t r.results with
            | error stop =>
                simp only [preparation, planned, update, known, bind, Except.bind,
                  Bool.false_eq_true, if_false] at failed
                cases failed
                exact refused_of_expectation planned update known
            | ok expected =>
                simp only [preparation, planned, update, known, bind, Except.bind,
                  Bool.false_eq_true, if_false] at failed
                cases failed
  · intro refused
    cases refused with
    | script text e readable flawed =>
        exact preparation_of_planOf_error (planOf_of_flawed readable flawed)
    | lateRoot text actions root readable read late =>
        exact preparation_of_planOf_error (planOf_of_late readable read late)
    | noRoots text actions plan readable read planned rootless needed =>
        refine preparation_of_planOf_error ?_
        rw [planOf_of_planned readable read planned, rootless, needed]
        rfl
    | results plan refusal planned compares clean refused =>
        exact preparation_of_unreadable_results planned compares clean refused

end

theorem result_prepare_eq_failed {s : Settings} {r : Request} {w : World} {f : Failure} :
    ((prepare s r).run w).1 = .error (.failed f) ↔ Refused w.tree s r f := by
  obtain ⟨log, prepared⟩ := run_prepare s r w
  rw [prepared, preparation_eq_failed_iff]

/-- What there can be against a trial whose script has the given lines. -/
inductive Objection (t : Tree) (s : Settings) (r : Request) (lines : List String) : Prop where
  | flawed (flaw : Script.Flawed r.base lines)
  | late (declares : Script.DeclaresLate r.base lines)
  | rootless (declares : Script.DeclaresNone r.base lines) (needed : s.allowEmptyRoots = false)
  | results (refusal : Refusal) (compares : r.update = false) (clean : r.results.hasNul = false)
      (refused : t.readFile r.results = .error refusal)

theorem refused_of_objection {t : Tree} {s : Settings} {r : Request} {text : List Char}
    (readable : readText t r.script = .ok text)
    (objection : Objection t s r (Script.linesOf text)) :
    ∃ f, Refused t s r f ∧
      (Script.Flawed r.base (Script.linesOf text) → f.stage = .script) ∧
      (¬Script.Flawed r.base (Script.linesOf text) → f.stage = .setup) := by
  cases read : Script.read r.base (Script.linesOf text) with
  | error e =>
      have flaw := (Script.flawed_iff r.base (Script.linesOf text)).2 ⟨e, read⟩
      exact ⟨_, .script text e readable read, fun _ => rfl, fun none => absurd flaw none⟩
  | ok actions =>
      have noFlaw : ¬Script.Flawed r.base (Script.linesOf text) := by
        intro flaw
        obtain ⟨e, refused⟩ := (Script.flawed_iff _ _).1 flaw
        cases read.symm.trans refused
      cases planned : Script.plan actions with
      | error root =>
          exact ⟨_, .lateRoot text actions root readable read planned,
            fun flaw => absurd flaw noFlaw, fun _ => rfl⟩
      | ok plan =>
          by_cases rootless : plan.roots = [] ∧ s.allowEmptyRoots = false
          · exact ⟨_, .noRoots text actions plan readable read planned rootless.1 rootless.2,
              fun flaw => absurd flaw noFlaw, fun _ => rfl⟩
          · cases objection with
            | flawed flaw => exact absurd flaw noFlaw
            | late declares =>
                obtain ⟨root, late⟩ := Script.plan_of_declaresLate read declares
                cases planned.symm.trans late
            | rootless declares needed =>
                exact absurd ⟨Script.roots_of_declaresNone read planned declares, needed⟩ rootless
            | results refusal compares clean refused =>
                have settled : planOf t s r = .ok plan := by
                  rw [planOf_of_planned readable read planned, if_neg]
                  simpa using rootless
                exact ⟨_, .results plan refusal settled compares clean refused,
                  fun flaw => absurd flaw noFlaw, fun _ => rfl⟩

/-- A trial with something against it fails before it does anything, in the stage of the script if
a line is flawed and else in that of the setup. It makes no pause, asks for no program and leaves
the files as they were. -/
theorem objection_precedes_effects (s : Settings) (r : Request) (w : World) (text : List Char)
    (readable : readText w.tree r.script = .ok text)
    (objection : Objection w.tree s r (Script.linesOf text)) :
    ∃ f log, (∀ launcher, (run launcher s r).run w = (.error (.failed f), { w with log })) ∧
      (Script.Flawed r.base (Script.linesOf text) → f.stage = .script) ∧
      (¬Script.Flawed r.base (Script.linesOf text) → f.stage = .setup) := by
  obtain ⟨f, refused, stage⟩ := refused_of_objection readable objection
  obtain ⟨log, prepared⟩ := run_prepare s r w
  rw [preparation_eq_failed_iff.2 refused] at prepared
  refine ⟨f, log, fun launcher => ?_, stage⟩
  exact Act.run_bind_of_error _ prepared

/-- A word that is no command, on the last line of a script that makes and removes much. -/
theorem objection_of_unknown_word :
    let script := Text.Utf8.encode "WatchDir d\nCreate File d/a\nDelete d\n\nRename d e\n".toList
    let w : World := { tree := { entries := [([['s']], .file script false)] } }
    let r : Request :=
      { script := Path.ofString "s", results := Path.ofString "e", base := Path.here }
    ∃ f log, (∀ launcher, (run launcher Settings.usual r).run w =
        (.error (.failed f), { w with log })) ∧ f.stage = .script := by
  intro script w r
  have readable : readText w.tree r.script =
      .ok "WatchDir d\nCreate File d/a\nDelete d\n\nRename d e\n".toList := by decide +kernel
  have flaw : Script.Flawed r.base
      (Script.linesOf "WatchDir d\nCreate File d/a\nDelete d\n\nRename d e\n".toList) :=
    ⟨"Rename d e", by decide +kernel, by decide +kernel, .unknownCommand "Rename",
      by decide +kernel⟩
  obtain ⟨f, log, stopped, stage, -⟩ :=
    objection_precedes_effects Settings.usual r w _ readable (.flawed flaw)
  exact ⟨f, log, stopped, stage flaw⟩

end WatchTrial.Trial
