import WatchTrial.Proofs.Act
import WatchTrial.Proofs.Traversal
import WatchTrial.Trial

set_option autoImplicit false

namespace WatchTrial.Trial

/-- The actions in a script file. -/
def actionsOf (t : Tree) (script base : Path) : Except Stop (List Action) := do
  let text ← (readText t script).mapError .broken
  (Script.read base (Script.linesOf text)).mapError fun e => .failed (.script e)

/-- The plan that the script of a trial comes to. -/
def planOf (t : Tree) (s : Settings) (r : Request) : Except Stop Script.Plan := do
  let actions ← actionsOf t r.script r.base
  let plan ← (Script.plan actions).mapError fun root => .failed (.setup (.lateRoot root))
  if plan.roots.isEmpty && !s.allowEmptyRoots then .error (.failed (.setup (.noRoots r.script)))
  else .ok plan

/-- The plan of a trial with the events that it is to be compared with, if any. -/
def preparation (t : Tree) (s : Settings) (r : Request) : Except Stop Preparation := do
  let plan ← planOf t s r
  if r.update then .ok ⟨plan, none⟩
  else do
    let expected ← expectation t r.results
    .ok ⟨plan, some expected⟩

theorem readText_of_clean (t : Tree) {p : Path} (clean : p.hasNul = false) :
    readText t p =
      match t.readFile p with
      | .error refusal => .error (.system ⟨refusal, p.text, none⟩)
      | .ok content => (Text.Utf8.decode content).mapError .undecodable := by
  rw [readText, readFile, clean]
  cases t.readFile p <;> rfl

theorem expectation_of_clean (t : Tree) {results : Path} (clean : results.hasNul = false) :
    expectation t results =
      match t.readFile results with
      | .error refusal =>
          .error (.failed (.setup (.unreadableResults results ⟨refusal, results.text, none⟩)))
      | .ok content =>
          match Text.Utf8.decode content with
          | .error flaw => .error (.broken (.undecodable flaw))
          | .ok text => .ok (Expectation.ofText text) := by
  rw [expectation, readExpectation, readFile, clean]
  cases t.readFile results with
  | error refusal => rfl
  | ok content =>
      simp only [Expectation.read]
      cases decoded : Text.Utf8.decode content <;>
        simp [decoded, bind, Except.bind, mapError_ok, mapError_error, Except.map, pure,
          Except.pure]

theorem expectation_eq_ok {t : Tree} {results : Path} {expected : EventSet}
    (read : expectation t results = .ok expected) :
    ∃ content text, t.readFile results = .ok content ∧ Text.Utf8.decode content = .ok text ∧
      expected = Expectation.ofText text := by
  cases clean : results.hasNul with
  | true =>
      rw [expectation, readExpectation, readFile, clean] at read
      cases read
  | false =>
      rw [expectation_of_clean t clean] at read
      split at read
      · cases read
      · rename_i content found
        split at read
        · cases read
        · rename_i text decoded
          cases read
          exact ⟨content, text, found, decoded, rfl⟩

/-- A plan is that of the actions that have been read in the text of the script. -/
theorem planOf_eq_ok {t : Tree} {s : Settings} {r : Request} {plan : Script.Plan}
    (planned : planOf t s r = .ok plan) :
    ∃ text actions, readText t r.script = .ok text ∧
      Script.read r.base (Script.linesOf text) = .ok actions ∧
      Script.plan actions = .ok plan := by
  obtain ⟨actions, asked, rest⟩ := bind_eq_ok_iff.1 planned
  obtain ⟨text, found, read⟩ := bind_eq_ok_iff.1 asked
  obtain ⟨ready, made, checked⟩ := bind_eq_ok_iff.1 rest
  split at checked
  · cases checked
  · cases checked
    exact ⟨text, actions, mapError_eq_ok_iff.1 found, mapError_eq_ok_iff.1 read,
      mapError_eq_ok_iff.1 made⟩

theorem preparation_eq_ok {t : Tree} {s : Settings} {r : Request} {ready : Preparation}
    (settled : preparation t s r = .ok ready) :
    planOf t s r = .ok ready.plan ∧
      (r.update = true ∧ ready.expected = none ∨
        r.update = false ∧ ∃ expected, ready.expected = some expected ∧
          expectation t r.results = .ok expected) := by
  obtain ⟨plan, planned, rest⟩ := bind_eq_ok_iff.1 settled
  split at rest
  · rename_i updates
    cases rest
    exact ⟨planned, Or.inl ⟨updates, rfl⟩⟩
  · rename_i compares
    obtain ⟨expected, read, last⟩ := bind_eq_ok_iff.1 rest
    cases last
    exact ⟨planned, Or.inr ⟨by simpa using compares, expected, rfl, read⟩⟩

theorem reads_readScript (script base : Path) :
    (readScript script base).Reads fun t => actionsOf t script base := by
  refine Act.Reads.congr
    (Act.reads_bind (Act.reads_tree fun t => (readText t script).mapError .broken) fun text =>
      Act.reads_bind (Act.reads_ofExcept _) fun actions =>
        Act.reads_bind (Act.reads_note _ _ _) fun _ => Act.reads_pure actions) ?_
  intro t
  unfold actionsOf
  congr 1
  funext text
  cases (Script.read base (Script.linesOf text)).mapError fun e => Stop.failed (.script e) <;> rfl

theorem reads_plan (actions : List Action) :
    (plan actions).Reads fun _ =>
      (Script.plan actions).mapError fun root => .failed (.setup (.lateRoot root)) := by
  refine Act.Reads.congr
    (Act.reads_bind (Act.reads_ofExcept _) fun plan =>
      Act.reads_ite (Act.reads_bind (Act.reads_note _ _ _) fun _ => Act.reads_pure plan)
        (Act.reads_pure plan)) ?_
  intro t
  cases (Script.plan actions).mapError fun root => Stop.failed (.setup (.lateRoot root)) with
  | error s => rfl
  | ok plan => exact ite_self _

theorem reads_prepare (s : Settings) (r : Request) :
    (prepare s r).Reads fun t => preparation t s r := by
  have settled (plan : Script.Plan) :
      (if r.update = true then (pure ⟨plan, none⟩ : Act Preparation)
        else (Act.ofFunction fun w => (expectation w.tree r.results, w)) >>= fun expected =>
          pure ⟨plan, some expected⟩).Reads fun t =>
        if r.update = true then .ok ⟨plan, none⟩
        else expectation t r.results >>= fun expected => .ok ⟨plan, some expected⟩ :=
    Act.reads_ite (Act.reads_pure (⟨plan, none⟩ : Preparation))
      (Act.reads_bind (Act.reads_tree fun t => expectation t r.results) fun expected =>
        Act.reads_pure (⟨plan, some expected⟩ : Preparation))
  refine Act.Reads.congr
    (Act.reads_bind (reads_readScript r.script r.base) fun actions =>
      Act.reads_bind (reads_plan actions) fun plan =>
        Act.reads_ite (Act.reads_bind (Act.reads_fail _) fun _ => settled plan) (settled plan)) ?_
  intro t
  unfold preparation planOf
  cases actionsOf t r.script r.base with
  | error s => rfl
  | ok actions =>
      cases planned : Script.plan actions with
      | error root => simp only [bind, Except.bind, planned, mapError_error]
      | ok plan =>
          simp only [bind, Except.bind, planned, mapError_ok]
          by_cases rootless : (plan.roots.isEmpty && !s.allowEmptyRoots) = true
          · simp only [rootless, if_true]
          · simp only [rootless, if_false, Bool.false_eq_true]

/-- Preparing leaves a world that differs from the first one in its log only. -/
theorem run_prepare (s : Settings) (r : Request) (w : World) :
    ∃ log, (prepare s r).run w = (preparation w.tree s r, { w with log }) := reads_prepare s r w

theorem run_prepare_eq_ok {s : Settings} {r : Request} {w settled : World} {ready : Preparation}
    (ran : (prepare s r).run w = (.ok ready, settled)) :
    preparation w.tree s r = .ok ready ∧ ∃ log, settled = { w with log } := by
  obtain ⟨log, same⟩ := run_prepare s r w
  rw [ran, Prod.mk.injEq] at same
  exact ⟨same.1.symm, log, same.2⟩

theorem keeps_prepare (s : Settings) (r : Request) (P : World → Prop)
    (unlogged : ∀ (w : World) log, P w → P { w with log }) : (prepare s r).Keeps P := by
  intro w held
  obtain ⟨log, ran⟩ := run_prepare s r w
  rw [ran]
  exact unlogged w log held

end WatchTrial.Trial
