import WatchTrial.Proofs.Path
import WatchTrial.Proofs.Perform
import WatchTrial.Proofs.Script.Reading
import WatchTrial.Proofs.Trial.Observation
import WatchTrial.Proofs.Watcher.Starting

set_option autoImplicit false

namespace WatchTrial.Trial

open Act (Breaks Keeps)
open Watcher (Undecodable)

/-- A world in which nothing has been built and no watcher been started. -/
structure Fresh (w : World) : Prop where
  unbuilt : w.built = false
  idle : w.child = none
  quiet : w.reading = false

/-- What a trial can meet, once all has been settled, that no stage answers for. -/
inductive SessionFault (launcher : Launcher) (s : Settings) (r : Request) (plan : Script.Plan)
    (w : World) : Prop where
  | buildWord (builds : r.build = true) (nul : s.buildCommand.any Watcher.hasNul = true)
  | buildOutput (process : Process) (builds : r.build = true) (some : s.buildCommand ≠ [])
      (clean : s.buildCommand.any Watcher.hasNul = false)
      (launched : launcher w.tree s.buildCommand = .ok process)
      (unread : Undecodable (Watcher.finished process w.tree).1.output ∨
        Undecodable (Watcher.finished process w.tree).1.errors)
  | watcherWord (built : World) (ran : (buildStep launcher s r).run w = (.ok (), built))
      (nul : (Watcher.words s plan.roots).any Watcher.hasNul = true)
  | grace (built : World) (process : Process) (f : Fault)
      (ran : (buildStep launcher s r).run w = (.ok (), built))
      (launches : Watcher.Launches launcher s plan.roots built.tree process)
      (endless : Watcher.graceFault? s built = some f)
  | timeout (built begun : World) (f : Fault)
      (ran : (buildStep launcher s r).run w = (.ok (), built))
      (started : (Watcher.start launcher s plan.roots).run built = (.ok (), begun))
      (endless : s.terminateTimeout.timeFault? = some f)
  | action (built begun mid : World) (before after : List Action) (a : Action)
      (ran : (buildStep launcher s r).run w = (.ok (), built))
      (started : (Watcher.start launcher s plan.roots).run built = (.ok (), begun))
      (split : plan.actions = before ++ a :: after)
      (performed : (Action.performEach before).run begun = (.ok (), mid))
      (unaskable : a.Unaskable mid)

section

variable {launcher : Launcher} {s : Settings} {r : Request} {plan : Script.Plan} {w : World}

theorem breaks_buildStep_iff (fresh : Fresh w) :
    Breaks (buildStep launcher s r) w ↔
      r.build = true ∧
        (s.buildCommand.any Watcher.hasNul = true ∨
          ∃ process, s.buildCommand ≠ [] ∧ s.buildCommand.any Watcher.hasNul = false ∧
            launcher w.tree s.buildCommand = .ok process ∧
            (Undecodable (Watcher.finished process w.tree).1.output ∨
              Undecodable (Watcher.finished process w.tree).1.errors)) := by
  unfold buildStep
  split
  · rename_i builds
    rw [Watcher.breaks_build_iff launcher s fresh.unbuilt]
    simp [builds]
  · rename_i skips
    constructor
    · exact fun broken => absurd broken (not_isBroken_ok _)
    · rintro ⟨builds, -⟩
      exact absurd builds skips

theorem idle_buildStep (launcher : Launcher) (s : Settings) (r : Request) (fresh : Fresh w) :
    ((buildStep launcher s r).run w).2.child = none ∧
      ((buildStep launcher s r).run w).2.reading = false := by
  have kept : Keeps (fun w => w.child = none ∧ w.reading = false) (buildStep launcher s r) := by
    unfold buildStep
    split
    · exact Watcher.keeps_build launcher s (fun _ _ _ _ held => held) fun _ _ held => held
    · exact Act.keeps_pure ()
  exact kept w ⟨fresh.idle, fresh.quiet⟩

/-- What is left of a session once the watcher has been started. -/
def underWatch (s : Settings) (plan : Script.Plan) : Act (List String) := do
  let _ ← Action.performAll plan.actions
  Watcher.terminate s.terminateTimeout
  Act.look World.output

theorem run_session_of_started {built begun : World}
    (ran : (buildStep launcher s r).run w = (.ok (), built))
    (started : (Watcher.start launcher s plan.roots).run built = (.ok (), begun)) :
    (session launcher s r plan).run w = (underWatch s plan).run begun := by
  unfold session
  rw [Act.run_bind_of_ok _ ran, Act.run_bind_of_ok _ started]
  rfl

/-- A fault under a watcher is not lost when that is ended. -/
theorem breaks_followedBy_terminate {α : Type} {act : Act α} (broken : Breaks act w) :
    Breaks (act.followedBy (Watcher.terminate s.terminateTimeout)) w := by
  rw [Act.breaks_followedBy]
  by_cases late : Breaks (Watcher.terminate s.terminateTimeout) (act.run w).2
  · exact Or.inl late
  · exact Or.inr ⟨Watcher.terminate_of_not_breaks late, broken⟩

/-- Under a watcher there is a fault when its output cannot be waited for, however the actions have
gone, and when an action cannot be asked for. -/
theorem breaks_underWatch_iff (performable : ∀ a ∈ plan.actions, a.Performable) {begun : World}
    (awaits : begun.awaits = true) :
    Breaks ((underWatch s plan).followedBy (Watcher.terminate s.terminateTimeout)) begun ↔
      (∃ f, s.terminateTimeout.timeFault? = some f) ∨
        ∃ before a after mid, plan.actions = before ++ a :: after ∧
          (Action.performEach before).run begun = (.ok (), mid) ∧ a.Unaskable mid := by
  rw [← Action.breaks_performEach_iff performable, ← Action.breaks_performAll_iff]
  constructor
  · intro broken
    rcases Act.breaks_followedBy.1 broken with late | ⟨-, broken⟩
    · exact Or.inl ((Watcher.breaks_terminate_iff _ _).1 late).2
    · rcases Act.breaks_bind.1 broken with actions | ⟨_, mid, -, broken⟩
      · exact Or.inr actions
      · rcases Act.breaks_bind.1 broken with ending | ⟨_, last, -, looked⟩
        · exact Or.inl ((Watcher.breaks_terminate_iff _ _).1 ending).2
        · exact absurd looked (not_isBroken_ok _)
  · rintro (endless | actions)
    · have still := Action.keeps_performAll World.steady_awaits plan.actions begun awaits
      cases performed : (Action.performAll plan.actions).run begun with
      | mk result mid =>
          rw [performed] at still
          have ending : Breaks (Watcher.terminate s.terminateTimeout) mid :=
            (Watcher.breaks_terminate_iff _ _).2 ⟨still, endless⟩
          cases result with
          | error stop =>
              -- The actions stop short, so the watcher is ended for the first time afterwards.
              have stopped : (underWatch s plan).run begun = (.error stop, mid) :=
                Act.run_bind_of_error _ performed
              rw [Act.breaks_followedBy, stopped]
              exact Or.inl ending
          | ok count =>
              apply breaks_followedBy_terminate
              rw [underWatch, Act.breaks_bind_of_ok performed, Act.breaks_bind]
              exact Or.inl ending
    · exact breaks_followedBy_terminate (Act.breaks_bind.2 (Or.inl actions))

/-- A session whose build has gone well, and whose watcher cannot be started. -/
theorem run_session_of_refused {built left : World} {stop : Stop}
    (ran : (buildStep launcher s r).run w = (.ok (), built))
    (refused : (Watcher.start launcher s plan.roots).run built = (.error stop, left)) :
    (session launcher s r plan).run w = (.error stop, left) := by
  unfold session
  rw [Act.run_bind_of_ok _ ran]
  exact Act.run_bind_of_error _ refused

theorem run_terminate_of_quiet {v : World} (quiet : v.reading = false) :
    ∃ last, (Watcher.terminate s.terminateTimeout).run v = (.ok (), last) := by
  apply Watcher.terminate_of_not_breaks
  rw [Watcher.breaks_terminate_iff, World.awaits, quiet]
  rintro ⟨awaits, -⟩
  cases awaits

/-- When the watcher cannot be started, a session meets a fault just when that is one. There is a
reader to wait for then only if the watcher has not had its time of grace, which is one already. -/
theorem breaks_observe_of_refused {built left : World} {stop : Stop}
    (ran : (buildStep launcher s r).run w = (.ok (), built)) (idle : built.child = none)
    (quiet : built.reading = false)
    (refused : (Watcher.start launcher s plan.roots).run built = (.error stop, left)) :
    Breaks (observe launcher s r plan) w ↔ Breaks (Watcher.start launcher s plan.roots) built := by
  have stopped := run_session_of_refused ran refused
  have same : Breaks (session launcher s r plan) w ↔
      Breaks (Watcher.start launcher s plan.roots) built := by
    rw [Act.breaks_iff_of_error stopped, Act.breaks_iff_of_error refused]
  rw [observe_eq]
  refine ⟨fun broken => ?_, fun broken => breaks_followedBy_terminate (same.2 broken)⟩
  rcases Act.breaks_followedBy.1 broken with late | ⟨-, broken⟩
  · rw [stopped, Watcher.breaks_terminate_iff] at late
    rcases Watcher.start_cases launcher s plan.roots idle with
      ⟨other, -, unchanged⟩ | ⟨process, -, going⟩
    · cases unchanged.symm.trans refused
      simp [World.awaits, quiet] at late
    · rw [Breaks, going]
      rcases Watcher.grace_cases s (Watcher.begun s plan.roots process built) with
        ⟨f, -, graced⟩ | ⟨-, _, graced, -⟩
      · rw [graced]
        exact isBroken_error f
      · cases (going.symm.trans refused).symm.trans graced
  · exact same.1 broken

/-- When the build has gone well, a session meets a fault as the start of the watcher and what comes
after it do. -/
theorem breaks_observe_of_built (performable : ∀ a ∈ plan.actions, a.Performable) {built : World}
    (ran : (buildStep launcher s r).run w = (.ok (), built)) (idle : built.child = none)
    (quiet : built.reading = false) :
    Breaks (observe launcher s r plan) w ↔
      (Watcher.words s plan.roots).any Watcher.hasNul = true ∨
        (∃ process f, Watcher.Launches launcher s plan.roots built.tree process ∧
          Watcher.graceFault? s built = some f) ∨
        ∃ begun, (Watcher.start launcher s plan.roots).run built = (.ok (), begun) ∧
          ((∃ f, s.terminateTimeout.timeFault? = some f) ∨
            ∃ before a after mid, plan.actions = before ++ a :: after ∧
              (Action.performEach before).run begun = (.ok (), mid) ∧ a.Unaskable mid) := by
  rw [← or_assoc, ← Watcher.breaks_start_iff launcher s plan.roots idle]
  cases started : (Watcher.start launcher s plan.roots).run built with
  | mk result left =>
      cases result with
      | ok u =>
          have awaits : left.awaits = true := Watcher.awaits_of_start idle started
          rw [observe_eq, Act.breaks_followedBy_congr _ (run_session_of_started ran started),
            breaks_underWatch_iff performable awaits]
          constructor
          · exact fun cause => Or.inr ⟨left, rfl, cause⟩
          · rintro (broken | ⟨begun, same, cause⟩)
            · exact absurd broken (Act.not_breaks_of_ok started)
            · cases same
              exact cause
      | error stop =>
          rw [breaks_observe_of_refused ran idle quiet started]
          refine ⟨Or.inl, ?_⟩
          rintro (broken | ⟨begun, other, -⟩)
          · exact broken
          · cases other

theorem breaks_observe_iff (fresh : Fresh w) (performable : ∀ a ∈ plan.actions, a.Performable) :
    Breaks (observe launcher s r plan) w ↔ SessionFault launcher s r plan w := by
  have after := idle_buildStep launcher s r fresh
  cases ran : (buildStep launcher s r).run w with
  | mk result built =>
      rw [ran] at after
      obtain ⟨idle, quiet⟩ := after
      cases result with
      | error stop =>
          -- The build is as far as the trial gets.
          have stopped : (session launcher s r plan).run w = (.error stop, built) :=
            Act.run_bind_of_error _ ran
          rw [observe_eq, Act.breaks_followedBy_of_error stopped (run_terminate_of_quiet quiet),
            ← Act.breaks_iff_of_error ran, breaks_buildStep_iff fresh]
          constructor
          · rintro ⟨builds, nul | ⟨process, some, clean, launched, unread⟩⟩
            · exact .buildWord builds nul
            · exact .buildOutput process builds some clean launched unread
          · intro fault
            cases fault with
            | buildWord builds nul => exact ⟨builds, Or.inl nul⟩
            | buildOutput process builds some clean launched unread =>
                exact ⟨builds, Or.inr ⟨process, some, clean, launched, unread⟩⟩
            | watcherWord other ran' => cases ran.symm.trans ran'
            | grace other process f ran' => cases ran.symm.trans ran'
            | timeout other begun f ran' => cases ran.symm.trans ran'
            | action other begun mid before after a ran' => cases ran.symm.trans ran'
      | ok u =>
          have whole : ¬Breaks (buildStep launcher s r) w := Act.not_breaks_of_ok ran
          rw [breaks_buildStep_iff fresh] at whole
          rw [breaks_observe_of_built performable ran idle quiet]
          constructor
          · rintro (nul | ⟨process, f, launches, endless⟩ | ⟨begun, started, ⟨f, endless⟩ |
              ⟨before, a, after, mid, split, performed, unaskable⟩⟩)
            · exact .watcherWord built ran nul
            · exact .grace built process f ran launches endless
            · exact .timeout built begun f ran started endless
            · exact .action built begun mid before after a ran started split performed unaskable
          · intro fault
            cases fault with
            | buildWord builds nul => exact absurd ⟨builds, Or.inl nul⟩ whole
            | buildOutput process builds some clean launched unread =>
                exact absurd ⟨builds, Or.inr ⟨process, some, clean, launched, unread⟩⟩ whole
            | watcherWord other ran' nul => exact Or.inl nul
            | grace other process f ran' launches endless =>
                cases ran.symm.trans ran'
                exact Or.inr (Or.inl ⟨process, f, launches, endless⟩)
            | timeout other begun f ran' started endless =>
                cases ran.symm.trans ran'
                exact Or.inr (Or.inr ⟨begun, started, Or.inl ⟨f, endless⟩⟩)
            | action other begun mid before after a ran' started split performed unaskable =>
                cases ran.symm.trans ran'
                exact Or.inr (Or.inr ⟨begun, started,
                  Or.inr ⟨before, a, after, mid, split, performed, unaskable⟩⟩)

end

/-- What a trial can meet that no stage answers for, given that its script can be read. -/
inductive RunFault (launcher : Launcher) (s : Settings) (r : Request) (w : World) : Prop where
  | script (content : Octets) (found : w.tree.readFile r.script = .ok content)
      (unread : Undecodable content)
  | results (plan : Script.Plan) (content : Octets) (planned : planOf w.tree s r = .ok plan)
      (compares : r.update = false) (found : w.tree.readFile r.results = .ok content)
      (unread : Undecodable content)
  | session (ready : Preparation) (settled : World)
      (prepared : (prepare s r).run w = (.ok ready, settled))
      (met : SessionFault launcher s r ready.plan settled)
  | adoption (ready : Preparation) (settled last : World) (lines texts : List String)
      (e : SystemError) (prepared : (prepare s r).run w = (.ok ready, settled))
      (observed : (observe launcher s r ready.plan).run settled = (.ok lines, last))
      (reported : eventTexts r.base lines = .ok texts) (updates : r.update = true)
      (refused : (writeExpectation last.tree r.results (EventSet.ofList texts)).1 =
        .error (.system e))

theorem isBroken_planOf_iff {t : Tree} (s : Settings) {r : Request} {content : Octets}
    (clean : r.script.hasNul = false) (found : t.readFile r.script = .ok content) :
    IsBroken (planOf t s r) ↔ Undecodable content := by
  have text : readText t r.script = (Text.Utf8.decode content).mapError .undecodable := by
    rw [readText_of_clean t clean, found]
  unfold planOf actionsOf
  rw [isBroken_bind, isBroken_bind, text]
  unfold Undecodable
  constructor
  · rintro ((broken | ⟨chars, -, broken⟩) | ⟨actions, -, broken⟩)
    · cases decoded : Text.Utf8.decode content with
      | error flaw => exact ⟨flaw, rfl⟩
      | ok chars =>
          rw [decoded] at broken
          exact absurd broken (not_isBroken_ok _)
    · cases read : Script.read r.base (Script.linesOf chars) with
      | error e =>
          rw [read] at broken
          exact absurd broken (not_isBroken_failed _)
      | ok actions =>
          rw [read] at broken
          exact absurd broken (not_isBroken_ok _)
    · rcases (isBroken_bind _ _).1 broken with late | ⟨plan, -, broken⟩
      · cases planned : Script.plan actions with
        | error root =>
            rw [planned] at late
            exact absurd late (not_isBroken_failed _)
        | ok plan =>
            rw [planned] at late
            exact absurd late (not_isBroken_ok _)
      · split at broken
        · exact absurd broken (not_isBroken_failed _)
        · exact absurd broken (not_isBroken_ok _)
  · rintro ⟨flaw, undecodable⟩
    rw [undecodable]
    exact Or.inl (Or.inl (isBroken_error _))

theorem isBroken_expectation_iff {t : Tree} {results : Path} (clean : results.hasNul = false) :
    IsBroken (expectation t results) ↔
      ∃ content, t.readFile results = .ok content ∧ Undecodable content := by
  rw [expectation_of_clean t clean]
  cases t.readFile results with
  | error refusal =>
      constructor
      · exact fun broken => absurd broken (not_isBroken_failed _)
      · rintro ⟨content, there, -⟩
        cases there
  | ok content =>
      cases decoded : Text.Utf8.decode content with
      | error flaw =>
          simp only [decoded]
          exact ⟨fun _ => ⟨content, rfl, flaw, decoded⟩, fun _ => isBroken_error _⟩
      | ok text =>
          simp only [decoded]
          refine ⟨fun broken => absurd broken (not_isBroken_ok _), ?_⟩
          rintro ⟨same, there, flaw, undecodable⟩
          cases there
          cases decoded.symm.trans undecodable

theorem performable_of_planOf {t : Tree} {s : Settings} {r : Request} {plan : Script.Plan}
    (planned : planOf t s r = .ok plan) : ∀ a ∈ plan.actions, a.Performable := by
  obtain ⟨text, actions, -, read, made⟩ := planOf_eq_ok planned
  exact Script.performable_of_plan read made

/-- Where there is no NUL, what keeps expected events from being written is a refusal. -/
theorem writeExpectation_error {t : Tree} {results : Path} {events : EventSet} {f : Fault}
    (clean : results.hasNul = false) (stopped : (writeExpectation t results events).1 = .error f) :
    ∃ e, f = .system e := by
  unfold writeExpectation at stopped
  simp only [Path.hasNul_parent clean, Bool.false_eq_true, if_false, clean] at stopped
  split at stopped
  · cases stopped
    exact ⟨_, rfl⟩
  · rename_i made _
    cases result : (made.writeFile results (Expectation.write events)).result with
    | error refusal =>
        rw [result] at stopped
        cases stopped
        exact ⟨_, rfl⟩
    | ok u =>
        rw [result] at stopped
        cases stopped

theorem breaks_adopt_iff (r : Request) (texts : List String) (w : World)
    (clean : r.results.hasNul = false) :
    Breaks (adopt r texts) w ↔
      ∃ e, (writeExpectation w.tree r.results (EventSet.ofList texts)).1 = .error (.system e) := by
  unfold adopt
  rw [Act.breaks_bind, Breaks, Act.run_ofFunction]
  cases written : (writeExpectation w.tree r.results (EventSet.ofList texts)).1 with
  | error f =>
      simp only [written]
      obtain ⟨e, rfl⟩ := writeExpectation_error clean written
      exact ⟨fun _ => ⟨e, rfl⟩, fun _ => Or.inl (isBroken_error _)⟩
  | ok u =>
      simp only [written]
      constructor
      · rintro (broken | ⟨_, mid, -, broken⟩)
        · exact absurd broken (not_isBroken_ok _)
        · exact absurd broken (not_isBroken_ok _)
      · rintro ⟨e, same⟩
        cases same

/-- What comes after the lines have been observed. -/
def assess (r : Request) (expected : Option EventSet) (lines : List String) : Act Outcome := do
  Act.note .debug .trial ("Captured " ++ toString lines.length ++ " watcher lines")
  let events ← Act.ofExcept (eventTexts r.base lines)
  match expected with
  | none => adopt r events
  | some expected => return judge r events expected

theorem breaks_assess_iff (r : Request) (expected : Option EventSet) (lines : List String)
    (w : World) (clean : r.results.hasNul = false) :
    Breaks (assess r expected lines) w ↔
      expected = none ∧ ∃ texts e, eventTexts r.base lines = .ok texts ∧
        (writeExpectation w.tree r.results (EventSet.ofList texts)).1 = .error (.system e) := by
  unfold assess
  rw [Act.breaks_bind_of_ok (Act.run_note _ _ _ w)]
  cases reported : eventTexts r.base lines with
  | error stop =>
      have failed : ¬IsBroken (.error stop : Except Stop (List String)) := by
        unfold eventTexts at reported
        split at reported
        · cases reported
        · cases reported
          exact not_isBroken_failed _
      rw [Act.breaks_bind, Act.breaks_ofExcept]
      constructor
      · rintro (broken | ⟨texts, mid, ran, -⟩)
        · exact absurd broken failed
        · cases ran
      · rintro ⟨-, texts, e, same, -⟩
        cases same
  | ok texts =>
      rw [Act.breaks_bind_of_ok (Act.run_ofExcept _ _)]
      cases expected with
      | none =>
          change Breaks (adopt r texts) _ ↔ _
          rw [breaks_adopt_iff r texts _ clean]
          constructor
          · rintro ⟨e, refused⟩
            exact ⟨rfl, texts, e, rfl, refused⟩
          · rintro ⟨-, other, e, same, refused⟩
            cases same
            exact ⟨e, refused⟩
      | some expected =>
          constructor
          · exact fun broken => absurd broken (not_isBroken_ok _)
          · rintro ⟨none, -⟩
            cases none

/-- What comes after all has been settled. -/
def proceed (launcher : Launcher) (s : Settings) (r : Request) (ready : Preparation) :
    Act Outcome := do
  let lines ← observe launcher s r ready.plan
  assess r ready.expected lines

theorem breaks_proceed_iff {launcher : Launcher} {s : Settings} {r : Request} {ready : Preparation}
    {w : World} (fresh : Fresh w) (performable : ∀ a ∈ ready.plan.actions, a.Performable)
    (clean : r.results.hasNul = false) :
    Breaks (proceed launcher s r ready) w ↔
      SessionFault launcher s r ready.plan w ∨
        ∃ lines last texts e, (observe launcher s r ready.plan).run w = (.ok lines, last) ∧
          eventTexts r.base lines = .ok texts ∧ ready.expected = none ∧
          (writeExpectation last.tree r.results (EventSet.ofList texts)).1 =
            .error (.system e) := by
  unfold proceed
  rw [Act.breaks_bind, breaks_observe_iff fresh performable]
  refine or_congr Iff.rfl ?_
  constructor
  · rintro ⟨lines, last, observed, broken⟩
    obtain ⟨unknown, texts, e, reported, refused⟩ :=
      (breaks_assess_iff r _ lines last clean).1 broken
    exact ⟨lines, last, texts, e, observed, reported, unknown, refused⟩
  · rintro ⟨lines, last, texts, e, observed, reported, unknown, refused⟩
    exact ⟨lines, last, observed,
      (breaks_assess_iff r _ lines last clean).2 ⟨unknown, texts, e, reported, refused⟩⟩

theorem isBroken_preparation_iff (t : Tree) (s : Settings) (r : Request) :
    IsBroken (preparation t s r) ↔
      IsBroken (planOf t s r) ∨
        ∃ plan, planOf t s r = .ok plan ∧ r.update = false ∧
          IsBroken (expectation t r.results) := by
  unfold preparation
  rw [isBroken_bind]
  refine or_congr Iff.rfl (exists_congr fun plan => and_congr Iff.rfl ?_)
  cases r.update with
  | true =>
      constructor
      · exact fun broken => absurd broken (not_isBroken_ok _)
      · rintro ⟨compares, -⟩
        cases compares
  | false =>
      change IsBroken (expectation t r.results >>= _) ↔ _
      rw [isBroken_bind]
      constructor
      · rintro (broken | ⟨expected, -, broken⟩)
        · exact ⟨rfl, broken⟩
        · exact absurd broken (not_isBroken_ok _)
      · rintro ⟨-, broken⟩
        exact Or.inl broken

/-- Nothing has been built or started by the time that all has been settled. -/
theorem fresh_of_run_prepare {s : Settings} {r : Request} {w settled : World} {ready : Preparation}
    (fresh : Fresh w) (ran : (prepare s r).run w = (.ok ready, settled)) : Fresh settled := by
  obtain ⟨-, log, rfl⟩ := run_prepare_eq_ok ran
  exact ⟨fresh.unbuilt, fresh.idle, fresh.quiet⟩

/-- The list of faults is complete, and each of them ends the trial. -/
theorem breaks_run_iff {launcher : Launcher} {s : Settings} {r : Request} {w : World}
    (fresh : Fresh w) {content : Octets} (script : r.script.hasNul = false)
    (found : w.tree.readFile r.script = .ok content) (results : r.results.hasNul = false) :
    Breaks (run launcher s r) w ↔ RunFault launcher s r w := by
  have whole : run launcher s r = prepare s r >>= proceed launcher s r := rfl
  have settling : Breaks (prepare s r) w ↔ IsBroken (preparation w.tree s r) := by
    obtain ⟨log, prepared⟩ := run_prepare s r w
    rw [Breaks, prepared]
  rw [whole, Act.breaks_bind, settling, isBroken_preparation_iff,
    isBroken_planOf_iff s script found, isBroken_expectation_iff results]
  constructor
  · rintro ((unread | ⟨plan, planned, compares, other, there, unread⟩) | ⟨ready, mid, ran, broken⟩)
    · exact .script content found unread
    · exact .results plan other planned compares there unread
    · obtain ⟨planned, mode⟩ := preparation_eq_ok (run_prepare_eq_ok ran).1
      rcases (breaks_proceed_iff (fresh_of_run_prepare fresh ran) (performable_of_planOf planned)
          results).1 broken with
        met | ⟨lines, last, texts, e, observed, reported, unknown, refused⟩
      · exact .session ready mid ran met
      · rcases mode with ⟨updates, -⟩ | ⟨-, expected, known, -⟩
        · exact .adoption ready mid last lines texts e ran observed reported updates refused
        · rw [unknown] at known
          cases known
  · intro fault
    cases fault with
    | script other there unread =>
        cases found.symm.trans there
        exact Or.inl (Or.inl unread)
    | results plan other planned compares there unread =>
        exact Or.inl (Or.inr ⟨plan, planned, compares, other, there, unread⟩)
    | session ready settled ran met =>
        obtain ⟨planned, -⟩ := preparation_eq_ok (run_prepare_eq_ok ran).1
        refine Or.inr ⟨ready, settled, ran, ?_⟩
        exact (breaks_proceed_iff (fresh_of_run_prepare fresh ran) (performable_of_planOf planned)
          results).2 (Or.inl met)
    | adoption ready settled last lines texts e ran observed reported updates refused =>
        obtain ⟨planned, mode⟩ := preparation_eq_ok (run_prepare_eq_ok ran).1
        refine Or.inr ⟨ready, settled, ran, ?_⟩
        rcases mode with ⟨-, unknown⟩ | ⟨compares, -⟩
        · exact (breaks_proceed_iff (fresh_of_run_prepare fresh ran)
            (performable_of_planOf planned) results).2
            (Or.inr ⟨lines, last, texts, e, observed, reported, unknown, refused⟩)
        · rw [updates] at compares
          cases compares

end WatchTrial.Trial
