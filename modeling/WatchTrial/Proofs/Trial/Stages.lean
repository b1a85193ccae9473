import WatchTrial.Proofs.Event
import WatchTrial.Proofs.Trial.Fault
import WatchTrial.Proofs.Trial.Validation
import WatchTrial.Proofs.Watcher.Failing

set_option autoImplicit false

namespace WatchTrial.Trial

open Act (Breaks)

/-- How a session fails: with the status and the failure of the first thing in it that goes wrong. -/
inductive SessionFailure (launcher : Launcher) (s : Settings) (r : Request) (plan : Script.Plan)
    (w : World) : Nat → Failure → Prop where
  | build (fault : LaunchFault) (builds : r.build = true)
      (fails : Watcher.BuildFails launcher s w.tree fault) :
      SessionFailure launcher s r plan w 5 (.launch fault)
  | start (built : World) (refusal : Refusal)
      (ran : (buildStep launcher s r).run w = (.ok (), built))
      (clean : (Watcher.words s plan.roots).any Watcher.hasNul = false)
      (refused : launcher built.tree (Watcher.words s plan.roots) = .error refusal) :
      SessionFailure launcher s r plan w 5
        (.launch (.startRefused ((Watcher.words s plan.roots).headD "")
          ⟨refusal, (Watcher.words s plan.roots).headD "", none⟩))
  | action (built begun mid : World) (before after : List Action) (a : Action) (refusal : Refusal)
      (ran : (buildStep launcher s r).run w = (.ok (), built))
      (started : (Watcher.start launcher s plan.roots).run built = (.ok (), begun))
      (split : plan.actions = before ++ a :: after)
      (performed : (Action.performEach before).run begun = (.ok (), mid))
      (askable : ¬a.Unaskable mid) (refused : a.answer mid = .error refusal) :
      SessionFailure launcher s r plan w 6 (.action a (a.systemError refusal))

/-- How a trial fails: with the status and the failure of its first stage that does, whatever would
have come of the others. -/
inductive FirstFailure (launcher : Launcher) (s : Settings) (r : Request) (w : World) :
    Nat → Failure → Prop where
  | script (e : Script.LineError) (refused : Refused w.tree s r (.script e)) :
      FirstFailure launcher s r w 3 (.script e)
  | setup (fault : SetupFault) (refused : Refused w.tree s r (.setup fault)) :
      FirstFailure launcher s r w 4 (.setup fault)
  | session (ready : Preparation) (settled : World) (status : Nat) (f : Failure)
      (prepared : (prepare s r).run w = (.ok ready, settled))
      (fails : SessionFailure launcher s r ready.plan settled status f) :
      FirstFailure launcher s r w status f
  | output (ready : Preparation) (settled last : World) (lines before after : List String)
      (line : String) (prepared : (prepare s r).run w = (.ok ready, settled))
      (observed : (observe launcher s r ready.plan).run settled = (.ok lines, last))
      (split : Event.filled lines = before ++ line :: after)
      (earlier : ∀ good ∈ before, ∃ event, Event.ofLine? r.base good = some event)
      (malformed : Event.ofLine? r.base line = none) :
      FirstFailure launcher s r w 7 (.output line)

section

variable {launcher : Launcher} {s : Settings} {r : Request} {plan : Script.Plan} {w : World}
  {status : Nat} {f : Failure}

theorem status_of_sessionFailure (fails : SessionFailure launcher s r plan w status f) :
    status = f.stage.status := by
  cases fails <;> rfl

theorem status_of_firstFailure (fails : FirstFailure launcher s r w status f) :
    status = f.stage.status := by
  cases fails with
  | session ready settled status f prepared fails => exact status_of_sessionFailure fails
  | _ => rfl

theorem result_buildStep_eq_failed (fresh : Fresh w) :
    ((buildStep launcher s r).run w).1 = .error (.failed f) ↔
      r.build = true ∧ ∃ fault, f = .launch fault ∧ Watcher.BuildFails launcher s w.tree fault := by
  unfold buildStep
  split
  · rename_i builds
    rw [Watcher.build_eq_failed_iff fresh.unbuilt]
    simp [builds]
  · rename_i skips
    constructor
    · intro stopped
      cases stopped
    · rintro ⟨builds, -⟩
      exact absurd builds skips

/-- Under a watcher only the actions can fail. -/
theorem result_underWatch_eq_failed :
    ((underWatch s plan).run w).1 = .error (.failed f) ↔
      ((Action.performAll plan.actions).run w).1 = .error (.failed f) := by
  unfold underWatch
  simp only [Act.result_bind_eq_error]
  constructor
  · rintro (stopped | ⟨_, mid, -, ended | ⟨_, last, -, looked⟩⟩)
    · exact stopped
    · obtain ⟨fault, same⟩ := Watcher.isBroken_of_terminate_error (Prod.ext ended rfl)
      cases same
    · cases looked
  · exact Or.inl

theorem session_eq (launcher : Launcher) (s : Settings) (r : Request) (plan : Script.Plan) :
    session launcher s r plan = (do
      buildStep launcher s r
      Watcher.start launcher s plan.roots
      underWatch s plan) := rfl

theorem result_session_eq_failed (fresh : Fresh w) :
    ((session launcher s r plan).run w).1 = .error (.failed f) ↔
      ∃ status, SessionFailure launcher s r plan w status f := by
  have idle {built : World} (ran : (buildStep launcher s r).run w = (.ok (), built)) :
      built.child = none := by
    have after := (idle_buildStep launcher s r fresh).1
    rw [ran] at after
    exact after
  rw [session_eq, Act.result_bind_eq_error, result_buildStep_eq_failed fresh]
  constructor
  · rintro (⟨builds, fault, rfl, fails⟩ | ⟨_, built, ran, stopped⟩)
    · exact ⟨5, .build fault builds fails⟩
    · rw [Act.result_bind_eq_error, Watcher.start_eq_failed_iff (idle ran)] at stopped
      rcases stopped with ⟨clean, refusal, refused, rfl⟩ | ⟨_, begun, started, stopped⟩
      · exact ⟨5, .start built refusal ran clean refused⟩
      · rw [result_underWatch_eq_failed, Action.result_performAll_eq_failed] at stopped
        obtain ⟨before, a, after, mid, refusal, split, performed, askable, refused, rfl⟩ := stopped
        exact ⟨6, .action built begun mid before after a refusal ran started split performed askable
          refused⟩
  · rintro ⟨status, fails⟩
    cases fails with
    | build fault builds fails => exact Or.inl ⟨builds, fault, rfl, fails⟩
    | start built refusal ran clean refused =>
        refine Or.inr ⟨(), built, ran, ?_⟩
        rw [Act.result_bind_eq_error, Watcher.start_eq_failed_iff (idle ran)]
        exact Or.inl ⟨clean, refusal, refused, rfl⟩
    | action built begun mid before after a refusal ran started split performed askable refused =>
        refine Or.inr ⟨(), built, ran, ?_⟩
        refine Act.result_bind_eq_error.2 (Or.inr ⟨(), begun, started, ?_⟩)
        rw [result_underWatch_eq_failed, Action.result_performAll_eq_failed]
        exact ⟨before, a, after, mid, refusal, split, performed, askable, refused, rfl⟩

/-- That the watcher is ended in any case hides no failure. -/
theorem result_observe_eq_failed (fresh : Fresh w)
    (whole : ¬Breaks (observe launcher s r plan) w) :
    ((observe launcher s r plan).run w).1 = .error (.failed f) ↔
      ∃ status, SessionFailure launcher s r plan w status f := by
  rw [observe_eq, Act.breaks_followedBy] at whole
  have ended := Watcher.terminate_of_not_breaks fun broken => whole (Or.inl broken)
  rw [← result_session_eq_failed fresh, observe_eq, Act.result_followedBy_eq_error]
  constructor
  · rintro (stopped | ⟨-, stopped⟩)
    · obtain ⟨fault, same⟩ := Watcher.isBroken_of_terminate_error (Prod.ext stopped rfl)
      cases same
    · exact stopped
  · exact fun stopped => Or.inr ⟨ended, stopped⟩

theorem eventTexts_eq_failed_iff {base : Path} {lines : List String} :
    eventTexts base lines = .error (.failed f) ↔
      ∃ before line after, Event.filled lines = before ++ line :: after ∧
        (∀ good ∈ before, ∃ event, Event.ofLine? base good = some event) ∧
        Event.ofLine? base line = none ∧ f = .output line := by
  have told : eventTexts base lines = .error (.failed f) ↔
      ∃ line, Event.ofLines base lines = .error line ∧ f = .output line := by
    unfold eventTexts
    cases Event.ofLines base lines with
    | error line => simp [eq_comm]
    | ok events => simp
  rw [told]
  simp only [Event.ofLines_eq_error_iff]
  constructor
  · rintro ⟨line, ⟨before, after, split, earlier, malformed⟩, rfl⟩
    exact ⟨before, line, after, split, earlier, malformed, rfl⟩
  · rintro ⟨before, line, after, split, earlier, malformed, rfl⟩
    exact ⟨line, ⟨before, after, split, earlier, malformed⟩, rfl⟩

/-- Making events the expected ones is no stage of its own that could fail. -/
theorem result_adopt_ne_failed (r : Request) (texts : List String) (w : World) :
    ((adopt r texts).run w).1 ≠ .error (.failed f) := by
  unfold adopt
  intro stopped
  rcases Act.result_bind_eq_error.1 stopped with writing | ⟨_, mid, -, given⟩
  · rw [Act.run_ofFunction] at writing
    cases written : (writeExpectation w.tree r.results (EventSet.ofList texts)).1 with
    | error fault =>
        simp only [written, mapError_error] at writing
        cases writing
    | ok u =>
        simp only [written, mapError_ok] at writing
        cases writing
  · cases given

theorem result_assess_eq_failed {expected : Option EventSet} {lines : List String} :
    ((assess r expected lines).run w).1 = .error (.failed f) ↔
      eventTexts r.base lines = .error (.failed f) := by
  unfold assess
  rw [Act.run_bind_of_ok _ (Act.run_note _ _ _ w), Act.result_bind_eq_error, Act.run_ofExcept]
  constructor
  · rintro (stopped | ⟨texts, mid, -, stopped⟩)
    · exact stopped
    · cases expected with
      | none => exact absurd stopped (result_adopt_ne_failed r texts mid)
      | some expected => cases stopped
  · exact Or.inl

/-- Once all has been settled, it is the session that fails or else a line that reports no event. -/
theorem result_proceed_eq_failed {ready : Preparation} (fresh : Fresh w)
    (whole : ¬Breaks (proceed launcher s r ready) w) :
    ((proceed launcher s r ready).run w).1 = .error (.failed f) ↔
      (∃ status, SessionFailure launcher s r ready.plan w status f) ∨
        ∃ lines last before line after,
          (observe launcher s r ready.plan).run w = (.ok lines, last) ∧
          Event.filled lines = before ++ line :: after ∧
          (∀ good ∈ before, ∃ event, Event.ofLine? r.base good = some event) ∧
          Event.ofLine? r.base line = none ∧ f = .output line := by
  unfold proceed at whole ⊢
  rw [Act.result_bind_eq_error, result_observe_eq_failed fresh fun broken =>
    whole (Act.breaks_bind.2 (Or.inl broken))]
  simp only [result_assess_eq_failed, eventTexts_eq_failed_iff]
  refine or_congr Iff.rfl ?_
  constructor
  · rintro ⟨lines, last, observed, before, line, after, malformed⟩
    exact ⟨lines, last, before, line, after, observed, malformed⟩
  · rintro ⟨lines, last, before, line, after, observed, malformed⟩
    exact ⟨lines, last, observed, before, line, after, malformed⟩

/-- The first stage that fails decides what the trial ends in, and if none does it does not fail. -/
theorem result_run_eq_failed (fresh : Fresh w) (whole : ¬Breaks (run launcher s r) w) :
    ((run launcher s r).run w).1 = .error (.failed f) ↔
      ∃ status, FirstFailure launcher s r w status f := by
  have staged : run launcher s r = prepare s r >>= proceed launcher s r := rfl
  rw [staged, Act.breaks_bind] at whole
  have proceeding {ready : Preparation} {settled : World}
      (prepared : (prepare s r).run w = (.ok ready, settled)) :=
    result_proceed_eq_failed (f := f) (fresh_of_run_prepare fresh prepared) fun broken =>
      whole (Or.inr ⟨ready, settled, prepared, broken⟩)
  rw [staged, Act.result_bind_eq_error, result_prepare_eq_failed]
  constructor
  · rintro (refused | ⟨ready, settled, prepared, stopped⟩)
    · -- Of what is checked before the session, only the script has a status of its own.
      cases f with
      | script e => exact ⟨3, .script e refused⟩
      | setup fault => exact ⟨4, .setup fault refused⟩
      | _ => cases refused
    · rcases (proceeding prepared).1 stopped with
        ⟨status, fails⟩ | ⟨lines, last, before, line, after, observed, split, earlier, malformed, rfl⟩
      · exact ⟨status, .session ready settled status f prepared fails⟩
      · exact ⟨7, .output ready settled last lines before after line prepared observed split earlier
          malformed⟩
  · rintro ⟨status, fails⟩
    cases fails with
    | script e refused => exact Or.inl refused
    | setup fault refused => exact Or.inl refused
    | session ready settled status f prepared fails =>
        exact Or.inr ⟨ready, settled, prepared, (proceeding prepared).2 (Or.inl ⟨status, fails⟩)⟩
    | output ready settled last lines before after line prepared observed split earlier malformed =>
        refine Or.inr ⟨ready, settled, prepared, (proceeding prepared).2 (Or.inr ?_)⟩
        exact ⟨lines, last, before, line, after, observed, split, earlier, malformed, rfl⟩

end

end WatchTrial.Trial
