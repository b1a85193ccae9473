import WatchTrial.Proofs.CommandLine
import WatchTrial.Proofs.Trial.Stages

set_option autoImplicit false

namespace WatchTrial.CommandLine

open Act (Breaks)
open Text.Ansi (strip)
open Verdict (unlines passedLines)

/-- How a command fails: as its settings do, or as its trial does with them. -/
inductive FirstFailure (launcher : Launcher) (environment : List (String × String)) (w : World)
    (settings : Option Path) (r : Trial.Request) : Nat → Failure → Prop where
  | settings (f : Failure)
      (refused : Settings.load w.tree settings environment = .error (.failed f)) :
      FirstFailure launcher environment w settings r 4 f
  | trial (s : Settings) (status : Nat) (f : Failure)
      (loaded : Settings.load w.tree settings environment = .ok s)
      (fails : Trial.FirstFailure launcher s r w status f) :
      FirstFailure launcher environment w settings r status f

section

variable {launcher : Launcher} {environment : List (String × String)} {texts : List String}
  {w : World} {a : Arguments} {settings : Option Path} {r : Trial.Request} {status : Nat}
  {f : Failure}

theorem status_of_firstFailure (fails : FirstFailure launcher environment w settings r status f) :
    status = f.stage.status := by
  cases fails with
  | settings f refused => rw [Settings.failsInSetup_load w.tree settings environment f refused]; rfl
  | trial s status f loaded fails => exact Trial.status_of_firstFailure fails

theorem result_trial_eq_failed (fresh : Trial.Fresh w)
    (whole : ¬Breaks (trial launcher environment settings r) w) :
    ((trial launcher environment settings r).run w).1 = .error (.failed f) ↔
      ∃ status, FirstFailure launcher environment w settings r status f := by
  unfold trial at whole ⊢
  rw [Act.breaks_bind] at whole
  rw [Act.result_bind_eq_error, Act.run_ofFunction]
  have running {s : Settings} (loaded : Settings.load w.tree settings environment = .ok s) :
      ¬Breaks (Trial.run launcher s r) w := by
    intro broken
    exact whole (Or.inr ⟨s, w, by rw [Act.run_ofFunction, loaded], broken⟩)
  constructor
  · rintro (refused | ⟨s, mid, loaded, stopped⟩)
    · exact ⟨4, .settings f refused⟩
    · rw [Prod.mk.injEq] at loaded
      obtain ⟨loaded, rfl⟩ := loaded
      obtain ⟨status, fails⟩ := (Trial.result_run_eq_failed fresh (running loaded)).1 stopped
      exact ⟨status, .trial s status f loaded fails⟩
  · rintro ⟨status, fails⟩
    cases fails with
    | settings f refused => exact Or.inl refused
    | trial s status f loaded fails =>
        refine Or.inr ⟨s, w, by rw [loaded], ?_⟩
        exact (Trial.result_run_eq_failed fresh (running loaded)).2 ⟨status, fails⟩

theorem complaint_eq (message : String) : complaint message = "watcher-test: " ++ strip message :=
  Verdict.strip_append_of_plain "watcher-test: " message (by decide)

end

/-- Whatever would have come of the stages after it, the first stage that fails decides the status
and the last line that is told, and nothing is shown. When no stage fails, what is shown is the one
message or the one report, and only a strict mismatch shows in the status. -/
theorem first_failing_stage_decides (launcher : Launcher) (environment : List (String × String))
    (texts : List String) (w : World) (a : Arguments) (settings : Option Path) (r : Trial.Request)
    (usable : Arguments.read texts = some a) (runs : a.help = false) (fresh : Trial.Fresh w)
    (accepted : request w.tree a = .ok (settings, r))
    (answered : ∀ f, (run launcher environment texts w).1.stop ≠ some (.broken f)) :
    let report := (run launcher environment texts w).1
    (∀ status f, FirstFailure launcher environment w settings r status f →
        report.status = status ∧ report.shown = "" ∧
          report.told = unlines (report.log ++ ["watcher-test: " ++ strip f.message])) ∧
      ((∀ status f, ¬FirstFailure launcher environment w settings r status f) →
        report.stop = none ∧
          (a.update = true ∧ report.status = 0 ∧
              report.shown = unlines ["Expected output written to " ++ strip r.results.text] ∨
            a.update = false ∧ ∃ v : Verdict,
              report.status = (if a.strict && !v.passed then 1 else 0) ∧
              report.shown = unlines
                (if v.passed then passedLines r.script.text r.results.text
                  else v.failedLines))) := by
  intro report
  obtain ⟨strict, update, -⟩ := request_eq_ok accepted
  have whole : ¬Breaks (trial launcher environment settings r) w := by
    rw [breaks_trial_iff fresh accepted,
      ← stop_eq_broken_iff launcher environment usable runs fresh accepted]
    rintro ⟨f, broken⟩
    exact answered f broken
  rcases report_cases launcher environment usable runs accepted with
    ⟨outcome, after, ran, reported⟩ | ⟨stop, after, ran, reported⟩
  · have same : report = _ := reported
    constructor
    · intro status f fails
      have failed := (result_trial_eq_failed fresh whole).2 ⟨status, fails⟩
      rw [ran] at failed
      cases failed
    · intro _
      obtain ⟨s, mid, -, gave⟩ := Act.run_bind_eq_ok.1 ran
      rw [same, ← strict, ← update]
      exact ⟨rfl, Trial.outcome_of_run gave⟩
  · have same : report = _ := reported
    cases stop with
    | broken f => exact absurd (congrArg Report.stop same) (answered f)
    | failed f =>
        constructor
        · intro status g fails
          have failed := (result_trial_eq_failed fresh whole).2 ⟨status, fails⟩
          rw [ran] at failed
          cases failed
          rw [same, status_of_firstFailure fails, ← complaint_eq]
          exact ⟨rfl, rfl, rfl⟩
        · intro none
          have failed : ((trial launcher environment settings r).run w).1 =
              .error (.failed f) := by rw [ran]
          obtain ⟨status, fails⟩ := (result_trial_eq_failed fresh whole).1 failed
          exact absurd fails (none status f)

/-- An action that is refused and a line that reports no event: the action decides, and the line
would without it. -/
theorem refused_action_decides_before_malformed_line :
    let launcher : Launcher := fun _ _ =>
      .ok (.write .output (Text.Utf8.encode "no event\n".toList) fun _ => .ended (.exited 0))
    let world (script : String) : World :=
      { tree := { entries := [([['s']], .file (Text.Utf8.encode script.toList) false)] }
        timed := true }
    let w := world "WatchDir d\nWait 1\nDelete d/a\n"
    let texts := ["--no-build", "--update-expected", "s", "e", "."]
    let report := (run launcher [] texts w).1
    (∃ a settings r f, Arguments.read texts = some a ∧ request w.tree a = .ok (settings, r) ∧
        FirstFailure launcher [] w settings r 6 f ∧
        report.told = unlines (report.log ++ ["watcher-test: " ++ strip f.message])) ∧
      report.status = 6 ∧ report.shown = "" ∧
      (run launcher [] texts (world "WatchDir d\nWait 1\n")).1.status = 7 := by
  intro launcher world w texts report
  have fresh : Trial.Fresh w := ⟨rfl, rfl, rfl⟩
  let a : Arguments :=
    { noBuild := true, update := true, positional := ["s", "e", "."] }
  have usable : Arguments.read texts = some a := by decide +kernel
  have ended : report.status = 6 := by decide +kernel
  have without : (run launcher [] texts (world "WatchDir d\nWait 1\n")).1.status = 7 := by
    decide +kernel
  have answered (f : Fault) : report.stop ≠ some (.broken f) := by
    intro broken
    have isFailed : report.stop.all (fun stop => statusOf stop ≠ 1) = true := by decide +kernel
    rw [broken] at isFailed
    cases isFailed
  have isOk : (request w.tree a).isOk = true := by decide +kernel
  cases accepted : request w.tree a with
  | error objection =>
      rw [accepted] at isOk
      cases isOk
  | ok found =>
      obtain ⟨settings, r⟩ := found
      obtain ⟨failing, passing⟩ :=
        first_failing_stage_decides launcher [] texts w a settings r usable rfl fresh accepted
          answered
      have fails : ∃ status f, FirstFailure launcher [] w settings r status f := by
        by_contra none
        obtain ⟨-, ⟨-, zero, -⟩ | ⟨compares, -⟩⟩ :=
          passing fun status f fails => none ⟨status, f, fails⟩
        · cases ended.symm.trans zero
        · cases compares
      obtain ⟨status, f, fails⟩ := fails
      obtain ⟨same, shown, told⟩ := failing status f fails
      have six : status = 6 := same.symm.trans ended
      subst six
      exact ⟨⟨a, settings, r, f, usable, accepted, fails, told⟩, ended, shown, without⟩

end WatchTrial.CommandLine
