import WatchTrial.CommandLine
import WatchTrial.Proofs.Settings
import WatchTrial.Proofs.Trial.Fault
import WatchTrial.Proofs.Trial.Verdict

set_option autoImplicit false

namespace WatchTrial.CommandLine

open Act (Breaks)
open Verdict (unlines passedLines failedLines)

theorem check_eq_ok {acceptable : String → Bool} {text : String} {p : Path}
    (checked : check acceptable text = .ok p) :
    '\x00' ∉ text.toList ∧ acceptable text = true ∧ p = Path.ofString text := by
  unfold check at checked
  split at checked
  · cases checked
  · rename_i clean
    split at checked
    · rename_i accepted
      cases checked
      exact ⟨by simpa using clean, accepted, rfl⟩
    · cases checked

theorem readFile_of_isFile {t : Tree} {text : String} (there : isFile t text = true) :
    ∃ content, t.readFile (Path.ofString text) = .ok content := by
  unfold isFile find at there
  cases resolved : t.resolve (Path.ofString text) with
  | error refusal =>
      rw [resolved] at there
      split at there
      · rename_i found
        split at found
        · cases found
        · cases found
      · cases there
  | ok place =>
      obtain ⟨location, entry⟩ := place
      cases entry with
      | directory =>
          rw [resolved] at there
          split at there
          · rename_i found
            split at found
            · cases found
            · cases found
          · cases there
      | file content executable => exact ⟨content, by rw [Tree.readFile, resolved]⟩

/-- What a request holds of its arguments, and what has been checked of it. -/
theorem request_eq_ok {t : Tree} {a : Arguments} {settings : Option Path} {r : Trial.Request}
    (accepted : request t a = .ok (settings, r)) :
    r.strict = a.strict ∧ r.update = a.update ∧ r.script.hasNul = false ∧
      r.results.hasNul = false ∧ ∃ content, t.readFile r.script = .ok content := by
  obtain ⟨file, -, withFile⟩ := bind_eq_ok_iff.1 accepted
  split at withFile
  · cases withFile
  · obtain ⟨script, first, withScript⟩ := bind_eq_ok_iff.1 withFile
    split at withScript
    · cases withScript
    · obtain ⟨results, second, withBoth⟩ := bind_eq_ok_iff.1 withScript
      split at withBoth
      · cases withBoth
        obtain ⟨cleanScript, there, rfl⟩ := check_eq_ok first
        obtain ⟨cleanResults, -, rfl⟩ := check_eq_ok second
        exact ⟨rfl, rfl, Path.hasNul_ofString cleanScript, Path.hasNul_ofString cleanResults,
          readFile_of_isFile there⟩
      · cases withBoth

/-- What the command can meet that no stage answers for. -/
inductive Uncaught (launcher : Launcher) (environment : List (String × String)) (w : World)
    (settings : Option Path) (r : Trial.Request) : Prop where
  | settings (file : Path) (given : settings = some file) (faulty : Settings.Faulty w.tree file)
  | trial (s : Settings) (loaded : Settings.load w.tree settings environment = .ok s)
      (met : Trial.RunFault launcher s r w)

theorem breaks_trial_iff {launcher : Launcher} {environment : List (String × String)} {w : World}
    {a : Arguments} {settings : Option Path} {r : Trial.Request} (fresh : Trial.Fresh w)
    (accepted : request w.tree a = .ok (settings, r)) :
    Breaks (trial launcher environment settings r) w ↔
      Uncaught launcher environment w settings r := by
  obtain ⟨-, -, script, results, content, found⟩ := request_eq_ok accepted
  have runs (s : Settings) : Breaks (Trial.run launcher s r) w ↔ Trial.RunFault launcher s r w :=
    Trial.breaks_run_iff fresh script found results
  unfold trial
  rw [Act.breaks_bind, Breaks, Act.run_ofFunction, Settings.isBroken_load_iff]
  constructor
  · rintro (⟨file, given, faulty⟩ | ⟨s, mid, loaded, broken⟩)
    · exact .settings file given faulty
    · rw [Prod.mk.injEq] at loaded
      obtain ⟨loaded, rfl⟩ := loaded
      exact .trial s loaded ((runs s).1 broken)
  · intro uncaught
    cases uncaught with
    | settings file given faulty => exact Or.inl ⟨file, given, faulty⟩
    | trial s loaded met =>
        refine Or.inr ⟨s, w, ?_, (runs s).2 met⟩
        rw [loaded]

/-- A trial comes to 0 or 1, and to 1 just when it is strict and shows a mismatch. -/
theorem status_of_run {launcher : Launcher} {s : Settings} {r : Trial.Request} {w after : World}
    {outcome : Trial.Outcome} (ran : (Trial.run launcher s r).run w = (.ok outcome, after)) :
    outcome.status ≤ 1 ∧
      (outcome.status = 1 ↔ r.strict = true ∧ r.update = false ∧
        ∃ v : Verdict, v.passed = false ∧ outcome.shown = unlines v.failedLines) := by
  rcases Trial.outcome_of_run ran with ⟨updates, zero, -⟩ | ⟨compares, v, status, shown⟩
  · simp [updates, zero]
  · rw [status, shown]
    cases passed : v.passed with
    | true => simp [Verdict.passedLines_ne_failedLines]
    | false =>
        cases strict : r.strict with
        | false => simp
        | true => exact ⟨Nat.le_refl 1, fun _ => ⟨rfl, compares, v, passed, rfl⟩, fun _ => rfl⟩

theorem status_le_seven (stage : Stage) : stage.status ≤ 7 := by cases stage <;> decide

section

variable (launcher : Launcher) (environment : List (String × String)) {texts : List String}
  {w : World} {a : Arguments} {settings : Option Path} {r : Trial.Request}

/-- What a usable command reports is what its trial comes to. -/
theorem report_cases (usable : Arguments.read texts = some a) (runs : a.help = false)
    (accepted : request w.tree a = .ok (settings, r)) :
    (∃ outcome after, (trial launcher environment settings r).run w =
        (.ok outcome, after) ∧
        (run launcher environment texts w).1 =
          { status := outcome.status, shown := outcome.shown, log := told a.level after.log }) ∨
      ∃ stop after, (trial launcher environment settings r).run w =
        (.error stop, after) ∧
        (run launcher environment texts w).1 =
          { status := statusOf stop, log := told a.level after.log, stop := some stop } := by
  unfold run
  simp only [usable, runs, accepted, Bool.false_eq_true, if_false]
  cases ran : (trial launcher environment settings r).run w with
  | mk result after =>
      cases result with
      | ok outcome => exact Or.inl ⟨outcome, after, rfl, rfl⟩
      | error stop => exact Or.inr ⟨stop, after, rfl, rfl⟩

theorem status_of_stop (usable : Arguments.read texts = some a) (runs : a.help = false)
    (accepted : request w.tree a = .ok (settings, r)) {stop : Stop}
    (stopped : (run launcher environment texts w).1.stop = some stop) :
    (run launcher environment texts w).1.status = statusOf stop := by
  rcases report_cases launcher environment usable runs accepted with
    ⟨outcome, after, -, reported⟩ | ⟨other, after, -, reported⟩
  · rw [reported] at stopped
    cases stopped
  · rw [reported] at stopped ⊢
    cases stopped
    rfl

theorem stop_eq_broken_iff (usable : Arguments.read texts = some a) (runs : a.help = false)
    (fresh : Trial.Fresh w) (accepted : request w.tree a = .ok (settings, r)) :
    (∃ f, (run launcher environment texts w).1.stop = some (.broken f)) ↔
      Uncaught launcher environment w settings r := by
  rw [← breaks_trial_iff fresh accepted]
  rcases report_cases launcher environment usable runs accepted with
    ⟨outcome, after, ran, reported⟩ | ⟨stop, after, ran, reported⟩
  · rw [reported]
    constructor
    · rintro ⟨f, stopped⟩
      cases stopped
    · exact fun broken => absurd broken (Act.not_breaks_of_ok ran)
  · rw [reported, Act.breaks_iff_of_error ran]
    exact exists_congr fun f => Option.some_inj

/-- Without a stop the status is 0 or 1, and 1 just for a mismatch in a strict trial. -/
theorem status_of_no_stop (usable : Arguments.read texts = some a) (runs : a.help = false)
    (accepted : request w.tree a = .ok (settings, r))
    (whole : (run launcher environment texts w).1.stop = none) :
    let report := (run launcher environment texts w).1
    report.status ≤ 1 ∧
      (report.status = 1 ↔ a.strict = true ∧ a.update = false ∧
        ∃ v : Verdict, v.passed = false ∧ report.shown = unlines v.failedLines) := by
  obtain ⟨strict, update, -⟩ := request_eq_ok accepted
  intro report
  rcases report_cases launcher environment usable runs accepted with
    ⟨outcome, after, ran, reported⟩ | ⟨stop, after, -, reported⟩
  · obtain ⟨s, mid, -, gave⟩ := Act.run_bind_eq_ok.1 ran
    have outcome := status_of_run gave
    rw [strict, update] at outcome
    have same : report = _ := reported
    rw [same]
    exact outcome
  · rw [reported] at whole
    cases whole

end

end WatchTrial.CommandLine
