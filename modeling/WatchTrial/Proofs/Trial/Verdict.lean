import Mathlib.Control.Monad.Basic
import WatchTrial.Proofs.Trial.Observation
import WatchTrial.Proofs.Verdict.Report
import WatchTrial.Proofs.Verdict.Sets

set_option autoImplicit false

namespace WatchTrial.Trial

open Event (Reported)
open Expectation (Listed)
open Verdict (unlines passedLines failedLines)

theorem events_of_eventTexts {base : Path} {lines texts : List String}
    (read : eventTexts base lines = .ok texts) :
    ∃ events, Event.ofLines base lines = .ok events ∧ texts = events.map Event.text := by
  unfold eventTexts at read
  cases found : Event.ofLines base lines with
  | error line =>
      rw [found] at read
      cases read
  | ok events =>
      rw [found] at read
      exact ⟨events, rfl, (Except.ok.inj read).symm⟩

theorem eventTexts_eq_ok {base : Path} {lines texts : List String}
    (read : eventTexts base lines = .ok texts) :
    (∀ line ∈ lines, Text.isBlankText line.toList = false →
        (Event.ofLine? base line).isSome = true) ∧
      ∀ text, text ∈ texts ↔ Reported base lines text := by
  obtain ⟨events, found, rfl⟩ := events_of_eventTexts read
  exact Event.ofLines_eq_ok found

/-- What a judgement shows, and the status it comes to, by the two sets alone. -/
theorem judge_eq (r : Request) (events : List String) (expected : EventSet) :
    judge r events expected =
      if expected = EventSet.ofList events then
        ⟨0, unlines (passedLines r.script.text r.results.text)⟩
      else
        ⟨if r.strict then 1 else 0, unlines (failedLines ⟨expected, EventSet.ofList events⟩)⟩ := by
  unfold judge
  rw [Verdict.compare_members]
  simp only [Verdict.report_plain, Verdict.passed]
  by_cases same : expected = EventSet.ofList events
  · simp [same]
  · simp [same]

theorem strip_written (results : Path) :
    Text.Ansi.strip (written results) =
      "Expected output written to " ++ Text.Ansi.strip results.text :=
  Verdict.strip_append_of_plain "Expected output written to " results.text
    (by simp [Text.Ansi.escape])

/-- A trial that comes to an outcome shows one message or one report. -/
theorem outcome_of_run {launcher : Launcher} {s : Settings} {r : Request} {w after : World}
    {outcome : Outcome} (ran : (run launcher s r).run w = (.ok outcome, after)) :
    r.update = true ∧ outcome.status = 0 ∧
        outcome.shown = unlines ["Expected output written to " ++ Text.Ansi.strip r.results.text] ∨
      r.update = false ∧ ∃ v : Verdict,
        outcome.status = (if r.strict && !v.passed then 1 else 0) ∧
        outcome.shown =
          unlines (if v.passed then passedLines r.script.text r.results.text else v.failedLines) := by
  obtain ⟨ready, w₁, lines, w₂, events, prepared, -, -, concluded⟩ := run_eq_ok ran
  rcases (preparation_eq_ok (run_prepare_eq_ok prepared).1).2 with
    ⟨updates, unknown⟩ | ⟨compares, expected, known, -⟩
  · rw [unknown] at concluded
    obtain ⟨_, mid, -, gave⟩ := Act.run_bind_eq_ok.1 concluded
    cases gave
    refine Or.inl ⟨updates, rfl, ?_⟩
    rw [Verdict.strip_unlines, List.map_singleton, Verdict.strip_style, strip_written]
  · rw [known] at concluded
    cases concluded
    exact Or.inr ⟨compares, Verdict.compare events expected.members, rfl, Verdict.report_plain _ _ _⟩

/-- Two acts change the world alike and stop alike, and what they give is the same in some view. -/
def AlikeIn {α β : Type} (view : α → β) (a b : Act α) : Prop :=
  ∀ w, (a.run w).2 = (b.run w).2 ∧ (a.run w).1.map view = (b.run w).1.map view

theorem AlikeIn.bind {α β γ : Type} {view : β → γ} (act : Act α) {next other : α → Act β}
    (alike : ∀ a, AlikeIn view (next a) (other a)) :
    AlikeIn view (act >>= next) (act >>= other) := by
  intro w
  rw [Act.run_bind, Act.run_bind]
  cases act.run w with
  | mk result mid =>
      cases result with
      | error stop => exact ⟨rfl, rfl⟩
      | ok a => exact alike a mid

/-- A trial that is strict and one that is not differ in their status alone. -/
theorem run_strict_alike (launcher : Launcher) (s : Settings) (r : Request) (strict : Bool) :
    AlikeIn Outcome.shown (run launcher s { r with strict }) (run launcher s r) := by
  unfold run
  refine AlikeIn.bind (prepare s r) fun ready => ?_
  refine AlikeIn.bind (observe launcher s r ready.plan) fun lines => ?_
  refine AlikeIn.bind _ fun _ => ?_
  refine AlikeIn.bind _ fun events => ?_
  intro w
  cases ready.expected with
  | none => exact ⟨rfl, rfl⟩
  | some expected =>
      refine ⟨rfl, ?_⟩
      change Except.ok _ = Except.ok _
      rw [judge_eq, judge_eq]
      split <;> rfl

/-- A trial that compares shows a match just when the two sets agree, and else a mismatch; its
status is 1 just when it is strict and they do not. Neither the build nor the watcher nor the script
has a say in what is expected. -/
theorem verdict_of_run (launcher : Launcher) (s : Settings) (r : Request) (w : World)
    (compares : r.update = false) :
    (∀ outcome after, (run launcher s r).run w = (.ok outcome, after) →
      ∃ content text, w.tree.readFile r.results = .ok content ∧
        Text.Utf8.decode content = .ok text ∧
        (∀ line ∈ after.output, Text.isBlankText line.toList = false →
          (Event.ofLine? r.base line).isSome = true) ∧
        ∃ expected obtained : EventSet,
          (∀ event, event ∈ expected.members ↔ Listed text event) ∧
          (∀ event, event ∈ obtained.members ↔ Reported r.base after.output event) ∧
          (outcome.shown = unlines (passedLines r.script.text r.results.text) ↔
            expected = obtained) ∧
          (outcome.shown = unlines (failedLines ⟨expected, obtained⟩) ↔ expected ≠ obtained) ∧
          (outcome.status = 1 ↔ r.strict = true ∧ expected ≠ obtained) ∧
          (outcome.status = 0 ↔ ¬(r.strict = true ∧ expected ≠ obtained))) ∧
      ∀ strict,
        ((run launcher s { r with strict }).run w).2 = ((run launcher s r).run w).2 ∧
          ((run launcher s { r with strict }).run w).1.map Outcome.shown =
            ((run launcher s r).run w).1.map Outcome.shown := by
  refine ⟨?_, fun strict => run_strict_alike launcher s r strict w⟩
  intro outcome after ran
  obtain ⟨ready, w₁, lines, w₂, events, prepared, observed, reported, concluded⟩ := run_eq_ok ran
  rcases (preparation_eq_ok (run_prepare_eq_ok prepared).1).2 with ⟨updates, -⟩ | ⟨-, expected, known, read⟩
  · rw [compares] at updates
    cases updates
  obtain ⟨content, text, found, decoded, rfl⟩ := expectation_eq_ok read
  rw [known] at concluded
  cases concluded
  have captured : (noted lines w₂).output = lines := (lines_observe observed).symm
  obtain ⟨wellFormed, members⟩ := eventTexts_eq_ok reported
  rw [captured]
  refine ⟨content, text, found, decoded, wellFormed, Expectation.ofText text,
    EventSet.ofList events, Expectation.mem_ofText text, ?_, ?_⟩
  · intro event
    rw [EventSet.mem_ofList]
    exact members event
  · rw [judge_eq]
    have apart := Verdict.passedLines_ne_failedLines
    by_cases same : Expectation.ofText text = EventSet.ofList events
    · simp [same, apart]
    · simp [same, (apart _ _ _).symm]

/-- A match by the expected events as they stood at first, under a script that writes over them. -/
theorem verdict_of_overwritten_results :
    let launcher : Launcher := fun _ _ =>
      .ok (.write .output (Text.Utf8.encode "a,Create\n".toList) fun _ => .ended (.exited 0))
    let script := Text.Utf8.encode "WatchDir d\nWrite e \"b\"\nWait 1\n".toList
    let results := Text.Utf8.encode "a,Create\n".toList
    let w : World :=
      { tree := { entries := [([['s']], .file script false), ([['e']], .file results false)] }
        timed := true }
    let r : Request :=
      { script := Path.ofString "s", results := Path.ofString "e", base := Path.here
        build := false, strict := true }
    r.update = false ∧
      ∃ outcome after text, (run launcher Settings.usual r).run w = (.ok outcome, after) ∧
        outcome.status = 0 ∧ outcome.shown = unlines (passedLines "s" "e") ∧
        w.tree.readFile r.results ≠ after.tree.readFile r.results ∧
        ∀ event, Listed text event ↔ Reported r.base after.output event := by
  intro launcher script results w r
  have ended : ((run launcher Settings.usual r).run w).1 =
      .ok ⟨0, unlines (passedLines "s" "e")⟩ := by decide +kernel
  have rewritten : w.tree.readFile r.results ≠
      ((run launcher Settings.usual r).run w).2.tree.readFile r.results := by decide +kernel
  generalize ran : (run launcher Settings.usual r).run w = final at ended rewritten
  obtain ⟨result, after⟩ := final
  subst ended
  obtain ⟨content, text, -, -, -, expected, obtained, listed, reported, shown, -⟩ :=
    (verdict_of_run launcher Settings.usual r w rfl).1 _ _ ran
  refine ⟨rfl, _, after, text, rfl, rfl, rfl, rewritten, fun event => ?_⟩
  have same : expected = obtained := shown.1 (by decide +kernel)
  rw [← listed, ← reported, same]

end WatchTrial.Trial
