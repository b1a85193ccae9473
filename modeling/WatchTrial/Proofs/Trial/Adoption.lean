import WatchTrial.Proofs.Trial.Verdict
import WatchTrial.Proofs.Tree.ReadBack
import WatchTrial.Proofs.Verdict.Rewrite

set_option autoImplicit false

namespace WatchTrial.Trial

open Verdict (unlines passedLines failedLines)

/-- The expected events that are made of events. -/
abbrev adopted (events : List Event) : EventSet := EventSet.ofList (events.map Event.text)

theorem writeExpectation_eq_ok {t after : Tree} {results : Path} {events : EventSet}
    (written : writeExpectation t results events = (.ok (), after)) :
    results.hasNul = false ∧
      ∃ made : Tree, made.writeFile results (Expectation.write events) = ⟨.ok (), after⟩ := by
  unfold writeExpectation at written
  simp only at written
  split at written
  · cases written
  · split at written
    · cases written
    · rename_i made _
      split at written
      · cases written
      · rename_i clean
        refine ⟨by simpa using clean, made, ?_⟩
        cases changed : made.writeFile results (Expectation.write events) with
        | mk result left =>
            rw [changed] at written
            cases result with
            | error refusal => cases written
            | ok u =>
                cases written
                rfl

theorem readExpectation_of_text {t : Tree} {results : Path} {content : Octets} {text : List Char}
    (clean : results.hasNul = false) (holds : t.readFile results = .ok content)
    (decoded : Text.Utf8.decode content = .ok text) :
    readExpectation t results = .ok (.ok (Expectation.ofText text)) := by
  have opened : readFile t results = .ok (.ok content) := by
    rw [readFile, clean, holds]
    rfl
  have read : Expectation.read content = .ok (Expectation.ofText text) := by
    rw [Expectation.read, decoded]
    rfl
  simp only [readExpectation, opened, bind, Except.bind, read, mapError_ok]
  rfl

/-- A tree in which the file of expected events holds a set reads as what is in the text of it. -/
theorem readExpectation_of_written {t : Tree} {results : Path} {events : EventSet}
    (clean : results.hasNul = false)
    (holds : t.readFile results = .ok (Expectation.write events)) :
    readExpectation t results = .ok (.ok (Expectation.ofText (Expectation.toText events))) :=
  readExpectation_of_text clean holds (Text.Utf8.decode_encode _)

theorem readFile_writeExpectation {t after : Tree} {results : Path} {events : EventSet}
    (written : writeExpectation t results events = (.ok (), after)) :
    after.readFile results = .ok (Expectation.write events) := by
  obtain ⟨-, made, changed⟩ := writeExpectation_eq_ok written
  exact Tree.readFile_writeFile changed

theorem readExpectation_writeExpectation {t after : Tree} {results : Path} {events : EventSet}
    (written : writeExpectation t results events = (.ok (), after)) :
    readExpectation after results = .ok (.ok (Expectation.ofText (Expectation.toText events))) := by
  obtain ⟨clean, -⟩ := writeExpectation_eq_ok written
  exact readExpectation_of_written clean (readFile_writeExpectation written)

theorem passed_compare_adopted (events : List Event) :
    (Verdict.compare (events.map Event.text)
        (Expectation.ofText (Expectation.toText (adopted events))).members).passed = true ↔
      ∀ event ∈ events, event.OneLine := by
  rw [Verdict.compare_members, Verdict.passed, decide_eq_true_eq]
  exact Expectation.ofText_events_iff events

/-- A trial that updates and gives an outcome has written the events of the lines that it leaves. -/
theorem run_eq_ok_of_update {launcher : Launcher} {s : Settings} {r : Request} {w after : World}
    {outcome : Outcome} (updates : r.update = true)
    (ran : (run launcher s r).run w = (.ok outcome, after)) :
    ∃ events, Event.ofLines r.base after.output = .ok events ∧
      ∃ before, writeExpectation before r.results (adopted events) = (.ok (), after.tree) := by
  obtain ⟨ready, w₁, lines, w₂, texts, prepared, observed, reported, concluded⟩ := run_eq_ok ran
  rcases (preparation_eq_ok (run_prepare_eq_ok prepared).1).2 with ⟨-, unknown⟩ | ⟨compares, -⟩
  · obtain ⟨events, found, rfl⟩ := events_of_eventTexts reported
    rw [unknown] at concluded
    obtain ⟨_, w₃, wrote, gave⟩ := Act.run_bind_eq_ok.1 concluded
    cases gave
    rw [Act.run_ofFunction] at wrote
    cases written : writeExpectation (noted lines w₂).tree r.results (adopted events) with
    | mk result tree =>
        rw [written, Prod.mk.injEq] at wrote
        obtain ⟨worked, rfl⟩ := wrote
        cases result with
        | error fault => cases worked
        | ok u =>
            have captured : World.output { noted lines w₂ with tree } = lines :=
              (lines_observe observed).symm
            exact ⟨events, by rw [captured, found], _, written⟩
  · rw [updates] at compares
    cases compares

/-- A trial that observes lines whose events are the expected ones in its file, as written there,
gives a judgement on those. -/
theorem run_of_adopted {launcher : Launcher} {s : Settings} {r : Request} {w after : World}
    {plan : Script.Plan} {lines : List String} {events : List Event} (compares : r.update = false)
    (clean : r.results.hasNul = false)
    (holds : w.tree.readFile r.results = .ok (Expectation.write (adopted events)))
    (planned : planOf w.tree s r = .ok plan)
    (observed : (observe launcher s r plan).run ((prepare s r).run w).2 = (.ok lines, after))
    (found : Event.ofLines r.base lines = .ok events) :
    (run launcher s r).run w = (.ok (judge r (events.map Event.text)
      (Expectation.ofText (Expectation.toText (adopted events)))), noted lines after) := by
  have known : expectation w.tree r.results =
      .ok (Expectation.ofText (Expectation.toText (adopted events))) := by
    rw [expectation, readExpectation_of_written clean holds]
  obtain ⟨log, prepared⟩ := run_prepare s r w
  have settled : preparation w.tree s r =
      .ok ⟨plan, some (Expectation.ofText (Expectation.toText (adopted events)))⟩ := by
    simp only [preparation, planned, compares, known, bind, Except.bind, if_false,
      Bool.false_eq_true]
  rw [prepared] at observed
  rw [settled] at prepared
  have texts : eventTexts r.base lines = .ok (events.map Event.text) := by
    rw [eventTexts, found]
  rw [run_of_observed prepared observed, texts]
  rfl

/-- Events that have been made the expected ones agree with themselves just when the text of each is
one line of a text file. So a trial that updates, and one that compares while what it wrote is
still there and observes the same lines, end in a match just then. -/
theorem adopted_events_agree_iff (base results : Path) :
    (∀ (lines : List String) (events : List Event) (t after : Tree),
      Event.ofLines base lines = .ok events →
      writeExpectation t results (adopted events) = (.ok (), after) →
      ∃ loaded, readExpectation after results = .ok (.ok loaded) ∧
        ((Verdict.compare (events.map Event.text) loaded.members).passed = true ↔
          ∀ event ∈ events, event.OneLine)) ∧
      ∀ (launcher : Launcher) (s : Settings) (r : Request) (w after : World) (outcome : Outcome),
        r.base = base → r.results = results → r.update = true →
        (run launcher s r).run w = (.ok outcome, after) →
        ∃ events, Event.ofLines base after.output = .ok events ∧
          ∀ (launcher' : Launcher) (s' : Settings) (r' : Request) (v last : World)
            (plan : Script.Plan), r'.base = base → r'.results = results → r'.update = false →
            v.tree.readFile results = after.tree.readFile results →
            planOf v.tree s' r' = .ok plan →
            (observe launcher' s' r' plan).run ((prepare s' r').run v).2 =
              (.ok after.output, last) →
            ∃ verdict final, (run launcher' s' r').run v = (.ok verdict, final) ∧
              (verdict.shown = unlines (passedLines r'.script.text r'.results.text) ↔
                ∀ event ∈ events, event.OneLine) := by
  constructor
  · intro lines events t after _ written
    exact ⟨_, readExpectation_writeExpectation written, passed_compare_adopted events⟩
  · rintro launcher s r w after outcome rfl rfl updates ran
    obtain ⟨events, found, before, written⟩ := run_eq_ok_of_update updates ran
    obtain ⟨clean, made, changed⟩ := writeExpectation_eq_ok written
    refine ⟨events, found, ?_⟩
    intro launcher' s' r' v last plan sameBase sameFile compares kept planned observed
    rw [Tree.readFile_writeFile changed, ← sameFile] at kept
    rw [← sameBase] at found
    rw [← sameFile] at clean
    refine ⟨_, _, run_of_adopted compares clean kept planned observed found, ?_⟩
    rw [judge_eq, ← Expectation.ofText_events_iff]
    split
    · rename_i same
      simp [same]
    · rename_i different
      simp [different, (Verdict.passedLines_ne_failedLines _ _ _).symm]

/-- A match with the events that the trial before, which found no file, has made the expected
ones. -/
theorem adopted_events_agree_of_plain_event :
    let launcher : Launcher := fun _ _ =>
      .ok (.write .output (Text.Utf8.encode "d/a,Create\n".toList) fun _ => .ended (.exited 0))
    let script := Text.Utf8.encode "WatchDir d\nWait 1\n".toList
    let w : World := { tree := { entries := [([['s']], .file script false)] }, timed := true }
    let r : Request :=
      { script := Path.ofString "s", results := Path.ofString "e", base := Path.here
        build := false, update := true }
    let again : Request := { r with update := false }
    ∃ outcome after verdict final,
      (run launcher Settings.usual r).run w = (.ok outcome, after) ∧
        (run launcher Settings.usual again).run { tree := after.tree, timed := true } =
          (.ok verdict, final) ∧
        verdict.shown = unlines (passedLines "s" "e") := by
  intro launcher script w r again
  have first : ((run launcher Settings.usual r).run w).1.isOk = true := by decide +kernel
  have lines : ((run launcher Settings.usual r).run w).2.output = ["d/a,Create"] := by
    decide +kernel
  have planned : planOf ((run launcher Settings.usual r).run w).2.tree Settings.usual again =
      .ok ⟨[Path.ofString "d"], [.create (Path.ofString "d") true true, .wait 1]⟩ := by
    decide +kernel
  have observed : ((observe launcher Settings.usual again
      ⟨[Path.ofString "d"], [.create (Path.ofString "d") true true, .wait 1]⟩).run
        ((prepare Settings.usual again).run
          { tree := ((run launcher Settings.usual r).run w).2.tree, timed := true }).2).1 =
      .ok ["d/a,Create"] := by decide +kernel
  generalize ran : (run launcher Settings.usual r).run w = final at first lines planned observed
  obtain ⟨result, after⟩ := final
  cases result with
  | error stop => cases first
  | ok outcome =>
      obtain ⟨events, found, agree⟩ :=
        (adopted_events_agree_iff r.base r.results).2 launcher Settings.usual r w after outcome rfl
          rfl rfl ran
      rw [lines] at found
      cases found
      obtain ⟨verdict, last, verified, matched⟩ :=
        agree launcher Settings.usual again { tree := after.tree, timed := true } _ _ rfl rfl rfl rfl
          planned (Prod.ext (by rw [lines]; exact observed) rfl)
      refine ⟨outcome, after, verdict, last, rfl, verified, matched.2 ?_⟩
      intro event member
      rw [List.mem_singleton.1 member]
      decide +kernel

/-- A line with the character U+0085 in its path: what is read back is another set of events. -/
theorem adopted_events_differ_of_next_line :
    let lines := ["a\u0085b,Create"]
    let written := writeExpectation Tree.empty (Path.ofString "e") (EventSet.ofList lines)
    eventTexts Path.here lines = .ok lines ∧ written.1 = .ok () ∧
      ∃ loaded, readExpectation written.2 (Path.ofString "e") = .ok (.ok loaded) ∧
        (Verdict.compare lines loaded.members).passed = false := by
  intro lines written
  have wrote : written = (.ok (), written.2) := by decide +kernel
  refine ⟨by decide +kernel, congrArg Prod.fst wrote, _, readExpectation_writeExpectation wrote, ?_⟩
  rw [Bool.eq_false_iff]
  intro passed
  have plain := (passed_compare_adopted [⟨"a\u0085b", "Create"⟩]).1 passed _ List.mem_cons_self
  revert plain
  decide +kernel

end WatchTrial.Trial
