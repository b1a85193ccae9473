import WatchTrial.Proofs.Event.Shown
import WatchTrial.Proofs.Trial.Fault
import WatchTrial.Proofs.Trial.Verdict
import WatchTrial.Proofs.Verdict.Rewrite
import WatchTrial.Proofs.Watcher.Lines

set_option autoImplicit false

namespace WatchTrial

/-- Lines without an end in them, each written with a line feed, are captured. -/
theorem Capture.wholeLines_encode {lines : List String}
    (whole : ∀ line ∈ lines, ∀ c ∈ line.toList, c ≠ '\r' ∧ c ≠ '\n') :
    wholeLines (Text.Utf8.encode ((lines.map String.toList).flatMap (· ++ ['\n']))) = lines := by
  have unended : ∀ line ∈ (lines.map String.toList).map (·, Text.LineEnd.lf),
      Text.Unended line.1 := by
    refine List.forall_mem_map.2 (List.forall_mem_map.2 fun line among => ⟨?_, ?_⟩)
    · exact fun inside => (whole line among '\n' inside).2 rfl
    · exact fun inside => (whole line among '\r' inside).1 rfl
  have none : Text.Unended [] := ⟨List.not_mem_nil, List.not_mem_nil⟩
  have captured := wholeLines_endedText unended (Text.apart_alike .lf _) none
  rw [Text.endedText_alike, List.append_nil] at captured
  refine captured.trans ?_
  simp [Text.remainder, Function.comp_def]

/-- The octets of the lines for all of the texts. -/
def EventSet.outputFor (base : Path) (expected : EventSet) : Octets :=
  Text.Utf8.encode (((expected.members.map (Event.lineFor base)).map String.toList).flatMap
    (· ++ ['\n']))

namespace Event

/-- Lines for texts that are shown for some line are captured as they are. -/
theorem wholeLines_outputFor {base : Path} {content : List Char}
    (shown : ∀ text ∈ (Expectation.ofText content).members, Shown base text) :
    Capture.wholeLines ((Expectation.ofText content).outputFor base) =
      (Expectation.ofText content).members.map (lineFor base) := by
  apply Capture.wholeLines_encode
  intro line among c inside
  obtain ⟨text, there, rfl⟩ := List.mem_map.1 among
  rcases (lineFor_of_shown (shown text there)).2 c inside with within | extra
  · have unended := (Expectation.isLine_of_mem_ofText there).whole c within
    constructor
    · rintro rfl
      exact absurd unended (by decide)
    · rintro rfl
      exact absurd unended (by decide)
  · constructor
    · rintro rfl
      exact absurd extra (by decide)
    · rintro rfl
      exact absurd extra (by decide)

/-- Lines for texts that are shown for some line report events with these texts. -/
theorem eventTexts_lines {base : Path} {expected : EventSet}
    (shown : ∀ text ∈ expected.members, Shown base text) :
    ∃ texts, Trial.eventTexts base (expected.members.map (lineFor base)) = .ok texts ∧
      EventSet.ofList texts = expected := by
  have reports : ∀ line ∈ expected.members.map (lineFor base), Filled line → Reports line := by
    intro line among _
    obtain ⟨text, there, rfl⟩ := List.mem_map.1 among
    obtain ⟨event, reported, -⟩ := (lineFor_of_shown (shown text there)).1
    exact exists_ofLine?_iff.1 ⟨event, reported⟩
  have ⟨events, read⟩ := @exists_ofLines_eq_ok_iff base _ |>.2 reports
  have told : Trial.eventTexts base (expected.members.map (lineFor base)) =
      .ok (events.map Event.text) := by
    rw [Trial.eventTexts, read]
  refine ⟨_, told, EventSet.eq_of_same_members _ _ fun text => ?_⟩
  rw [EventSet.mem_ofList, (Trial.eventTexts_eq_ok told).2]
  constructor
  · rintro ⟨line, among, -, event, reported, rfl⟩
    obtain ⟨text, there, rfl⟩ := List.mem_map.1 among
    obtain ⟨other, found, same⟩ := (lineFor_of_shown (shown text there)).1
    cases reported.symm.trans found
    rwa [same]
  · intro there
    obtain ⟨event, reported, same⟩ := (lineFor_of_shown (shown text there)).1
    have filled : Filled (lineFor base text) := (exists_ofLine?_iff.1 ⟨event, reported⟩).filled
    exact ⟨_, List.mem_map_of_mem there, isBlankText_eq_false_iff.2 filled, event, reported, same⟩

end Event

namespace Trial

open Event (Shown IsRemainder Misshapen lineFor)
open Expectation (Listed)
open Verdict (unlines passedLines failedLines)

theorem run_performAll_nil (w : World) :
    ∃ log, (Action.performAll []).run w = (.ok 0, { w with log }) := by
  have each : (Action.performEach []).run w = (.ok (), w) := Act.run_pure () w
  rw [Action.performAll, Act.run_bind_of_ok _ each, Act.run_bind_of_ok _ (Act.run_note _ _ _ w)]
  exact ⟨_, rfl⟩

/-- Every word starts a program that writes the given octets. -/
def telling (octets : Octets) : Launcher := fun _ _ => .ok (.speaking octets)

section

variable {s : Settings} {r : Request} {plan : Script.Plan} {w : World} (unbuilt : r.build = false)
  (idle : w.child = none) (still : plan.actions = []) (pauses : s.startupGrace.isPositive = true)
  (possible : Watcher.graceFault? s w = none) (limited : s.terminateTimeout.timeFault? = none)
  (clean : (Watcher.words s plan.roots).any Watcher.hasNul = false)

include unbuilt idle still pauses possible limited clean

/-- A trial without actions goes on with all that its watcher was to write. -/
theorem run_observe_telling (octets : Octets) :
    ∃ after, (observe (telling octets) s r plan).run w =
      (.ok (Capture.wholeLines octets), after) := by
  -- The watcher has its turn in the time of grace; by the time it is ended it has written all.
  have skipped : (buildStep (telling octets) s r).run w = (.ok (), w) := by
    rw [buildStep, unbuilt]
    rfl
  have launches : Watcher.Launches (telling octets) s plan.roots w.tree (.speaking octets) :=
    ⟨clean, rfl⟩
  obtain ⟨begun, started, awaits, spoken, -⟩ :=
    Watcher.run_start_speaking idle pauses possible launches
  obtain ⟨log, performed⟩ := run_performAll_nil begun
  rw [← still] at performed
  have ⟨ended, told⟩ :=
    @Watcher.run_terminate_spoken octets s.terminateTimeout { begun with log } w.clock limited awaits
      spoken
  have under : (session (telling octets) s r plan).run w =
      (.ok (Capture.wholeLines octets), { begun with log, reading := false }) := by
    have same : ({ begun with log, reading := false } : World).output =
        ({ begun with log } : World).output := rfl
    rw [run_session_of_started skipped started, underWatch, Act.run_bind_of_ok _ performed,
      Act.run_bind_of_ok _ ended, Act.run_look, same, told]
  have stopped : (Watcher.terminate s.terminateTimeout).run { begun with log, reading := false } =
      (.ok (), { begun with log, reading := false }) := by
    apply Watcher.terminate_of_done
    · have past := Watcher.isWatching_terminate s.terminateTimeout { begun with log }
      rwa [ended] at past
    · rfl
  rw [observe_eq]
  exact ⟨_, Act.run_followedBy_eq_ok.2 ⟨_, under, stopped⟩⟩

/-- A file of expected events that are all shown for some line is matched. -/
theorem run_telling {content : List Char}
    (shown : ∀ text ∈ (Expectation.ofText content).members, Shown r.base text)
    (prepared : preparation w.tree s r = .ok ⟨plan, some (Expectation.ofText content)⟩) :
    ((run (telling ((Expectation.ofText content).outputFor r.base)) s r).run w).1 =
      .ok ⟨0, unlines (passedLines r.script.text r.results.text)⟩ := by
  obtain ⟨log, ran⟩ := run_prepare s r w
  rw [prepared] at ran
  have ⟨after, observed⟩ := @run_observe_telling s r plan { w with log } unbuilt idle still pauses
    possible limited clean ((Expectation.ofText content).outputFor r.base)
  obtain ⟨texts, told, same⟩ := Event.eventTexts_lines shown
  rw [Event.wholeLines_outputFor shown] at observed
  rw [run_of_observed ran observed, told]
  have judged : judge r texts (Expectation.ofText content) =
      ⟨0, unlines (passedLines r.script.text r.results.text)⟩ := by
    rw [judge_eq, if_pos same.symm]
  exact congrArg Except.ok judged

end

/-- A trial of an empty script in the presence of a file of expected events. -/
def bare (base : Path) (strict : Bool) : Request where
  script := Path.ofString "s"
  results := Path.ofString "e"
  base
  build := false
  strict

def bareWorld (content : List Char) : World where
  tree := ⟨[([['s']], .file [] false), ([['e']], .file (Text.Utf8.encode content) false)], []⟩
  timed := true

/-- The usual settings, without roots and with a second of grace. -/
def bareSettings : Settings :=
  { Settings.usual with startupGrace := .ofFraction false 1 1, allowEmptyRoots := true }

theorem preparation_bare (base : Path) (strict : Bool) (content : List Char) :
    preparation (bareWorld content).tree bareSettings (bare base strict) =
      .ok ⟨⟨[], []⟩, some (Expectation.ofText content)⟩ := by
  have script : readText (bareWorld content).tree (Path.ofString "s") = .ok [] := by
    rw [readText_of_clean _ (by decide)]
    rfl
  have planned : planOf (bareWorld content).tree bareSettings (bare base strict) = .ok ⟨[], []⟩ := by
    rw [planOf, actionsOf, bare, script]
    rfl
  have found : (bareWorld content).tree.readFile (Path.ofString "e") =
      .ok (Text.Utf8.encode content) := rfl
  have expected : expectation (bareWorld content).tree (Path.ofString "e") =
      .ok (Expectation.ofText content) := by
    rw [expectation_of_clean _ (by decide)]
    simp only [found, Text.Utf8.decode_encode]
  rw [preparation, planned]
  simp only [bind, Except.bind, bare, expected]
  rfl

/-- An expected event that is shown for no line is missing whatever the watcher does. -/
theorem outcome_of_unshown {launcher : Launcher} {s : Settings} {r : Request} {w after : World}
    {outcome : Outcome} {content : Octets} {text : List Char} {event : String}
    (compares : r.update = false) (found : w.tree.readFile r.results = .ok content)
    (decoded : Text.Utf8.decode content = .ok text) (listed : Listed text event)
    (unshown : ¬Shown r.base event)
    (ran : (run launcher s r).run w = (.ok outcome, after)) :
    ∃ v : Verdict, event ∈ v.missing.members ∧
      outcome = ⟨if r.strict then 1 else 0, unlines v.failedLines⟩ := by
  obtain ⟨ready, w₁, lines, w₂, texts, prepared, -, reported, concluded⟩ := run_eq_ok ran
  rcases (preparation_eq_ok (run_prepare_eq_ok prepared).1).2 with
    ⟨updates, -⟩ | ⟨-, expected, known, read⟩
  · exact absurd (compares.symm.trans updates) Bool.false_ne_true
  obtain ⟨octets, chars, there, plain, rfl⟩ := expectation_eq_ok read
  cases found.symm.trans there
  cases decoded.symm.trans plain
  have expects : event ∈ (Expectation.ofText text).members :=
    (Expectation.mem_ofText text event).2 listed
  have lacks : event ∉ (EventSet.ofList texts).members := by
    intro member
    rw [EventSet.mem_ofList, (eventTexts_eq_ok reported).2] at member
    obtain ⟨line, -, -, other, told, same⟩ := member
    exact unshown ⟨line, other, told, same⟩
  have differ : Expectation.ofText text ≠ EventSet.ofList texts := by
    intro same
    rw [same] at expects
    exact lacks expects
  rw [known] at concluded
  cases concluded
  refine ⟨⟨Expectation.ofText text, EventSet.ofList texts⟩, ?_, ?_⟩
  · exact (EventSet.mem_diff _ _ _).2 ⟨expects, lacks⟩
  · rw [judge_eq, if_neg differ]

/-- The texts that events are shown as for some line are those with one comma, something behind it,
and before it nothing or a path with components in the one way it is written, a relative one if the
base has components. So a text with no comma or several, or with a misshapen path, is none. A file
that lists a text that is none is never matched: the text is missing, and a strict trial ends with
status 1. A file that lists no such text is matched by the output of some watcher. -/
theorem attainable_expectations (base : Path) :
    (∀ text, Shown base text ↔
      ∃ path kind : String, text = path ++ "," ++ kind ∧ text.toList.count ',' = 1 ∧ kind ≠ "" ∧
        (path = "" ∨
          (Path.ofString path).text = path ∧ (Path.ofString path).components ≠ [] ∧
            (base.components ≠ [] → (Path.ofString path).isAbsolute = false))) ∧
      (∀ text : String, (text.toList.count ',' ≠ 1 ∨
          ∃ path kind : String, text = path ++ "," ++ kind ∧ Misshapen base path) →
        ¬Shown base text) ∧
      (∀ (launcher : Launcher) (s : Settings) (r : Request) (w after : World) (outcome : Outcome)
          (content : Octets) (text : List Char) (event : String), r.base = base →
        r.update = false → w.tree.readFile r.results = .ok content →
        Text.Utf8.decode content = .ok text → Listed text event → ¬Shown base event →
        (run launcher s r).run w = (.ok outcome, after) →
        ∃ v : Verdict, event ∈ v.missing.members ∧
          outcome = ⟨if r.strict then 1 else 0, unlines v.failedLines⟩) ∧
      ∀ content : List Char, (∀ event, Listed content event → Shown base event) →
        ∃ (launcher : Launcher) (s : Settings) (r : Request) (w : World), r.base = base ∧
          r.update = false ∧ w.tree.readFile r.results = .ok (Text.Utf8.encode content) ∧
          ∀ strict, ((run launcher s { r with strict }).run w).1 =
            .ok ⟨0, unlines (passedLines r.script.text r.results.text)⟩ := by
  refine ⟨fun text => Event.shown_iff, fun text => Event.not_shown, ?_, ?_⟩
  · rintro launcher s r w after outcome content text event rfl compares found decoded listed unshown
    exact outcome_of_unshown compares found decoded listed unshown
  · intro content all
    have shown : ∀ text ∈ (Expectation.ofText content).members, Shown base text :=
      fun text there => all text ((Expectation.mem_ofText content text).1 there)
    refine ⟨telling ((Expectation.ofText content).outputFor base), bareSettings, bare base false,
      bareWorld content, rfl, rfl, rfl, fun strict => ?_⟩
    have clean : (Watcher.words bareSettings []).any Watcher.hasNul = false := by decide
    have possible : Watcher.graceFault? bareSettings (bareWorld content) = none :=
      (Watcher.graceFault?_of_time bareSettings (w := bareWorld []) rfl rfl).trans (by decide +kernel)
    exact @run_telling bareSettings (bare base strict) ⟨[], []⟩ (bareWorld content) rfl rfl rfl rfl
      possible rfl clean content shown (preparation_bare base strict content)

/-- A watcher in `/b` that reports `a`, in a strict trial in which `a` is expected with a dot before
it; and the same expectation without the dot, which some watcher meets. -/
theorem attainable_expectations_of_dotted_path :
    let base := Path.ofString "/b"
    let w := bareWorld "./a,Create\n".toList
    let launcher := telling (Text.Utf8.encode "/b/a,Create\n".toList)
    ¬Shown base "./a,Create" ∧ Shown base "a,Create" ∧
      (∃ outcome after, (run launcher bareSettings (bare base true)).run w = (.ok outcome, after) ∧
        outcome.status = 1 ∧
        ∃ v : Verdict, "./a,Create" ∈ v.missing.members ∧ outcome.shown = unlines v.failedLines) ∧
      ∃ (launcher : Launcher) (s : Settings) (r : Request) (w : World), r.base = base ∧
        w.tree.readFile r.results = .ok (Text.Utf8.encode "a,Create\n".toList) ∧
        ((run launcher s { r with strict := true }).run w).1 =
          .ok ⟨0, unlines (passedLines r.script.text r.results.text)⟩ := by
  intro base w launcher
  obtain ⟨shown, unshown, fails, passes⟩ := attainable_expectations base
  have dotted : ¬Shown base "./a,Create" :=
    unshown _ (Or.inr ⟨"./a", "Create", rfl, Or.inl (by decide)⟩)
  have plain : Shown base "a,Create" :=
    (shown _).2 ⟨"a", "Create", rfl, by decide, by decide,
      Or.inr ⟨by decide, by decide, fun _ => by decide⟩⟩
  have listed : Listed "./a,Create\n".toList "./a,Create" :=
    ⟨"./a,Create".toList, by decide, by decide, rfl⟩
  have ended : ((run launcher bareSettings (bare base true)).run w).1.map Outcome.status = .ok 1 := by
    decide +kernel
  refine ⟨dotted, plain, ?_, ?_⟩
  · generalize ran : (run launcher bareSettings (bare base true)).run w = final at ended
    obtain ⟨result, after⟩ := final
    cases result with
    | error stop => cases ended
    | ok outcome =>
        obtain ⟨v, missing, rfl⟩ := fails launcher bareSettings (bare base true) w after outcome
          (Text.Utf8.encode "./a,Create\n".toList) "./a,Create\n".toList "./a,Create" rfl rfl rfl
          (Text.Utf8.decode_encode _) listed dotted ran
        exact ⟨_, after, rfl, rfl, v, missing, rfl⟩
  · have all : ∀ event, Listed "a,Create\n".toList event → Shown base event := by
      rintro event ⟨line, among, -, rfl⟩
      have only : line = "a,Create".toList := List.mem_singleton.1 among
      rw [only]
      exact plain
    obtain ⟨launcher, s, r, w, same, -, found, passed⟩ := passes "a,Create\n".toList all
    exact ⟨launcher, s, r, w, same, found, passed true⟩

end Trial

end WatchTrial
