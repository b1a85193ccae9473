import WatchTrial.Proofs.Perform.Keeping
import WatchTrial.Proofs.Trial.Adoption
import WatchTrial.Proofs.Trial.Stages

set_option autoImplicit false

namespace WatchTrial

variable {P : Tree → Prop}

namespace Trial

/-- The process is the build or the watcher that a session has started. -/
inductive Started (launcher : Launcher) (s : Settings) (r : Request) (plan : Script.Plan)
    (w : World) : Process → Prop where
  | build (p : Process) (builds : r.build = true) (some : s.buildCommand ≠ [])
      (clean : s.buildCommand.any Watcher.hasNul = false)
      (launched : launcher w.tree s.buildCommand = .ok p) : Started launcher s r plan w p
  | watcher (built : World) (p : Process)
      (ran : (buildStep launcher s r).run w = (.ok (), built))
      (clean : (Watcher.words s plan.roots).any Watcher.hasNul = false)
      (launched : launcher built.tree (Watcher.words s plan.roots) = .ok p) :
      Started launcher s r plan w p

/-- A session comes to the action, after all those before it have succeeded. -/
inductive Reached (launcher : Launcher) (s : Settings) (r : Request) (plan : Script.Plan)
    (w : World) : Action → Prop where
  | intro (built begun mid : World) (before after : List Action) (a : Action)
      (ran : (buildStep launcher s r).run w = (.ok (), built))
      (started : (Watcher.start launcher s plan.roots).run built = (.ok (), begun))
      (split : plan.actions = before ++ a :: after)
      (performed : (Action.performEach before).run begun = (.ok (), mid)) :
      Reached launcher s r plan w a

/-- All that has a part in a session keeps the property. -/
structure Participants (launcher : Launcher) (s : Settings) (r : Request) (plan : Script.Plan)
    (w : World) (P : Tree → Prop) : Prop where
  programs : ∀ p, Started launcher s r plan w p → p.Keeps P
  actions : ∀ a, Reached launcher s r plan w a → ∀ t, P t → P (a.onTree t).tree

section

variable {launcher : Launcher} {s : Settings} {r : Request} {plan : Script.Plan} {w : World}

theorem keeps_tree_buildStep (kept : w.Keeps P) (keep : Participants launcher s r plan w P) :
    World.Keeps P ((buildStep launcher s r).run w).2 := by
  unfold buildStep
  split
  · rename_i builds
    exact Watcher.keeps_build_of_program launcher s kept fun p some clean launched =>
      keep.programs p (.build p builds some clean launched)
  · exact kept

theorem keeps_tree_underWatch (kept : w.Keeps P)
    (reached : ∀ before a after mid, plan.actions = before ++ a :: after →
      (Action.performEach before).run w = (.ok (), mid) → ∀ t, P t → P (a.onTree t).tree) :
    World.Keeps P ((underWatch s plan).run w).2 := by
  have performed := Action.keeps_tree_performAll (Action.keeps_tree_performEach kept reached)
  refine Act.holds_bind performed fun _ mid _ between => ?_
  exact Act.keeps_bind (Watcher.keeps_terminate s.terminateTimeout) (fun _ => Act.keeps_look _) mid
    between

theorem keeps_tree_session (fresh : Fresh w) (held : P w.tree)
    (keep : Participants launcher s r plan w P) :
    World.Keeps P ((session launcher s r plan).run w).2 := by
  have idle := (idle_buildStep launcher s r fresh).1
  rw [session_eq]
  refine Act.holds_bind (keeps_tree_buildStep (World.keeps_of_idle fresh.idle held) keep) ?_
  intro _ built ran kept
  rw [ran] at idle
  refine Act.holds_bind (Watcher.keeps_start_of_program launcher s plan.roots kept idle
    fun p clean launched => keep.programs p (.watcher built p ran clean launched)) ?_
  intro _ begun started kept
  refine keeps_tree_underWatch kept fun before a after mid split performed => ?_
  exact keep.actions a (.intro built begun mid before after a ran started split performed)

/-- What all that has a part in a session keeps, the session keeps, however it ends. -/
theorem keeps_tree_observe (fresh : Fresh w) (held : P w.tree)
    (keep : Participants launcher s r plan w P) :
    P ((observe launcher s r plan).run w).2.tree := by
  rw [observe_eq, Act.world_followedBy]
  exact (Watcher.keeps_terminate s.terminateTimeout _ (keeps_tree_session fresh held keep)).tree

end

/-- The files are as the session has left them, if there has been one: the trial has done nothing to
them by itself. -/
structure LeavesFiles (launcher : Launcher) (s : Settings) (r : Request) (w : World) : Prop where
  refused : ∀ stop settled, (prepare s r).run w = (.error stop, settled) →
    ((run launcher s r).run w).2.tree = w.tree
  observed : ∀ ready settled, (prepare s r).run w = (.ok ready, settled) →
    ((run launcher s r).run w).2.tree = ((observe launcher s r ready.plan).run settled).2.tree
  kept : ∀ P : Tree → Prop, P w.tree →
    (∀ ready settled, (prepare s r).run w = (.ok ready, settled) →
      Participants launcher s r ready.plan settled P) →
    P ((run launcher s r).run w).2.tree

section

variable {launcher : Launcher} {s : Settings} {r : Request} {w : World}

/-- Past the session a trial changes a file only if it makes the events the expected ones. -/
theorem tree_assess_of_spared {expected : Option EventSet} {lines : List String}
    (spared : expected ≠ none ∨ ∃ f, ((assess r expected lines).run w).1 = .error (.failed f)) :
    ((assess r expected lines).run w).2.tree = w.tree := by
  unfold assess at spared ⊢
  rw [Act.run_bind_of_ok _ (Act.run_note _ _ _ w)] at spared ⊢
  cases reported : eventTexts r.base lines with
  | error stop =>
      rw [Act.run_bind_of_error _ (Act.run_ofExcept _ _)]
  | ok texts =>
      rw [reported, Act.run_bind_of_ok _ (Act.run_ofExcept _ _)] at spared
      rw [Act.run_bind_of_ok _ (Act.run_ofExcept _ _)]
      cases expected with
      | none =>
          -- Only here is the file written, and then the trial does not fail any more.
          rcases spared with known | ⟨f, failed⟩
          · exact absurd rfl known
          · exact absurd failed (result_adopt_ne_failed r texts _)
      | some expected => rfl

theorem tree_run_of_spared {ready : Preparation} {settled : World}
    (prepared : (prepare s r).run w = (.ok ready, settled))
    (spared : r.update = false ∨ ∃ f, ((run launcher s r).run w).1 = .error (.failed f)) :
    ((run launcher s r).run w).2.tree = ((observe launcher s r ready.plan).run settled).2.tree := by
  have staged : run launcher s r = prepare s r >>= proceed launcher s r := rfl
  rw [staged, Act.run_bind_of_ok _ prepared] at spared ⊢
  unfold proceed at spared ⊢
  cases observed : (observe launcher s r ready.plan).run settled with
  | mk result last =>
      cases result with
      | error stop => rw [Act.run_bind_of_error _ observed]
      | ok lines =>
          rw [Act.run_bind_of_ok _ observed] at spared ⊢
          apply tree_assess_of_spared
          refine spared.imp (fun compares => ?_) id
          rcases (preparation_eq_ok (run_prepare_eq_ok prepared).1).2 with
            ⟨updates, -⟩ | ⟨-, expected, known, -⟩
          · cases compares.symm.trans updates
          · rw [known]
            exact Option.some_ne_none expected

theorem leavesFiles_of_spared (fresh : Fresh w)
    (spared : r.update = false ∨ ∃ f, ((run launcher s r).run w).1 = .error (.failed f)) :
    LeavesFiles launcher s r w := by
  have refused (stop : Stop) (settled : World)
      (prepared : (prepare s r).run w = (.error stop, settled)) :
      ((run launcher s r).run w).2.tree = w.tree := by
    have stopped : (run launcher s r).run w = (.error stop, settled) :=
      Act.run_bind_of_error _ prepared
    obtain ⟨log, same⟩ := run_prepare s r w
    rw [prepared, Prod.mk.injEq] at same
    rw [stopped, same.2]
  refine ⟨refused, fun ready settled prepared => tree_run_of_spared prepared spared, ?_⟩
  intro P held keep
  cases prepared : (prepare s r).run w with
  | mk result settled =>
      cases result with
      | error stop =>
          rw [refused stop settled prepared]
          exact held
      | ok ready =>
          rw [tree_run_of_spared prepared spared]
          have same : settled.tree = w.tree := by
            obtain ⟨-, log, rfl⟩ := run_prepare_eq_ok prepared
            rfl
          exact keeps_tree_observe (fresh_of_run_prepare fresh prepared) (same ▸ held)
            (keep ready settled prepared)

end

/-- A trial that compares, or that fails, does nothing to the files beyond what the programs that it
starts and the actions that it comes to do. A trial that updates and succeeds leaves in the file of
expected events the texts of the events that the captured lines report, in strictly increasing
order, each with a line feed, whatever there was before. -/
theorem results_replaced_only_by_success (launcher : Launcher) (s : Settings) (r : Request)
    (w : World) (fresh : Fresh w) :
    ((r.update = false ∨ ∃ f, ((run launcher s r).run w).1 = .error (.failed f)) →
        LeavesFiles launcher s r w) ∧
      (r.update = true → ∀ outcome after, (run launcher s r).run w = (.ok outcome, after) →
        ∃ texts : List String, texts.Pairwise (· < ·) ∧
          (∀ text, text ∈ texts ↔ Event.Reported r.base after.output text) ∧
          after.tree.readFile r.results =
            .ok (Text.Utf8.encode (texts.flatMap fun text => text.toList ++ ['\n']))) := by
  refine ⟨leavesFiles_of_spared fresh, fun updates outcome after ran => ?_⟩
  obtain ⟨events, found, before, written⟩ := run_eq_ok_of_update updates ran
  obtain ⟨-, made, changed⟩ := writeExpectation_eq_ok written
  refine ⟨(adopted events).members, (adopted events).increasing, fun text => ?_, ?_⟩
  · rw [EventSet.mem_ofList]
    exact (Event.ofLines_eq_ok found).2 text
  · exact Tree.readFile_writeFile changed

/-- Expected events that are not text: a trial of which the last action is refused leaves them, and
one without that action puts in their place the two events that three lines report. -/
theorem undecodable_results_replaced_only_by_success :
    let launcher : Launcher := fun _ _ =>
      .ok (.write .output (Text.Utf8.encode "b,Create\na,Create\nb,Create\n".toList) fun _ =>
        .ended (.exited 0))
    let files (script : String) : World :=
      { tree := { entries := [([['s']], .file (Text.Utf8.encode script.toList) false),
          ([['e']], .file [0xff] false)] }
        timed := true }
    let w := files "WatchDir d\nWait 1\n"
    let v := files "WatchDir d\nWait 1\nDelete d/x\n"
    let r : Request :=
      { script := Path.ofString "s", results := Path.ofString "e", base := Path.here
        build := false, update := true }
    LeavesFiles launcher Settings.usual r v ∧
      ((run launcher Settings.usual r).run v).2.tree.readFile r.results = .ok [0xff] ∧
      ∃ outcome after, (run launcher Settings.usual r).run w = (.ok outcome, after) ∧
        after.output = ["b,Create", "a,Create", "b,Create"] ∧
        after.tree.readFile r.results = .ok (Text.Utf8.encode "a,Create\nb,Create\n".toList) := by
  intro launcher files w v r
  have refused : ((run launcher Settings.usual r).run v).1 =
      .error (.failed (.action (.delete (Path.ofString "d/x")) ⟨.noEntry, "d/x", none⟩)) := by
    decide +kernel
  have still : ((run launcher Settings.usual r).run v).2.tree.readFile r.results = .ok [0xff] := by
    decide +kernel
  have worked : ((run launcher Settings.usual r).run w).1.isOk = true := by decide +kernel
  have output : ((run launcher Settings.usual r).run w).2.output =
      ["b,Create", "a,Create", "b,Create"] := by decide +kernel
  have found : Event.ofLines r.base ["b,Create", "a,Create", "b,Create"] =
      .ok [⟨"b", "Create"⟩, ⟨"a", "Create"⟩, ⟨"b", "Create"⟩] := by decide +kernel
  refine ⟨?_, still, ?_⟩
  · exact (results_replaced_only_by_success launcher Settings.usual r v ⟨rfl, rfl, rfl⟩).1
      (Or.inr ⟨_, refused⟩)
  · generalize ran : (run launcher Settings.usual r).run w = final at worked output
    obtain ⟨result, after⟩ := final
    cases result with
    | error stop => cases worked
    | ok outcome =>
        obtain ⟨texts, increasing, reported, written⟩ :=
          (results_replaced_only_by_success launcher Settings.usual r w ⟨rfl, rfl, rfl⟩).2 rfl
            outcome after ran
        have both : texts = ["a,Create", "b,Create"] := by
          refine eq_of_increasing _ _ increasing (by decide) fun text => ?_
          rw [reported, output, ← (Event.ofLines_eq_ok found).2]
          simp only [List.map_cons, List.map_nil, List.mem_cons, List.not_mem_nil, Event.text]
          grind
        rw [both] at written
        exact ⟨outcome, after, rfl, output, written⟩

end Trial

end WatchTrial
