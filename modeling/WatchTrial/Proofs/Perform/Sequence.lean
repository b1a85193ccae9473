import Mathlib.Control.Monad.Basic
import WatchTrial.Proofs.Act
import WatchTrial.Proofs.Perform

set_option autoImplicit false

namespace WatchTrial

namespace Act

variable {α β : Type}

/-- The act may add to the log, and what else it does has nothing to do with the log. -/
def Logs (act : Act α) : Prop :=
  ∀ w, ∃ records, ∀ log, act.run { w with log } =
    ((act.run w).1, { (act.run w).2 with log := log ++ records })

theorem logs_pure (a : α) : Logs (pure a : Act α) := fun _ => ⟨[], fun log => by simp⟩

theorem logs_stop (s : Stop) : Logs (stop s : Act α) := fun _ => ⟨[], fun log => by simp⟩

theorem logs_note (level : Level) (topic : Topic) (text : String) :
    Logs (note level topic text) := fun _ => ⟨[⟨level, topic, text⟩], fun _ => rfl⟩

theorem logs_onTree (operation : Tree → Tree.Changed) (refused : Refusal → Stop) :
    Logs (onTree operation refused) := fun _ => ⟨[], fun log => by simp⟩

theorem logs_nap (n : Nap) (refused : Refusal → Stop) : Logs (nap n refused) := by
  intro w
  refine ⟨[], fun log => ?_⟩
  have made : World.nap { w with log } n = { w.nap n with log } := by
    obtain ⟨tree, clock, timed, naps, noted, launches, built, child, reading, writtenOff⟩ := w
    cases timed <;> cases child <;> rfl
  have told : World.napFault? { w with log } n = w.napFault? n := rfl
  have within : World.outlasts { w with log } n = w.outlasts n := rfl
  simp only [List.append_nil, nap, run_ofFunction, told, within]
  split
  · rfl
  · split
    · rfl
    · rw [made]

theorem logs_bind {act : Act α} {next : α → Act β} (first : Logs act)
    (later : ∀ a, Logs (next a)) : Logs (act >>= next) := by
  intro w
  obtain ⟨records, noted⟩ := first w
  cases ran : act.run w with
  | mk result mid =>
      rw [ran] at noted
      cases result with
      | error s =>
          refine ⟨records, fun log => ?_⟩
          rw [run_bind_of_error next (noted log), run_bind_of_error next ran]
      | ok a =>
          obtain ⟨more, notedLater⟩ := later a mid
          refine ⟨records ++ more, fun log => ?_⟩
          rw [run_bind_of_ok next (noted log), run_bind_of_ok next ran, notedLater,
            List.append_assoc]

end Act

namespace Action

variable {a : Action} {actions : List Action} {w last : World}

theorem logs_perform (a : Action) : Act.Logs a.perform := by
  have effect : Act.Logs a.effect := by
    unfold Action.effect
    split
    · exact Act.logs_nap _ _
    · exact Act.logs_stop _
    · split
      · exact Act.logs_stop _
      · exact Act.logs_onTree _ _
  unfold perform
  split
  · exact Act.logs_stop _
  · exact Act.logs_bind (Act.logs_note _ _ _) fun _ => effect

theorem logs_performEach (actions : List Action) : Act.Logs (performEach actions) := by
  induction actions with
  | nil => exact Act.logs_pure ()
  | cons a rest ih => exact Act.logs_bind (logs_perform a) fun _ => ih

/-- The pauses that an action asks for. -/
def naps : Action → List Nap
  | .wait seconds => [.wait seconds]
  | _ => []

/-- What is done without a pause asks for none. -/
theorem naps_perform_of_still (still : a.naps = []) (w : World) :
    (a.perform.run w).2.naps = w.naps := by
  unfold perform
  split
  · rfl
  · rw [Act.run_bind_of_ok _ (Act.run_note _ _ _ w)]
    unfold effect
    split
    · cases still
    · rfl
    · split <;> rfl

/-- Only a pause that is made counts as asked for. -/
theorem naps_perform {s : Except Stop Unit} (ran : a.perform.run w = (s, last)) :
    last.naps = w.naps ++ if s.isOk then a.naps else [] := by
  by_cases still : a.naps = []
  · have same := naps_perform_of_still still w
    rw [ran] at same
    simpa [still] using same
  · cases a with
    | wait seconds =>
        have asks : ¬(Action.wait seconds).isWatch = true := Bool.false_ne_true
        rw [perform, if_neg asks, Act.run_bind_of_ok _ (Act.run_note _ _ _ w), effect] at ran
        rcases Act.run_nap_cases (.wait seconds) (Action.wait seconds).refused
          { w with log := w.log ++ [_] } with
          ⟨f, -, broken⟩ | ⟨-, ⟨-, refused⟩ | ⟨-, made⟩⟩
        · cases broken.symm.trans ran
          exact (List.append_nil _).symm
        · cases refused.symm.trans ran
          exact (List.append_nil _).symm
        · cases made.symm.trans ran
          rfl
    | _ => exact absurd rfl still

/-- The actions succeed, each in the world that those before it have left. -/
inductive Performs : World → List Action → World → Prop where
  | nil (w : World) : Performs w [] w
  | cons {w mid last : World} {a : Action} {rest : List Action}
      (first : a.perform.run w = (.ok (), mid)) (later : Performs mid rest last) :
      Performs w (a :: rest) last

namespace Performs

theorem run (performs : Performs w actions last) :
    (performEach actions).run w = (.ok (), last) := by
  induction performs with
  | nil w => rfl
  | cons first later ih => exact (Act.run_bind_of_ok _ first).trans ih

theorem of_run (ran : (performEach actions).run w = (.ok (), last)) : Performs w actions last := by
  induction actions generalizing w with
  | nil =>
      cases ran
      exact .nil _
  | cons a rest ih =>
      obtain ⟨_, mid, first, later⟩ := Act.run_bind_eq_ok.1 ran
      exact .cons first (ih later)

theorem naps (performs : Performs w actions last) :
    last.naps = w.naps ++ actions.flatMap Action.naps := by
  induction performs with
  | nil w => rw [List.flatMap_nil, List.append_nil]
  | @cons start mid last a rest first later ih =>
      have step : mid.naps = start.naps ++ a.naps := naps_perform first
      rw [ih, step, List.flatMap_cons, List.append_assoc]

/-- Where an action stops, those before it have been performed and those after it have no part. -/
theorem run_stop {before : List Action} {mid after : World} {s : Stop}
    (performs : Performs w before mid) (stopped : a.perform.run mid = (.error s, after))
    (later : List Action) : (performEach (before ++ a :: later)).run w = (.error s, after) := by
  rw [performEach_append, Act.run_bind_of_ok _ performs.run]
  exact Act.run_bind_of_error _ stopped

/-- The actions are performed to the end, or there is a first that stops. -/
theorem total (w : World) (actions : List Action) :
    (∃ last, Performs w actions last) ∨
      ∃ before a rest mid s after, actions = before ++ a :: rest ∧ Performs w before mid ∧
        a.perform.run mid = (.error s, after) := by
  induction actions generalizing w with
  | nil => exact Or.inl ⟨w, .nil w⟩
  | cons first rest ih =>
      cases ran : first.perform.run w with
      | mk result mid =>
          cases result with
          | error s => exact Or.inr ⟨[], first, rest, w, s, mid, rfl, .nil w, ran⟩
          | ok u =>
              rcases ih mid with ⟨last, performs⟩ | ⟨before, a, others, next, s, after, rfl,
                performs, stopped⟩
              · exact Or.inl ⟨last, .cons ran performs⟩
              · exact Or.inr ⟨first :: before, a, others, next, s, after, rfl,
                  .cons ran performs, stopped⟩

end Performs

/-- What the log says when actions have been performed. -/
def performedRecord (count : Nat) : Record :=
  ⟨.info, .actions, "Executed " ++ toString count ++ " actions"⟩

theorem run_performAll_of_ok (ran : (performEach actions).run w = (.ok (), last)) :
    (performAll actions).run w = (.ok actions.length,
      { last with log := last.log ++ [performedRecord actions.length] }) := by
  unfold performAll
  rw [Act.run_bind_of_ok _ ran, Act.run_bind_of_ok _ (Act.run_note _ _ _ last)]
  rfl

theorem run_performAll_of_error {s : Stop}
    (ran : (performEach actions).run w = (.error s, last)) :
    (performAll actions).run w = (.error s, last) := Act.run_bind_of_error _ ran

/-- Performing actions succeeds when each of them does, and otherwise ends where they stop. -/
theorem run_performAll_cases (actions : List Action) (w : World) :
    (∃ last, (performEach actions).run w = (.ok (), last) ∧
        (performAll actions).run w = (.ok actions.length,
          { last with log := last.log ++ [performedRecord actions.length] })) ∨
      ∃ s after, (performEach actions).run w = (.error s, after) ∧
        (performAll actions).run w = (.error s, after) := by
  cases each : (performEach actions).run w with
  | mk result last =>
      cases result with
      | ok u => exact Or.inl ⟨last, rfl, run_performAll_of_ok each⟩
      | error s => exact Or.inr ⟨s, last, rfl, run_performAll_of_error each⟩

theorem performs_of_performAll {count : Nat} (ran : (performAll actions).run w = (.ok count, last)) :
    ∃ final log, Performs w actions final ∧ last = { final with log } := by
  rcases run_performAll_cases actions w with ⟨final, each, whole⟩ | ⟨s, after, -, whole⟩
  · cases whole.symm.trans ran
    exact ⟨final, _, .of_run each, rfl⟩
  · cases whole.symm.trans ran

theorem run_performAll_append_of_error {s : Stop} (more : List Action)
    (ran : (performAll actions).run w = (.error s, last)) :
    (performAll (actions ++ more)).run w = (.error s, last) := by
  rcases run_performAll_cases actions w with ⟨final, -, whole⟩ | ⟨stop, after, each, whole⟩
  · cases whole.symm.trans ran
  · cases whole.symm.trans ran
    apply run_performAll_of_error
    rw [performEach_append]
    exact Act.run_bind_of_error _ each

theorem run_performAll_append_of_ok {count : Nat} (more : List Action)
    (ran : (performAll actions).run w = (.ok count, last)) :
    ∃ log, (performAll (actions ++ more)).run w =
      (((performAll more).run last).1.map (count + ·),
        { ((performAll more).run last).2 with log }) := by
  rcases run_performAll_cases actions w with ⟨mid, each, first⟩ | ⟨stop, after, -, first⟩
  · cases first.symm.trans ran
    -- Between the two lists there is one record more in the log than for the whole.
    obtain ⟨records, noted⟩ := logs_performEach more mid
    have again := noted (mid.log ++ [performedRecord actions.length])
    have joined : (performEach (actions ++ more)).run w = (performEach more).run mid := by
      rw [performEach_append, Act.run_bind_of_ok _ each]
    rcases run_performAll_cases (actions ++ more) w with ⟨final, whole, ended⟩ | ⟨s, final, whole, ended⟩
    · rw [joined] at whole
      rw [whole] at again
      rw [ended, run_performAll_of_ok again, List.length_append]
      exact ⟨_, rfl⟩
    · rw [joined] at whole
      rw [whole] at again
      rw [ended, run_performAll_of_error again]
      exact ⟨final.log, rfl⟩
  · cases first.symm.trans ran

/-- Performing actions performs them up to the first that stops. If each succeeds in the world that
those before it have left, the outcome is their number, the world is as the last has left it, but for
the log, and the pauses asked for are those of the actions, in their order. Otherwise there is a first
action that stops, which all before it have succeeded without; how it stops is the outcome, the world
is as it has left it, the pauses are those of the actions before it, and whatever comes after it makes
no difference. So performing two lists put together ends as the first does if that stops; else it ends
as the second does in the world that the first has left, with the counts added up. -/
theorem performAll_up_to_first_stop (actions : List Action) (w : World) :
    (∀ last, Performs w actions last →
        (performAll actions).run w = (.ok actions.length,
          { last with log := last.log ++ [performedRecord actions.length] }) ∧
        last.naps = w.naps ++ actions.flatMap naps) ∧
      ((¬∃ last, Performs w actions last) →
        ∃ before a rest mid s after, actions = before ++ a :: rest ∧ Performs w before mid ∧
          a.perform.run mid = (.error s, after) ∧
          (performAll actions).run w = (.error s, after) ∧
          after.naps = w.naps ++ before.flatMap naps ∧
          ∀ later, (performAll (before ++ a :: later)).run w = (.error s, after)) ∧
      ∀ more,
        (∀ s after, (performAll actions).run w = (.error s, after) →
          (performAll (actions ++ more)).run w = (.error s, after)) ∧
        ∀ count last, (performAll actions).run w = (.ok count, last) →
          ∃ log, (performAll (actions ++ more)).run w =
            (((performAll more).run last).1.map (count + ·),
              { ((performAll more).run last).2 with log }) := by
  refine ⟨?_, ?_, fun more => ⟨?_, ?_⟩⟩
  · intro last performs
    exact ⟨run_performAll_of_ok performs.run, performs.naps⟩
  · intro unfinished
    obtain ⟨before, a, rest, mid, s, after, rfl, performs, stopped⟩ :=
      (Performs.total w actions).resolve_left unfinished
    have ends (later : List Action) : (performAll (before ++ a :: later)).run w = (.error s, after) :=
      run_performAll_of_error (performs.run_stop stopped later)
    refine ⟨before, a, rest, mid, s, after, rfl, performs, stopped, ends rest, ?_, ends⟩
    have step : after.naps = mid.naps := (naps_perform stopped).trans (List.append_nil _)
    rw [step, performs.naps]
  · intro s after ran
    exact run_performAll_append_of_error more ran
  · intro count last ran
    exact run_performAll_append_of_ok more ran

/-- A file that is removed and is not there, between a pause and a creation and others. -/
theorem performAll_up_to_first_stop_of_missing_file :
    let w : World := { tree := Tree.empty, timed := true }
    let made := [Action.wait 2, .create (Path.ofString "a") false false]
    let missing := Action.delete (Path.ofString "m")
    let actions := made ++ [missing, .wait 5, .create (Path.ofString "b") false false]
    (∃ last, Performs w made last ∧ ((performAll made).run w).1 = .ok 2 ∧
        last.naps = [.wait 2]) ∧
      ((performAll (made ++ [.wait 5])).run w).1 = .ok (2 + 1) ∧
      (¬∃ last, Performs w actions last) ∧
      ∃ before a rest mid s after, actions = before ++ a :: rest ∧ Performs w before mid ∧
        a.perform.run mid = (.error s, after) ∧ (performAll actions).run w = (.error s, after) ∧
        s = .failed (.action missing ⟨.noEntry, "m", none⟩) ∧ after.naps = [.wait 2] ∧
        after.tree.entries = [([['a']], .file [] false)] := by
  intro w made missing actions
  have first : ((performEach made).run w).1 = .ok () := by decide +kernel
  have performs : Performs w made ((performEach made).run w).2 :=
    .of_run (Act.run_of_result first)
  obtain ⟨completes, slept⟩ := (performAll_up_to_first_stop made w).1 _ performs
  have both : ((performAll made).run w).1 = .ok 2 := by
    rw [completes]
    rfl
  obtain ⟨log, longer⟩ :=
    ((performAll_up_to_first_stop made w).2.2 [.wait 5]).2 2 _ (Act.run_of_result both)
  have stops : ((performEach actions).run w).1 =
      .error (.failed (.action missing ⟨.noEntry, "m", none⟩)) := by decide +kernel
  have unfinished : ¬∃ last, Performs w actions last := by
    rintro ⟨last, finished⟩
    rw [finished.run] at stops
    cases stops
  obtain ⟨before, a, rest, mid, s, after, split, performed, stopped, ran, -, -⟩ :=
    (performAll_up_to_first_stop actions w).2.1 unfinished
  have outcome : ((performAll actions).run w).1 = .error s := congrArg Prod.fst ran
  have world : ((performAll actions).run w).2 = after := congrArg Prod.snd ran
  have later : (((performAll [.wait 5]).run ((performAll made).run w).2).1.map (2 + ·)) =
      .ok (2 + 1) := by decide +kernel
  have together : ((performAll (made ++ [.wait 5])).run w).1 = .ok (2 + 1) := by
    rw [longer]
    dsimp only
    exact later
  refine ⟨⟨_, performs, both, slept⟩, together, unfinished, before, a, rest, mid, s, after, split,
    performed, stopped, ran, ?_, ?_, ?_⟩
  · rw [result_performAll_eq_error.2 stops] at outcome
    exact (Except.error.inj outcome).symm
  · rw [← world]
    decide +kernel
  · rw [← world]
    decide +kernel

end Action

end WatchTrial
