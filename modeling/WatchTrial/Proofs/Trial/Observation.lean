import WatchTrial.Proofs.Trial.Preparation
import WatchTrial.Proofs.Watcher.Ending

set_option autoImplicit false

namespace WatchTrial

open Act (Keeps)

/-- A property of the world that holds whatever stands in the log and in the file tree, and that
pauses leave alone. -/
structure World.Steady (P : World → Prop) : Prop where
  noted : ∀ w log, P w → P { w with log }
  changed : ∀ w tree, P w → P { w with tree }
  napped : ∀ w n, P w → P (World.nap w n)

theorem World.steady_awaits : Steady fun w => w.awaits = true where
  noted _ _ awaits := awaits
  changed _ _ awaits := awaits
  napped w n awaits := (awaits_nap w n).trans awaits

namespace Action

variable {P : World → Prop}

theorem keeps_effect (steady : World.Steady P) (a : Action) : Keeps P a.effect := by
  intro w held
  unfold effect
  split
  · exact Act.keeps_nap (fun w => steady.napped w _) _ w held
  · exact held
  · split
    · exact held
    · exact steady.changed w _ held

theorem keeps_perform (steady : World.Steady P) (a : Action) : Keeps P a.perform := by
  unfold perform
  split
  · exact Act.keeps_stop _
  · exact Act.keeps_bind (fun w held => steady.noted w _ held) fun _ => keeps_effect steady a

theorem keeps_performEach (steady : World.Steady P) (actions : List Action) :
    Keeps P (performEach actions) := by
  induction actions with
  | nil => exact Act.keeps_pure ()
  | cons a rest ih => exact Act.keeps_bind (keeps_perform steady a) fun _ => ih

theorem keeps_performAll (steady : World.Steady P) (actions : List Action) :
    Keeps P (performAll actions) := by
  refine Act.keeps_bind (keeps_performEach steady actions) fun _ => ?_
  exact Act.keeps_bind (fun w held => steady.noted w _ held) fun _ => Act.keeps_pure _

end Action

namespace Trial

/-- The build of a trial, if there is to be one. -/
def buildStep (launcher : Launcher) (s : Settings) (r : Request) : Act Unit :=
  if r.build then Watcher.build launcher s else pure ()

/-- What is done while the watcher may be running. -/
def session (launcher : Launcher) (s : Settings) (r : Request) (plan : Script.Plan) :
    Act (List String) := do
  buildStep launcher s r
  Watcher.start launcher s plan.roots
  let _ ← Action.performAll plan.actions
  Watcher.terminate s.terminateTimeout
  Act.look World.output

theorem observe_eq (launcher : Launcher) (s : Settings) (r : Request) (plan : Script.Plan) :
    observe launcher s r plan =
      (session launcher s r plan).followedBy (Watcher.terminate s.terminateTimeout) := by
  unfold observe session buildStep
  cases r.build <;> rfl

theorem isWatching_observe (launcher : Launcher) (s : Settings) (r : Request) (plan : Script.Plan)
    (w : World) : ((observe launcher s r plan).run w).2.isWatching = false := by
  rw [observe_eq, Act.world_followedBy]
  exact Watcher.isWatching_terminate s.terminateTimeout _

/-- When a trial has lines to go on with, the watcher has ended before they are looked at, and they
are its output still when it has been ended once more. -/
theorem lines_observe {launcher : Launcher} {s : Settings} {r : Request} {plan : Script.Plan}
    {w after : World} {lines : List String}
    (ran : (observe launcher s r plan).run w = (.ok lines, after)) : lines = after.output := by
  rw [observe_eq, Act.run_followedBy_eq_ok] at ran
  obtain ⟨mid, inside, outside⟩ := ran
  obtain ⟨_, w₁, -, inside⟩ := Act.run_bind_eq_ok.1 inside
  obtain ⟨_, w₂, -, inside⟩ := Act.run_bind_eq_ok.1 inside
  obtain ⟨_, w₃, -, inside⟩ := Act.run_bind_eq_ok.1 inside
  obtain ⟨_, w₄, ended, looked⟩ := Act.run_bind_eq_ok.1 inside
  cases looked
  have still := Watcher.isWatching_terminate s.terminateTimeout w₃
  rw [ended] at still
  rw [Watcher.terminate_of_done _ _ still (Watcher.awaits_of_terminate ended)] at outside
  cases outside
  rfl

/-- What a trial makes of the events in the end. -/
def conclude (r : Request) (events : List String) : Option EventSet → Act Outcome
  | none => adopt r events
  | some expected => pure (judge r events expected)

/-- The world when the number of captured lines has been noted. -/
def noted (lines : List String) (w : World) : World :=
  { w with log := w.log ++
      [⟨.debug, .trial, "Captured " ++ toString lines.length ++ " watcher lines"⟩] }

theorem run_of_observed {launcher : Launcher} {s : Settings} {r : Request} {w w₁ w₂ : World}
    {ready : Preparation} {lines : List String} (prepared : (prepare s r).run w = (.ok ready, w₁))
    (observed : (observe launcher s r ready.plan).run w₁ = (.ok lines, w₂)) :
    (run launcher s r).run w =
      match eventTexts r.base lines with
      | .error stop => (.error stop, noted lines w₂)
      | .ok events => (conclude r events ready.expected).run (noted lines w₂) := by
  unfold run
  rw [Act.run_bind_of_ok _ prepared, Act.run_bind_of_ok _ observed,
    Act.run_bind_of_ok _ (Act.run_note _ _ _ w₂), Act.run_bind, Act.run_ofExcept]
  cases eventTexts r.base lines with
  | error stop => rfl
  | ok events => cases ready.expected <;> rfl

theorem run_eq_ok {launcher : Launcher} {s : Settings} {r : Request} {w after : World}
    {outcome : Outcome} (ran : (run launcher s r).run w = (.ok outcome, after)) :
    ∃ ready w₁ lines w₂ events, (prepare s r).run w = (.ok ready, w₁) ∧
      (observe launcher s r ready.plan).run w₁ = (.ok lines, w₂) ∧
      eventTexts r.base lines = .ok events ∧
      (conclude r events ready.expected).run (noted lines w₂) = (.ok outcome, after) := by
  obtain ⟨ready, w₁, prepared, rest⟩ := Act.run_bind_eq_ok.1 ran
  obtain ⟨lines, w₂, observed, -⟩ := Act.run_bind_eq_ok.1 rest
  rw [run_of_observed prepared observed] at ran
  cases reported : eventTexts r.base lines with
  | error stop =>
      rw [reported] at ran
      cases ran
  | ok events =>
      rw [reported] at ran
      exact ⟨ready, w₁, lines, w₂, events, prepared, observed, reported, ran⟩

end Trial

end WatchTrial
