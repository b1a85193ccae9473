import Mathlib.Control.Monad.Basic
import WatchTrial.Proofs.Perform
import WatchTrial.Proofs.Script.Reading
import WatchTrial.Proofs.Trial.Preparation

set_option autoImplicit false

namespace WatchTrial

namespace Script

variable {actions : List Action}

/-- Nothing of a script is lost in its plan: a creation stands for each declaration. -/
theorem plan_conserves {ready : Plan} (planned : plan actions = .ok ready) :
    ready.actions.length = actions.length ∧
      ready.roots.map .watch ++ ready.actions.drop ready.roots.length = actions ∧
      ∀ a ∈ ready.actions, a.isWatch = false := by
  obtain ⟨rest, rfl, undeclared, made⟩ := plan_eq_ok_iff.1 planned
  have creations : (ready.roots.map fun root => Action.create root true true).length =
      ready.roots.length := List.length_map _
  refine ⟨?_, ?_, ?_⟩
  · rw [made, List.length_append, List.length_append, creations, List.length_map]
  · rw [made, List.drop_left' creations]
  · intro a member
    rw [made, List.mem_append] at member
    rcases member with created | later
    · obtain ⟨root, -, rfl⟩ := List.mem_map.1 created
      rfl
    · exact undeclared a later

/-- Splitting the declared roots off a script changes nothing but the log. It fails just when some
declaration comes after another action, and tells the first that does; otherwise it gives the roots
of the declarations that the script starts with, all and in their order, and a creation of each
before the other actions as they are. So there are as many actions as before, and those before can
be told from the roots and them. None of them is a declaration, and performing them, if the script
has been read, does not end in a fault for the kind of an action, in whatever world. -/
theorem plan_loses_nothing (actions : List Action) :
    (∀ w, ∃ log, (Trial.plan actions).run w =
        ((plan actions).mapError fun late => .failed (.setup (.lateRoot late)), { w with log })) ∧
      ((∃ late, plan actions = .error late) ↔
        ∃ before other between root after,
          actions = before ++ other :: (between ++ .watch root :: after) ∧ other.isWatch = false) ∧
      (∀ late, plan actions = .error late ↔
        ∃ (roots : List Path) (other : Action) (between after : List Action),
          actions = roots.map .watch ++ other :: (between ++ .watch late :: after) ∧
            other.isWatch = false ∧ ∀ a ∈ between, a.isWatch = false) ∧
      (∀ ready, plan actions = .ok ready ↔
        ∃ rest, actions = ready.roots.map .watch ++ rest ∧ (∀ a ∈ rest, a.isWatch = false) ∧
          ready.actions = ready.roots.map (.create · true true) ++ rest) ∧
      ∀ ready, plan actions = .ok ready →
        ready.actions.length = actions.length ∧
          ready.roots.map .watch ++ ready.actions.drop ready.roots.length = actions ∧
          (∀ a ∈ ready.actions, a.isWatch = false) ∧
          ∀ base lines w f, read base lines = .ok actions →
            ((Action.performAll ready.actions).run w).1 = .error (.broken f) → f.family ≠ .kind := by
  refine ⟨Trial.reads_plan actions, ⟨?_, ?_⟩, fun late => plan_eq_error_iff,
    fun ready => plan_eq_ok_iff, ?_⟩
  · rintro ⟨late, refused⟩
    obtain ⟨roots, other, between, after, split, notDeclared, -⟩ := plan_eq_error_iff.1 refused
    exact ⟨_, other, between, late, after, split, notDeclared⟩
  · rintro ⟨before, other, between, root, after, rfl, notDeclared⟩
    exact exists_plan_eq_error_of_late before between after root notDeclared
  · intro ready planned
    obtain ⟨many, recovered, undeclared⟩ := plan_conserves planned
    refine ⟨many, recovered, undeclared, ?_⟩
    intro base lines w f whole broken
    exact Action.family_of_performAll (performable_of_plan whole planned) broken

/-- A root that is declared twice, and a path with a NUL. -/
theorem plan_loses_nothing_of_repeated_root :
    let base := Path.ofString "b"
    let lines := ["WatchDir d", "WatchDir .", "WatchDir d", "Delete d/\u0000"]
    let d := base / Path.ofString "d"
    let nul := base / Path.ofString "d/\u0000"
    let actions : List Action := [.watch d, .watch base, .watch d, .delete nul]
    let ready : Plan := ⟨[d, base, d],
      [.create d true true, .create base true true, .create d true true, .delete nul]⟩
    let w : World := { tree := { entries := [(["b".toList], .directory)] } }
    read base lines = .ok actions ∧ plan actions = .ok ready ∧
      ready.actions.length = actions.length ∧
      ready.roots.map .watch ++ ready.actions.drop ready.roots.length = actions ∧
      ∃ f, ((Action.performAll ready.actions).run w).1 = .error (.broken f) ∧ f.family ≠ .kind := by
  intro base lines d nul actions ready w
  have whole : read base lines = .ok actions := by decide +kernel
  have planned : plan actions = .ok ready := by decide +kernel
  have broken : ((Action.performAll ready.actions).run w).1 = .error (.broken .nulCharacter) := by
    decide +kernel
  obtain ⟨many, recovered, -, faults⟩ := (plan_loses_nothing actions).2.2.2.2 ready planned
  exact ⟨whole, planned, many, recovered, _, broken, faults base lines w _ whole broken⟩

end Script

end WatchTrial
