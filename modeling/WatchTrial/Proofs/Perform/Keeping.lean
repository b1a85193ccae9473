import WatchTrial.Perform
import WatchTrial.Proofs.Watcher.Keeping

set_option autoImplicit false

namespace WatchTrial

variable {P : Tree → Prop}

namespace Action

theorem keeps_tree_perform {a : Action} (keeps : ∀ t, P t → P (a.onTree t).tree) :
    a.perform.Keeps (World.Keeps P) := by
  have effect : a.effect.Keeps (World.Keeps P) := by
    intro w kept
    unfold Action.effect
    split
    · exact Act.keeps_nap (fun _ kept => World.keeps_nap _ kept) _ w kept
    · exact kept
    · split
      · exact kept
      · exact ⟨keeps w.tree kept.tree, kept.child⟩
  unfold perform
  split
  · exact Act.keeps_stop _
  · exact Act.keeps_bind (fun w kept => ⟨kept.tree, kept.child⟩) fun _ => effect

/-- Only the actions that are come to have a part in it. -/
theorem keeps_tree_performEach {actions : List Action} {w : World} (kept : w.Keeps P)
    (reached : ∀ before a after mid, actions = before ++ a :: after →
      (performEach before).run w = (.ok (), mid) → ∀ t, P t → P (a.onTree t).tree) :
    World.Keeps P ((performEach actions).run w).2 := by
  induction actions generalizing w with
  | nil => exact kept
  | cons a rest ih =>
      refine Act.holds_bind (keeps_tree_perform (reached [] a rest w rfl rfl) w kept) ?_
      intro _ mid ran between
      refine ih between fun before b after last split performed => ?_
      refine reached (a :: before) b after last (by rw [split]; rfl) ?_
      rw [performEach, Act.run_bind_of_ok _ ran]
      exact performed

/-- Where no pause is asked for, the watcher has no part in it. -/
theorem tree_performEach {actions : List Action} {w : World} (held : P w.tree)
    (still : ∀ a ∈ actions, ∀ seconds, a ≠ .wait seconds)
    (keeps : ∀ a ∈ actions, ∀ t, P t → P (a.onTree t).tree) :
    P ((performEach actions).run w).2.tree := by
  have each : ∀ a ∈ actions, a.perform.Keeps fun v => P v.tree := by
    intro a member
    have effect : a.effect.Keeps fun v => P v.tree := by
      intro v kept
      unfold Action.effect
      split
      · exact absurd rfl (still _ member _)
      · exact kept
      · split
        · exact kept
        · exact keeps a member v.tree kept
    unfold perform
    split
    · exact Act.keeps_stop _
    · exact Act.keeps_bind (fun v kept => kept) fun _ => effect
  have whole : (performEach actions).Keeps fun v => P v.tree := by
    clear still keeps
    induction actions with
    | nil => exact Act.keeps_pure ()
    | cons a rest ih =>
        rw [List.forall_mem_cons] at each
        exact Act.keeps_bind each.1 fun _ => ih each.2
  exact whole w held

theorem keeps_tree_performAll {actions : List Action} {w : World}
    (kept : World.Keeps P ((performEach actions).run w).2) :
    World.Keeps P ((performAll actions).run w).2 :=
  Act.holds_bind kept fun _ _ _ performed => ⟨performed.tree, performed.child⟩

end Action

end WatchTrial
