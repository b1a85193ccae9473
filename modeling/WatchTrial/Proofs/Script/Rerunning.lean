import Mathlib.Control.Monad.Basic
import WatchTrial.Proofs.Perform.Effect
import WatchTrial.Proofs.Perform.Sequence
import WatchTrial.Proofs.Script
import WatchTrial.Proofs.Tree.Including

set_option autoImplicit false

namespace WatchTrial

namespace Action

variable {roots : List Path} {w after : World}

/-- Directories that have been made are there, also those that were made before others. -/
theorem made_of_performs (performs : Performs w (roots.map (.create · true true)) after) :
    w.tree.Includes after.tree ∧
      ∀ root ∈ roots, root.hasNul = false ∧ after.tree.isDirectory root = true := by
  induction roots generalizing w with
  | nil =>
      cases performs
      exact ⟨.refl _, by simp⟩
  | cons root rest ih =>
      rw [List.map_cons] at performs
      cases performs with
      | cons first later =>
          obtain ⟨grown, others⟩ := ih later
          have clean := clean_of_perform first (List.cons_ne_nil _ _) rfl
          obtain ⟨succeeded, made⟩ := onTree_of_perform first (List.cons_ne_nil _ _) rfl
          have there := Tree.isDirectory_of_ensure succeeded
          have added := Tree.includes_ensure w.tree root true
          rw [onTree] at made
          rw [← made] at there added
          refine ⟨added.trans grown, List.forall_mem_cons.2 ⟨⟨?_, ?_⟩, others⟩⟩
          · simpa [paths] using clean
          · exact Tree.isDirectory_of_extends grown.grown there

/-- Directories that are there are made again without a change. -/
theorem performs_again
    (there : ∀ root ∈ roots, root.hasNul = false ∧ w.tree.isDirectory root = true) :
    ∃ log, Performs w (roots.map (.create · true true)) { w with log } := by
  induction roots generalizing w with
  | nil => exact ⟨w.log, .nil w⟩
  | cons root rest ih =>
      rw [List.forall_mem_cons] at there
      obtain ⟨⟨clean, found⟩, others⟩ := there
      have kept : (Action.create root true true).onTree w.tree = Tree.done w.tree :=
        Tree.ensure_of_isDirectory found
      obtain ⟨log, first⟩ := @run_perform_of_ok (.create root true true) w (List.cons_ne_nil _ _) rfl
        (by simp [paths, clean]) (by rw [kept]; rfl)
      rw [kept] at first
      obtain ⟨more, later⟩ := @ih { w with log } others
      exact ⟨more, .cons first later⟩

theorem includes_creation {a : Action} (t : Tree)
    (creates : ∃ path directory existOk, a = .create path directory existOk) :
    t.Includes (a.onTree t).tree := by
  obtain ⟨path, directory, existOk, rfl⟩ := creates
  cases directory with
  | true => exact Tree.includes_ensure t path existOk
  | false => exact Tree.includes_touch t path

theorem includes_performAll {actions : List Action} (w : World)
    (creates : ∀ a ∈ actions, ∃ path directory existOk, a = .create path directory existOk) :
    w.tree.Includes ((performAll actions).run w).2.tree := by
  have each : w.tree.Includes ((performEach actions).run w).2.tree := by
    apply tree_performEach (.refl w.tree)
    · intro a member seconds same
      obtain ⟨path, directory, existOk, created⟩ := creates a member
      cases same.symm.trans created
    · intro a member t grown
      exact grown.trans (includes_creation t (creates a member))
  exact Act.holds_bind (P := fun v => w.tree.Includes v.tree) each fun _ _ _ performed => performed

end Action

namespace Script

open WatchTrial.Action (performAll)

/-- A plan puts a creation of each root before the rest. When these creations succeed then every root
is a directory, whatever else is listed before or after it, and all that stood before stands as it
did. Performed again, at once or after any further creations, they succeed and leave everything but
the log as it is. -/
theorem roots_remain (roots : List Path) (rest : List Action)
    (undeclared : ∀ a ∈ rest, a.isWatch = false) (w : World) :
    let creations : List Action := roots.map (.create · true true)
    plan (roots.map .watch ++ rest) = .ok ⟨roots, creations ++ rest⟩ ∧
      ∀ count after, (performAll creations).run w = (.ok count, after) →
        (∀ root ∈ roots, after.tree.isDirectory root = true) ∧
        w.tree.Includes after.tree ∧
        ∀ further : List Action,
          (∀ a ∈ further, ∃ path directory existOk, a = .create path directory existOk) →
          let later := ((performAll further).run after).2
          ∃ log, (performAll creations).run later = (.ok roots.length, { later with log }) := by
  intro creations
  refine ⟨plan_eq_ok_iff.2 ⟨rest, rfl, undeclared, rfl⟩, ?_⟩
  intro count after ran
  obtain ⟨final, log, performs, rfl⟩ := Action.performs_of_performAll ran
  obtain ⟨grown, there⟩ := Action.made_of_performs performs
  refine ⟨fun root member => (there root member).2, grown, ?_⟩
  intro further creates later
  have wider := Action.includes_performAll { final with log } creates
  obtain ⟨more, again⟩ := @Action.performs_again roots later fun root member =>
    ⟨(there root member).1, Tree.isDirectory_of_extends wider.grown (there root member).2⟩
  refine ⟨more ++ [Action.performedRecord creations.length], ?_⟩
  rw [Action.run_performAll_of_ok again.run, List.length_map]

/-- The base directory, which is there with a file in it, a directory in it, twice, and one that is
named by the way there and back. -/
theorem roots_remain_of_roundabout_path :
    let base := Path.ofString "b"
    let d := Path.ofString "b/d"
    let roots := [base, d, d, Path.ofString "b/d/../e"]
    let rest := [Action.delete d]
    let creations : List Action := roots.map (.create · true true)
    let w : World :=
      { tree := { entries := [([['b']], .directory), ([['b'], ['f']], .file [0x79] true)] } }
    let after := ((performAll creations).run w).2
    let further := [Action.create (Path.ofString "b/d/x") false false,
      Action.create (Path.ofString "b/f/x") true true]
    let later := ((performAll further).run after).2
    (∀ a ∈ rest, a.isWatch = false) ∧
      plan (roots.map .watch ++ rest) = .ok ⟨roots, creations ++ rest⟩ ∧
      ((performAll creations).run w).1 = .ok 4 ∧
      (∀ root ∈ roots, after.tree.isDirectory root = true) ∧
      after.tree.get? [['b'], ['f']] = some (.file [0x79] true) ∧
      after.tree.get? [['b'], ['e']] = some .directory ∧
      ((performAll further).run after).1 = .error (.failed (.action
        (.create (Path.ofString "b/f/x") true true) ⟨.notDirectory, "b/f/x", none⟩)) ∧
      ((performAll creations).run later).1 = .ok 4 ∧
      ((performAll creations).run later).2.tree = later.tree := by
  intro base d roots rest creations w after further later
  have undeclared : ∀ a ∈ rest, a.isWatch = false := by simp [rest, Action.isWatch]
  obtain ⟨planned, remain⟩ := roots_remain roots rest undeclared w
  have made : ((performAll creations).run w).1 = .ok 4 := by decide +kernel
  have ran : (performAll creations).run w = (.ok 4, after) := by
    rw [← made]
  obtain ⟨there, grown, again⟩ := remain 4 after ran
  have creates : ∀ a ∈ further, ∃ path directory existOk, a = .create path directory existOk := by
    simp [further]
  obtain ⟨log, rerun⟩ := again further creates
  refine ⟨undeclared, planned, made, there, ?_, ?_, ?_, ?_, ?_⟩
  · exact grown.get? [['b'], ['f']] _ (by decide)
  · decide +kernel
  · decide +kernel
  · rw [rerun]
    rfl
  · rw [rerun]

end Script

end WatchTrial
