import Mathlib.Control.Monad.Basic
import WatchTrial.Proofs.Perform.Effect
import WatchTrial.Proofs.Perform.Sequence
import WatchTrial.Proofs.Tree.Restoring

set_option autoImplicit false

namespace WatchTrial.Action

/-- What a scenario does with what it has created: in a directory, anything on paths strictly below
it, and with a file, texts for it. -/
inductive WorksIn (t : Tree) (p : Path) : Bool → Action → Prop where
  | below {a : Action} (some : a.paths ≠ [])
      (inside : ∀ q ∈ a.paths,
        q.Descends ∧ t.place p <+: t.place q ∧ t.place q ≠ t.place p) : WorksIn t p true a
  | text {q : Path} (down : q.Descends) (same : t.place q = t.place p) (content : String) :
      WorksIn t p false (.write q content)

section

variable {t mid : Tree} {p : Path} {directory : Bool} {a : Action}

theorem WorksIn.ne_wait (works : WorksIn t p directory a) (seconds : Nat) : a ≠ .wait seconds := by
  rintro rfl
  cases works with
  | below some inside => exact some rfl

theorem WorksIn.built (works : WorksIn t p directory a)
    (built : Tree.Built (t.place p) t mid) : Tree.Built (t.place p) t (a.onTree mid).tree := by
  cases works with
  | below some inside =>
      apply built.edits
      apply Tree.edits_onTree fun q member => (inside q member).1
      intro q member
      rw [built.place]
      exact (inside q member).2
  | text down same content =>
      rw [← same] at built ⊢
      exact built.writeFile down _

theorem located_of_create {existOk : Bool} (down : p.Descends)
    (absent : t.get? (t.place p) = none)
    (succeeded : ((Action.create p directory existOk).onTree t).result = .ok ()) :
    ∃ above name, t.locate p = .ok (.child above name) ∧ t.lookup above name = .ok none := by
  cases directory with
  | true => exact Tree.located_of_ensure down absent succeeded
  | false => exact Tree.located_of_touch down absent succeeded

end

section

variable {w later : World} (rooted : w.tree.Rooted)

include rooted

theorem delete_of_created {p : Path} {directory existOk : Bool} {steps : List Action} {count : Nat}
    (down : p.Descends) (absent : w.tree.get? (w.tree.place p) = none)
    (works : ∀ a ∈ steps, WorksIn w.tree p directory a)
    (ran : (performAll (.create p directory existOk :: steps)).run w = (.ok count, later)) :
    ∃ after, (Action.delete p).perform.run later = (.ok (), after) ∧ after.tree = w.tree := by
  obtain ⟨last, log, performs, rfl⟩ := performs_of_performAll ran
  cases performs with
  | @cons _ mid _ _ _ first others =>
      obtain ⟨succeeded, -⟩ := onTree_of_perform first (List.cons_ne_nil _ _) rfl
      obtain ⟨above, name, located, looked⟩ := located_of_create down absent succeeded
      have made : Tree.Built (w.tree.place p) w.tree mid.tree := by
        rcases tree_of_create down first with ⟨-, inner, same⟩ | ⟨there, -⟩
        · rw [same]
          exact Tree.Built.set w.tree inner _
        · exact absurd absent there
      have built : Tree.Built (w.tree.place p) w.tree last.tree := by
        have kept := tree_performEach made (fun a member => (works a member).ne_wait)
          fun a member t held => (works a member).built held
        rwa [others.run] at kept
      have removed := built.removeAll rooted down located looked
      have clean := clean_of_perform first (List.cons_ne_nil _ _) rfl
      obtain ⟨more, deleted⟩ := @run_perform_of_ok (.delete p) { last with log }
        (List.cons_ne_nil _ _) rfl clean (congrArg Tree.Changed.result removed)
      exact ⟨_, deleted, congrArg Tree.Changed.tree removed⟩

theorem move_of_moved {source target : Path} (sourceDown : source.Descends)
    (targetDown : target.Descends) (absent : w.tree.get? (w.tree.place target) = none)
    (ran : (Action.move source target).perform.run w = (.ok (), later)) :
    ∃ after, (Action.move target source).perform.run later = (.ok (), after) ∧
      after.tree = w.tree := by
  obtain ⟨succeeded, left⟩ := onTree_of_perform ran (List.cons_ne_nil _ _) rfl
  have back : (Action.move target source).onTree later.tree = Tree.done w.tree := by
    rw [left]
    exact Tree.move_move rooted sourceDown targetDown absent succeeded
  have clean := clean_of_perform ran (List.cons_ne_nil _ _) rfl
  have swapped : (Action.move target source).paths.any Path.hasNul = false := by
    simp only [paths, List.any_cons, List.any_nil, Bool.or_false, Bool.or_eq_false_iff] at clean ⊢
    exact clean.symm
  obtain ⟨log, moved⟩ := @run_perform_of_ok (.move target source) later
    (List.cons_ne_nil _ _) rfl swapped (congrArg Tree.Changed.result back)
  exact ⟨_, moved, congrArg Tree.Changed.tree back⟩

end

/-- When a file or a directory has been created where nothing was, and then any actions have succeeded
that work strictly below the directory or write texts to the file, its removal succeeds and the tree is
as it was before the creation. And when something has been moved to where nothing was, the move back
succeeds and the tree is as it was before the first. The trees are the same entry for entry, in the
same order. -/
theorem steps_undone (w : World) (rooted : w.tree.Rooted) :
    (∀ p directory existOk steps count later, p.Descends →
        w.tree.get? (w.tree.place p) = none →
        (∀ a ∈ steps, WorksIn w.tree p directory a) →
        (performAll (.create p directory existOk :: steps)).run w = (.ok count, later) →
        ∃ after, (Action.delete p).perform.run later = (.ok (), after) ∧ after.tree = w.tree) ∧
      ∀ source target later, source.Descends → target.Descends →
        w.tree.get? (w.tree.place target) = none →
        (Action.move source target).perform.run w = (.ok (), later) →
        ∃ after, (Action.move target source).perform.run later = (.ok (), after) ∧
          after.tree = w.tree := by
  constructor
  · intro p directory existOk steps count later down absent works ran
    exact delete_of_created rooted down absent works ran
  · intro source target later sourceDown targetDown absent ran
    exact move_of_moved rooted sourceDown targetDown absent ran

/-- In a directory with an executable file: a directory in which a file is written and moved and another
directory comes and goes, a file with two texts, and a move of the whole. -/
theorem steps_undone_in_directory :
    let w : World :=
      { tree := { entries := [([['d']], .directory), ([['d'], ['k']], .file [0x79] true)] } }
    let p := Path.ofString "d/p"
    let steps := [Action.write (Path.ofString "d/p/f") "x",
      .create (Path.ofString "d/p/s") true false,
      .move (Path.ofString "d/p/f") (Path.ofString "d/p/s/f"),
      .create (Path.ofString "d/p/g") false false, .delete (Path.ofString "d/p/s")]
    let texts := [Action.write p "x", .write p "y"]
    let built := (performAll (.create p true false :: steps)).run w
    let written := (performAll (.create p false false :: texts)).run w
    let away := (Action.move (Path.ofString "d") (Path.ofString "e")).perform.run w
    let back := Action.move (Path.ofString "e") (Path.ofString "d")
    (built.1 = .ok 6 ∧ built.2.tree.get? [['d'], ['p'], ['g']] = some (.file [] false) ∧
        ((Action.delete p).perform.run built.2).1 = .ok () ∧
        ((Action.delete p).perform.run built.2).2.tree = w.tree) ∧
      (written.1 = .ok 3 ∧ written.2.tree.get? [['d'], ['p']] = some (.file [0x79] false) ∧
        ((Action.delete p).perform.run written.2).1 = .ok () ∧
        ((Action.delete p).perform.run written.2).2.tree = w.tree) ∧
      away.1 = .ok () ∧ away.2.tree.get? [['e'], ['k']] = some (.file [0x79] true) ∧
        (back.perform.run away.2).1 = .ok () ∧ (back.perform.run away.2).2.tree = w.tree := by
  intro w p steps texts built written away back
  have rooted : w.tree.Rooted := Tree.rooted_of_entries (by decide)
  obtain ⟨removed, moved⟩ := steps_undone w rooted
  have below : ∀ a ∈ steps, WorksIn w.tree p true a := by
    simp only [steps, List.forall_mem_cons]
    exact ⟨.below (by decide) (by decide), .below (by decide) (by decide),
      .below (by decide) (by decide), .below (by decide) (by decide),
      .below (by decide) (by decide), by simp⟩
  have toFile : ∀ a ∈ texts, WorksIn w.tree p false a := by
    simp only [texts, List.forall_mem_cons]
    exact ⟨.text (by decide) rfl "x", .text (by decide) rfl "y", by simp⟩
  have six : built.1 = .ok 6 := by decide +kernel
  have three : written.1 = .ok 3 := by decide +kernel
  have gone : away.1 = .ok () := by decide +kernel
  have ranBuilt : (performAll (.create p true false :: steps)).run w = (.ok 6, built.2) := by
    rw [← six]
  have ranWritten : (performAll (.create p false false :: texts)).run w = (.ok 3, written.2) := by
    rw [← three]
  have ranAway : (Action.move (Path.ofString "d") (Path.ofString "e")).perform.run w =
      (.ok (), away.2) := by
    rw [← gone]
  obtain ⟨_, first, same⟩ := removed p true false steps 6 _ (by decide) (by decide) below ranBuilt
  obtain ⟨_, second, again⟩ :=
    removed p false false texts 3 _ (by decide) (by decide) toFile ranWritten
  obtain ⟨_, third, whole⟩ := moved _ _ _ (by decide) (by decide) (by decide) ranAway
  refine ⟨⟨six, by decide +kernel, ?_, ?_⟩, ⟨three, by decide +kernel, ?_, ?_⟩,
    gone, by decide +kernel, ?_, ?_⟩
  · rw [first]
  · rw [first, same]
  · rw [second]
  · rw [second, again]
  · rw [third]
  · rw [third, whole]

end WatchTrial.Action
