import Mathlib.Control.Monad.Basic
import WatchTrial.Proofs.Perform
import WatchTrial.Proofs.Perform.Keeping
import WatchTrial.Proofs.Tree.Effect
import WatchTrial.Proofs.Tree.Rooted

set_option autoImplicit false

namespace WatchTrial.Action

/-- An action on paths that is no declaration comes to what it does to the tree, and to a fault if one
of them holds a NUL. -/
theorem run_perform {a : Action} (some : a.paths ≠ []) (asks : a.isWatch = false) (w : World) :
    ∃ log, a.perform.run w =
      if a.paths.any Path.hasNul then (.error (.broken .nulCharacter), { w with log })
      else ((a.onTree w.tree).result.mapError a.refused,
        { w with log, tree := (a.onTree w.tree).tree }) := by
  refine ⟨w.log ++ [⟨.debug, .actions, "Executing " ++ a.text⟩], ?_⟩
  unfold perform
  rw [if_neg (by simp [asks]), Act.run_bind_of_ok _ (Act.run_note _ _ _ w)]
  unfold effect
  split
  · exact absurd rfl some
  · exact absurd rfl some
  · split
    · rfl
    · rw [Act.run_onTree]

theorem run_perform_of_ok {a : Action} {w : World} (some : a.paths ≠ []) (asks : a.isWatch = false)
    (clean : a.paths.any Path.hasNul = false) (succeeded : (a.onTree w.tree).result = .ok ()) :
    ∃ log, a.perform.run w = (.ok (), { w with log, tree := (a.onTree w.tree).tree }) := by
  obtain ⟨log, ran⟩ := run_perform some asks w
  rw [clean, if_neg Bool.false_ne_true, succeeded, mapError_ok] at ran
  exact ⟨log, ran⟩

theorem clean_of_perform {a : Action} {w after : World} (ran : a.perform.run w = (.ok (), after))
    (some : a.paths ≠ []) (asks : a.isWatch = false) : a.paths.any Path.hasNul = false := by
  obtain ⟨log, same⟩ := run_perform some asks w
  rw [ran] at same
  split at same
  · cases same
  · rename_i clean
    exact Bool.eq_false_iff.2 clean

theorem onTree_of_perform {a : Action} {w after : World} (ran : a.perform.run w = (.ok (), after))
    (some : a.paths ≠ []) (asks : a.isWatch = false) :
    (a.onTree w.tree).result = .ok () ∧ after.tree = (a.onTree w.tree).tree := by
  obtain ⟨log, same⟩ := run_perform some asks w
  rw [ran] at same
  split at same
  · cases same
  · rw [Prod.mk.injEq] at same
    exact ⟨mapError_eq_ok_iff.1 same.1.symm, congrArg World.tree same.2⟩

/-- Actions performed in turn, and the watcher meanwhile if it does so too, leave everything in a
directory, wherever they stop. -/
theorem rooted_performAll (actions : List Action) {w : World} (start : w.Keeps Tree.Rooted) :
    World.Keeps Tree.Rooted ((performAll actions).run w).2 := by
  apply keeps_tree_performAll
  apply keeps_tree_performEach start
  intro before a after mid split _ t rooted
  exact rooted.onTree a

section

variable {w after : World} {p : Path} (down : p.Descends)

include down

/-- What a creation has come to on the tree. -/
theorem tree_of_create {directory existOk : Bool}
    (ran : (Action.create p directory existOk).perform.run w = (.ok (), after)) :
    w.tree.get? (w.tree.place p) = none ∧ w.tree.place p ≠ [] ∧
        after.tree = w.tree.set (w.tree.place p) (if directory then .directory else .file [] false) ∨
      w.tree.get? (w.tree.place p) ≠ none ∧ after.tree = w.tree ∧
        (directory = false ∨
          existOk = true ∧ w.tree.get? (w.tree.place p) = some .directory) := by
  have ⟨succeeded, same⟩ := onTree_of_perform ran (List.cons_ne_nil _ _) rfl
  cases directory with
  | true =>
      rcases Tree.ensure_of_ok down succeeded with ⟨absent, inner, made⟩ | ⟨there, admitted, kept⟩
      · exact Or.inl ⟨absent, inner, same.trans made⟩
      · exact Or.inr ⟨by simp [there], same.trans kept, Or.inr ⟨admitted, there⟩⟩
  | false =>
      rcases Tree.touch_of_ok down succeeded with ⟨absent, inner, made⟩ | ⟨there, kept⟩
      · exact Or.inl ⟨absent, inner, same.trans made⟩
      · exact Or.inr ⟨there, same.trans kept, Or.inl rfl⟩

theorem created_of_absent {directory existOk : Bool} (rooted : w.tree.Rooted)
    (ran : (Action.create p directory existOk).perform.run w = (.ok (), after))
    (absent : w.tree.get? (w.tree.place p) = none) :
    after.tree.get? (w.tree.place p) = some (if directory then .directory else .file [] false) ∧
      after.tree.Bare (w.tree.place p) ∧
      ∀ other, other ≠ w.tree.place p → after.tree.get? other = w.tree.get? other := by
  rcases tree_of_create down ran with ⟨-, inner, made⟩ | ⟨there, -⟩
  · rw [made]
    have others (other : Location) (different : other ≠ w.tree.place p) :=
      Tree.get?_set_other w.tree inner (if directory then .directory else .file [] false) different
    have none : w.tree.Bare (w.tree.place p) := rooted.bare_of_ne_directory (by simp [absent])
    refine ⟨Tree.get?_set_self w.tree inner _, fun rest some => ?_, others⟩
    rw [others _ (by simp [some])]
    exact none rest some
  · exact absurd absent there

theorem created_of_present {directory existOk : Bool}
    (ran : (Action.create p directory existOk).perform.run w = (.ok (), after))
    (present : w.tree.get? (w.tree.place p) ≠ none) :
    after.tree = w.tree ∧
      (directory = false ∨ existOk = true ∧ w.tree.get? (w.tree.place p) = some .directory) := by
  rcases tree_of_create down ran with ⟨absent, -⟩ | ⟨-, kept⟩
  · exact absurd absent present
  · exact kept

theorem written_of_ok {content : String}
    (ran : (Action.write p content).perform.run w = (.ok (), after)) :
    w.tree.get? (w.tree.place p) ≠ some .directory ∧
      (∃ executable, after.tree.get? (w.tree.place p) =
        some (.file (Text.Utf8.encode content.toList) executable)) ∧
      ∀ other, other ≠ w.tree.place p → after.tree.get? other = w.tree.get? other := by
  have ⟨succeeded, same⟩ := onTree_of_perform ran (List.cons_ne_nil _ _) rfl
  obtain ⟨free, inner, executable, written⟩ := Tree.writeFile_of_ok down succeeded
  rw [same.trans written]
  exact ⟨free, ⟨executable, Tree.get?_set_self w.tree inner _⟩,
    fun other different => Tree.get?_set_other w.tree inner _ different⟩

theorem deleted_of_ok (ran : (Action.delete p).perform.run w = (.ok (), after)) :
    (∀ rest, after.tree.get? (w.tree.place p ++ rest) = none) ∧
      ∀ other, ¬w.tree.place p <+: other → after.tree.get? other = w.tree.get? other := by
  have ⟨succeeded, same⟩ := onTree_of_perform ran (List.cons_ne_nil _ _) rfl
  obtain ⟨inner, -, removed⟩ := Tree.removeAll_of_ok down succeeded
  rw [same.trans removed]
  exact ⟨Tree.get?_erase_below w.tree inner, fun other outside =>
    Tree.get?_erase_outside w.tree outside⟩

end

/-- Nothing of a watcher goes on during a pause. -/
def Still (w : World) : Prop :=
  w.child.all Child.isSettled = true ∨ w.timed = false ∧ w.isWatching = false

theorem tree_nap_of_still {w : World} (still : Still w) (n : Nap) : (w.nap n).tree = w.tree := by
  have waited : (if w.timed then w.lapse n.time else w.afterWatcher).tree = w.tree := by
    rcases still with settled | ⟨untimed, ended⟩
    · split
      · have lapsed : (w.advance (fun _ => false) (some (w.clock + n.time))).tree = w.tree :=
          congrArg World.tree (World.advance_of_settled _ _ settled)
        exact lapsed
      · exact congrArg World.tree (World.advance_of_settled _ _ settled)
    · rw [untimed, if_neg Bool.false_ne_true, World.afterWatcher_of_ended ended]
  exact waited

/-- A pause leaves to the watcher what becomes of the tree. -/
theorem waited_of_ok {w after : World} {seconds : Nat}
    (ran : (Action.wait seconds).perform.run w = (.ok (), after)) :
    after.tree = (w.nap (.wait seconds)).tree ∧ (Still w → after.tree = w.tree) := by
  have noted (log : List Record) :
      (World.nap { w with log } (.wait seconds)).tree = (w.nap (.wait seconds)).tree := by
    obtain ⟨tree, clock, timed, naps, earlier, launches, built, child, reading, writtenOff⟩ := w
    cases timed <;> cases child <;> rfl
  have asks : ¬(Action.wait seconds).isWatch = true := Bool.false_ne_true
  have ends : after.tree = (w.nap (.wait seconds)).tree := by
    rw [perform, if_neg asks, Act.run_bind_of_ok _ (Act.run_note _ _ _ w), effect] at ran
    rcases Act.run_nap_cases (.wait seconds) (Action.wait seconds).refused
      { w with log := w.log ++ [_] } with
      ⟨f, -, broken⟩ | ⟨-, ⟨-, refused⟩ | ⟨-, made⟩⟩
    · cases broken.symm.trans ran
    · cases refused.symm.trans ran
    · cases made.symm.trans ran
      exact noted _
  exact ⟨ends, fun still => ends.trans (tree_nap_of_still still _)⟩

/-- What an action that succeeds has done, if its path never goes up. A creation at an absent place
leaves an empty directory or an empty file there; at one where something is it changes nothing, and
then asked for a file, or admitted the directory that is there. A writing leaves a file with the
octets of the text where no directory was, a removal nothing at its place or below. Nothing else is
changed by any of them, and nothing at all by a pause during which nothing of a watcher goes on. -/
theorem effect_of_success (w : World) (rooted : w.tree.Rooted) :
    (∀ (p : Path) (directory existOk : Bool) (after : World), p.Descends →
      (Action.create p directory existOk).perform.run w = (.ok (), after) →
        (w.tree.get? (w.tree.place p) = none →
          after.tree.get? (w.tree.place p) =
              some (if directory then .directory else .file [] false) ∧
            after.tree.Bare (w.tree.place p) ∧
            ∀ other, other ≠ w.tree.place p → after.tree.get? other = w.tree.get? other) ∧
        (w.tree.get? (w.tree.place p) ≠ none →
          after.tree = w.tree ∧ (directory = false ∨
            existOk = true ∧ w.tree.get? (w.tree.place p) = some .directory))) ∧
      (∀ (p : Path) (content : String) (after : World), p.Descends →
        (Action.write p content).perform.run w = (.ok (), after) →
          w.tree.get? (w.tree.place p) ≠ some .directory ∧
            (∃ executable, after.tree.get? (w.tree.place p) =
              some (.file (Text.Utf8.encode content.toList) executable)) ∧
            ∀ other, other ≠ w.tree.place p → after.tree.get? other = w.tree.get? other) ∧
      (∀ (p : Path) (after : World), p.Descends →
        (Action.delete p).perform.run w = (.ok (), after) →
          (∀ rest, after.tree.get? (w.tree.place p ++ rest) = none) ∧
            ∀ other, ¬w.tree.place p <+: other → after.tree.get? other = w.tree.get? other) ∧
      ∀ (seconds : Nat) (after : World),
        (Action.wait seconds).perform.run w = (.ok (), after) →
          after.tree = (w.nap (.wait seconds)).tree ∧ (Still w → after.tree = w.tree) := by
  refine ⟨?_, ?_, ?_, ?_⟩
  · intro p directory existOk after down ran
    exact ⟨created_of_absent down rooted ran, created_of_present down ran⟩
  · intro p content after down ran
    exact written_of_ok down ran
  · intro p after down ran
    exact deleted_of_ok down ran
  · intro seconds after ran
    exact waited_of_ok ran

/-- A directory that holds an executable file and another directory: made again, made anew inside,
written into, removed, and waited for. -/
theorem effect_of_success_in_directory :
    let w : World :=
      { tree := { entries := [([['d']], .directory), ([['d'], ['f']], .file [0x79] true),
          ([['d'], ['g']], .directory), ([['g']], .file [] false)] }
        timed := true }
    let left (a : Action) : Tree := (a.perform.run w).2.tree
    let d := Path.ofString "d"
    w.tree.Rooted ∧
      left (.create d true true) = w.tree ∧ left (.create d false false) = w.tree ∧
      (left (.create (Path.ofString "d/n") true false)).get? [['d'], ['n']] = some .directory ∧
      (left (.create (Path.ofString "d/n") true false)).Bare [['d'], ['n']] ∧
      (∃ executable, (left (.write (Path.ofString "d/f") "x")).get? [['d'], ['f']] =
        some (.file [0x78] executable)) ∧
      (∀ rest, (left (.delete d)).get? ([['d']] ++ rest) = none) ∧
      (left (.delete d)).get? [['g']] = some (.file [] false) ∧
      left (.wait 1) = w.tree := by
  intro w left d
  have rooted : w.tree.Rooted := Tree.rooted_of_entries (by decide)
  obtain ⟨creates, writes, deletes, waits⟩ := effect_of_success w rooted
  have ran (a : Action) (succeeded : (a.perform.run w).1 = .ok ()) :
      a.perform.run w = (.ok (), (a.perform.run w).2) := Act.run_of_result succeeded
  have again := creates d true true _ (by decide) (ran _ rfl)
  have touched := creates d false false _ (by decide) (ran _ rfl)
  have inside := creates (Path.ofString "d/n") true false _ (by decide) (ran _ rfl)
  have written := writes (Path.ofString "d/f") "x" _ (by decide) (ran _ rfl)
  have removed := deletes d _ (by decide) (ran _ rfl)
  have paused := waits 1 _ (ran _ (by decide +kernel))
  refine ⟨rooted, (again.2 (by decide)).1, (touched.2 (by decide)).1, (inside.1 (by decide)).1,
    (inside.1 (by decide)).2.1, written.2.1, removed.1, ?_, paused.2 (Or.inl rfl)⟩
  rw [removed.2 [['g']] (by decide)]
  rfl

end WatchTrial.Action
