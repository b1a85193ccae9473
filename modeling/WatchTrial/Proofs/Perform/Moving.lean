import WatchTrial.Proofs.Perform.Effect
import WatchTrial.Proofs.Tree.Moving

set_option autoImplicit false

namespace WatchTrial

/-- A path that can stand for an entry of a directory: it has a name, never goes up, holds no NUL, and
nothing of it is too long. -/
structure Path.Plain (p : Path) : Prop where
  named : p.names ≠ []
  down : p.Descends
  clean : p.hasNul = false
  fits : p.Fits

namespace Action

section

variable {w : World} {source target : Path} (rooted : w.tree.Rooted) (sourcePlain : source.Plain)
  (targetPlain : target.Plain)

include rooted sourcePlain targetPlain

/-- A move that is admitted replaces the one place by the other, and one that is not is refused. -/
theorem run_move :
    (w.tree.Movable (w.tree.place source) (w.tree.place target) ∧
        ∃ log, (Action.move source target).perform.run w = (.ok (), { w with
          log
          tree := if w.tree.place source = w.tree.place target then w.tree
            else w.tree.replaced (w.tree.place source) (w.tree.place target) })) ∨
      ¬w.tree.Movable (w.tree.place source) (w.tree.place target) ∧
        ∃ refusal log, (Action.move source target).perform.run w = (.error (.failed
          (.action (.move source target) ((Action.move source target).systemError refusal))),
            { w with log }) := by
  obtain ⟨log, ran⟩ := @run_perform (.move source target) (List.cons_ne_nil _ _) rfl w
  have clean : (Action.move source target).paths.any Path.hasNul = false := by
    simp [paths, sourcePlain.clean, targetPlain.clean]
  rw [clean, if_neg Bool.false_ne_true] at ran
  rcases w.tree.movable_of_move sourcePlain.down targetPlain.down with
    ⟨refusal, refused⟩ | ⟨movable, moved⟩
  · right
    refine ⟨fun movable => ?_, refusal, log, ?_⟩
    · have succeeded := Tree.move_of_movable rooted sourcePlain.down targetPlain.down
        sourcePlain.fits targetPlain.fits sourcePlain.named targetPlain.named movable
      rw [refused] at succeeded
      cases succeeded
    · rw [ran, onTree, refused]
      rfl
  · left
    refine ⟨movable, log, ?_⟩
    rw [ran, onTree, moved]
    rfl

end

/-- A move succeeds just when something is at the old place, the new place is in a directory, neither
is inside the other, and nothing is at the new place, or the same, or both are files, or a directory
moves to an empty one. Then what was at the old place and below it is at the new one and below it,
nothing is left at the old one, and all outside the two is as it was. Else the move fails, with the
reason that the operating system gives, and the tree is as it was. -/
theorem move_relocates (w : World) (source target : Path) (rooted : w.tree.Rooted)
    (sourcePlain : source.Plain) (targetPlain : target.Plain) :
    let move := Action.move source target
    let old := w.tree.place source
    let new := w.tree.place target
    let final := move.perform.run w
    (final.1 = .ok () ↔ w.tree.Movable old new) ∧
      (final.1 = .ok () → old ≠ new →
        (∀ rest, final.2.tree.get? (new ++ rest) = w.tree.get? (old ++ rest)) ∧
          (∀ rest, final.2.tree.get? (old ++ rest) = none) ∧
          ∀ other, ¬old <+: other → ¬new <+: other →
            final.2.tree.get? other = w.tree.get? other) ∧
      (final.1 = .ok () → old = new → final.2.tree = w.tree) ∧
      (final.1 ≠ .ok () →
        (∃ refusal, final.1 = .error (.failed (.action move (move.systemError refusal)))) ∧
          final.2.tree = w.tree) := by
  intro move old new final
  rcases run_move rooted sourcePlain targetPlain with
    ⟨movable, log, ran⟩ | ⟨stuck, refusal, log, ran⟩
  · have succeeded : final.1 = .ok () := congrArg Prod.fst ran
    have left : final.2.tree = if old = new then w.tree else w.tree.replaced old new :=
      congrArg (fun ended => ended.2.tree) ran
    refine ⟨iff_of_true succeeded movable, fun _ different => ?_, fun _ same => ?_,
      fun failed => absurd succeeded failed⟩
    · rw [left, if_neg different]
      exact movable.relocates different
    · rw [left, if_pos same]
  · have failed : final.1 = .error (.failed (.action move (move.systemError refusal))) :=
      congrArg Prod.fst ran
    have left : final.2.tree = w.tree := congrArg (fun ended => ended.2.tree) ran
    have stopped : final.1 ≠ .ok () := by
      rw [failed]
      intro same
      cases same
    exact ⟨iff_of_false stopped stuck, fun succeeded => absurd succeeded stopped,
      fun succeeded => absurd succeeded stopped, fun _ => ⟨⟨refusal, failed⟩, left⟩⟩

/-- A directory that holds a file moves to an empty directory; not onto one with something in it, and
not into itself. -/
theorem move_relocates_onto_empty_directory :
    let w : World :=
      { tree := { entries := [([['d']], .directory), ([['d'], ['f']], .file [0x79] false),
          ([['e']], .directory), ([['g']], .directory), ([['g'], ['k']], .directory)] } }
    let final (target : String) :=
      (Action.move (Path.ofString "d") (Path.ofString target)).perform.run w
    w.tree.Rooted ∧
      (final "e").1 = .ok () ∧ w.tree.Movable [['d']] [['e']] ∧
      (final "e").2.tree.get? [['e'], ['f']] = some (.file [0x79] false) ∧
      (final "e").2.tree.get? [['d'], ['f']] = none ∧
      (final "e").2.tree.get? [['g'], ['k']] = some .directory ∧
      ¬w.tree.Movable [['d']] [['g']] ∧ (final "g").2.tree = w.tree ∧
      ¬w.tree.Movable [['d']] [['d'], ['n']] ∧ (final "d/n").2.tree = w.tree := by
  intro w final
  have rooted : w.tree.Rooted := Tree.rooted_of_entries (by decide)
  have d : (Path.ofString "d").Plain := ⟨by decide, by decide, by decide, ⟨by decide, by decide⟩⟩
  have e : (Path.ofString "e").Plain := ⟨by decide, by decide, by decide, ⟨by decide, by decide⟩⟩
  have g : (Path.ofString "g").Plain := ⟨by decide, by decide, by decide, ⟨by decide, by decide⟩⟩
  have n : (Path.ofString "d/n").Plain := ⟨by decide, by decide, by decide, ⟨by decide, by decide⟩⟩
  obtain ⟨admitted, relocates, -, -⟩ := move_relocates w _ _ rooted d e
  obtain ⟨onto, -, -, keepsOnto⟩ := move_relocates w _ _ rooted d g
  obtain ⟨inside, -, -, keepsInside⟩ := move_relocates w _ _ rooted d n
  have succeeded : (final "e").1 = .ok () := rfl
  have stuck : (final "g").1 ≠ .ok () := by
    intro same
    cases same
  have nested : (final "d/n").1 ≠ .ok () := by
    intro same
    cases same
  obtain ⟨carried, left, others⟩ := relocates succeeded (by decide)
  refine ⟨rooted, succeeded, admitted.1 succeeded, ?_, left [['f']], ?_,
    fun movable => stuck (onto.2 movable), (keepsOnto stuck).2,
    fun movable => nested (inside.2 movable), (keepsInside nested).2⟩
  · exact (carried [['f']]).trans rfl
  · exact (others [['g'], ['k']] (by decide) (by decide)).trans rfl

end Action

end WatchTrial
