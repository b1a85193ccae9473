import WatchTrial.Proofs.Perform.Effect
import WatchTrial.Proofs.Tree.Above

set_option autoImplicit false

namespace WatchTrial

namespace Tree

variable {t : Tree} {p : Path} {refusal : Refusal}

theorem tree_of_ensure_refused {existOk : Bool}
    (refused : (t.ensure p existOk).result = .error refusal) : (t.ensure p existOk).tree = t := by
  unfold ensure at refused ⊢
  split at refused
  · cases refused
  · split at refused
    · cases refused
    · rename_i other
      rw [if_neg other]
      rfl

theorem tree_of_writeFile_refused {content : Octets}
    (refused : (t.writeFile p content).result = .error refusal) :
    (t.writeFile p content).tree = t := by
  rcases writeFile_cases t p content with ⟨_, same⟩ | ⟨_, _, _, _, -, -, -, written⟩
  · rw [same]
    rfl
  · rw [written] at refused
    cases refused

theorem tree_of_touch_refused (refused : (t.touch p).result = .error refusal) :
    (t.touch p).tree = t := by
  unfold touch at refused ⊢
  split at refused
  · cases refused
  · exact tree_of_writeFile_refused refused

theorem tree_of_removeAll_refused (down : p.Descends) (named : p.names ≠ [])
    (refused : (t.removeAll p).result = .error refusal) : (t.removeAll p).tree = t := by
  rcases removeAll_of_named down named with ⟨_, same⟩ | removed
  · rw [same]
    rfl
  · rw [removed] at refused
    cases refused

theorem tree_of_move_refused {source target : Path}
    (refused : (t.move source target).result = .error refusal) :
    (t.move source target).tree = t := by
  rcases move_cases t source target with ⟨_, same⟩ | ⟨_, _, _, _, _, -, -, -, -, -, -, -, moved⟩
  · rw [same]
    rfl
  · rw [moved] at refused
    cases refused

end Tree

namespace Action

/-- What it removes, if it removes anything, is named by a name of its own. -/
def RemovesByName : Action → Prop
  | .delete path => path.names ≠ [] ∧ path.Descends
  | _ => True

theorem tree_of_refused {a : Action} {t : Tree} {refusal : Refusal} (byName : a.RemovesByName)
    (refused : (a.onTree t).result = .error refusal) : (a.onTree t).tree = t := by
  cases a with
  | create path directory existOk =>
      cases directory with
      | true => exact Tree.tree_of_ensure_refused refused
      | false => exact Tree.tree_of_touch_refused refused
  | delete path =>
      obtain ⟨named, down⟩ := byName
      exact Tree.tree_of_removeAll_refused down named refused
  | write path content => exact Tree.tree_of_writeFile_refused refused
  | move source target => exact Tree.tree_of_move_refused refused
  | wait seconds => rfl
  | watch root => rfl
  | unspecified => rfl

/-- What the operating system says names the paths that it was asked about. -/
theorem names_systemError (a : Action) (refusal : Refusal) :
    (a.systemError refusal).refusal = refusal ∧
      (a.systemError refusal).subject.toList ++ (a.systemError refusal).target.toList =
        a.paths.map Path.text := by
  cases a <;> exact ⟨rfl, rfl⟩

/-- A pause that is refused has changed nothing but the log. -/
theorem run_wait_refused {seconds : Nat} {w : World} {refusal : Refusal}
    (askable : ¬(Action.wait seconds).Unaskable w)
    (refused : (Action.wait seconds).answer w = .error refusal) :
    ∃ log, ((Action.wait seconds).perform.run w).2 = { w with log } := by
  have asks : ¬(Action.wait seconds).isWatch = true := Bool.false_ne_true
  rw [perform, if_neg asks, Act.run_bind_of_ok _ (Act.run_note _ _ _ w), effect]
  rcases Act.run_nap_cases (.wait seconds) (Action.wait seconds).refused
    { w with log := w.log ++ [_] } with
    ⟨f, fault, -⟩ | ⟨-, ⟨-, ran⟩ | ⟨within, -⟩⟩
  · exact absurd (Or.inr ⟨seconds, f, rfl, fault⟩) askable
  · rw [ran]
    exact ⟨_, rfl⟩
  · have made : w.outlasts (.wait seconds) = false := within
    rw [answer, made, if_neg Bool.false_ne_true] at refused
    cases refused

/-- An action that the operating system refuses has changed nothing but the log. -/
theorem run_refused {a : Action} {w : World} {refusal : Refusal} (byName : a.RemovesByName)
    (askable : ¬a.Unaskable w) (refused : a.answer w = .error refusal) :
    ∃ log, (a.perform.run w).2 = { w with log } := by
  by_cases some : a.paths = []
  · cases a with
    | wait seconds => exact run_wait_refused askable refused
    | unspecified => cases refused
    | _ => cases some
  · have asks : a.isWatch = false := by
      cases a with
      | watch root => cases refused
      | _ => rfl
    have clean : ¬a.paths.any Path.hasNul = true := fun nul => askable (Or.inl nul)
    obtain ⟨log, ran⟩ := run_perform some asks w
    rw [answer_of_paths some] at refused
    rw [if_neg clean, tree_of_refused byName refused] at ran
    exact ⟨log, congrArg Prod.snd ran⟩

/-- An action that fails has been refused by the operating system, and the failure holds the action
and what the operating system has said: why, and of which paths. The tree is as it was before, whole,
no pause has been made, and nothing else of the world has changed but the log. This leaves out
only removals of a path that is a root or `.` or that goes up. -/
theorem failure_leaves_tree (a : Action) (w : World) (f : Failure) (byName : a.RemovesByName)
    (failed : (a.perform.run w).1 = .error (.failed f)) :
    (∃ e, f = .action a e ∧ a.answer w = .error e.refusal ∧
        e.subject.toList ++ e.target.toList = a.paths.map Path.text) ∧
      (a.perform.run w).2.tree = w.tree ∧ (a.perform.run w).2.naps = w.naps ∧
      ∃ log, (a.perform.run w).2 = { w with log } := by
  obtain ⟨askable, refusal, refused, told⟩ := result_perform_eq_failed.1 failed
  obtain ⟨log, left⟩ := run_refused byName askable refused
  obtain ⟨same, named⟩ := names_systemError a refusal
  refine ⟨⟨a.systemError refusal, told, ?_, named⟩, ?_, ?_, log, left⟩
  · rw [same]
    exact refused
  · rw [left]
  · rw [left]

/-- A directory with an executable file in it and another file: a move of the one onto the other, a
removal below the file, and a text for the directory. -/
theorem failure_leaves_tree_of_occupied_target :
    let w : World :=
      { tree := { entries := [([['d']], .directory), ([['d'], ['k']], .file [0x79] true),
          ([['f']], .file [0x78] false)] } }
    let left (a : Action) : World := (a.perform.run w).2
    let onto := Action.move (Path.ofString "f") (Path.ofString "d")
    let below := Action.delete (Path.ofString "f/k")
    let text := Action.write (Path.ofString "d") "x"
    ((onto.perform.run w).1 =
        .error (.failed (.action onto ⟨.isDirectory, "f", some "d"⟩)) ∧
      (left onto).tree = w.tree ∧ (left onto).naps = []) ∧
    ((below.perform.run w).1 = .error (.failed (.action below ⟨.notDirectory, "f/k", none⟩)) ∧
      below.RemovesByName ∧ (left below).tree = w.tree) ∧
    ((text.perform.run w).1 = .error (.failed (.action text ⟨.isDirectory, "d", none⟩)) ∧
      (left text).tree = w.tree) := by
  intro w left onto below text
  have stuck : (onto.perform.run w).1 =
      .error (.failed (.action onto ⟨.isDirectory, "f", some "d"⟩)) := rfl
  have absent : (below.perform.run w).1 =
      .error (.failed (.action below ⟨.notDirectory, "f/k", none⟩)) := rfl
  have taken : (text.perform.run w).1 =
      .error (.failed (.action text ⟨.isDirectory, "d", none⟩)) := rfl
  have byName : below.RemovesByName := ⟨by decide, by decide⟩
  have moved := failure_leaves_tree onto w _ trivial stuck
  have removed := failure_leaves_tree below w _ byName absent
  have written := failure_leaves_tree text w _ trivial taken
  exact ⟨⟨stuck, moved.2.1, moved.2.2.1⟩, ⟨absent, byName, removed.2.1⟩, taken, written.2.1⟩

/-- A removal by the name `.` is refused when the directory has been emptied. -/
example :
    let t : Tree := { entries := [([['d']], .directory), ([['f']], .file [0x78] false)] }
    (Action.delete Path.here).onTree t = ⟨.error .invalid, Tree.empty⟩ := rfl

end Action

end WatchTrial
