import WatchTrial.Proofs.Path
import WatchTrial.Proofs.Perform.Keeping
import WatchTrial.Proofs.Script.Sentence
import WatchTrial.Proofs.Tree.Outside

set_option autoImplicit false

namespace WatchTrial

/-- From the base the path is relative, and never goes up. -/
inductive Path.Covers (base : Path) : Path → Prop where
  | intro (p : Path) (relative : p.isAbsolute = false) (down : p.Descends) : Covers base (base / p)

namespace Path.Covers

variable {base p : Path}

theorem descends (covered : base.Covers p) (down : base.Descends) : p.Descends := by
  obtain ⟨p, relative, within⟩ := covered
  rw [isAbsolute_eq_false_iff] at relative
  unfold Descends
  rw [(names_join_relative base p relative).1, List.mem_append, not_or]
  exact ⟨down, within⟩

theorem place (covered : base.Covers p) (t : Tree) : t.place base <+: t.place p := by
  obtain ⟨p, relative, -⟩ := covered
  rw [isAbsolute_eq_false_iff] at relative
  unfold Tree.place Tree.start
  rw [isAbsolute_join relative, (names_join_relative base p relative).1, ← List.append_assoc]
  exact List.prefix_append _ p.names

end Path.Covers

namespace Tree

variable {base : Path} {t before : Tree} {a : Action}

/-- An action on paths that a base directory covers changes nothing elsewhere. -/
theorem AlikeOutside.onTree (alike : AlikeOutside (before.place base) before t)
    (down : base.Descends) (inside : ∀ p ∈ a.paths, base.Covers p) :
    AlikeOutside (before.place base) before (a.onTree t).tree := by
  apply alike.trans
  rw [← alike.place base]
  apply alikeOutside_onTree
  · intro p member
    exact (inside p member).descends down
  · intro p member
    exact (inside p member).place t

end Tree

namespace Script

/-- No line names a path that is absolute or that goes up. -/
def NamesInside (lines : List String) : Prop :=
  ∀ raw ∈ lines, ∀ s : Sentence, s.line = chomp raw → ∀ path ∈ s.paths,
    (Path.ofString path.text).isAbsolute = false ∧ (Path.ofString path.text).Descends

variable {base : Path} {lines : List String} {actions : List Action} {ready : Plan}

theorem namesInside_of_tokens
    (free : ∀ raw ∈ lines, ∀ token ∈ (tokens (chomp raw)).tail,
      (Path.ofString token).isAbsolute = false ∧ (Path.ofString token).Descends) :
    NamesInside lines := by
  intro raw member s written path named
  apply free raw member
  rw [← written, s.tokens_line]
  exact s.paths_subset_words (List.mem_map.2 ⟨path, named, rfl⟩)

theorem covers_of_asks {raw : String} {a : Action} (inside : NamesInside lines)
    (member : raw ∈ lines) (asks : Asks base raw a) : ∀ p ∈ a.paths, base.Covers p := by
  obtain ⟨s, written, rfl⟩ := exists_sentence asks.2
  intro p named
  rw [s.paths_action, List.mem_map] at named
  obtain ⟨path, there, rfl⟩ := named
  obtain ⟨relative, down⟩ := inside raw member s written path there
  exact .intro _ relative down

theorem covers_of_plan (whole : read base lines = .ok actions) (planned : plan actions = .ok ready)
    (inside : NamesInside lines) : ∀ a ∈ ready.actions, ∀ p ∈ a.paths, base.Covers p := by
  intro a member
  obtain ⟨b, asked, same⟩ : ∃ b ∈ actions, a.paths = b.paths := by
    rcases (plan_eq_ok planned).2 a member with ⟨root, declared, rfl⟩ | ⟨asked, -⟩
    · exact ⟨.watch root, declared, rfl⟩
    · exact ⟨a, asked, rfl⟩
  obtain ⟨raw, there, asks⟩ := exists_asks_of_mem whole asked
  rw [same]
  exact covers_of_asks inside there asks

/-- If no path of a script goes up or is absolute, and neither does the base directory go up, then
what is not the base directory or below is after the performance of its plan as it was before, if
the watcher, where one is at work, does nothing to it either. The performance may end anywhere. -/
theorem alikeOutside_performAll (base : Path) (lines : List String) (actions : List Action)
    (ready : Plan) (w : World) (down : base.Descends) (inside : NamesInside lines)
    (whole : read base lines = .ok actions) (planned : plan actions = .ok ready)
    (watched : ∀ c, w.child = some c → c.Keeps (Tree.AlikeOutside (w.tree.place base) w.tree)) :
    Tree.AlikeOutside (w.tree.place base) w.tree
      ((Action.performAll ready.actions).run w).2.tree := by
  have covered := covers_of_plan whole planned inside
  have start : w.Keeps (Tree.AlikeOutside (w.tree.place base) w.tree) :=
    ⟨.refl _ w.tree, watched⟩
  apply World.Keeps.tree
  apply Action.keeps_tree_performAll
  apply Action.keeps_tree_performEach start
  intro before a after mid split _ t alike
  have member : a ∈ ready.actions := by
    rw [split]
    exact List.mem_append_right before List.mem_cons_self
  exact alike.onTree down (covered a member)

/-- A base directory that its own script removes, before an action that is refused: a file beside it
that is named like one in it stays. -/
theorem alikeOutside_performAll_of_removal :
    let base := Path.ofString "work/b"
    let lines := ["WatchDir d\n", "Create File d/f\n", "Write d/f \x22x\x22\n", "Move d/f g\n",
      "Delete .\n", "Delete g\n"]
    let w : World :=
      { tree := { entries := [(["work".toList], .directory),
          (["work".toList, "b".toList], .directory),
          (["work".toList, "g".toList], .file [0x79] false)] } }
    ∃ actions ready, read base lines = .ok actions ∧ plan actions = .ok ready ∧
      ((Action.performAll ready.actions).run w).1 = .error (.failed
        (.action (.delete (Path.ofString "work/b/g")) ⟨.noEntry, "work/b/g", none⟩)) ∧
      ((Action.performAll ready.actions).run w).2.tree.get? ["work".toList, "b".toList] = none ∧
      ((Action.performAll ready.actions).run w).2.tree.get? ["work".toList, "g".toList] =
        some (.file [0x79] false) := by
  intro base lines w
  have asked : read base lines = .ok
      [.watch (Path.ofString "work/b/d"), .create (Path.ofString "work/b/d/f") false false,
        .write (Path.ofString "work/b/d/f") "x",
        .move (Path.ofString "work/b/d/f") (Path.ofString "work/b/g"),
        .delete (Path.ofString "work/b"), .delete (Path.ofString "work/b/g")] := by
    decide +kernel
  have inside : NamesInside lines := namesInside_of_tokens (by decide +kernel)
  refine ⟨_, _, asked, rfl, by decide +kernel, by decide +kernel, ?_⟩
  have alike := alikeOutside_performAll base lines _ _ w (by decide +kernel) inside asked rfl
    (fun c started => by cases started)
  exact alike.get? _ (by decide +kernel)

end Script

end WatchTrial
