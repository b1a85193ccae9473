import WatchTrial.Proofs.Path.Components
import WatchTrial.Proofs.Script.Numbering
import WatchTrial.Proofs.Script.Sentence

set_option autoImplicit false

namespace WatchTrial.Script

variable {base : Path} {lines : List String} {actions : List Action}

theorem action_mem_of_line_mem (whole : read base lines = .ok actions) {s : Sentence}
    (written : s.line ∈ counted lines) : s.action base ∈ actions := by
  have asked := List.mem_map_of_mem (f := readLine base) written
  rw [readFrom_eq_ok_iff.1 whole, readLine_line] at asked
  obtain ⟨a, there, same⟩ := List.mem_map.1 asked
  cases same
  exact there

theorem exists_line_mem_of_mem (whole : read base lines = .ok actions) {a : Action}
    (member : a ∈ actions) : ∃ s : Sentence, s.line ∈ counted lines ∧ s.action base = a := by
  obtain ⟨raw, there, counts, asks⟩ := exists_asks_of_mem whole member
  obtain ⟨s, written, asked⟩ := exists_sentence asks
  refine ⟨s, ?_, asked⟩
  rw [written]
  exact List.mem_filter.2 ⟨List.mem_map_of_mem there, counts⟩

/-- All paths of a script have the components of the base directory in front just when each of them
is named by a relative path, or by an absolute one that has them in front by itself. Taking them
away gives back the path that has been named if it is relative, and else only if there are none. -/
theorem components_of_script_paths_iff (base : Path) (lines : List String) (actions : List Action)
    (whole : read base lines = .ok actions) :
    ((∀ a ∈ actions, ∀ p ∈ a.paths, base.components <+: p.components) ↔
        ∀ s : Sentence, s.line ∈ counted lines → ∀ word ∈ s.paths,
          (Path.ofString word.text).isAbsolute = false ∨
            base.components <+: (Path.ofString word.text).components) ∧
      ∀ s : Sentence, s.line ∈ counted lines → s.action base ∈ actions ∧ ∀ word ∈ s.paths,
        base / Path.ofString word.text ∈ (s.action base).paths ∧
          ((base / Path.ofString word.text).dropComponents base.depth = Path.ofString word.text ↔
            (Path.ofString word.text).isAbsolute = false ∨ base.depth = 0) := by
  have seen (s : Sentence) {word : Word} (named : word ∈ s.paths) :
      base / Path.ofString word.text ∈ (s.action base).paths := by
    rw [s.paths_action]
    exact List.mem_map_of_mem named
  refine ⟨⟨?_, ?_⟩, ?_⟩
  · intro below s written word named
    have front := below _ (action_mem_of_line_mem whole written) _ (seen s named)
    exact Path.components_isPrefix_join_iff.1 front
  · intro named a member p there
    obtain ⟨s, written, rfl⟩ := exists_line_mem_of_mem whole member
    rw [s.paths_action, List.mem_map] at there
    obtain ⟨word, inside, rfl⟩ := there
    exact Path.components_isPrefix_join_iff.2 (named s written word inside)
  · intro s written
    exact ⟨action_mem_of_line_mem whole written, fun word named =>
      ⟨seen s named, Path.dropComponents_join_iff⟩⟩

/-- A move from a path that is named relative to one that is named with the base directory in front:
both are below it, and the second loses more than it should. -/
theorem components_of_script_paths_of_move :
    let base := Path.ofString "/srv/b"
    let lines := ["WatchDir d\r\n", "# c\n", "Move ./d//a /srv/b/e\n"]
    let source := Path.ofString "./d//a"
    let target := Path.ofString "/srv/b/e"
    read base lines =
        .ok [.watch (base / Path.ofString "d"), .move (base / source) (base / target)] ∧
      (∀ s : Sentence, s.line ∈ counted lines → ∀ word ∈ s.paths,
        (Path.ofString word.text).isAbsolute = false ∨
          base.components <+: (Path.ofString word.text).components) ∧
      (base / source).dropComponents base.depth = source ∧
      (base / target).dropComponents base.depth ≠ target := by
  intro base lines source target
  have whole : read base lines =
      .ok [.watch (base / Path.ofString "d"), .move (base / source) (base / target)] := by
    decide +kernel
  obtain ⟨below, named⟩ := components_of_script_paths_iff base lines _ whole
  let move : Sentence := .move ⟨"./d//a", by decide⟩ ⟨"/srv/b/e", by decide⟩
  obtain ⟨-, words⟩ := named move (by decide +kernel)
  have relative := (words ⟨"./d//a", by decide⟩ List.mem_cons_self).2
  have rooted := (words ⟨"/srv/b/e", by decide⟩ (List.mem_cons_of_mem _ List.mem_cons_self)).2
  exact ⟨whole, below.1 (by decide +kernel), relative.2 (by decide +kernel),
    fun same => absurd (rooted.1 same) (by decide +kernel)⟩

/-- An absolute path leads away from the base directory. -/
theorem script_path_beside_base :
    let base := Path.ofString "base"
    ∃ actions, read base ["Delete /etc/x"] = .ok actions ∧
      ¬∀ a ∈ actions, ∀ p ∈ a.paths, base.components <+: p.components :=
  ⟨[.delete (Path.ofString "/etc/x")], by decide +kernel, by decide +kernel⟩

end WatchTrial.Script
