import WatchTrial.Proofs.Event
import WatchTrial.Proofs.Path.Components
import WatchTrial.Proofs.Script

set_option autoImplicit false

namespace WatchTrial

namespace Path

theorem chars_of_names {p : Path} (relative : p.anchor = .relative) (some : p.names ≠ []) :
    p.chars = Text.join '/' p.names := by
  unfold chars
  split
  · contradiction
  · rw [relative]
    rfl

theorem chars_ne_nil (p : Path) : p.chars ≠ [] := by
  intro none
  have whole := ofChars_chars p
  rw [none] at whole
  rw [← whole] at none
  exact absurd none (by decide)

theorem text_inj {p q : Path} : p.text = q.text ↔ p = q := by
  constructor
  · intro same
    rw [← ofChars_chars p, ← ofChars_chars q, String.ofList_injective same]
  · rintro rfl
    rfl

theorem comma_not_mem_chars {p : Path} (free : ∀ name ∈ p.names, ',' ∉ name) : ',' ∉ p.chars := by
  rw [mem_chars_iff (by decide) (by decide)]
  rintro ⟨name, member, inside⟩
  exact free name member inside

theorem not_mem_names_ofString {c : Char} {text : String} (free : c ∉ text.toList) :
    ∀ name ∈ (ofString text).names, c ∉ name := by
  intro name member inside
  exact free (Text.mem_of_mem_split (List.mem_filter.1 member).1 inside)

theorem not_mem_names_join {c : Char} {base p : Path} (above : ∀ name ∈ base.names, c ∉ name)
    (below : ∀ name ∈ p.names, c ∉ name) : ∀ name ∈ (base / p).names, c ∉ name := by
  intro name member
  by_cases relative : p.anchor = .relative
  · rw [(names_join_relative base p relative).1, List.mem_append] at member
    exact member.elim (above name) (below name)
  · rw [join_absolute base p relative] at member
    exact below name member

end Path

namespace Event

theorem relativeTo_join {base p : Path} (relative : p.anchor = .relative) :
    relativeTo base (base / p) = String.ofList (Text.join '/' p.names) := by
  unfold relativeTo
  rw [Path.depth_join relative, Path.dropComponents_join relative, Path.depth_of_relative relative]
  cases some : p.names with
  | nil => simp [Text.join]
  | cons name rest =>
      have below : ¬base.depth + (name :: rest).length ≤ base.depth := by
        rw [List.length_cons]
        omega
      rw [if_neg below, Path.text, Path.chars_of_names relative (by simp [some]), some]

theorem relativeTo_of_deeper {base full : Path} (deeper : base.depth < full.depth) :
    relativeTo base full = (full.dropComponents base.depth).text :=
  if_neg (Nat.not_le.2 deeper)

/-- A path with components is seen alike from the base and, with a directory before both, from the
base alone, just when the directory adds none. -/
theorem relativeTo_below_iff {base p : Path} (directory : Path)
    (relativeBase : base.anchor = .relative) (relative : p.anchor = .relative)
    (some : p.names ≠ []) :
    relativeTo base (directory / base / p) = relativeTo base (base / p) ↔
      directory.depth = 0 := by
  have components : 0 < p.depth := by
    rw [Path.depth_of_relative relative]
    exact List.length_pos_iff.2 some
  have full : (directory / base / p).depth = directory.depth + base.depth + p.depth := by
    rw [Path.depth_join relative, Path.depth_join relativeBase]
  have short : (base / p).depth = base.depth + p.depth := Path.depth_join relative
  rw [relativeTo_of_deeper (by omega), relativeTo_of_deeper (by omega), Path.text_inj,
    Path.dropComponents_join relative]
  constructor
  · intro same
    -- As many components are left of the long path as it had more than the base.
    have left := Path.depth_dropComponents base.depth (directory / base / p)
    rw [same, full] at left
    omega
  · intro none
    rw [Path.join_of_depth_eq_zero base none, Path.dropComponents_join relative]

theorem ofLine?_text_comma (base : Path) {full : Path} {kind : String} (plain : ',' ∉ full.chars)
    (one : ',' ∉ kind.toList) (some : kind ≠ "") :
    ofLine? base (full.text ++ "," ++ kind) = .some ⟨relativeTo base full, kind⟩ := by
  refine ofLine?_comma_eq_some_iff.2 ⟨?_, one, ?_, some, ?_⟩
  · rw [Path.text, String.toList_ofList]
    exact plain
  · rw [Path.text, ne_eq, ← String.toList_eq_nil_iff, String.toList_ofList]
    exact full.chars_ne_nil
  · rw [Path.ofString_text]

end Event

/-- Each path of a line is an argument of it, seen from the base directory. -/
theorem Script.mem_paths_of_readLine {base : Path} {line : String} {action : Action}
    (read : readLine base line = .ok action) :
    ∀ p ∈ action.paths, ∃ token ∈ tokens line, p = base / Path.ofString token := by
  obtain ⟨command, arguments, pieces, made⟩ := readLine_eq_ok read
  rw [pieces]
  rcases action_eq_ok made with ⟨kind, path, -, rfl, rfl⟩ | ⟨path, -, rfl, rfl⟩ |
    ⟨path, argument, content, -, rfl, -, rfl⟩ | ⟨source, target, -, rfl, rfl⟩ |
    ⟨argument, seconds, -, rfl, -, rfl⟩ | ⟨path, -, rfl, rfl⟩ <;>
  simp [Action.paths]

namespace Event

/-- A path that a script names is reported as what stands in the script, without empty and idle
components, when the watcher echoes it as the script is read; and all paths of a script are read
so. -/
theorem echo_of_script_path (base kind : String) (plainBase : ',' ∉ base.toList)
    (plainKind : ',' ∉ kind.toList) (some : kind ≠ "") :
    (∀ token : String, ',' ∉ token.toList → (Path.ofString token).isAbsolute = false →
        ofLine? (Path.ofString base)
            ((Path.ofString base / Path.ofString token).text ++ "," ++ kind) =
          .some ⟨String.ofList (Text.join '/' (Path.ofString token).names), kind⟩) ∧
      ∀ (line : String) (action : Action),
        Script.readLine (Path.ofString base) line = .ok action → ∀ p ∈ action.paths,
          ∃ token ∈ Script.tokens line, p = Path.ofString base / Path.ofString token := by
  refine ⟨fun token plainToken notAbsolute => ?_, fun line action read =>
    Script.mem_paths_of_readLine read⟩
  have plain := Path.comma_not_mem_chars (Path.not_mem_names_join
    (Path.not_mem_names_ofString plainBase) (Path.not_mem_names_ofString plainToken))
  rw [ofLine?_text_comma _ plain plainKind some,
    relativeTo_join (Path.isAbsolute_eq_false_iff.1 notAbsolute)]

/-- Below a base directory with two leading slashes, the components of which are written in a
roundabout way. -/
theorem echo_of_roundabout_path :
    let base := "//srv/.//base/../b/"
    let token := "./d1//../f1/"
    let p := Path.ofString base / Path.ofString token
    p.text = "//srv/base/../b/d1/../f1" ∧
      ofLine? (Path.ofString base) (p.text ++ "," ++ "Create") =
        .some ⟨String.ofList (Text.join '/' ["d1".toList, "..".toList, "f1".toList]), "Create"⟩ :=
  ⟨by decide +kernel, (echo_of_script_path "//srv/.//base/../b/" "Create" (by decide +kernel)
    (by decide +kernel) (by decide +kernel)).1 "./d1//../f1/" (by decide +kernel)
    (by decide +kernel)⟩

/-- With a base directory that is relative, a path is reported alike when it is echoed as the script
is read and when it is echoed from a directory before that just when the directory has no
components, so never from an absolute one. What is reported alike is a path echoed from a directory
from which the base is seen too. -/
theorem echo_from_directory_iff (directory base token kind : String)
    (plain : ',' ∉ directory.toList ∧ ',' ∉ base.toList ∧ ',' ∉ token.toList ∧ ',' ∉ kind.toList)
    (someKind : kind ≠ "") (relativeBase : (Path.ofString base).isAbsolute = false)
    (relative : (Path.ofString token).isAbsolute = false)
    (some : (Path.ofString token).names ≠ []) :
    let c := Path.ofString directory
    let b := Path.ofString base
    let p := Path.ofString token
    (ofLine? b ((c / b / p).text ++ "," ++ kind) = ofLine? b ((b / p).text ++ "," ++ kind) ↔
        c.depth = 0) ∧
      (c.isAbsolute = true →
        ofLine? b ((c / b / p).text ++ "," ++ kind) ≠ ofLine? b ((b / p).text ++ "," ++ kind)) ∧
      ofLine? (c / b) ((c / b / p).text ++ "," ++ kind) =
        ofLine? b ((b / p).text ++ "," ++ kind) := by
  intro c b p
  obtain ⟨plainDirectory, plainBase, plainToken, plainKind⟩ := plain
  rw [Path.isAbsolute_eq_false_iff] at relativeBase relative
  have above := Path.not_mem_names_ofString plainDirectory
  have middle := Path.not_mem_names_ofString plainBase
  have below := Path.not_mem_names_ofString plainToken
  have long (base' : Path) := ofLine?_text_comma base'
    (Path.comma_not_mem_chars (Path.not_mem_names_join (Path.not_mem_names_join above middle) below))
    plainKind someKind
  have short := ofLine?_text_comma b
    (Path.comma_not_mem_chars (Path.not_mem_names_join middle below)) plainKind someKind
  have agree : ofLine? b ((c / b / p).text ++ "," ++ kind) =
      ofLine? b ((b / p).text ++ "," ++ kind) ↔ c.depth = 0 := by
    rw [long b, short, Option.some_inj, Event.mk.injEq, and_iff_left rfl]
    exact relativeTo_below_iff c relativeBase relative some
  refine ⟨agree, fun absolute same => ?_, ?_⟩
  · have none := agree.1 same
    simp [Path.depth, absolute] at none
  · rw [long (c / b), short, relativeTo_join relative, relativeTo_join relative]

/-- A base directory of two components below an absolute directory. -/
theorem echo_from_directory_of_work :
    let c := Path.ofString "/srv"
    let b := Path.ofString "work/d"
    let p := Path.ofString "from/f1"
    ofLine? b ((c / b / p).text ++ "," ++ "Written") ≠ ofLine? b ((b / p).text ++ "," ++ "Written") ∧
      ofLine? (c / b) ((c / b / p).text ++ "," ++ "Written") =
        ofLine? b ((b / p).text ++ "," ++ "Written") := by
  intro c b p
  have whole := echo_from_directory_iff "/srv" "work/d" "from/f1" "Written" (by decide +kernel)
    (by decide +kernel) (by decide +kernel) (by decide +kernel) (by decide +kernel)
  exact ⟨whole.2.1 (by decide +kernel), whole.2.2⟩

/-- A directory with the root and one name: two components too many are left. -/
theorem echo_from_directory_differs :
    let c := Path.ofString "/srv"
    let b := Path.ofString "work"
    let p := Path.ofString "a"
    (c / b / p).text = "/srv/work/a" ∧ (b / p).text = "work/a" ∧
      ofLine? b ((c / b / p).text ++ "," ++ "Create") = .some ⟨"srv/work/a", "Create"⟩ ∧
      ofLine? b ((b / p).text ++ "," ++ "Create") = .some ⟨"a", "Create"⟩ ∧
      ofLine? b ((c / b / p).text ++ "," ++ "Create") ≠
        ofLine? b ((b / p).text ++ "," ++ "Create") := by
  decide +kernel

end Event

end WatchTrial
