import WatchTrial.Proofs.Event.Reading
import WatchTrial.Proofs.Event.Remainder
import WatchTrial.Proofs.Path.Written

set_option autoImplicit false

namespace WatchTrial

namespace Path

/-- A relative path with so many names. -/
def filler (count : Nat) : Path where
  anchor := .relative
  names := List.replicate count ['x']
  proper := fun name member => by
    rw [List.eq_of_mem_replicate member]
    decide

theorem depth_filler (count : Nat) : (filler count).depth = count := by
  rw [depth_of_relative rfl, filler, List.length_replicate]

theorem isAbsolute_dropComponents {count : Nat} (some : 0 < count) (p : Path) :
    (p.dropComponents count).isAbsolute = false := by
  cases count with
  | zero => exact absurd some (Nat.lt_irrefl 0)
  | succ count => rfl

theorem components_ne_nil_iff {p : Path} : p.components ≠ [] ↔ 0 < p.depth := by
  rw [← length_components, List.length_pos_iff]

end Path

namespace Event

/-- Some line reports an event that is shown so. -/
def Shown (base : Path) (text : String) : Prop :=
  ∃ line event, ofLine? base line = some event ∧ event.text = text

/-- What can be left of a path: nothing, or what a path with components is written as, a relative one
if the base has components. -/
def IsRemainder (base : Path) (text : String) : Prop :=
  text = "" ∨
    (Path.ofString text).text = text ∧ (Path.ofString text).components ≠ [] ∧
      (base.components ≠ [] → (Path.ofString text).isAbsolute = false)

variable {base : Path} {text : String}

theorem isRemainder_relativeTo (full : Path) : IsRemainder base (relativeTo base full) := by
  by_cases deeper : base.depth < full.depth
  · right
    rw [ofString_relativeTo deeper, relativeTo_of_deeper deeper, Path.components_ne_nil_iff,
      Path.components_ne_nil_iff, Path.depth_dropComponents]
    refine ⟨rfl, by omega, fun some => Path.isAbsolute_dropComponents some full⟩
  · left
    exact relativeTo_eq_empty_iff.2 (by omega)

/-- Only the number of its components counts of a base. -/
theorem relativeTo_congr {other : Path} (same : base.depth = other.depth) (full : Path) :
    relativeTo base full = relativeTo other full := by
  rw [relativeTo, relativeTo, same]

/-- Behind as many names as the base has components, what can be left of a path is left of it. -/
theorem relativeTo_filler (left : IsRemainder base text) :
    relativeTo base (Path.filler base.depth / Path.ofString text) = text := by
  have filler := Path.depth_filler base.depth
  rcases left with rfl | ⟨written, some, inside⟩
  · apply relativeTo_eq_empty_iff.2
    rw [Path.depth_join rfl, filler]
    exact Nat.le_refl _
  · rw [Path.components_ne_nil_iff] at some inside
    have relative : (Path.ofString text).isAbsolute = false ∨ (Path.filler base.depth).depth = 0 := by
      by_cases none : base.depth = 0
      · exact Or.inr (filler.trans none)
      · exact Or.inl (inside (by omega))
    have dropped := Path.dropComponents_join_iff.2 relative
    have deeper : (Path.filler base.depth).depth <
        (Path.filler base.depth / Path.ofString text).depth := by
      have rest := Path.depth_dropComponents (Path.filler base.depth).depth
        (Path.filler base.depth / Path.ofString text)
      rw [dropped] at rest
      omega
    rw [relativeTo_congr filler.symm, relativeTo_of_deeper deeper, dropped, written]

/-- A line for a text: its path behind as many names as the base has components. -/
def lineFor (base : Path) (text : String) : String :=
  match Text.split ',' text.toList with
  | [path, kind] =>
      (Path.filler base.depth / Path.ofChars path).text ++ "," ++ String.ofList kind
  | _ => text

theorem lineFor_fields {path kind : String} (plain : ',' ∉ path.toList) (one : ',' ∉ kind.toList) :
    lineFor base (path ++ "," ++ kind) =
      (Path.filler base.depth / Path.ofString path).text ++ "," ++ kind := by
  rw [lineFor, split_fields plain one]
  simp [Path.ofString]

/-- A character of the path behind the names is one of the path, or one that such names are written
with. -/
theorem mem_chars_filler {count : Nat} {path : String} {c : Char}
    (member : c ∈ (Path.filler count / Path.ofString path).chars) :
    c ∈ path.toList ∨ c ∈ ['/', '.', 'x'] := by
  apply Classical.byContradiction
  intro neither
  simp only [List.mem_cons, List.not_mem_nil, or_false, not_or] at neither
  obtain ⟨free, noSlash, noDot, noFiller⟩ := neither
  rw [Path.mem_chars_iff noSlash noDot] at member
  obtain ⟨name, there, inside⟩ := member
  refine Path.not_mem_names_join (fun filler among => ?_) (Path.not_mem_names_ofString free) name
    there inside
  rw [List.eq_of_mem_replicate among]
  simpa using noFiller

theorem ofLine?_lineFor_fields {path kind : String} (plain : ',' ∉ path.toList)
    (one : ',' ∉ kind.toList) (some : kind ≠ "") (left : IsRemainder base path) :
    ofLine? base (lineFor base (path ++ "," ++ kind)) = .some ⟨path, kind⟩ := by
  have free : ',' ∉ (Path.filler base.depth / Path.ofString path).chars := by
    intro member
    rcases mem_chars_filler member with inside | other
    · exact plain inside
    · exact absurd other (by decide)
  rw [lineFor_fields plain one, ofLine?_text_comma base free one some, relativeTo_filler left]

theorem shown_fields_iff {path kind : String} :
    Shown base (path ++ "," ++ kind) ↔
      ',' ∉ path.toList ∧ ',' ∉ kind.toList ∧ kind ≠ "" ∧ IsRemainder base path := by
  constructor
  · rintro ⟨line, event, reported, written⟩
    -- What is shown has one comma, so there is none in either part, however the text is cut.
    have free := comma_not_mem_of_reported reported
    have commas := congrArg (fun text : String => text.toList.count ',') written
    simp only [Event.text, count_fields, List.count_eq_zero_of_not_mem free.1,
      List.count_eq_zero_of_not_mem free.2] at commas
    have plain : ',' ∉ path.toList := List.count_eq_zero.1 (by omega)
    have one : ',' ∉ kind.toList := List.count_eq_zero.1 (by omega)
    obtain ⟨same, sort⟩ := (fields_inj free.1 free.2 plain one).1 written
    obtain ⟨full, kind, -, -, -, -, some, rfl⟩ := ofLine?_eq_some_iff.1 reported
    subst same sort
    exact ⟨plain, one, some, isRemainder_relativeTo _⟩
  · rintro ⟨plain, one, some, left⟩
    exact ⟨_, _, ofLine?_lineFor_fields plain one some left, rfl⟩

theorem shown_iff :
    Shown base text ↔
      ∃ path kind : String, text = path ++ "," ++ kind ∧ text.toList.count ',' = 1 ∧ kind ≠ "" ∧
        IsRemainder base path := by
  constructor
  · rintro ⟨line, event, reported, rfl⟩
    obtain ⟨plain, one, some, left⟩ := shown_fields_iff.1 ⟨line, event, reported, rfl⟩
    refine ⟨event.path, event.kind, rfl, ?_, some, left⟩
    rw [Event.text, count_fields, List.count_eq_zero_of_not_mem plain,
      List.count_eq_zero_of_not_mem one]
  · rintro ⟨path, kind, rfl, commas, some, left⟩
    rw [count_fields] at commas
    exact shown_fields_iff.2 ⟨List.count_eq_zero.1 (by omega), List.count_eq_zero.1 (by omega),
      some, left⟩

/-- The line that is found for a text that is shown for some line is one for which it is shown, and
has no characters but those of the text and of the names in front. -/
theorem lineFor_of_shown (shown : Shown base text) :
    (∃ event, ofLine? base (lineFor base text) = some event ∧ event.text = text) ∧
      ∀ c ∈ (lineFor base text).toList, c ∈ text.toList ∨ c ∈ ['/', '.', 'x'] := by
  obtain ⟨line, event, reported, rfl⟩ := shown
  obtain ⟨plain, one, some, left⟩ := shown_fields_iff.1 ⟨line, event, reported, rfl⟩
  refine ⟨⟨event, ofLine?_lineFor_fields plain one some left, rfl⟩, ?_⟩
  intro c member
  rw [Event.text, lineFor_fields plain one] at member
  simp only [String.toList_append, List.mem_append, Path.text, String.toList_ofList] at member
  rw [Event.text]
  simp only [String.toList_append, List.mem_append]
  rcases member with (inside | comma) | last
  · rcases mem_chars_filler inside with inner | other
    · exact Or.inl (Or.inl (Or.inl inner))
    · exact Or.inr other
  · exact Or.inl (Or.inl (Or.inr comma))
  · exact Or.inl (Or.inr last)

/-- A path with a component `.`, an empty component, or a slash behind its last component. The slashes
that an absolute path starts with are its root, which is a component; but behind a base with
components they are misshapen too. -/
def Misshapen (base : Path) (path : String) : Prop :=
  ['.'] ∈ Text.split '/' path.toList ∨
    (∃ front back, path = front ++ "//" ++ back ∧ front ≠ "") ∨
    (∃ front, path = front ++ "/" ∧ front ≠ "" ∧ front ≠ "/") ∨
    ∃ back, path = "/" ++ back ∧ base.components ≠ []

theorem isAbsolute_of_slash (rest : List Char) :
    (Path.ofChars ('/' :: rest)).isAbsolute = true := by
  have anchored : Path.anchorOf ('/' :: rest) ≠ .relative := by
    unfold Path.anchorOf
    split <;> simp_all
  simpa [Path.isAbsolute, Path.ofChars] using anchored

theorem not_isRemainder_of_misshapen (bad : Misshapen base text) : ¬IsRemainder base text := by
  intro left
  rcases left with rfl | ⟨written, some, inside⟩
  · rcases bad with idle | ⟨front, back, same, -⟩ | ⟨front, same, -⟩ | ⟨back, same, -⟩
    · exact absurd idle (by decide)
    · exact absurd (congrArg String.toList same) (by simp)
    · exact absurd (congrArg String.toList same) (by simp)
    · exact absurd (congrArg String.toList same) (by simp)
  · have chars : (Path.ofString text).chars = text.toList := by
      rw [← written, Path.ofString_text, Path.text, String.toList_ofList]
    rcases bad with idle | ⟨front, back, rfl, other⟩ | ⟨front, rfl, other, notRoot⟩ |
      ⟨back, rfl, based⟩
    · rw [← chars] at idle
      exact Path.idle_not_mem_split some idle
    · have doubled : (Path.ofString (front ++ "//" ++ back)).chars =
          front.toList ++ '/' :: '/' :: back.toList := by
        rw [chars]
        simp
      have none : front.toList = [] := Path.eq_nil_of_double_slash some doubled
      exact other (String.toList_eq_nil_iff.1 none)
    · have last : (Path.ofString (front ++ "/")).chars = front.toList ++ ['/'] := by
        rw [chars]
        simp
      rcases Path.root_of_last_slash some last with none | slash
      · exact other (String.toList_eq_nil_iff.1 none)
      · exact notRoot (String.toList_injective slash)
    · have absolute := isAbsolute_of_slash back.toList
      have first : Path.ofString ("/" ++ back) = Path.ofChars ('/' :: back.toList) := by
        rw [Path.ofString, String.toList_append]
        rfl
      rw [← first, inside based] at absolute
      exact Bool.false_ne_true absolute

/-- A text that has not just one comma, or a misshapen path before it, is shown for no line. -/
theorem not_shown (bad : text.toList.count ',' ≠ 1 ∨
    ∃ path kind : String, text = path ++ "," ++ kind ∧ Misshapen base path) : ¬Shown base text := by
  intro shown
  rcases bad with commas | ⟨path, kind, rfl, bad⟩
  · obtain ⟨-, -, -, one, -⟩ := shown_iff.1 shown
    exact commas one
  · exact not_isRemainder_of_misshapen bad (shown_fields_iff.1 shown).2.2.2

end Event

end WatchTrial
