import WatchTrial.Text.Quoted
import WatchTrial.Text.Split

set_option autoImplicit false

/- Paths. A path is an anchor and the names below it; an empty name and the name `.` are dropped
when a path is read, the name `..` is kept. -/

namespace WatchTrial

/-- Where a path starts. Exactly two leading slashes are a root of their own. -/
inductive Anchor where
  | relative
  | root
  | doubleRoot
  deriving DecidableEq, Repr

namespace Path

/-- A name that a path keeps. -/
def IsName (name : List Char) : Prop := name ≠ [] ∧ name ≠ ['.'] ∧ '/' ∉ name

instance (name : List Char) : Decidable (IsName name) := inferInstanceAs (Decidable (_ ∧ _ ∧ _))

end Path

@[ext]
structure Path where
  anchor : Anchor
  names : List (List Char)
  proper : ∀ name ∈ names, Path.IsName name
  deriving DecidableEq

namespace Path

/-- The names that a path keeps of a text. -/
def namesOf (text : List Char) : List (List Char) :=
  (Text.split '/' text).filter fun piece => piece ≠ [] ∧ piece ≠ ['.']

theorem isName_of_mem_namesOf (text : List Char) (name : List Char) (member : name ∈ namesOf text) :
    IsName name := by
  simp only [namesOf, List.mem_filter, decide_eq_true_eq] at member
  exact ⟨member.2.1, member.2.2, Text.separator_not_mem_of_mem_split '/' text name member.1⟩

/-- How many leading slashes a text has, up to three, decides its anchor. -/
def anchorOf : List Char → Anchor
  | '/' :: '/' :: '/' :: _ => .root
  | '/' :: '/' :: _ => .doubleRoot
  | '/' :: _ => .root
  | _ => .relative

/-- The path that a text names. -/
def ofChars (text : List Char) : Path := ⟨anchorOf text, namesOf text, isName_of_mem_namesOf text⟩

def ofString (text : String) : Path := ofChars text.toList

/-- The path without names that starts at the working directory. -/
def here : Path := ⟨.relative, [], by simp⟩

def Anchor.chars : Anchor → List Char
  | .relative => []
  | .root => ['/']
  | .doubleRoot => ['/', '/']

/-- The text of a path; the path that names nothing is written `.`. -/
def chars (p : Path) : List Char :=
  match p.anchor, p.names with
  | .relative, [] => ['.']
  | anchor, names => Anchor.chars anchor ++ Text.join '/' names

def text (p : Path) : String := String.ofList p.chars

def isAbsolute (p : Path) : Bool := p.anchor != .relative

/-- The path `p` as seen from `base`: an absolute one is itself. -/
def join (base p : Path) : Path :=
  match p.anchor with
  | .relative =>
      ⟨base.anchor, base.names ++ p.names, fun name member =>
        (List.mem_append.1 member).elim (base.proper name) (p.proper name)⟩
  | _ => p

instance : HDiv Path Path Path := ⟨join⟩

/-- The components of a path: an anchor that is a root counts as one. -/
def depth (p : Path) : Nat := (if p.isAbsolute then 1 else 0) + p.names.length

/-- What is left of a path without its first `count` components. -/
def dropComponents : Nat → Path → Path
  | 0, p => p
  | count + 1, p =>
      let drop := if p.isAbsolute then count else count + 1
      ⟨.relative, p.names.drop drop, fun name member => p.proper name (List.mem_of_mem_drop member)⟩

/-- The path without its last name. -/
def parent (p : Path) : Path :=
  ⟨p.anchor, p.names.dropLast, fun name member =>
    p.proper name (List.dropLast_subset p.names member)⟩

/-- The text of a path between marks, as messages show it. -/
def quoted (p : Path) : String := Text.quote p.text

theorem namesOf_slash (rest : List Char) : namesOf ('/' :: rest) = namesOf rest := by
  simp [namesOf, Text.split]

theorem namesOf_join (names : List (List Char)) (proper : ∀ name ∈ names, IsName name) :
    namesOf (Text.join '/' names) = names := by
  cases names with
  | nil => rfl
  | cons name rest =>
      rw [namesOf, Text.split_join '/' _ (by simp) fun piece member => (proper piece member).2.2,
        List.filter_eq_self]
      intro piece member
      simpa using ⟨(proper piece member).1, (proper piece member).2.1⟩

theorem join_ne_slash (names : List (List Char)) (proper : ∀ name ∈ names, IsName name)
    (rest : List Char) : Text.join '/' names ≠ '/' :: rest := by
  match names with
  | [] => simp [Text.join]
  | [] :: _ => exact absurd rfl (proper [] List.mem_cons_self).1
  | [c :: name] =>
      have free := (proper (c :: name) List.mem_cons_self).2.2
      simp only [List.mem_cons, not_or] at free
      simp [Text.join, Ne.symm free.1]
  | (c :: name) :: next :: more =>
      have free := (proper (c :: name) List.mem_cons_self).2.2
      simp only [List.mem_cons, not_or] at free
      simp [Text.join, Ne.symm free.1]

theorem anchorOf_append (anchor : Anchor) (text : List Char) (bare : ∀ rest, text ≠ '/' :: rest) :
    anchorOf (Anchor.chars anchor ++ text) = anchor := by
  cases text with
  | nil => cases anchor <;> rfl
  | cons c rest =>
      have other : c ≠ '/' := fun same => bare rest (by rw [same])
      cases anchor <;> simp [Anchor.chars, anchorOf, other]

theorem namesOf_append (anchor : Anchor) (text : List Char) :
    namesOf (Anchor.chars anchor ++ text) = namesOf text := by
  cases anchor <;> simp [Anchor.chars, namesOf_slash]

theorem ofChars_chars (p : Path) : ofChars p.chars = p := by
  obtain ⟨anchor, names, proper⟩ := p
  have written : ofChars (Anchor.chars anchor ++ Text.join '/' names) = ⟨anchor, names, proper⟩ :=
    Path.ext (anchorOf_append anchor _ (join_ne_slash names proper))
      ((namesOf_append anchor _).trans (namesOf_join names proper))
  cases anchor with
  | relative =>
      cases names with
      | nil => rfl
      | cons name rest => exact written
  | root => exact written
  | doubleRoot => exact written

theorem names_join_relative (base p : Path) (relative : p.anchor = .relative) :
    (base / p).names = base.names ++ p.names ∧ (base / p).anchor = base.anchor := by
  change (join base p).names = _ ∧ (join base p).anchor = _
  unfold join
  split
  · exact ⟨rfl, rfl⟩
  · rename_i other
    exact absurd relative other

theorem join_absolute (base p : Path) (absolute : p.anchor ≠ .relative) : base / p = p := by
  change join base p = p
  unfold join
  split
  · contradiction
  · rfl

end Path

end WatchTrial
