import Mathlib.Data.List.Chain
import WatchTrial.Proofs.Text.Line

set_option autoImplicit false

namespace WatchTrial.Text

/-- The ways in which a line can end. -/
inductive LineEnd where
  | lf
  | crlf
  | cr
  deriving DecidableEq, Repr

def LineEnd.chars : LineEnd → List Char
  | .lf => ['\n']
  | .crlf => ['\r', '\n']
  | .cr => ['\r']

/-- A line with no part of an end in it. -/
def Unended (line : List Char) : Prop := '\n' ∉ line ∧ '\r' ∉ line

/-- The text of lines, each with its own end. -/
def endedText (lines : List (List Char × LineEnd)) : List Char :=
  lines.flatMap fun line => line.1 ++ line.2.chars

/-- No carriage return and line feed stand next to each other that end two lines. -/
def Apart (lines : List (List Char × LineEnd)) : Prop :=
  lines.IsChain fun line next => line.2 = .cr → next ≠ ([], .lf)

theorem Unended.head {line : List Char} (unended : Unended line) : line.head? ≠ some '\n' :=
  fun first => unended.1 (List.mem_of_head? first)

/-- One line of a text, with its end. -/
theorem unifyEnds_line {line rest : List Char} (unended : Unended line) {last : LineEnd}
    (apart : last = .cr → rest.head? ≠ some '\n') :
    unifyEnds (line ++ last.chars ++ rest) = line ++ '\n' :: unifyEnds rest := by
  have plain : line.getLast? ≠ some '\r' := fun final => unended.2 (List.mem_of_getLast? final)
  have alone : unifyEnds (last.chars ++ rest) = '\n' :: unifyEnds rest := by
    cases last with
    | lf => simp [LineEnd.chars, unifyEnds]
    | crlf => rfl
    | cr =>
        have start : unifyEnds (['\r'] ++ rest) = unifyEnds ['\r'] ++ unifyEnds rest :=
          unifyEnds_append fun _ => apart rfl
        rw [LineEnd.chars, start]
        rfl
  rw [List.append_assoc, unifyEnds_append fun final => absurd final plain,
    unifyEnds_of_no_return line unended.2, alone]

theorem head_line {line : List Char} {last : LineEnd} (unended : Unended line)
    (apart : (line, last) ≠ ([], .lf)) (rest : List Char) :
    (line ++ last.chars ++ rest).head? ≠ some '\n' := by
  cases line with
  | nil =>
      cases last with
      | lf => exact absurd rfl apart
      | crlf => simp [LineEnd.chars]
      | cr => simp [LineEnd.chars]
  | cons c line => exact unended.head

theorem endedText_cons (line : List Char × LineEnd) (lines : List (List Char × LineEnd)) :
    endedText (line :: lines) = line.1 ++ line.2.chars ++ endedText lines := rfl

/-- Unifying the ends of lines leaves the lines as they are. -/
theorem unifyEnds_endedText {lines : List (List Char × LineEnd)} {rest : List Char}
    (unended : ∀ line ∈ lines, Unended line.1) (apart : Apart lines)
    (behind : rest.head? ≠ some '\n') :
    unifyEnds (endedText lines ++ rest) =
      (lines.map Prod.fst).flatMap (· ++ ['\n']) ++ unifyEnds rest := by
  induction lines with
  | nil => rfl
  | cons line lines ih =>
      rw [List.forall_mem_cons] at unended
      have here : line.2 = .cr → (endedText lines ++ rest).head? ≠ some '\n' := by
        intro single
        cases lines with
        | nil => exact behind
        | cons next lines =>
            have other : next ≠ ([], .lf) := (List.isChain_cons_cons.1 apart).1 single
            rw [endedText_cons, List.append_assoc]
            exact head_line (unended.2 next List.mem_cons_self) other _
      have later := ih unended.2 apart.tail
      rw [endedText_cons, List.append_assoc, unifyEnds_line unended.1 here, later]
      simp

/-- The lines that are left of a text behind its last end: one, or none if nothing is left. -/
def remainder (last : List Char) : List (List Char) := if last = [] then [] else [last]

theorem cutAfter_remainder {ends : Char → Bool} {last : List Char}
    (whole : ∀ c ∈ last, ends c = false) : cutAfter ends last = remainder last := by
  cases last with
  | nil => rfl
  | cons c last => exact cutAfter_unended ends c last whole

/-- Lines are cut off a text in whatever way each of them ends. -/
theorem cutAfter_endedText (ends : Char → Bool) {lines : List (List Char × LineEnd)}
    {last : List Char} (feed : ends '\n' = true) (unended : ∀ line ∈ lines, Unended line.1)
    (apart : Apart lines) (whole : ∀ line ∈ lines, ∀ c ∈ line.1, ends c = false)
    (unendedLast : Unended last) (wholeLast : ∀ c ∈ last, ends c = false) :
    cutAfter ends (unifyEnds (endedText lines ++ last)) =
      lines.map Prod.fst ++ remainder last := by
  have within : ∀ line ∈ lines.map Prod.fst, ∀ c ∈ line, ends c = false :=
    List.forall_mem_map.2 whole
  rw [unifyEnds_endedText unended apart unendedLast.head,
    unifyEnds_of_no_return last unendedLast.2, cutAfter_flatMap_append feed within,
    cutAfter_remainder wholeLast]

/-- The text of lines that end alike. The last one has an end only if the text is closed. -/
def fileText (last : LineEnd) (closed : Bool) (lines : List (List Char)) : List Char :=
  if closed then lines.flatMap (· ++ last.chars) else last.chars.intercalate lines

theorem intercalate_concat (separator : List Char) (lines : List (List Char)) (last : List Char) :
    separator.intercalate (lines ++ [last]) = lines.flatMap (· ++ separator) ++ last := by
  induction lines with
  | nil => simp [List.intercalate]
  | cons line lines ih =>
      have next : lines ++ [last] ≠ [] := by simp
      rw [List.cons_append, List.intercalate_cons_of_ne_nil next, ih]
      simp

theorem endedText_alike (last : LineEnd) (lines : List (List Char)) :
    endedText (lines.map (·, last)) = lines.flatMap (· ++ last.chars) :=
  List.flatMap_map ..

theorem apart_alike (last : LineEnd) (lines : List (List Char)) : Apart (lines.map (·, last)) := by
  refine List.Pairwise.isChain (List.pairwise_map.2 (List.pairwise_of_forall ?_))
  intro line next single same
  cases single
  cases same

theorem unended_of_whole {line : List Char} (whole : ∀ c ∈ line, isLineEnd c = false) :
    Unended line := by
  constructor
  · intro inside
    exact absurd (whole '\n' inside) (by decide)
  · intro inside
    exact absurd (whole '\r' inside) (by decide)

/-- Lines that all end alike are cut again as they are, whatever the end is. -/
theorem fileLines_alike (last : LineEnd) {lines : List (List Char)} {rest : List Char}
    (whole : ∀ line ∈ lines, ∀ c ∈ line, isLineEnd c = false)
    (wholeRest : ∀ c ∈ rest, isLineEnd c = false) :
    fileLines (lines.flatMap (· ++ last.chars) ++ rest) = lines ++ remainder rest := by
  have unended : ∀ line ∈ lines.map (·, last), Unended line.1 :=
    List.forall_mem_map.2 fun line member => unended_of_whole (whole line member)
  have cut := cutAfter_endedText isLineEnd rfl unended (apart_alike last lines)
    (List.forall_mem_map.2 whole) (unended_of_whole wholeRest) wholeRest
  have plain : (lines.map (·, last)).map Prod.fst = lines := by
    rw [List.map_map]
    exact List.map_id lines
  rw [endedText_alike, plain] at cut
  exact cut

/-- Lines that all have the same end are the lines of the text they make. -/
theorem fileLines_flatMap (last : LineEnd) {lines : List (List Char)}
    (whole : ∀ line ∈ lines, ∀ c ∈ line, isLineEnd c = false) :
    fileLines (lines.flatMap (· ++ last.chars)) = lines := by
  have none : ∀ c ∈ [], isLineEnd c = false := fun c member => by cases member
  have cut := fileLines_alike last whole none
  rw [List.append_nil] at cut
  exact cut.trans (List.append_nil lines)

/-- The lines of a file are those that it was made from, but for an empty one behind the last end. -/
theorem fileLines_fileText (last : LineEnd) (closed : Bool) {lines : List (List Char)}
    (whole : ∀ line ∈ lines, ∀ c ∈ line, isLineEnd c = false) :
    fileLines (fileText last closed lines) = lines ∨
      fileLines (fileText last closed lines) ++ [[]] = lines := by
  cases closed with
  | true =>
      left
      rw [fileText, if_pos rfl, fileLines_flatMap last whole]
  | false =>
      rw [fileText, if_neg Bool.false_ne_true]
      rcases List.eq_nil_or_concat lines with rfl | ⟨front, final, rfl⟩
      · exact Or.inl rfl
      · rw [List.concat_eq_append] at whole ⊢
        rw [List.forall_mem_append, List.forall_mem_singleton] at whole
        rw [intercalate_concat, fileLines_alike last whole.1 whole.2]
        by_cases empty : final = []
        · right
          simp [remainder, empty]
        · left
          simp [remainder, empty]

end WatchTrial.Text
