import WatchTrial.Text.Ansi

set_option autoImplicit false

namespace WatchTrial.Text.Ansi

theorem stripChars_of_not_opening (c : Char) (rest : List Char)
    (other : ∀ more, c = escape → rest ≠ '[' :: more) :
    stripChars (c :: rest) = c :: stripChars rest := by
  rw [stripChars]
  intro more start next
  exact other more start next

theorem stripChars_cons (c : Char) (rest : List Char) (plain : c ≠ escape) :
    stripChars (c :: rest) = c :: stripChars rest :=
  stripChars_of_not_opening c rest fun _ start => absurd start plain

theorem stripChars_append (front rest : List Char) (plain : escape ∉ front) :
    stripChars (front ++ rest) = front ++ stripChars rest := by
  induction front with
  | nil => rfl
  | cons c front ih =>
      simp only [List.mem_cons, not_or] at plain
      rw [List.cons_append, stripChars_cons c _ (Ne.symm plain.1), ih plain.2, List.cons_append]

theorem stripChars_sequence (rest after : List Char) (sequence : afterSequence rest = some after) :
    stripChars (escape :: '[' :: rest) = stripChars after := by
  rw [escape, stripChars]
  split
  · rename_i other found
    rw [sequence] at found
    cases found
    rfl
  · rename_i found
    rw [sequence] at found
    cases found

theorem stripChars_unfinished (rest : List Char) (other : afterSequence rest = none) :
    stripChars (escape :: '[' :: rest) = escape :: stripChars ('[' :: rest) := by
  rw [escape, stripChars]
  split
  · rename_i after found
    rw [other] at found
    cases found
  · rfl

/-- The character is part of no sequence, unless it begins one. -/
structure Cuts (c : Char) : Prop where
  noParameter : isParameter c = false
  noLetter : c.isAlpha = false
  noBracket : c ≠ '['

theorem cuts_newline : Cuts '\n' := ⟨by decide, by decide, by decide⟩

theorem cuts_escape : Cuts escape := ⟨by decide, by decide, by decide⟩

theorem afterSequence_append {c : Char} (cuts : Cuts c) (text rest : List Char) :
    afterSequence (text ++ c :: rest) = (afterSequence text).map (· ++ c :: rest) := by
  induction text with
  | nil => simp [afterSequence, cuts.noParameter, cuts.noLetter]
  | cons d text ih =>
      rw [List.cons_append, afterSequence, afterSequence, ih]
      split
      · rfl
      · split <;> rfl

theorem stripChars_cut {c : Char} (cuts : Cuts c) (front rest : List Char) :
    stripChars (front ++ c :: rest) = stripChars front ++ stripChars (c :: rest) := by
  fun_induction stripChars front with
  | case1 => rfl
  | case2 front after found ih =>
      have longer : afterSequence (front ++ c :: rest) = some (after ++ c :: rest) := by
        rw [afterSequence_append cuts, found, Option.map_some]
      rw [List.cons_append, List.cons_append, ← ih]
      exact stripChars_sequence _ _ longer
  | case3 front found ih =>
      have longer : afterSequence (front ++ c :: rest) = none := by
        rw [afterSequence_append cuts, found, Option.map_none]
      rw [List.cons_append, List.cons_append, List.cons_append, ← ih]
      exact stripChars_unfinished _ longer
  | case4 d front other ih =>
      rw [List.cons_append, List.cons_append, ← ih]
      refine stripChars_of_not_opening d _ fun more start next => ?_
      cases front with
      | nil =>
          cases next
          exact cuts.noBracket rfl
      | cons e front =>
          cases next
          exact other front start rfl

/-- No sequence goes on past the end of a line. -/
theorem stripChars_line (line rest : List Char) :
    stripChars (line ++ '\n' :: rest) = stripChars line ++ '\n' :: stripChars rest := by
  rw [stripChars_cut cuts_newline, stripChars_cons '\n' rest (by decide)]

/-- The sequence that begins a style. -/
def opening (colour : Colour) (bold : Bool) : List Char :=
  (match colour with
    | .red => [escape, '[', '3', '1', 'm']
    | .green => [escape, '[', '3', '2', 'm']) ++
    if bold then [escape, '[', '1', 'm'] else []

theorem toList_style (colour : Colour) (bold : Bool) (text : String) :
    (style colour bold text).toList =
      opening colour bold ++ (text.toList ++ [escape, '[', '0', 'm']) := by
  cases colour <;> cases bold <;>
    simp [style, Colour.code, opening, escape]

theorem stripChars_opening (colour : Colour) (bold : Bool) (rest : List Char) :
    stripChars (opening colour bold ++ rest) = stripChars rest := by
  have bolden : stripChars ((if bold then [escape, '[', '1', 'm'] else []) ++ rest) =
      stripChars rest := by
    cases bold with
    | false => rfl
    | true => exact stripChars_sequence ('1' :: 'm' :: rest) rest rfl
  rw [← bolden]
  cases colour with
  | red => exact stripChars_sequence ('3' :: '1' :: 'm' :: _) _ rfl
  | green => exact stripChars_sequence ('3' :: '2' :: 'm' :: _) _ rfl

/-- A colour goes as a whole: what is left is the text that it was put on, stripped by itself. -/
theorem stripChars_style (colour : Colour) (bold : Bool) (text : String) (rest : List Char) :
    stripChars ((style colour bold text).toList ++ rest) =
      stripChars text.toList ++ stripChars rest := by
  rw [toList_style, List.append_assoc, stripChars_opening, List.append_assoc]
  exact (stripChars_cut cuts_escape _ _).trans
    (congrArg (stripChars text.toList ++ ·) (stripChars_sequence ('0' :: 'm' :: rest) rest rfl))

theorem toList_strip (text : String) : (strip text).toList = stripChars text.toList := by
  simp [strip]

end WatchTrial.Text.Ansi
