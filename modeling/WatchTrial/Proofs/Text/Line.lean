import Mathlib.Data.List.TakeWhile
import WatchTrial.Text.Line

set_option autoImplicit false

namespace WatchTrial.Text

theorem unifyEnds_of_no_return (text : List Char) (free : '\r' ∉ text) : unifyEnds text = text := by
  induction text with
  | nil => rfl
  | cons c text ih =>
      simp only [List.mem_cons, not_or] at free
      have rest := ih free.2
      rw [unifyEnds, rest]
      · rintro next rfl
        exact absurd rfl free.1
      · rintro rfl
        exact absurd rfl free.1

/-- Lines that are cut behind each of them are followed by the lines of what is left. -/
theorem cutAfter_flatMap_append {ends : Char → Bool} {lines : List (List Char)}
    (feed : ends '\n' = true) (whole : ∀ line ∈ lines, ∀ c ∈ line, ends c = false)
    (rest : List Char) :
    cutAfter ends (lines.flatMap (· ++ ['\n']) ++ rest) = lines ++ cutAfter ends rest := by
  induction lines with
  | nil => rfl
  | cons line lines ih =>
      rw [List.forall_mem_cons] at whole
      have split : (line :: lines).flatMap (· ++ ['\n']) ++ rest =
          line ++ '\n' :: (lines.flatMap (· ++ ['\n']) ++ rest) := by
        simp
      rw [split, cutAfter_line_append ends line '\n' _ whole.1 feed, ih whole.2]
      rfl

/-- A text is the start of a longer one, and no CR LF goes across its end. -/
def Starts (text longer : List Char) : Prop :=
  ∃ more, longer = text ++ more ∧ (text.getLast? = some '\r' → more.head? ≠ some '\n')

theorem unifyEnds_append {front back : List Char}
    (apart : front.getLast? = some '\r' → back.head? ≠ some '\n') :
    unifyEnds (front ++ back) = unifyEnds front ++ unifyEnds back := by
  fun_induction unifyEnds front with
  | case1 rest ih =>
      rw [List.cons_append, List.cons_append, unifyEnds, List.cons_append, ih]
      intro last
      apply apart
      cases rest with
      | nil => cases last
      | cons c rest => simpa using last
  | case2 rest other ih =>
      cases rest with
      | nil =>
          cases back with
          | nil => rfl
          | cons c back =>
              have single : c ≠ '\n' := by
                simpa using apart rfl
              simp [unifyEnds, single]
      | cons c rest =>
          have single : c ≠ '\n' := fun same => other rest (by rw [same])
          have whole := ih fun last => apart (by simpa using last)
          rw [List.cons_append] at whole
          rw [List.cons_append, List.cons_append, unifyEnds]
          · rw [whole, List.cons_append]
          · simp [single]
  | case3 c rest notPair notReturn ih =>
      have inner := ih fun last => apart (by
        cases rest with
        | nil => cases last
        | cons d rest => simpa using last)
      have plain : c ≠ '\r' := by
        intro same
        exact notReturn same
      rw [List.cons_append, unifyEnds, inner, List.cons_append]
      · simp [plain]
      · simp [plain]
  | case4 => rfl

theorem Starts.unifyEnds {text longer : List Char} (starts : Starts text longer) :
    Text.unifyEnds text <+: Text.unifyEnds longer := by
  obtain ⟨more, rfl, apart⟩ := starts
  exact ⟨_, (unifyEnds_append apart).symm⟩

/-- A text that is empty or has a line feed at its end. -/
def Ended (text : List Char) : Prop := text = [] ∨ ∃ line, text = line ++ ['\n']

theorem trimEnd_append (drop : Char → Bool) (front back : List Char) :
    trimEnd drop (front ++ back) =
      if trimEnd drop back = [] then trimEnd drop front else front ++ trimEnd drop back := by
  simp only [trimEnd, List.reverse_append, List.dropWhile_append, List.isEmpty_iff,
    List.reverse_eq_nil_iff]
  split
  · rfl
  · rw [List.reverse_append, List.reverse_reverse]

theorem trimEnd_isPrefix (drop : Char → Bool) (text : List Char) : trimEnd drop text <+: text := by
  have tail := List.dropWhile_suffix (l := text.reverse) drop
  rw [← List.reverse_prefix] at tail
  simpa [trimEnd] using tail

theorem exists_of_trimEnd (drop : Char → Bool) (text : List Char) :
    ∃ after, text = trimEnd drop text ++ after ∧ ∀ c ∈ after, drop c = true := by
  have whole := List.takeWhile_append_dropWhile (p := drop) (l := text.reverse)
  have blank := List.all_eq_true.1 (List.all_takeWhile (p := drop) (l := text.reverse))
  refine ⟨(text.reverse.takeWhile drop).reverse, ?_, ?_⟩
  · rw [trimEnd, ← List.reverse_append, whole, List.reverse_reverse]
  · intro c member
    exact blank c (List.mem_reverse.1 member)

theorem trimEnd_of_all {drop : Char → Bool} {text : List Char} (all : ∀ c ∈ text, drop c = true) :
    trimEnd drop text = [] := by
  have none : text.reverse.dropWhile drop = [] :=
    List.dropWhile_eq_nil_iff.2 fun c member => all c (List.mem_reverse.1 member)
  rw [trimEnd, none]
  rfl

/-- A text is trimmed to what has only characters of the class behind it and none at its own end. -/
theorem trimEnd_eq_iff {drop : Char → Bool} {text line : List Char} :
    trimEnd drop text = line ↔
      (∃ ends, text = line ++ ends ∧ ∀ c ∈ ends, drop c = true) ∧
        ∀ c ∈ line.getLast?, drop c = false := by
  constructor
  · rintro rfl
    refine ⟨exists_of_trimEnd drop text, ?_⟩
    intro c last
    have kept := List.head?_dropWhile_not drop text.reverse
    rw [trimEnd, List.getLast?_reverse] at last
    rw [Option.mem_def.1 last] at kept
    exact kept
  · rintro ⟨⟨ends, rfl, dropped⟩, kept⟩
    rw [trimEnd_append, if_pos (trimEnd_of_all dropped)]
    cases last : line.getLast? with
    | none =>
        rw [List.getLast?_eq_none_iff.1 last]
        rfl
    | some c =>
        obtain ⟨front, rfl⟩ := List.getLast?_eq_some_iff.1 last
        rw [trimEnd_append_single, if_neg]
        simpa using kept c last

theorem ended_trimEnd (text : List Char) : Ended (trimEnd (· != '\n') text) := by
  unfold Ended trimEnd
  cases rest : text.reverse.dropWhile (· != '\n') with
  | nil => exact Or.inl rfl
  | cons c kept =>
      have last := List.head?_dropWhile_not (· != '\n') text.reverse
      rw [rest] at last
      simp only [List.head?_cons, bne_eq_false_iff_eq] at last
      exact Or.inr ⟨kept.reverse, by simp [last]⟩

theorem trimEnd_of_ended {text : List Char} (ended : Ended text) :
    trimEnd (· != '\n') text = text := by
  rcases ended with rfl | ⟨line, rfl⟩
  · rfl
  · rw [trimEnd_append_single]
    rfl

theorem isPrefix_trimEnd {text longer : List Char} (ended : Ended text) (starts : text <+: longer) :
    text <+: trimEnd (· != '\n') longer := by
  obtain ⟨more, rfl⟩ := starts
  rw [trimEnd_append]
  split
  · exact ⟨[], (List.append_nil text).trans (trimEnd_of_ended ended).symm⟩
  · exact List.prefix_append _ _

theorem cutAfter_ne_nil (ends : Char → Bool) {text : List Char} (some : text ≠ []) :
    cutAfter ends text ≠ [] := by
  cases text with
  | nil => contradiction
  | cons c rest =>
      rw [cutAfter]
      split
      · simp
      · cases cutAfter ends rest <;> simp [prependToFirst]

theorem prependToFirst_append (c : Char) {lines : List (List Char)} (more : List (List Char))
    (some : lines ≠ []) : prependToFirst c (lines ++ more) = prependToFirst c lines ++ more := by
  cases lines with
  | nil => contradiction
  | cons line rest => rfl

theorem cutAfter_append {ends : Char → Bool} (line : List Char) {c : Char} (rest : List Char)
    (last : ends c = true) :
    cutAfter ends (line ++ [c] ++ rest) = cutAfter ends (line ++ [c]) ++ cutAfter ends rest := by
  induction line with
  | nil => simp [cutAfter, last]
  | cons d line ih =>
      simp only [List.cons_append, cutAfter]
      split
      · rw [ih, List.cons_append]
      · rw [ih, prependToFirst_append]
        exact cutAfter_ne_nil ends (by simp)

theorem mem_prependToFirst {c x : Char} {line : List Char} {lines : List (List Char)}
    (member : line ∈ prependToFirst c lines) (inside : x ∈ line) :
    x = c ∨ ∃ other ∈ lines, x ∈ other := by
  cases lines with
  | nil =>
      simp only [prependToFirst, List.mem_singleton] at member
      subst member
      exact Or.inl (List.mem_singleton.1 inside)
  | cons first rest =>
      rcases List.mem_cons.1 member with rfl | later
      · rcases List.mem_cons.1 inside with rfl | further
        · exact Or.inl rfl
        · exact Or.inr ⟨first, List.mem_cons_self, further⟩
      · exact Or.inr ⟨line, List.mem_cons_of_mem first later, inside⟩

/-- No line holds a character at which lines are cut. -/
theorem ends_of_mem_cutAfter (ends : Char → Bool) (text line : List Char)
    (member : line ∈ cutAfter ends text) : ∀ c ∈ line, ends c = false := by
  induction text generalizing line with
  | nil => cases member
  | cons first text ih =>
      rw [cutAfter] at member
      intro c inside
      split at member
      · rcases List.mem_cons.1 member with rfl | later
        · cases inside
        · exact ih line later c inside
      · rename_i inner
        rcases mem_prependToFirst member inside with rfl | ⟨other, there, deeper⟩
        · simpa using inner
        · exact ih other there c deeper

/-- Whatever is in a line is in the text. -/
theorem mem_of_mem_cutAfter {ends : Char → Bool} {text line : List Char} {c : Char}
    (member : line ∈ cutAfter ends text) (inside : c ∈ line) : c ∈ text := by
  induction text generalizing line with
  | nil => cases member
  | cons first text ih =>
      rw [cutAfter] at member
      split at member
      · rcases List.mem_cons.1 member with rfl | later
        · cases inside
        · exact List.mem_cons_of_mem first (ih later inside)
      · rcases mem_prependToFirst member inside with rfl | ⟨other, there, deeper⟩
        · exact List.mem_cons_self
        · exact List.mem_cons_of_mem first (ih there deeper)

theorem return_notMem_unifyEnds (text : List Char) : '\r' ∉ unifyEnds text := by
  fun_induction unifyEnds text with
  | case1 rest ih | case2 rest other ih => simp [ih]
  | case3 c rest notPair notReturn ih =>
      simp only [List.mem_cons, not_or]
      exact ⟨fun same => notReturn same.symm, ih⟩
  | case4 => exact List.not_mem_nil

/-- A line feed at the end of a text stays there when the ends are unified, alone or not. -/
theorem unifyEnds_feed (text : List Char) :
    ∃ line, unifyEnds (text ++ ['\n']) = line ++ ['\n'] := by
  by_cases last : text.getLast? = some '\r'
  · obtain ⟨line, rfl⟩ := List.getLast?_eq_some_iff.1 last
    refine ⟨unifyEnds line, ?_⟩
    have pair : unifyEnds (line ++ ['\r', '\n']) = unifyEnds line ++ unifyEnds ['\r', '\n'] :=
      unifyEnds_append (by simp)
    rw [List.append_assoc]
    exact pair
  · exact ⟨unifyEnds text, unifyEnds_append fun final => absurd final last⟩

/-- The lines of a text that has ended are the first lines of every longer one. -/
theorem cutAfter_isPrefix {text longer : List Char} (ended : Ended text) (starts : text <+: longer) :
    cutAfter (· == '\n') text <+: cutAfter (· == '\n') longer := by
  obtain ⟨more, rfl⟩ := starts
  rcases ended with rfl | ⟨line, rfl⟩
  · exact List.nil_prefix
  · rw [cutAfter_append line more rfl]
    exact List.prefix_append _ _

end WatchTrial.Text
