import WatchTrial.Proofs.Script.Reading
import WatchTrial.Proofs.Text.Line

set_option autoImplicit false

namespace WatchTrial.Script

/-- A line of a script counts, and is `line` without the line ends at its end. -/
structure Counts (raw line : String) : Prop where
  ends : ∃ ends, raw.toList = line.toList ++ ends ∧ ∀ c ∈ ends, c = '\r' ∨ c = '\n'
  whole : ∀ c ∈ line.toList.getLast?, c ≠ '\r' ∧ c ≠ '\n'
  filled : ∃ c ∈ line.toList, Text.isBlank c = false
  noComment : line.toList.head? ≠ some '#'

theorem chomp_eq_iff {raw line : String} :
    chomp raw = line ↔
      (∃ ends, raw.toList = line.toList ++ ends ∧ ∀ c ∈ ends, c = '\r' ∨ c = '\n') ∧
        ∀ c ∈ line.toList.getLast?, c ≠ '\r' ∧ c ≠ '\n' := by
  rw [← String.toList_inj, chomp, String.toList_ofList, Text.trimEnd_eq_iff]
  simp

theorem isRelevant_iff {line : String} :
    isRelevant line = true ↔
      (∃ c ∈ line.toList, Text.isBlank c = false) ∧ line.toList.head? ≠ some '#' := by
  simp [isRelevant, Text.isBlankText]

theorem counts_iff {raw line : String} :
    Counts raw line ↔ chomp raw = line ∧ isRelevant line = true := by
  rw [chomp_eq_iff, isRelevant_iff]
  constructor
  · intro counts
    exact ⟨⟨counts.ends, counts.whole⟩, counts.filled, counts.noComment⟩
  · rintro ⟨⟨ends, whole⟩, filled, noComment⟩
    exact ⟨ends, whole, filled, noComment⟩

/-- The lines that count, without their line ends. -/
def counted (lines : List String) : List String := (lines.map chomp).filter isRelevant

theorem counted_cons (raw : String) (rest : List String) :
    counted (raw :: rest) =
      if isRelevant (chomp raw) then chomp raw :: counted rest else counted rest := by
  rw [counted, List.map_cons, List.filter_cons]
  rfl

theorem counted_append (first second : List String) :
    counted (first ++ second) = counted first ++ counted second := by
  rw [counted, List.map_append, List.filter_append]
  rfl

theorem counted_of_idle {lines : List String}
    (idle : ∀ raw ∈ lines, isRelevant (chomp raw) = false) : counted lines = [] := by
  rw [counted, List.filter_eq_nil_iff]
  intro line member
  obtain ⟨raw, there, rfl⟩ := List.mem_map.1 member
  simp [idle raw there]

section

variable {base : Path} {number : Nat} {lines : List String}

/-- A script is read when each of its lines that count is, as what they ask for in turn. -/
theorem readFrom_eq_ok_iff {actions : List Action} :
    readFrom base number lines = .ok actions ↔
      (counted lines).map (readLine base) = actions.map .ok := by
  induction lines generalizing number actions with
  | nil =>
      cases actions with
      | nil => exact iff_of_true rfl rfl
      | cons a others =>
          constructor
          · intro same
            cases same
          · intro same
            cases same
  | cons raw rest ih =>
      rw [readFrom, counted_cons]
      split
      · rw [List.map_cons, bind_eq_ok_iff]
        constructor
        · rintro ⟨a, here, later⟩
          obtain ⟨others, whole, made⟩ := bind_eq_ok_iff.1 later
          cases made
          rw [readNumbered_eq_ok_iff.1 here, ih.1 whole]
          rfl
        · intro same
          cases actions with
          | nil => cases same
          | cons a others =>
              rw [List.map_cons, List.cons.injEq] at same
              exact ⟨a, readNumbered_eq_ok_iff.2 same.1,
                bind_eq_ok_iff.2 ⟨others, ih.2 same.2, rfl⟩⟩
      · exact ih

/-- Where a script is refused: at its first line, or behind it if that is none that counts or is an
action. -/
theorem readFrom_cons_eq_error_iff {raw : String} {rest : List String} {e : LineError} :
    readFrom base number (raw :: rest) = .error e ↔
      isRelevant (chomp raw) = true ∧ readNumbered base number (chomp raw) = .error e ∨
        (∀ line ∈ counted [raw], ∃ a, readLine base line = .ok a) ∧
          readFrom base (number + 1) rest = .error e := by
  rw [readFrom, counted_cons]
  split
  · rename_i counts
    have front : (∀ line ∈ chomp raw :: counted [], ∃ a, readLine base line = .ok a) ↔
        ∃ a, readNumbered base number (chomp raw) = .ok a := by
      simp only [readNumbered_eq_ok_iff]
      exact List.forall_mem_singleton
    have behind (a : Action) :
        (do return a :: (← readFrom base (number + 1) rest)) =
            (.error e : Except LineError (List Action)) ↔
          readFrom base (number + 1) rest = .error e := by
      rw [bind_eq_error_iff]
      constructor
      · rintro (refused | ⟨others, -, made⟩)
        · exact refused
        · cases made
      · exact Or.inl
    rw [bind_eq_error_iff, front, and_iff_right counts]
    simp only [behind, exists_and_right]
  · rename_i idle
    simp [idle, counted]

/-- A script is refused for its first line that counts and is no action. -/
theorem readFrom_eq_error_iff {e : LineError} :
    readFrom base number lines = .error e ↔
      ∃ before raw after, lines = before ++ raw :: after ∧
        (∀ line ∈ counted before, ∃ a, readLine base line = .ok a) ∧
        isRelevant (chomp raw) = true ∧
        readNumbered base (number + before.length : Nat) (chomp raw) = .error e := by
  constructor
  · intro refused
    induction lines generalizing number with
    | nil => cases refused
    | cons first rest ih =>
        rcases readFrom_cons_eq_error_iff.1 refused with ⟨counts, stopped⟩ | ⟨front, later⟩
        · exact ⟨[], first, rest, rfl, by simp [counted], counts, stopped⟩
        · obtain ⟨before, raw, after, rfl, earlier, counts, stopped⟩ := ih later
          refine ⟨first :: before, raw, after, rfl, ?_, counts, ?_⟩
          · rw [← List.singleton_append, counted_append, List.forall_mem_append]
            exact ⟨front, earlier⟩
          · rw [List.length_cons, Nat.add_comm before.length 1, ← Nat.add_assoc]
            exact stopped
  · rintro ⟨before, raw, after, rfl, earlier, counts, stopped⟩
    induction before generalizing number with
    | nil => exact readFrom_cons_eq_error_iff.2 (Or.inl ⟨counts, stopped⟩)
    | cons first before ih =>
        rw [← List.singleton_append, counted_append, List.forall_mem_append] at earlier
        rw [List.length_cons, Nat.add_comm before.length 1, ← Nat.add_assoc] at stopped
        exact readFrom_cons_eq_error_iff.2 (Or.inr ⟨earlier.1, ih earlier.2 stopped⟩)

end

/-- The error of the same line with so many more lines before it. -/
def LineError.later (count : Nat) (e : LineError) : LineError :=
  { e with number := e.number + count }

theorem readNumbered_later (base : Path) (number : Int) (count : Nat) (line : String) :
    readNumbered base (number + count) line =
      (readNumbered base number line).mapError (LineError.later count) := by
  unfold readNumbered
  cases readLine base line <;> rfl

theorem readNumbered_eq_error_iff {base : Path} {number : Int} {line : String} {e : LineError} :
    readNumbered base number line = .error e ↔
      ∃ fault, readLine base line = .error fault ∧ e = ⟨number, line, fault⟩ := by
  unfold readNumbered
  cases readLine base line with
  | error fault =>
      constructor
      · intro same
        cases same
        exact ⟨fault, rfl, rfl⟩
      · rintro ⟨other, same, rfl⟩
        cases same
        rfl
  | ok a =>
      constructor
      · intro same
        cases same
      · rintro ⟨fault, same, -⟩
        cases same

/-- With more lines before a script only the numbers of its lines are others. -/
theorem readFrom_later (base : Path) (number count : Nat) (lines : List String) :
    readFrom base (number + count) lines =
      (readFrom base number lines).mapError (LineError.later count) := by
  cases read : readFrom base number lines with
  | ok actions => exact readFrom_eq_ok_iff.2 (readFrom_eq_ok_iff.1 read)
  | error e =>
      obtain ⟨before, raw, after, rfl, earlier, counts, stopped⟩ := readFrom_eq_error_iff.1 read
      refine readFrom_eq_error_iff.2 ⟨before, raw, after, rfl, earlier, counts, ?_⟩
      have place : ((number + count + before.length : Nat) : Int) =
          (number + before.length : Nat) + count := by
        omega
      rw [place, readNumbered_later, stopped]
      rfl

/-- Lines with others before each of them and after the last. -/
def spread (gaps : List (List String × String)) (last : List String) : List String :=
  gaps.flatMap (fun gap => gap.1 ++ [gap.2]) ++ last

/-- How many lines stand in the gaps up to the line with a number. -/
def inserted (gaps : List (List String × String)) (number : Nat) : Nat :=
  ((gaps.take number).flatMap Prod.fst).length

theorem spread_cons (gap : List String × String) (gaps : List (List String × String))
    (last : List String) : spread (gap :: gaps) last = gap.1 ++ gap.2 :: spread gaps last := by
  simp [spread]

theorem spread_append (front : List (List String × String)) (gap : List String × String)
    (behind : List (List String × String)) (last : List String) :
    spread (front ++ gap :: behind) last =
      spread front gap.1 ++ gap.2 :: spread behind last := by
  simp [spread]

theorem length_spread (gaps : List (List String × String)) (last : List String) :
    (spread gaps last).length = gaps.length + (gaps.flatMap Prod.fst).length + last.length := by
  induction gaps with
  | nil => simp [spread]
  | cons gap gaps ih =>
      rw [spread_cons, List.flatMap_cons, List.length_append, List.length_append, List.length_cons,
        List.length_cons, ih]
      omega

section

variable {gaps : List (List String × String)} {last : List String}

theorem counted_spread (idle : ∀ gap ∈ gaps, ∀ raw ∈ gap.1, isRelevant (chomp raw) = false)
    (idleLast : ∀ raw ∈ last, isRelevant (chomp raw) = false) :
    counted (spread gaps last) = counted (gaps.map Prod.snd) := by
  induction gaps with
  | nil => exact counted_of_idle idleLast
  | cons gap gaps ih =>
      rw [List.forall_mem_cons] at idle
      rw [spread_cons, counted_append, counted_of_idle idle.1, List.nil_append, List.map_cons,
        counted_cons, counted_cons, ih idle.2]

/-- Lines that do not count, wherever they are put between others, change nothing but the numbers of
the lines after them. -/
theorem read_spread (base : Path)
    (idle : ∀ gap ∈ gaps, ∀ raw ∈ gap.1, isRelevant (chomp raw) = false)
    (idleLast : ∀ raw ∈ last, isRelevant (chomp raw) = false) :
    read base (spread gaps last) =
      (read base (gaps.map Prod.snd)).mapError fun e => e.later (inserted gaps e.number.toNat) := by
  have same := counted_spread idle idleLast
  cases outcome : read base (gaps.map Prod.snd) with
  | ok actions =>
      refine readFrom_eq_ok_iff.2 ?_
      rw [same]
      exact readFrom_eq_ok_iff.1 outcome
  | error e =>
      obtain ⟨before, raw, after, split, earlier, counts, stopped⟩ :=
        readFrom_eq_error_iff.1 outcome
      obtain ⟨front, rest, rfl, rfl, there⟩ := List.map_eq_append_iff.1 split
      obtain ⟨gap, behind, rfl, rfl, rfl⟩ := List.map_eq_cons_iff.1 there
      rw [List.forall_mem_append, List.forall_mem_cons] at idle
      obtain ⟨fault, refused, rfl⟩ := readNumbered_eq_error_iff.1 stopped
      -- What stands before the refused line now is what stood there, with the gaps up to it.
      refine readFrom_eq_error_iff.2
        ⟨spread front gap.1, gap.2, spread behind last, spread_append _ _ _ _, ?_, counts, ?_⟩
      · rw [counted_spread idle.1 idle.2.1]
        exact earlier
      · refine readNumbered_eq_error_iff.2 ⟨fault, refused, ?_⟩
        have taken : (front ++ gap :: behind).take (1 + front.length) = front ++ [gap] := by
          rw [List.append_cons]
          exact List.take_left' (by simp [Nat.add_comm])
        have number : 1 + front.length + inserted (front ++ gap :: behind) (1 + front.length) =
            1 + (spread front gap.1).length := by
          rw [inserted, taken, List.flatMap_append, List.length_append, length_spread,
            List.flatMap_singleton]
          omega
        rw [← number, List.length_map]
        rfl

end

/-- A script is read as what its lines that count ask for, one action for each in their order, or
refused for the first of them that is no action, under its number among all lines and as it stands
without its line ends. So lines that do not count, wherever they are put in, change nothing but the
numbers of the lines after them, and two scripts put together are read one after the other, with the
numbers of the second moved by the lines of the first. -/
theorem read_by_lines (base : Path) :
    (∀ raw line, Counts raw line ↔ chomp raw = line ∧ isRelevant line = true) ∧
      (∀ lines actions, read base lines = .ok actions ↔
        (counted lines).map (readLine base) = actions.map .ok) ∧
      (∀ lines e, read base lines = .error e ↔
        ∃ before raw after fault, lines = before ++ raw :: after ∧
          (∀ line ∈ counted before, ∃ a, readLine base line = .ok a) ∧
          isRelevant (chomp raw) = true ∧ readLine base (chomp raw) = .error fault ∧
          e = ⟨before.length + 1, chomp raw, fault⟩) ∧
      (∀ gaps last, (∀ gap ∈ gaps, ∀ raw ∈ gap.1, isRelevant (chomp raw) = false) →
        (∀ raw ∈ last, isRelevant (chomp raw) = false) →
        read base (spread gaps last) = (read base (gaps.map Prod.snd)).mapError fun e =>
          e.later (inserted gaps e.number.toNat)) ∧
      ∀ first second, read base (first ++ second) = do
        let before ← read base first
        let after ← (read base second).mapError (LineError.later first.length)
        return before ++ after := by
  refine ⟨fun raw line => counts_iff, fun lines actions => readFrom_eq_ok_iff, ?_,
    fun gaps last idle idleLast => read_spread base idle idleLast, ?_⟩
  · intro lines e
    have place (before : List String) : ((1 + before.length : Nat) : Int) = before.length + 1 := by
      omega
    rw [read, readFrom_eq_error_iff]
    simp only [readNumbered_eq_error_iff, place]
    constructor
    · rintro ⟨before, raw, after, split, earlier, counts, fault, refused, told⟩
      exact ⟨before, raw, after, fault, split, earlier, counts, refused, told⟩
    · rintro ⟨before, raw, after, fault, split, earlier, counts, refused, told⟩
      exact ⟨before, raw, after, split, earlier, counts, fault, refused, told⟩
  · intro first second
    rw [read, readFrom_append, readFrom_later]
    rfl

/-- A blank line and a comment before the second line of a script. The third is no comment, for a
space stands before its mark. -/
theorem read_by_lines_of_indented_mark :
    let base := Path.ofString "b"
    let gaps := [([], "WatchDir d\r\n"), (["\u2003\r\n", "# c\n"], "Create File d/a\r"),
      ([], " # x\n")]
    read base (gaps.map Prod.snd) = .error ⟨3, " # x", .unknownCommand ""⟩ ∧
      read base (spread gaps ["\n"]) = .error ⟨5, " # x", .unknownCommand ""⟩ := by
  intro base gaps
  have alone : read base (gaps.map Prod.snd) = .error ⟨3, " # x", .unknownCommand ""⟩ := by
    decide +kernel
  have moved := (read_by_lines base).2.2.2.1 gaps ["\n"] (by decide +kernel) (by decide +kernel)
  rw [alone] at moved
  exact ⟨alone, moved⟩

end WatchTrial.Script
