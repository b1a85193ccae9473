import Mathlib.Data.Nat.Digits.Defs
import WatchTrial.Proofs.Text.Line
import WatchTrial.Text.Numeral

set_option autoImplicit false

namespace WatchTrial.Text

/-- The character is a digit of some script, and stands for the value. -/
def IsDigit (c : Char) (value : Nat) : Prop :=
  value < 10 ∧ ∃ first ∈ digitZeros, c.toNat = first + value

/-- A text of digits, with single underscores between them, and the values of the digits. -/
inductive Digits : List Char → List Nat → Prop where
  | last {c : Char} {d : Nat} (digit : IsDigit c d) : Digits [c] [d]
  | next {c : Char} {d : Nat} {text : List Char} {digits : List Nat} (digit : IsDigit c d)
      (rest : Digits text digits) : Digits (c :: text) (d :: digits)
  | underscore {c : Char} {d : Nat} {text : List Char} {digits : List Nat} (digit : IsDigit c d)
      (rest : Digits text digits) : Digits (c :: '_' :: text) (d :: digits)

/-- What may stand before digits, and the unit that the number is counted in. -/
inductive Sign : List Char → Int → Prop where
  | unsigned : Sign [] 1
  | plus : Sign ['+'] 1
  | minus : Sign ['-'] (-1)

/-- A text that stands for a number. -/
inductive Numeral : List Char → Int → Prop where
  | intro {before sign body after : List Char} {unit : Int} {digits : List Nat}
      (blankBefore : ∀ c ∈ before, isNumeralBlank c = true) (signed : Sign sign unit)
      (written : Digits body digits) (short : digits.length ≤ maxDigits)
      (blankAfter : ∀ c ∈ after, isNumeralBlank c = true) :
      Numeral (before ++ (sign ++ body) ++ after) (unit * (Nat.ofDigits 10 digits.reverse : Nat))

section

variable {c : Char} {d : Nat} {text : List Char} {digits : List Nat}

theorem apart_digitZeros :
    ∀ a ∈ digitZeros, ∀ b ∈ digitZeros, a = b ∨ a + 10 ≤ b ∨ b + 10 ≤ a := by decide +kernel

theorem digitValue?_eq_some_iff : digitValue? c = some d ↔ IsDigit c d := by
  unfold digitValue? IsDigit
  constructor
  · intro found
    split at found
    · rename_i first chosen
      have member := List.mem_of_find?_eq_some chosen
      have within := List.find?_some chosen
      simp only [Bool.and_eq_true, decide_eq_true_eq] at within
      have value := Option.some.inj found
      exact ⟨by omega, first, member, by omega⟩
    · cases found
  · intro digit
    obtain ⟨small, first, member, written⟩ := digit
    split
    · rename_i other chosen
      have there := List.mem_of_find?_eq_some chosen
      have within := List.find?_some chosen
      simp only [Bool.and_eq_true, decide_eq_true_eq] at within
      -- No two scripts share a digit, so the digits that are found are those of this script.
      have apart := apart_digitZeros first member other there
      exact congrArg some (by omega)
    · rename_i none
      have outside := List.find?_eq_none.1 none first member
      simp only [Bool.and_eq_true, decide_eq_true_eq] at outside
      omega

theorem IsDigit.ne (digit : IsDigit c d) {other : Char} (none : digitValue? other = none) :
    c ≠ other := by
  intro same
  have value := digitValue?_eq_some_iff.2 digit
  rw [same, none] at value
  cases value

/-- No digit of any script is blank. -/
theorem IsDigit.not_blank (digit : IsDigit c d) : isNumeralBlank c = false := by
  have all : ∀ first ∈ digitZeros, ∀ value < 10,
      isNumeralBlank (Char.ofNat (first + value)) = false := by decide +kernel
  obtain ⟨small, first, member, written⟩ := digit
  have here := all first member d small
  rwa [← written, Char.ofNat_toNat] at here

theorem Digits.ne_nil (written : Digits text digits) : text ≠ [] ∧ digits ≠ [] := by
  cases written <;> simp

theorem Digits.head (written : Digits text digits) :
    ∃ c d rest, text = c :: rest ∧ IsDigit c d := by
  cases written with
  | last digit => exact ⟨_, _, _, rfl, digit⟩
  | next digit _ => exact ⟨_, _, _, rfl, digit⟩
  | underscore digit _ => exact ⟨_, _, _, rfl, digit⟩

theorem Digits.getLast (written : Digits text digits) :
    ∃ c d front, text = front ++ [c] ∧ IsDigit c d := by
  induction written with
  | last digit => exact ⟨_, _, [], rfl, digit⟩
  | next digit rest ih =>
      obtain ⟨c, d, front, rfl, last⟩ := ih
      exact ⟨c, d, _ :: front, rfl, last⟩
  | underscore digit rest ih =>
      obtain ⟨c, d, front, rfl, last⟩ := ih
      exact ⟨c, d, _ :: '_' :: front, rfl, last⟩

theorem spanDigits_of_digits (written : Digits text digits) :
    spanDigits digitValue? text = some (digits, []) := by
  induction written with
  | last digit => simp [spanDigits, digitValue?_eq_some_iff.2 digit]
  | next digit rest ih =>
      obtain ⟨c, d, more, rfl, first⟩ := rest.head
      have plain : c ≠ '_' := first.ne (by decide)
      rw [spanDigits.eq_5 _ _ _ _ (digitValue?_eq_some_iff.2 digit), ih]
      · rfl
      · simp [plain]
      · simp [plain]
  | underscore digit rest ih =>
      obtain ⟨c, d, more, rfl, first⟩ := rest.head
      simp [spanDigits, digitValue?_eq_some_iff.2 digit, digitValue?_eq_some_iff.2 first, ih]

/-- A text that is taken for digits as a whole is one of digits, unless it is empty. -/
theorem digits_of_spanDigits (spanned : spanDigits digitValue? text = some (digits, [])) :
    text = [] ∧ digits = [] ∨ Digits text digits := by
  fun_induction spanDigits digitValue? text generalizing digits with
  | case1 =>
      cases spanned
      exact Or.inl ⟨rfl, rfl⟩
  | case2 => cases spanned
  | case3 => cases spanned
  | case4 c d next rest digit value others after spans _ ih =>
      cases spanned
      have inner := (ih spans).resolve_left (by simp)
      exact Or.inr (.underscore (digitValue?_eq_some_iff.1 digit) inner)
  | case5 => cases spanned
  | case6 c d rest _ _ digit ih =>
      have first := digitValue?_eq_some_iff.1 digit
      obtain ⟨⟨others, after⟩, spans, same⟩ := Option.map_eq_some_iff.1 spanned
      cases same
      apply Or.inr
      rcases ih spans with ⟨rfl, rfl⟩ | inner
      · exact .last first
      · exact .next first inner

end

section

variable {drop : Char → Bool}

/-- Only characters of the class are cut off a text. -/
theorem exists_of_trim (drop : Char → Bool) (text : List Char) :
    ∃ before after, text = before ++ trim drop text ++ after ∧ (∀ c ∈ before, drop c = true) ∧
      ∀ c ∈ after, drop c = true := by
  have front := List.takeWhile_append_dropWhile (p := drop) (l := text)
  have blank := List.all_eq_true.1 (List.all_takeWhile (p := drop) (l := text))
  obtain ⟨after, back, dropped⟩ := exists_of_trimEnd drop (text.dropWhile drop)
  refine ⟨text.takeWhile drop, after, ?_, blank, dropped⟩
  rw [trim, List.append_assoc, ← back, front]

/-- A text between characters of the class is what is left of it all, if it neither starts nor ends
with one. -/
theorem trim_of_framed {before core after : List Char} (front : ∀ c ∈ before, drop c = true)
    (back : ∀ c ∈ after, drop c = true) {first last : Char} {rest most : List Char}
    (starts : core = first :: rest) (head : drop first = false) (ends : core = most ++ [last])
    (tail : drop last = false) : trim drop (before ++ core ++ after) = core := by
  have kept : (core ++ after).dropWhile drop = core ++ after := by
    rw [starts, List.cons_append]
    exact List.dropWhile_cons_of_neg (by simp [head])
  rw [trim, List.append_assoc, List.dropWhile_append_of_pos front, kept, trimEnd_append,
    if_pos (trimEnd_of_all back), ends, trimEnd_append_single, tail]
  rfl

end

theorem ofDigits_eq (digits : List Nat) : ofDigits 10 digits = Nat.ofDigits 10 digits.reverse := by
  rw [Nat.ofDigits_eq_foldr, List.foldr_reverse, ofDigits]
  congr
  funext n d
  simp
  omega

theorem sign_of_splitSign {text body : List Char} {negative : Bool}
    (cut : splitSign text = (negative, body)) :
    ∃ sign unit, text = sign ++ body ∧ Sign sign unit ∧
      ∀ n : Nat, applySign negative n = unit * n := by
  unfold splitSign at cut
  split at cut
  · cases cut
    exact ⟨['-'], -1, rfl, .minus, fun n => by simp [applySign]⟩
  · cases cut
    exact ⟨['+'], 1, rfl, .plus, fun n => by simp [applySign]⟩
  · cases cut
    exact ⟨[], 1, rfl, .unsigned, fun n => by simp [applySign]⟩

theorem splitSign_of_sign {sign body : List Char} {unit : Int} {digits : List Nat}
    (signed : Sign sign unit) (written : Digits body digits) :
    ∃ negative, splitSign (sign ++ body) = (negative, body) ∧
      ∀ n : Nat, applySign negative n = unit * n := by
  cases signed with
  | unsigned =>
      obtain ⟨c, d, rest, rfl, first⟩ := written.head
      have notMinus : c ≠ '-' := first.ne (by decide)
      have notPlus : c ≠ '+' := first.ne (by decide)
      exact ⟨false, by simp [splitSign, notMinus, notPlus], fun n => by simp [applySign]⟩
  | plus => exact ⟨false, rfl, fun n => by simp [applySign]⟩
  | minus => exact ⟨true, rfl, fun n => by simp [applySign]⟩

theorem Numeral.trim {before sign body after : List Char} {unit : Int} {digits : List Nat}
    (blankBefore : ∀ c ∈ before, isNumeralBlank c = true) (signed : Sign sign unit)
    (written : Digits body digits) (blankAfter : ∀ c ∈ after, isNumeralBlank c = true) :
    Text.trim isNumeralBlank (before ++ (sign ++ body) ++ after) = sign ++ body := by
  obtain ⟨c, d, rest, starts, first⟩ := written.head
  obtain ⟨e, f, most, ends, last⟩ := written.getLast
  have lastKept : sign ++ body = (sign ++ most) ++ [e] := by rw [ends, List.append_assoc]
  cases signed with
  | unsigned =>
      exact trim_of_framed blankBefore blankAfter starts first.not_blank lastKept last.not_blank
  | plus => exact trim_of_framed blankBefore blankAfter rfl (by decide) lastKept last.not_blank
  | minus => exact trim_of_framed blankBefore blankAfter rfl (by decide) lastKept last.not_blank

theorem readInt_eq_ok_iff {text : List Char} {z : Int} :
    readInt text = .ok z ↔ Numeral text z := by
  constructor
  · intro read
    obtain ⟨before, after, whole, blankBefore, blankAfter⟩ := exists_of_trim isNumeralBlank text
    unfold readInt at read
    cases cut : splitSign (trim isNumeralBlank text) with
    | mk negative body =>
        rw [cut] at read
        obtain ⟨sign, unit, signed, kind, value⟩ := sign_of_splitSign cut
        simp only at read
        split at read
        · cases read
        · cases read
        · rename_i digits rest some spanned
          split at read
          · cases read
          · rename_i short
            split at read
            · cases read
            · rename_i none
              have same := Except.ok.inj read
              obtain rfl : rest = [] := by simpa using none
              have written := (digits_of_spanDigits spanned).resolve_left fun empty => some empty.2
              rw [← same, value, ofDigits_eq, whole, signed]
              exact .intro blankBefore kind written (Nat.not_lt.1 short) blankAfter
  · intro numeral
    obtain ⟨blankBefore, signed, written, short, blankAfter⟩ := numeral
    obtain ⟨negative, cut, value⟩ := splitSign_of_sign signed written
    unfold readInt
    rw [Numeral.trim blankBefore signed written blankAfter, cut]
    obtain ⟨d, others, rfl⟩ := List.exists_cons_of_ne_nil written.ne_nil.2
    simp only [spanDigits_of_digits written]
    rw [if_neg (Nat.not_lt.2 short), if_neg (by simp), value, ofDigits_eq]

theorem Numeral.ne_nil {text : List Char} {z : Int} (numeral : Numeral text z) : text ≠ [] := by
  obtain ⟨-, -, written, -, -⟩ := numeral
  have some := written.ne_nil.1
  simp [some]

theorem isDigit_digitChar {n : Nat} (small : n < 10) : IsDigit n.digitChar n := by
  have all : ∀ n < 10, digitValue? n.digitChar = some n := by decide
  exact digitValue?_eq_some_iff.1 (all n small)

theorem Digits.append {front back : List Char} {first second : List Nat}
    (one : Digits front first) (other : Digits back second) :
    Digits (front ++ back) (first ++ second) := by
  induction one with
  | last digit => exact .next digit other
  | next digit _ ih => exact .next digit ih
  | underscore digit _ ih => exact .underscore digit ih

/-- The usual writing of a number, in digits. -/
theorem digits_toDigits (n : Nat) :
    ∃ digits, Digits (Nat.toDigits 10 n) digits ∧ digits.length = (Nat.toDigits 10 n).length ∧
      Nat.ofDigits 10 digits.reverse = n := by
  induction n using Nat.strongRecOn with
  | ind n ih =>
      by_cases small : n < 10
      · rw [Nat.toDigits_of_lt_base small]
        exact ⟨[n], .last (isDigit_digitChar small), rfl, by simp⟩
      · have lower : n / 10 < n := by omega
        obtain ⟨digits, written, long, value⟩ := ih (n / 10) lower
        have unit : n % 10 < 10 := by omega
        rw [Nat.toDigits_of_base_le (by decide) (Nat.not_lt.1 small)]
        refine ⟨digits ++ [n % 10], written.append (.last (isDigit_digitChar unit)), ?_, ?_⟩
        · simp [long]
        · rw [List.reverse_append, List.reverse_singleton, List.singleton_append, Nat.ofDigits_cons,
            value]
          exact Nat.mod_add_div n 10

theorem numeral_toString {n : Nat} (short : (toString n).length ≤ maxDigits) :
    Numeral (toString n).toList n := by
  obtain ⟨digits, written, long, value⟩ := digits_toDigits n
  have text : (toString n).toList = Nat.toDigits 10 n := by
    rw [Nat.toString_eq_ofList_toDigits, String.toList_ofList]
  have few : digits.length ≤ maxDigits := by
    rw [long, ← text, String.length_toList]
    exact short
  have numeral := @Numeral.intro [] [] _ [] 1 digits (by simp) .unsigned written few (by simp)
  simpa [text, value] using numeral

end WatchTrial.Text
