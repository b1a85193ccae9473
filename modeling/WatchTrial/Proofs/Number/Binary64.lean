import Mathlib.Algebra.Group.Nat.Defs
import WatchTrial.Number.Binary64

set_option autoImplicit false

namespace WatchTrial.Binary64

theorem divRound_le (num den : Nat) : divRound num den ≤ num / den + 1 := by
  simp only [divRound]
  split
  · omega
  · split <;> omega

/-- A quotient is rounded to an even number or beyond just if it is at most a half below. -/
theorem le_divRound_iff (num : Nat) {den bound : Nat} (positive : 0 < den) (even : bound % 2 = 0) :
    bound ≤ divRound num den ↔ 2 * (den * bound) ≤ 2 * num + den := by
  have whole : den * (num / den) + num % den = num := Nat.div_add_mod num den
  have short : num % den < den := Nat.mod_lt num positive
  simp only [divRound]
  generalize num / den = q at whole ⊢
  generalize num % den = r at whole short ⊢
  rcases Nat.lt_trichotomy (q + 1) bound with below | rfl | above
  · -- The quotient is a whole one or more below the bound.
    have far : den * (q + 2) ≤ den * bound := Nat.mul_le_mul_left den below
    rw [Nat.mul_add] at far
    split
    · omega
    · split <;> omega
  · rw [Nat.mul_add]
    split
    · omega
    · split <;> omega
  · have near : den * bound ≤ den * q := Nat.mul_le_mul_left den (by omega)
    split
    · omega
    · split <;> omega

/-- A whole number in units of a power of two that is not negative. -/
theorem scaled_of_nonneg (n : Nat) (exponent : Nat) :
    scaled n 1 exponent = (n, twoTo exponent) := by
  rw [scaled, if_neg (by omega), Int.toNat_natCast, Nat.one_mul]

theorem scaled_of_neg (n : Nat) {exponent : Int} (below : exponent < 0) :
    scaled n 1 exponent = (n * twoTo (-exponent).toNat, 1) := if_pos below

/-- The mantissa of a whole number takes all 53 digits, so its exponent follows from its length. -/
theorem exponentOf_whole {n : Nat} (positive : 0 < n) : exponentOf n 1 = (n.log2 : Int) - 52 := by
  have least : 2 ^ n.log2 ≤ n := Nat.log2_self_le (Nat.pos_iff_ne_zero.1 positive)
  have guess : max leastExponent ((n.log2 : Int) - (Nat.log2 1 : Int) - 53) = (n.log2 : Int) - 53 := by
    have one : Nat.log2 1 = 0 := by decide
    simp only [leastExponent, one]
    omega
  have full : ¬(scaled n 1 ((n.log2 : Int) - 53)).1 / (scaled n 1 ((n.log2 : Int) - 53)).2 <
      twoTo 53 := by
    rw [Nat.not_lt]
    rcases Nat.lt_or_ge n.log2 53 with short | long
    · have shift : (-((n.log2 : Int) - 53)).toNat = 53 - n.log2 := by omega
      have lifted : 2 ^ n.log2 * 2 ^ (53 - n.log2) = 2 ^ 53 := by
        rw [← Nat.pow_add, Nat.add_sub_of_le (Nat.le_of_lt short)]
      rw [scaled_of_neg n (by omega), shift, Nat.div_one]
      calc 2 ^ 53 = 2 ^ n.log2 * 2 ^ (53 - n.log2) := lifted.symm
        _ ≤ n * 2 ^ (53 - n.log2) := Nat.mul_le_mul_right _ least
    · obtain ⟨more, length⟩ := Nat.exists_eq_add_of_le long
      have shift : (n.log2 : Int) - 53 = (more : Nat) := by omega
      rw [shift, scaled_of_nonneg]
      refine (Nat.le_div_iff_mul_le (Nat.two_pow_pos more)).2 ?_
      calc 2 ^ 53 * 2 ^ more = 2 ^ n.log2 := by rw [length, Nat.pow_add]
        _ ≤ n := least
  rw [exponentOf, guess]
  simp only [full, if_false]
  omega

/-- The mantissa that a fraction is rounded to, before a carry is taken into the exponent. -/
def roundedMantissa (num den : Nat) : Nat :=
  divRound (scaled num den (exponentOf num den)).1 (scaled num den (exponentOf num den)).2

theorem ofFraction_eq (negative : Bool) (num den : Nat) :
    ofFraction negative num den =
      if roundedMantissa num den = twoTo 53 then
        if greatestExponent < exponentOf num den + 1 then .infinite negative
        else .finite negative (twoTo 52) (exponentOf num den + 1)
      else if greatestExponent < exponentOf num den then .infinite negative
      else .finite negative (roundedMantissa num den) (exponentOf num den) := by
  by_cases carried : roundedMantissa num den = twoTo 53
  · rw [if_pos carried]
    rw [roundedMantissa] at carried
    simp only [ofFraction, carried, if_true]
  · rw [if_neg carried]
    rw [roundedMantissa] at carried ⊢
    simp only [ofFraction, carried, if_false]

/-- The least whole number that is rounded beyond all finite ones. -/
def overflow : Nat := twoTo 1024 - twoTo 970

theorem twoTo_add (m n : Nat) : twoTo (m + n) = twoTo m * twoTo n := Nat.pow_add 2 m n

theorem twoTo_succ (n : Nat) : twoTo (n + 1) = 2 * twoTo n := Nat.pow_succ'

theorem twoTo_le {m n : Nat} (less : m ≤ n) : twoTo m ≤ twoTo n :=
  Nat.pow_le_pow_right Nat.two_pos less

theorem twoTo_pos (n : Nat) : 0 < twoTo n := Nat.two_pow_pos n

/-- The length of the greatest finite numbers, in units of which a half is too much. -/
theorem overflow_le_iff (n : Nat) : overflow ≤ n ↔ 2 ^ 54 * twoTo 970 ≤ n + twoTo 970 := by
  have digits : twoTo 54 = 2 ^ 54 := rfl
  rw [overflow, Nat.sub_le_iff_le_add, ← digits, ← twoTo_add]

/-- With as many digits as the greatest finite numbers, a carry is what goes beyond them. -/
theorem roundedMantissa_eq_iff {n : Nat} (positive : 0 < n) (length : n.log2 = 1023) :
    roundedMantissa n 1 = twoTo 53 ↔ overflow ≤ n := by
  have exponent : exponentOf n 1 = (971 : Nat) := by
    rw [exponentOf_whole positive, length]
    rfl
  have units : roundedMantissa n 1 = divRound n (twoTo 971) := by
    rw [roundedMantissa, exponent, scaled_of_nonneg]
  have double : twoTo 971 = 2 * twoTo 970 := twoTo_succ 970
  have digits : twoTo 53 = 2 ^ 53 := rfl
  have quotient : n / twoTo 971 < twoTo 53 := by
    have most : n < twoTo (n.log2 + 1) := Nat.lt_log2_self
    rw [length, twoTo_add 53 971] at most
    exact (Nat.div_lt_iff_lt_mul (twoTo_pos 971)).2 most
  have upper := divRound_le n (twoTo 971)
  have even : 2 ^ 53 % 2 = 0 := by decide
  have lower := le_divRound_iff n (twoTo_pos 971) even
  rw [units, overflow_le_iff]
  rw [digits] at quotient ⊢
  -- The powers are large, so they are kept out of the arithmetic.
  generalize divRound n (twoTo 971) = m at upper lower ⊢
  generalize n / twoTo 971 = q at quotient upper
  rw [double] at lower
  clear units double
  generalize twoTo 970 = half at lower ⊢
  constructor
  · intro carried
    have enough := lower.1 (Nat.le_of_eq carried.symm)
    omega
  · intro enough
    have reached : 2 ^ 53 ≤ m := lower.2 (by omega)
    omega

/-- A whole number is rounded to an infinite one just from the least that is too large. -/
theorem exists_ofFraction_infinite_iff (negative : Bool) {n : Nat} (positive : 0 < n) :
    (∃ sign, ofFraction negative n 1 = .infinite sign) ↔ overflow ≤ n := by
  have least : twoTo n.log2 ≤ n := Nat.log2_self_le (Nat.pos_iff_ne_zero.1 positive)
  have most : n < twoTo (n.log2 + 1) := Nat.lt_log2_self
  have unit := twoTo_pos 970
  rw [ofFraction_eq, exponentOf_whole positive]
  rcases Nat.lt_trichotomy n.log2 1023 with short | length | long
  · -- Not even a carry leads beyond the greatest exponent.
    have within : ¬greatestExponent < (n.log2 : Int) - 52 + 1 := by
      simp only [greatestExponent]
      omega
    have under : ¬greatestExponent < (n.log2 : Int) - 52 := by
      simp only [greatestExponent]
      omega
    have digits : twoTo 53 = 2 ^ 53 := rfl
    have below : twoTo (n.log2 + 1) ≤ twoTo (53 + 970) := twoTo_le (by omega)
    rw [twoTo_add 53 970, digits] at below
    rw [if_neg within, if_neg under, overflow_le_iff]
    constructor
    · rintro ⟨sign, infinite⟩
      split at infinite <;> cases infinite
    · intro enough
      omega
  · have carries : greatestExponent < (1023 : Nat) - 52 + 1 := by decide
    have holds : ¬greatestExponent < (1023 : Nat) - 52 := by decide
    rw [length, if_pos carries, if_neg holds, ← roundedMantissa_eq_iff positive length]
    constructor
    · rintro ⟨sign, infinite⟩
      split at infinite
      · assumption
      · cases infinite
    · intro carried
      exact ⟨negative, if_pos carried⟩
  · have beyond : greatestExponent < (n.log2 : Int) - 52 := by
      simp only [greatestExponent]
      omega
    have further : greatestExponent < (n.log2 : Int) - 52 + 1 := by omega
    have digits : twoTo 54 = 2 ^ 54 := rfl
    have above : twoTo (54 + 970) ≤ twoTo n.log2 := twoTo_le long
    rw [twoTo_add 54 970, digits] at above
    rw [if_pos further, if_pos beyond, ite_self, overflow_le_iff]
    exact ⟨fun _ => by omega, fun _ => ⟨negative, rfl⟩⟩

/-- No number is near to a whole one that is too large, and one is to every other. -/
theorem ofInt?_eq_none_iff (n : Int) : ofInt? n = none ↔ overflow ≤ n.natAbs := by
  rcases Nat.eq_zero_or_pos n.natAbs with zero | positive
  · have least : 0 < overflow := by decide +kernel
    have found : ofInt? 0 ≠ none := by decide
    rw [Int.natAbs_eq_zero.1 zero]
    exact ⟨fun missing => absurd missing found, fun large => absurd large (Nat.not_le.2 least)⟩
  · refine Iff.trans ?_ (exists_ofFraction_infinite_iff (decide (n < 0)) positive)
    unfold ofInt?
    cases ofFraction (decide (n < 0)) n.natAbs 1 with
    | finite negative mantissa exponent => simp
    | infinite negative => simp
    | nan => simp

/-- What a number amounts to is not below zero, and is anything at all. -/
def AtLeastZero (x : Binary64) : Prop :=
  match x.quantity with
  | .exact num _ => 0 ≤ num
  | .beyond negative => negative = false
  | .undefined => False

theorem fraction_eq_zero_iff (mantissa : Nat) (exponent : Int) :
    (fraction mantissa exponent).1 = 0 ↔ mantissa = 0 := by
  unfold fraction
  split
  · exact Iff.rfl
  · have unit := twoTo_pos exponent.toNat
    rw [Nat.mul_eq_zero]
    omega

theorem atLeastZero_iff (x : Binary64) : x.AtLeastZero ↔ x.isNegative = false ∧ x ≠ .nan := by
  cases x with
  | nan => simp [AtLeastZero, quantity]
  | infinite negative => simp [AtLeastZero, quantity, isNegative]
  | finite negative mantissa exponent =>
      have none := fraction_eq_zero_iff mantissa exponent
      cases negative with
      | false => simp [AtLeastZero, quantity, isNegative]
      | true =>
          simp only [AtLeastZero, quantity, isNegative, if_true, Bool.true_and, bne_eq_false_iff_eq,
            ne_eq, reduceCtorEq, not_false_eq_true, and_true, ← none]
          omega

theorem ofFraction_cases (negative : Bool) (num den : Nat) :
    ofFraction negative num den = .infinite negative ∨
      ∃ mantissa exponent, ofFraction negative num den = .finite negative mantissa exponent := by
  rw [ofFraction_eq]
  generalize exponentOf num den = exponent
  generalize roundedMantissa num den = mantissa
  generalize twoTo 53 = carried
  split
  · split
    · exact Or.inl rfl
    · exact Or.inr ⟨_, _, rfl⟩
  · split
    · exact Or.inl rfl
    · exact Or.inr ⟨_, _, rfl⟩

theorem atLeastZero_of_ofInt? {n : Int} {x : Binary64} (above : 0 ≤ n) (near : ofInt? n = some x) :
    x.AtLeastZero := by
  have sign : decide (n < 0) = false := decide_eq_false (Int.not_lt.2 above)
  unfold ofInt? at near
  rw [sign] at near
  rcases ofFraction_cases false n.natAbs 1 with infinite | ⟨mantissa, exponent, finite⟩
  · rw [infinite] at near
    simp at near
  · rw [finite] at near
    have same : .finite false mantissa exponent = x := Option.some.inj near
    rw [← same, atLeastZero_iff]
    exact ⟨rfl, Binary64.noConfusion⟩

end WatchTrial.Binary64
