import BeaconCheck.Definition.Reader
import BeaconCheck.Proofs.Number.Range
import Mathlib.Algebra.Order.Floor.Semifield

/-!
# Numbers as durations

A duration is refused if it is below zero, and loses its fraction. Every number that is zero or
above passes the check, and so does not-a-number, which is neither below zero nor above. Of the
numbers that pass, the finite ones have an integer part.

* `Number.AtLeastZero`         — the numbers that a duration may be.
* `Number.Unmeasurable`        — the numbers that pass the check and have no integer part.
* `isBelowZero_eq_false_iff`   — which numbers pass the check.
* `truncate_of_passed`         — what is left of them.
-/

namespace BeaconCheck

namespace Binary64

theorem scale_div (mantissa : Nat) (exponent : Int) :
    ((scale mantissa exponent).1 : ℚ) / (scale mantissa exponent).2 =
      mantissa * 2 ^ exponent := by
  have hDen : ((scale mantissa exponent).2 : ℚ) ≠ 0 := by
    exact_mod_cast (scale_snd_pos mantissa exponent).ne'
  rw [scale_eq, mul_div_assoc, div_self hDen, mul_one]

/-- **The value of a finite number**: its magnitude with its sign. -/
theorem toRat?_finite (negative : Bool) (mantissa : Nat) (exponent : Int) :
    (finite negative mantissa exponent).toRat? =
      some (if negative then -((mantissa : ℚ) * 2 ^ exponent)
        else (mantissa : ℚ) * 2 ^ exponent) := by
  rw [← scale_div]
  simp only [toRat?, Rat.mkRat_eq_div]
  cases negative with
  | false => simp only [Bool.false_eq_true, if_false, Int.cast_natCast]
  | true => simp only [if_true, Int.cast_neg, Int.cast_natCast, neg_div]

end Binary64

namespace Number

/-- The number is zero or above: a finite one, or the infinity above all of them.
Not-a-number is not. -/
def AtLeastZero (n : Number) : Prop :=
  n = .float (.infinite false) ∨ ∃ r, n.toRat? = some r ∧ 0 ≤ r

/-- The number is not below zero and has no integer part: the crash is that of dropping its
fraction. -/
inductive Unmeasurable : Number → Crash → Prop
  | nan : Unmeasurable (.float .nan) .nanToInteger
  | infinite : Unmeasurable (.float (.infinite false)) .infinityToInteger

/-- A number with a value passes the check exactly if its value is zero or above. -/
theorem isBelowZero_of_toRat? {n : Number} {r : ℚ} (h : n.toRat? = some r) :
    FieldReading.isBelowZero n = false ↔ 0 ≤ r := by
  unfold FieldReading.isBelowZero
  cases n with
  | int i =>
    obtain rfl : (i : ℚ) = r := Option.some.inj h
    rw [Int.cast_nonneg_iff]
    simp only [isNegative, isZero, Bool.and_eq_false_iff, decide_eq_false_iff_not,
      Bool.not_eq_false', beq_iff_eq]
    omega
  | float x =>
    cases x with
    | nan => cases h
    | infinite negative => cases h
    | finite negative mantissa exponent =>
      rw [toRat?, Binary64.toRat?_finite] at h
      obtain rfl := Option.some.inj h
      have hUnit : (0 : ℚ) < 2 ^ exponent := zpow_pos two_pos _
      cases negative with
      | false =>
        refine iff_of_true rfl ?_
        rw [if_neg Bool.false_ne_true]
        positivity
      | true =>
        -- a sign makes no difference to zero
        rcases Nat.eq_zero_or_pos mantissa with rfl | hMantissa
        · exact iff_of_true rfl (by simp)
        · have hBelow : isNegative (.float (.finite true mantissa exponent)) = true := by
            simp [isNegative, Binary64.isNegative, hMantissa.ne']
          have hNonzero : isZero (.float (.finite true mantissa exponent)) = false := by
            simp [isZero, Binary64.isZero, hMantissa.ne']
          rw [hBelow, hNonzero]
          refine iff_of_false (by decide) ?_
          rw [if_pos rfl, not_le, neg_lt_zero]
          positivity

/-- **Which numbers pass the check** that a duration is not below zero. -/
theorem isBelowZero_eq_false_iff (n : Number) :
    FieldReading.isBelowZero n = false ↔ n.AtLeastZero ∨ n = .float .nan := by
  cases hValue : n.toRat? with
  | some r =>
    rw [isBelowZero_of_toRat? hValue]
    constructor
    · exact fun h => .inl (.inr ⟨r, hValue, h⟩)
    · rintro ((rfl | ⟨r', hSame, h⟩) | rfl)
      · cases hValue
      · rw [hValue] at hSame
        obtain rfl := Option.some.inj hSame
        exact h
      · cases hValue
  | none =>
    -- neither an integer nor finite
    cases n with
    | int i => cases hValue
    | float x =>
      cases x with
      | nan => exact iff_of_true rfl (.inr rfl)
      | infinite negative =>
        cases negative with
        | false => exact iff_of_true rfl (.inl (.inl rfl))
        | true =>
          refine iff_of_false (by decide) ?_
          rintro ((h | ⟨r, h, -⟩) | h)
          · cases h
          · cases h
          · cases h
      | finite negative mantissa exponent => cases hValue

/-- What is left of a number that is zero or above. -/
theorem truncate_of_atLeast {n : Number} {r : ℚ} (h : n.toRat? = some r) (hAtLeast : 0 ≤ r) :
    n.truncate = .ok (⌊r⌋₊ : Int) := by
  cases n with
  | int i =>
    obtain rfl : (i : ℚ) = r := Option.some.inj h
    rw [Int.cast_nonneg_iff] at hAtLeast
    obtain ⟨k, rfl⟩ := Int.eq_ofNat_of_zero_le hAtLeast
    rw [Int.cast_natCast, Nat.floor_natCast]
    rfl
  | float x =>
    cases x with
    | nan => cases h
    | infinite negative => cases h
    | finite negative mantissa exponent =>
      rw [toRat?, Binary64.toRat?_finite] at h
      obtain rfl := Option.some.inj h
      have hFloor : ⌊(mantissa : ℚ) * 2 ^ exponent⌋₊ =
          (Binary64.scale mantissa exponent).1 / (Binary64.scale mantissa exponent).2 := by
        rw [← Binary64.scale_div, Nat.floor_div_eq_div]
      cases negative with
      | false =>
        rw [if_neg Bool.false_ne_true, hFloor]
        rfl
      | true =>
        -- only a zero has a sign and is not below zero
        rw [if_pos rfl, neg_nonneg] at hAtLeast
        have hUnit : (0 : ℚ) < 2 ^ exponent := zpow_pos two_pos _
        have hZero : mantissa = 0 := by
          by_contra hNot
          have hPos : (0 : ℚ) < mantissa := by exact_mod_cast Nat.pos_of_ne_zero hNot
          exact absurd hAtLeast (not_le.mpr (mul_pos hPos hUnit))
        subst hZero
        have hNum : (Binary64.scale 0 exponent).1 = 0 := by
          unfold Binary64.scale
          split
          · exact Nat.zero_mul _
          · rfl
        simp [truncate, Binary64.truncate, hNum]

/-- **Which numbers have an integer part**: of those that pass the check all but two. -/
theorem truncate_of_passed {n : Number} (h : FieldReading.isBelowZero n = false) :
    (∃ r, n.toRat? = some r ∧ 0 ≤ r ∧ n.truncate = .ok (⌊r⌋₊ : Int)) ∨
      ∃ c, n.Unmeasurable c ∧ n.truncate = .error c := by
  rcases (isBelowZero_eq_false_iff n).mp h with (rfl | ⟨r, hValue, hAtLeast⟩) | rfl
  · exact .inr ⟨_, .infinite, rfl⟩
  · exact .inl ⟨r, hValue, hAtLeast, truncate_of_atLeast hValue hAtLeast⟩
  · exact .inr ⟨_, .nan, rfl⟩

end Number

end BeaconCheck
