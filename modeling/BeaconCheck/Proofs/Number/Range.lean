import BeaconCheck.Number.Basic
import Mathlib.Algebra.Order.Floor.Semiring
import Mathlib.Data.Int.Log
import Mathlib.Data.Rat.Floor
import Mathlib.Tactic.Linarith
import Mathlib.Tactic.Positivity
import Mathlib.Tactic.Ring

/-!
# The range of binary64 numbers

A quotient is too large for a binary64 number from the middle between the largest finite
number and the power of two behind it on: the middle itself rounds to the power of two,
whose mantissa is even. Integers that are too large to be converted, and timeouts whose
thousandth is too large, are told by this one bound.

* `Binary64.overflow`              — the least magnitude that is too large.
* `Binary64.lastPlace_eq`          — the exponent of a quotient is its binary logarithm.
* `Binary64.ofRatio_isInfinite_iff` — which quotients are too large.
* `Binary64.ofInt?_eq_none_iff`    — which integers are.
* `Number.toBinary64_eq_error_iff` — which numbers cannot be converted.
* `integerText_eq_error_iff`       — which integers cannot be written.
-/

namespace BeaconCheck

namespace Binary64

/-- The least magnitude that is too large for a finite number: the middle between the largest
one, `(2 ^ 53 - 1) · 2 ^ 971`, and `2 ^ 1024`. -/
@[irreducible] def overflow : Nat := (2 ^ 54 - 1) * 2 ^ 970

theorem one_lt_overflow : 1 < overflow := by
  have hPower : 0 < 2 ^ 970 := by positivity
  unfold overflow
  omega

/-! ## Scaling by a power of two -/

theorem scale_snd_pos (n : Nat) (e : Int) : 0 < (scale n e).2 := by
  unfold scale
  split
  · exact Nat.one_pos
  · exact Nat.two_pow_pos _

/-- Numerator and denominator of a scaled number are those of its value. -/
theorem scale_eq (n : Nat) (e : Int) :
    ((scale n e).1 : ℚ) = n * 2 ^ e * (scale n e).2 := by
  unfold scale
  -- a power of two is multiplied to one side or to the other
  split
  · next h =>
    obtain ⟨k, rfl⟩ := Int.eq_ofNat_of_zero_le h
    simp
  · next h =>
    obtain ⟨k, hk⟩ := Int.eq_ofNat_of_zero_le (show 0 ≤ -e by omega)
    have hPow : (2 : ℚ) ^ e * 2 ^ k = 1 := by
      rw [← zpow_natCast (2 : ℚ) k, ← zpow_add₀ two_ne_zero, ← hk, add_neg_cancel, zpow_zero]
    rw [hk, Int.toNat_natCast]
    push_cast
    rw [Nat.pow_eq, Nat.cast_pow, Nat.cast_ofNat, mul_assoc, hPow, mul_one]

/-! ## The exponent of a quotient -/

/-- The binary length of a positive number is that of its logarithm. -/
theorem log2_bounds {n : Nat} (h : 0 < n) :
    (2 : ℚ) ^ (n.log2 : Int) ≤ n ∧ (n : ℚ) < 2 ^ ((n.log2 : Int) + 1) := by
  have hLow : 2 ^ n.log2 ≤ n := Nat.log2_self_le (by omega)
  have hHigh : n < 2 ^ (n.log2 + 1) := Nat.lt_log2_self
  constructor
  · rw [zpow_natCast]
    exact_mod_cast hLow
  · have hExponent : ((n.log2 : Int) + 1) = ((n.log2 + 1 : Nat) : Int) := by push_cast; rfl
    rw [hExponent, zpow_natCast]
    exact_mod_cast hHigh

theorem lt_two_zpow_iff {q : ℚ} (hq : 0 < q) (k : Int) : q < 2 ^ k ↔ Int.log 2 q < k := by
  rw [← Int.lt_zpow_iff_log_lt one_lt_two hq, Nat.cast_ofNat]

theorem two_zpow_le_iff {q : ℚ} (hq : 0 < q) (k : Int) : 2 ^ k ≤ q ↔ k ≤ Int.log 2 q := by
  rw [← Int.zpow_le_iff_le_log one_lt_two hq, Nat.cast_ofNat]

/-- **The exponent of the last place** is that of the leading bit less 52, but not below that
of the subnormal numbers. -/
theorem lastPlace_eq {num den : Nat} (hNum : 0 < num) (hDen : 0 < den) :
    lastPlace num den = max (Int.log 2 ((num : ℚ) / den) - 52) minExponent := by
  have hDen' : (0 : ℚ) < den := by exact_mod_cast hDen
  have hQuotient : (0 : ℚ) < (num : ℚ) / den := by positivity
  obtain ⟨hNumLow, hNumHigh⟩ := log2_bounds hNum
  obtain ⟨hDenLow, hDenHigh⟩ := log2_bounds hDen
  -- the difference of the binary lengths is the logarithm, or one more
  have hGuessHigh : (num : ℚ) / den < 2 ^ ((num.log2 : Int) - den.log2 + 1) := by
    rw [div_lt_iff₀ hDen']
    calc (num : ℚ) < 2 ^ ((num.log2 : Int) + 1) := hNumHigh
      _ = 2 ^ ((num.log2 : Int) - den.log2 + 1) * 2 ^ (den.log2 : Int) := by
        rw [← zpow_add₀ two_ne_zero]
        congr 1
        omega
      _ ≤ 2 ^ ((num.log2 : Int) - den.log2 + 1) * den :=
        mul_le_mul_of_nonneg_left hDenLow (zpow_nonneg zero_le_two _)
  have hGuessLow : (2 : ℚ) ^ ((num.log2 : Int) - den.log2 - 1) ≤ (num : ℚ) / den := by
    rw [le_div_iff₀ hDen']
    calc (2 : ℚ) ^ ((num.log2 : Int) - den.log2 - 1) * den
        ≤ 2 ^ ((num.log2 : Int) - den.log2 - 1) * 2 ^ ((den.log2 : Int) + 1) :=
          mul_le_mul_of_nonneg_left hDenHigh.le (zpow_nonneg zero_le_two _)
      _ = 2 ^ (num.log2 : Int) := by
        rw [← zpow_add₀ two_ne_zero]
        congr 1
        omega
      _ ≤ num := hNumLow
  have hLogHigh : Int.log 2 ((num : ℚ) / den) < (num.log2 : Int) - den.log2 + 1 :=
    (lt_two_zpow_iff hQuotient _).mp hGuessHigh
  have hLogLow : (num.log2 : Int) - den.log2 - 1 ≤ Int.log 2 ((num : ℚ) / den) :=
    (two_zpow_le_iff hQuotient _).mp hGuessLow
  -- comparing with the scaled denominator decides between the two
  have hGuess : (scale den ((num.log2 : Int) - den.log2)).1 ≤
      num * (scale den ((num.log2 : Int) - den.log2)).2 ↔
      (num.log2 : Int) - den.log2 ≤ Int.log 2 ((num : ℚ) / den) := by
    have hPos : (0 : ℚ) < (scale den ((num.log2 : Int) - den.log2)).2 := by
      exact_mod_cast scale_snd_pos den _
    rw [← two_zpow_le_iff hQuotient, ← Nat.cast_le (α := ℚ), Nat.cast_mul, scale_eq,
      mul_le_mul_iff_of_pos_right hPos, le_div_iff₀ hDen', mul_comm]
  unfold lastPlace
  simp only [hGuess]
  split <;> congr 1 <;> omega

/-! ## Rounding a quotient -/

/-- Rounding does not pass a natural that bounds the quotient. -/
theorem roundQuotient_le {num den n : Nat} (hDen : 0 < den) (h : num ≤ n * den) :
    roundQuotient num den ≤ n := by
  have hSplit : den * (num / den) + num % den = num := Nat.div_add_mod num den
  have hRest : num % den < den := Nat.mod_lt num hDen
  have hQuotient : num / den ≤ n := Nat.div_le_of_le_mul (by rwa [Nat.mul_comm])
  unfold roundQuotient
  simp only []
  -- below the bound there is room for rounding up
  rcases Nat.lt_or_eq_of_le hQuotient with hLess | hEqual
  · split
    · exact hQuotient
    · split
      · exact hLess
      · split
        · exact hQuotient
        · exact hLess
  · -- the quotient is the bound itself, so nothing is left over
    have hNothing : num % den = 0 := by
      rw [hEqual, Nat.mul_comm den n] at hSplit
      omega
    rw [hNothing, if_pos (by omega)]
    exact hQuotient

/-- A quotient rounds to an even number or beyond from half below it on. -/
theorem le_roundQuotient_iff {num den n : Nat} (hDen : 0 < den) (hEven : n % 2 = 0) :
    n ≤ roundQuotient num den ↔ 2 * n * den ≤ 2 * num + den := by
  have hSplit : den * (num / den) + num % den = num := Nat.div_add_mod num den
  have hRest : num % den < den := Nat.mod_lt num hDen
  unfold roundQuotient
  simp only []
  generalize num / den = quotient at hSplit ⊢
  generalize num % den = rest at hSplit hRest ⊢
  subst hSplit
  -- the distance of `n` from the whole part decides, and next to it what is left over does
  rcases Nat.lt_trichotomy n (quotient + 1) with hLess | rfl | hMore
  · have hProduct : n * den ≤ quotient * den := Nat.mul_le_mul_right den (by omega)
    have hRight : 2 * n * den ≤ 2 * (den * quotient + rest) + den := by
      have hComm : den * quotient = quotient * den := Nat.mul_comm _ _
      have hTwice : 2 * n * den = 2 * (n * den) := Nat.mul_assoc _ _ _
      omega
    have hLeft : n ≤ quotient := by omega
    refine iff_of_true ?_ hRight
    split
    · exact hLeft
    · split
      · omega
      · split <;> omega
  · have hProduct : 2 * (quotient + 1) * den = 2 * (den * quotient) + 2 * den := by ring
    rw [hProduct]
    split
    · omega
    · split
      · omega
      · split <;> omega
  · have hProduct : (quotient + 2) * den ≤ n * den := Nat.mul_le_mul_right den (by omega)
    have hExpand : (quotient + 2) * den = den * quotient + 2 * den := by ring
    have hTwice : 2 * n * den = 2 * (n * den) := Nat.mul_assoc _ _ _
    refine iff_of_false ?_ (by omega)
    split
    · omega
    · split
      · omega
      · split <;> omega

/-- A quotient scaled by a power of two has numerator and denominator in proportion to the
quotient and the power. -/
theorem exists_scaled (num : Nat) {den : Nat} (hDen : 0 < den) (place : Int) :
    ∃ factor : ℚ, 0 < factor ∧
      ((num * (scale den place).2 : Nat) : ℚ) = (num : ℚ) / den * factor ∧
      ((scale den place).1 : ℚ) = 2 ^ place * factor := by
  have hDen' : (0 : ℚ) < den := by exact_mod_cast hDen
  have hOne : (0 : ℚ) < (scale den place).2 := by exact_mod_cast scale_snd_pos den place
  refine ⟨den * (scale den place).2, mul_pos hDen' hOne, ?_, ?_⟩
  · rw [Nat.cast_mul, ← mul_assoc, div_mul_cancel₀ _ hDen'.ne']
  · rw [scale_eq]
    ring

/-- Rounding a scaled quotient does not pass a natural that bounds it. -/
theorem roundQuotient_scale_le {num den n : Nat} (hDen : 0 < den) {place : Int}
    (h : (num : ℚ) / den ≤ n * 2 ^ place) :
    roundQuotient (num * (scale den place).2) (scale den place).1 ≤ n := by
  obtain ⟨factor, hFactor, hNum, hUnit⟩ := exists_scaled num hDen place
  have hUnitPos : (0 : ℚ) < (scale den place).1 := by
    rw [hUnit]
    exact mul_pos (zpow_pos two_pos _) hFactor
  refine roundQuotient_le (by exact_mod_cast hUnitPos) ?_
  rw [← Nat.cast_le (α := ℚ), hNum, Nat.cast_mul n, hUnit, ← mul_assoc]
  exact mul_le_mul_of_nonneg_right h hFactor.le

/-- A scaled quotient rounds to an even number or beyond from half below it on. -/
theorem le_roundQuotient_scale_iff (num : Nat) {den n : Nat} (hDen : 0 < den)
    (hEven : n % 2 = 0) (place : Int) :
    n ≤ roundQuotient (num * (scale den place).2) (scale den place).1 ↔
      (2 * n - 1) * (2 : ℚ) ^ place ≤ 2 * ((num : ℚ) / den) := by
  -- both sides are multiplied by the factor of the scale, which makes them integers
  obtain ⟨factor, hFactor, hNum, hUnit⟩ := exists_scaled num hDen place
  have hUnitPos : (0 : ℚ) < (scale den place).1 := by
    rw [hUnit]
    exact mul_pos (zpow_pos two_pos _) hFactor
  have hLeft : (2 * n * (scale den place).1 : Nat) =
      (2 * n - 1) * (2 : ℚ) ^ place * factor + 2 ^ place * factor := by
    rw [Nat.cast_mul, Nat.cast_mul, hUnit, Nat.cast_ofNat]
    ring
  have hRight : (2 * (num * (scale den place).2) + (scale den place).1 : Nat) =
      2 * ((num : ℚ) / den) * factor + 2 ^ place * factor := by
    rw [Nat.cast_add, Nat.cast_mul 2, hNum, hUnit, Nat.cast_ofNat, mul_assoc]
  rw [le_roundQuotient_iff (by exact_mod_cast hUnitPos) hEven, ← Nat.cast_le (α := ℚ), hLeft,
    hRight, add_le_add_iff_right, mul_le_mul_iff_of_pos_right hFactor]

/-! ## Numbers that are too large -/

/-- The number is an infinity. -/
def isInfinite : Binary64 → Bool
  | .infinite _ => true
  | .nan | .finite .. => false

/-- Rounding leaves the finite numbers behind the largest exponent, and at it if the mantissa
needs one bit more. -/
theorem ofRatio_isInfinite (negative : Bool) {num : Nat} (den : Nat) (hNum : 0 < num) :
    (ofRatio negative num den).isInfinite = true ↔
      maxExponent < lastPlace num den ∨ lastPlace num den = maxExponent ∧
        roundQuotient (num * (scale den (lastPlace num den)).2)
          (scale den (lastPlace num den)).1 = Nat.pow 2 53 := by
  unfold ofRatio
  rw [if_neg (Nat.ne_of_gt hNum)]
  simp only []
  -- rounding up to the next power of two moves the exponent on by one
  by_cases hCarry : roundQuotient (num * (scale den (lastPlace num den)).2)
      (scale den (lastPlace num den)).1 = Nat.pow 2 53
  · rw [if_pos hCarry]
    simp only [hCarry, and_true]
    split
    · next h => simp only [isInfinite, true_iff]; omega
    · next h => simp only [isInfinite, Bool.false_eq_true, false_iff]; omega
  · rw [if_neg hCarry]
    simp only [hCarry, and_false, or_false]
    split
    · next h => simp only [isInfinite, h]
    · next h => simp only [isInfinite, Bool.false_eq_true, h]

/-- The powers of two next to the bound, in units of the last place but one of the numbers
there. -/
theorem two_zpow_units (k : Nat) : (2 : ℚ) ^ (970 + k : Int) = 2 ^ k * 2 ^ (970 : Int) := by
  rw [zpow_add₀ two_ne_zero, zpow_natCast, mul_comm]

theorem cast_overflow : (overflow : ℚ) = (2 ^ 54 - 1) * 2 ^ (970 : Int) := by
  have hFactor : ((2 ^ 54 - 1 : Nat) : ℚ) = 2 ^ 54 - 1 := by norm_num only
  have hPower : ((2 ^ 970 : Nat) : ℚ) = 2 ^ (970 : Int) := by
    rw [Nat.cast_pow, Nat.cast_ofNat, ← zpow_natCast, Nat.cast_ofNat]
  unfold overflow
  rw [Nat.cast_mul, hFactor, hPower]

/-- With the largest leading bit of finite numbers, a quotient is too large if rounding carries. -/
theorem ofRatio_isInfinite_iff_of_log (negative : Bool) {num den : Nat} (hNum : 0 < num)
    (hDen : 0 < den) (hAt : Int.log 2 ((num : ℚ) / den) = 1023) :
    (ofRatio negative num den).isInfinite = true ↔ (overflow : ℚ) ≤ (num : ℚ) / den := by
  have hUnit : (0 : ℚ) < 2 ^ (970 : Int) := zpow_pos two_pos _
  have h971 : (2 : ℚ) ^ (971 : Int) = 2 ^ 1 * 2 ^ (970 : Int) := two_zpow_units 1
  have h1024 : (2 : ℚ) ^ (1024 : Int) = 2 ^ 54 * 2 ^ (970 : Int) := two_zpow_units 54
  have hDen' : (0 : ℚ) < den := by exact_mod_cast hDen
  have hNum' : (0 : ℚ) < num := by exact_mod_cast hNum
  have hLarge : (num : ℚ) / den < 2 ^ (1024 : Int) :=
    (lt_two_zpow_iff (div_pos hNum' hDen') 1024).mpr (by omega)
  have hLast : lastPlace num den = 971 := by
    rw [lastPlace_eq hNum hDen, hAt]
    rfl
  have hReach := le_roundQuotient_scale_iff num hDen
    (show Nat.pow 2 53 % 2 = 0 from rfl) 971
  -- the mantissa has 53 bits, so rounding carries exactly if it gives the next power of two
  have hCeiling : roundQuotient (num * (scale den 971).2) (scale den 971).1 ≤ Nat.pow 2 53 := by
    refine roundQuotient_scale_le hDen (hLarge.le.trans_eq ?_)
    rw [h1024, h971, Nat.pow_eq, Nat.cast_pow, Nat.cast_ofNat]
    ring
  have hFull : roundQuotient (num * (scale den 971).2) (scale den 971).1 = Nat.pow 2 53 ↔
      (2 * (Nat.pow 2 53 : Nat) - 1) * (2 : ℚ) ^ (971 : Int) ≤ 2 * ((num : ℚ) / den) := by
    rw [← hReach]
    omega
  rw [ofRatio_isInfinite negative den hNum, cast_overflow, hLast, maxExponent, hFull, h971,
    Nat.pow_eq, Nat.cast_pow, Nat.cast_ofNat]
  generalize (2 : ℚ) ^ (970 : Int) = u at hUnit ⊢
  constructor
  · intro h
    rcases h with h | ⟨-, h⟩
    · omega
    · linarith
  · intro h
    refine Or.inr ⟨rfl, ?_⟩
    linarith

/-- **A quotient is too large** from the middle behind the largest finite number on. -/
theorem ofRatio_isInfinite_iff (negative : Bool) {num den : Nat} (hDen : 0 < den) :
    (ofRatio negative num den).isInfinite = true ↔ (overflow : ℚ) ≤ (num : ℚ) / den := by
  have hUnit : (0 : ℚ) < 2 ^ (970 : Int) := zpow_pos two_pos _
  rcases Nat.eq_zero_or_pos num with rfl | hNum
  · have hPositive : (0 : ℚ) < (2 ^ 54 - 1) * 2 ^ (970 : Int) :=
      mul_pos (by norm_num only) hUnit
    rw [cast_overflow]
    refine iff_of_false ?_ ?_
    · simp only [ofRatio, if_pos, zero, isInfinite, Bool.false_eq_true, not_false_eq_true]
    · rwa [Nat.cast_zero, zero_div, not_le]
  have hDen' : (0 : ℚ) < den := by exact_mod_cast hDen
  have hNum' : (0 : ℚ) < num := by exact_mod_cast hNum
  have hQuotient : (0 : ℚ) < (num : ℚ) / den := div_pos hNum' hDen'
  have hPlace := lastPlace_eq hNum hDen
  rw [minExponent] at hPlace
  -- the leading bit is below the largest one of finite numbers, is that one, or above
  rcases lt_trichotomy (Int.log 2 ((num : ℚ) / den)) 1023 with hBelow | hAt | hAbove
  · have hSmall : (num : ℚ) / den < 2 ^ (1023 : Int) :=
      (lt_two_zpow_iff hQuotient _).mpr hBelow
    rw [ofRatio_isInfinite negative den hNum, cast_overflow]
    refine iff_of_false ?_ ?_
    · rw [hPlace, maxExponent]
      omega
    · rw [show (1023 : Int) = 970 + (53 : Nat) from rfl, two_zpow_units] at hSmall
      generalize (2 : ℚ) ^ (970 : Int) = u at hUnit hSmall ⊢
      linarith
  · exact ofRatio_isInfinite_iff_of_log negative hNum hDen hAt
  · have hHuge : (2 : ℚ) ^ (1024 : Int) ≤ (num : ℚ) / den :=
      (two_zpow_le_iff hQuotient _).mpr hAbove
    rw [ofRatio_isInfinite negative den hNum, cast_overflow]
    refine iff_of_true (Or.inl ?_) ?_
    · rw [hPlace, maxExponent]
      omega
    · rw [show (1024 : Int) = 970 + (54 : Nat) from rfl, two_zpow_units] at hHuge
      generalize (2 : ℚ) ^ (970 : Int) = u at hUnit hHuge ⊢
      linarith

/-- A rational is too large from the same bound on, whatever its sign. -/
theorem ofRat_isInfinite_iff (zeroNegative : Bool) (r : ℚ) :
    (ofRat zeroNegative r).isInfinite = true ↔ (overflow : ℚ) ≤ |r| := by
  -- the absolute value is the quotient that is rounded
  have hAbs : |r| = (r.num.natAbs : ℚ) / r.den := by
    rw [Nat.cast_natAbs, Int.cast_abs]
    conv_lhs => rw [← Rat.num_div_den r]
    rw [abs_div, Nat.abs_cast]
  unfold ofRat
  by_cases hZero : r.num = 0
  · have hOverflow : (0 : ℚ) < overflow := by exact_mod_cast zero_lt_one.trans one_lt_overflow
    rw [if_pos hZero, hAbs, hZero, Int.natAbs_zero, Nat.cast_zero, zero_div]
    exact iff_of_false Bool.false_ne_true hOverflow.not_ge
  · rw [if_neg hZero, hAbs]
    exact ofRatio_isInfinite_iff _ r.den_pos

/-- **An integer is too large** to be converted from the same bound on. -/
theorem ofInt?_eq_none_iff (i : Int) : ofInt? i = none ↔ overflow ≤ i.natAbs := by
  have hBound : (ofRatio (i < 0) i.natAbs 1).isInfinite = true ↔ _ :=
    ofRatio_isInfinite_iff _ Nat.one_pos
  rw [Nat.cast_one, div_one, Nat.cast_le] at hBound
  rw [← hBound, ofInt?]
  cases ofRatio (i < 0) i.natAbs 1 with
  | nan => exact iff_of_false nofun nofun
  | infinite negative => exact iff_of_true rfl rfl
  | finite negative mantissa exponent => exact iff_of_false nofun nofun

end Binary64

/-- **A number cannot be converted** to binary64 exactly if it is an integer that is too
large. -/
theorem Number.toBinary64_eq_error_iff {n : Number} {c : Crash} :
    n.toBinary64 = .error c ↔
      c = .integerTooLarge ∧ ∃ i : Int, n = .int i ∧ Binary64.overflow ≤ i.natAbs := by
  cases n with
  | float x => exact iff_of_false nofun fun ⟨_, _, h, _⟩ => nomatch h
  | int i =>
    simp only [toBinary64, Number.int.injEq, exists_eq_left', ← Binary64.ofInt?_eq_none_iff]
    cases Binary64.ofInt? i with
    | none => simp only [Except.error.injEq, and_true, eq_comm]
    | some x => simp only [reduceCtorEq, and_false]

/-- An integer with few enough digits is written. -/
theorem integerText_of_lt {i : Int} (h : i.natAbs < digitBound) :
    integerText i = .ok (toString i) := by
  unfold integerText
  rw [if_pos h]

/-- **An integer cannot be written** exactly if it has more digits than are written. -/
theorem integerText_eq_error_iff {i : Int} {c : Crash} :
    integerText i = .error c ↔ c = .tooLongToWrite ∧ digitBound ≤ i.natAbs := by
  unfold integerText
  split
  · next h =>
    refine iff_of_false nofun ?_
    omega
  · next h =>
    rw [Except.error.injEq, eq_comm]
    exact ⟨fun hc => ⟨hc, by omega⟩, fun ⟨hc, _⟩ => hc⟩

end BeaconCheck
