/-!
# Binary64 numbers

The floating-point numbers of documents and pages: not-a-number, the two
infinities, and the signed dyadic rationals `mantissa · 2 ^ exponent` with at
most 53 bits of mantissa. Every number here is exact data, so comparing,
truncating and rounding are integer arithmetic and can be reasoned about.

* `Binary64.ofRatio` rounds a quotient of naturals to the nearest number, a
  half to the even neighbour.
* `Binary64.toRat?` is the value of a finite number; `Binary64.equals` compares
  by value, so the two zeros are equal and not-a-number equals nothing.
-/

namespace BeaconCheck

/-- A binary floating-point number of 64 bits. The zeros are the finite numbers
of mantissa `0`. -/
inductive Binary64 where
  | nan
  | infinite (negative : Bool)
  | finite (negative : Bool) (mantissa : Nat) (exponent : Int)
deriving DecidableEq, Repr, Inhabited

namespace Binary64

/-- The exponent of the subnormal numbers and of zero. -/
def minExponent : Int := -1074

/-- The largest exponent of a finite number. -/
def maxExponent : Int := 971

/-- Zero, with its sign. -/
def zero (negative : Bool) : Binary64 :=
  .finite negative 0 minExponent

/-- The quotient rounded to the nearest natural, a half to the even one. -/
def roundQuotient (num den : Nat) : Nat :=
  let quotient := num / den
  let twice := 2 * (num % den)
  if twice < den then quotient
  else if den < twice then quotient + 1
  else if quotient % 2 = 0 then quotient
  else quotient + 1

/-- Numerator and denominator of `n · 2 ^ e`. -/
def scale (n : Nat) (e : Int) : Nat × Nat :=
  if 0 ≤ e then (n * Nat.pow 2 e.toNat, 1) else (n, Nat.pow 2 (-e).toNat)

/-- The exponent of the last of 53 bits of the positive quotient `num / den`,
not below that of the subnormal numbers. -/
def lastPlace (num den : Nat) : Int :=
  let guess : Int := (num.log2 : Int) - (den.log2 : Int)
  let (low, one) := scale den guess
  -- the guess from the lengths in bits can be one too high
  let top := if low ≤ num * one then guess else guess - 1
  max (top - 52) minExponent

/-- The number nearest to `num / den` (with `den` positive), a half going to the
even mantissa. Quotients beyond the largest finite number become infinite. -/
def ofRatio (negative : Bool) (num den : Nat) : Binary64 :=
  if num = 0 then zero negative
  else
    let place := lastPlace num den
    let (unit, one) := scale den place
    let mantissa := roundQuotient (num * one) unit
    -- rounding up can carry into a further bit
    let (mantissa, place) :=
      if mantissa = Nat.pow 2 53 then (Nat.pow 2 52, place + 1) else (mantissa, place)
    if maxExponent < place then .infinite negative
    else .finite negative mantissa place

/-- The integer as a number, rounded to nearest; `none` where it is too large. -/
def ofInt? (i : Int) : Option Binary64 :=
  match ofRatio (i < 0) i.natAbs 1 with
  | .infinite _ => none
  | x => some (if i = 0 then zero false else x)

/-- The value of a finite number. -/
def toRat? : Binary64 → Option Rat
  | .finite negative mantissa exponent =>
    let (num, den) := scale mantissa exponent
    some (mkRat (if negative then -(num : Int) else num) den)
  | _ => none

/-- Equality of values: zeros are equal whatever their sign, and not-a-number
equals nothing. -/
def equals : Binary64 → Binary64 → Bool
  | .infinite a, .infinite b => a == b
  | x, y =>
    match x.toRat?, y.toRat? with
    | some a, some b => a == b
    | _, _ => false

/-- The number is below zero. -/
def isNegative : Binary64 → Bool
  | .nan => false
  | .infinite negative => negative
  | .finite negative mantissa _ => negative && mantissa != 0

/-- The number is a zero of either sign. -/
def isZero : Binary64 → Bool
  | .finite _ mantissa _ => mantissa == 0
  | _ => false

/-- The same magnitude with the other sign. -/
def neg : Binary64 → Binary64
  | .nan => .nan
  | .infinite negative => .infinite !negative
  | .finite negative mantissa exponent => .finite (!negative) mantissa exponent

/-- The rational rounded to the nearest number; a zero result takes the sign
given. -/
def ofRat (zeroNegative : Bool) (r : Rat) : Binary64 :=
  if r.num = 0 then zero zeroNegative else ofRatio (r.num < 0) r.num.natAbs r.den

/-- The rounded sum. -/
def add : Binary64 → Binary64 → Binary64
  | .infinite a, .infinite b => if a == b then .infinite a else .nan
  | .infinite a, .finite .. => .infinite a
  | .finite .., .infinite b => .infinite b
  | .finite a m e, .finite b n f =>
    match (Binary64.finite a m e).toRat?, (Binary64.finite b n f).toRat? with
    | some x, some y => ofRat (a && b) (x + y)
    | _, _ => .nan
  | _, _ => .nan

/-- The rounded product. -/
def mul : Binary64 → Binary64 → Binary64
  | .infinite a, .infinite b => .infinite (a != b)
  | .infinite a, .finite b n _ => if n = 0 then .nan else .infinite (a != b)
  | .finite a m _, .infinite b => if m = 0 then .nan else .infinite (a != b)
  | .finite a m e, .finite b n f =>
    match (Binary64.finite a m e).toRat?, (Binary64.finite b n f).toRat? with
    | some x, some y => ofRat (a != b) (x * y)
    | _, _ => .nan
  | _, _ => .nan

/-- The integer part of a finite number, the fraction dropped toward zero. -/
def truncate (negative : Bool) (mantissa : Nat) (exponent : Int) : Int :=
  let (num, den) := scale mantissa exponent
  if negative then -((num / den : Nat) : Int) else ((num / den : Nat) : Int)

end Binary64

end BeaconCheck
