import BeaconCheck.Number.Binary64

/-!
# Reading decimal numerals

A decimal numeral is a coefficient and a power of ten. `Binary64.ofDecimal` gives
the number nearest to it, in exact arithmetic; numerals far outside the range of
finite numbers are settled by their magnitude alone.
-/

namespace BeaconCheck

/-- The natural number that digits spell in a base, the most significant first. -/
def Numeral.ofDigits (base : Nat) (digits : List Nat) : Nat :=
  digits.foldl (fun n d => base * n + d) 0

/-- How many decimal digits the numeral of `n` has. -/
def Numeral.decimalLength (n : Nat) : Nat :=
  (Nat.toDigits 10 n).length

/-- The number nearest to `coefficient · 10 ^ exponent`. From magnitude `10 ^ 310`
on the result is infinite, and below `10 ^ (-330)` it is zero, whatever the digits. -/
def Binary64.ofDecimal (negative : Bool) (coefficient : Nat) (exponent : Int) : Binary64 :=
  if coefficient = 0 then .zero negative
  else
    let magnitude := exponent + Numeral.decimalLength coefficient
    if 310 < magnitude then .infinite negative
    else if magnitude < -330 then .zero negative
    else if 0 ≤ exponent then .ofRatio negative (coefficient * Nat.pow 10 exponent.toNat) 1
    else .ofRatio negative coefficient (Nat.pow 10 (-exponent).toNat)

end BeaconCheck
