/-!
# Sets of characters

A set of characters is given by the rising list of code points at which membership
flips, beginning outside: `[0x30, 0x3a]` holds the ten ASCII digits.
-/

namespace BeaconCheck

/-- A set of characters as the code points where membership flips. -/
structure CharSet where
  bounds : List Nat

namespace CharSet

/-- Membership of a code point: it flips at every bound that is not above it. -/
def holds : List Nat → Nat → Bool
  | [], _ => false
  | bound :: rest, point => bound ≤ point && !holds rest point

/-- The character belongs to the set. -/
def contains (s : CharSet) (c : Char) : Bool :=
  holds s.bounds c.toNat

end CharSet

end BeaconCheck
