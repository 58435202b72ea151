import BeaconCheck.Crash
import BeaconCheck.Number.Shortest

/-!
# Numbers

A number of a document or a page is an integer of any size or a binary64 number.
The two kinds compare by value and are never mixed up in text: an integer has
neither point nor exponent, a binary64 number always has one of them.
-/

namespace BeaconCheck

/-- An integer of any size, or a binary64 number. -/
inductive Number where
  | int (i : Int)
  | float (x : Binary64)
deriving DecidableEq, Repr, Inhabited

/-- The first integer with more decimal digits than are written or read. -/
def digitBound : Nat := Nat.pow 10 4300

/-- The decimal text of an integer, which may have at most 4300 digits. -/
def integerText (i : Int) : Except Crash String :=
  if i.natAbs < digitBound then .ok (toString i) else .error .tooLongToWrite

namespace Number

/-- The text of a number. -/
def text : Number → Except Crash String
  | .int i => integerText i
  | .float x => .ok (DecimalStyle.document.text x)

/-- The text of a number, however long. -/
def digits : Number → String
  | .int i => toString i
  | .float x => DecimalStyle.document.text x

/-- Equality of values across the two kinds. -/
def equals : Number → Number → Bool
  | .int i, .int j => i == j
  | .int i, .float y => y.toRat? == some (i : Rat)
  | .float x, .int j => x.toRat? == some (j : Rat)
  | .float x, .float y => x.equals y

/-- The number is below zero. -/
def isNegative : Number → Bool
  | .int i => i < 0
  | .float x => x.isNegative

/-- The number is zero. -/
def isZero : Number → Bool
  | .int i => i == 0
  | .float x => x.isZero

/-- The number as a binary64 number. -/
def toBinary64 : Number → Except Crash Binary64
  | .int i =>
    match Binary64.ofInt? i with
    | some x => .ok x
    | none => .error .integerTooLarge
  | .float x => .ok x

/-- The number with its fraction dropped toward zero. -/
def truncate : Number → Except Crash Int
  | .int i => .ok i
  | .float .nan => .error .nanToInteger
  | .float (.infinite _) => .error .infinityToInteger
  | .float (.finite negative mantissa exponent) =>
    .ok (Binary64.truncate negative mantissa exponent)

/-- The value of a finite number. -/
def toRat? : Number → Option Rat
  | .int i => some i
  | .float x => x.toRat?

end Number

end BeaconCheck
