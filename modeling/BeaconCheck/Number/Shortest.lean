import BeaconCheck.Number.Decimal

/-!
# Shortest decimal text

`Binary64.shortest` finds the decimal with the fewest digits that reads back as a
given number, and of those the nearest one. For each number of digits it tries
the two neighbours of the value on that decimal grid; the first grid with a
neighbour inside the interval of reals that round to the number wins.

`DecimalStyle` holds the decisions of layout: where positional notation ends and
how an exponent is written. `DecimalStyle.document` is the style of documents,
messages and traces.
-/

namespace BeaconCheck

namespace Binary64

/-- A decimal `coefficient · 10 ^ exponent`. -/
structure Decimal where
  coefficient : Nat
  exponent : Int
deriving DecidableEq, Repr, Inhabited

/-- The reals that round to a positive number, over one denominator: the value,
the two ends, and whether the ends belong to it. -/
structure Rounding where
  value : Nat
  low : Nat
  high : Nat
  den : Nat
  closed : Bool

/-- The rounding interval of `mantissa · 2 ^ exponent`. Below a power of two the
neighbour is half as far away as above it. -/
def Rounding.of (mantissa : Nat) (exponent : Int) : Rounding :=
  let below := if mantissa = Nat.pow 2 52 ∧ minExponent < exponent then 1 else 2
  -- in quarters of the last place, so that both ends are whole
  let (unit, den) := scale 1 (exponent - 2)
  { value := 4 * mantissa * unit
    low := (4 * mantissa - below) * unit
    high := (4 * mantissa + 2) * unit
    den := den
    closed := mantissa % 2 = 0 }

/-- `10 ^ k` as a numerator and a denominator. -/
def powTen (k : Int) : Nat × Nat :=
  if 0 ≤ k then (Nat.pow 10 k.toNat, 1) else (1, Nat.pow 10 (-k).toNat)

/-- `10 ^ k ≤ num / den`. -/
def powTenLe (k : Int) (num den : Nat) : Bool :=
  let (p, q) := powTen k
  p * den ≤ num * q

/-- Raises the exponent while the next power of ten is still not above the
quotient. -/
def raise (num den : Nat) : Nat → Int → Int
  | 0, k => k
  | fuel + 1, k => if powTenLe (k + 1) num den then raise num den fuel (k + 1) else k

/-- The exponent of the leading decimal digit of a positive quotient. The first
guess comes from the binary length and is at most a few too low. -/
def leadingExponent (num den : Nat) : Int :=
  -- the logarithm of 2 to the base 10 is about 0.30103
  let bits : Int := (num.log2 : Int) - (den.log2 : Int)
  raise num den 4 (Int.fdiv ((bits - 1) * 30103) 100000 - 1)

/-- `coefficient · 10 ^ exponent` lies in the interval. -/
def Rounding.holds (r : Rounding) (d : Decimal) : Bool :=
  let (p, q) := powTen d.exponent
  let here := d.coefficient * p * r.den
  let low := r.low * q
  let high := r.high * q
  if r.closed then low ≤ here && here ≤ high else low < here && here < high

/-- The neighbours of the value on the grid of multiples of `10 ^ k`, the nearer
one first. -/
def Rounding.neighbours (r : Rounding) (k : Int) : List Decimal :=
  let (p, q) := powTen k
  let unit := p * r.den
  let floor := r.value * q / unit
  let twice := 2 * (r.value * q % unit)
  let below : Decimal := ⟨floor, k⟩
  let above : Decimal := ⟨floor + 1, k⟩
  if twice < unit ∨ (twice = unit ∧ floor % 2 = 0) then [below, above] else [above, below]

/-- The first hit on the grids of `digits`, `digits + 1`, … digits. -/
def Rounding.search (r : Rounding) (leading : Int) : Nat → Nat → Decimal
  -- seventeen digits tell all numbers apart, so this is not reached
  | 0, digits => ⟨r.value / r.den, digits⟩
  | fuel + 1, digits =>
    match (r.neighbours (leading + 1 - digits)).find? r.holds with
    | some d => d
    | none => r.search leading fuel (digits + 1)

/-- The decimal with the fewest digits that rounds to `mantissa · 2 ^ exponent`;
seventeen digits always suffice. -/
def shortest (mantissa : Nat) (exponent : Int) : Decimal :=
  let r := Rounding.of mantissa exponent
  r.search (leadingExponent r.value r.den) 18 1

end Binary64

/-- How a decimal is laid out as text. -/
structure DecimalStyle where
  /-- The least exponent of the leading digit that is written positionally. -/
  positionalFrom : Int
  /-- The first exponent of the leading digit that is written with an exponent. -/
  positionalBelow : Int
  /-- What follows the digits of a whole number. -/
  wholeSuffix : String
  /-- The mark before an exponent. -/
  mark : String
  /-- The least number of digits of an exponent. -/
  exponentWidth : Nat
  nan : String
  infinity : String

namespace DecimalStyle

/-- Digits are positional from `0.0001` to below `10 ^ 16`, whole numbers end in
`.0`, and an exponent has a sign and at least two digits. -/
def document : DecimalStyle where
  positionalFrom := -4
  positionalBelow := 16
  wholeSuffix := ".0"
  mark := "e"
  exponentWidth := 2
  nan := "nan"
  infinity := "inf"

/-- The digits without their trailing zeros, and how many were dropped. -/
def trimZeros (digits : List Char) : List Char :=
  (digits.reverse.dropWhile (· == '0')).reverse

/-- The text of a positive decimal. -/
def layout (style : DecimalStyle) (d : Binary64.Decimal) : String :=
  let all := Nat.toDigits 10 d.coefficient
  let leading : Int := d.exponent + all.length - 1
  let digits := trimZeros all
  if style.positionalFrom ≤ leading ∧ leading < style.positionalBelow then
    if leading < 0 then
      String.ofList (['0', '.'] ++ List.replicate (-leading - 1).toNat '0' ++ digits)
    else
      let whole := leading.toNat + 1
      if digits.length ≤ whole then
        String.ofList (digits ++ List.replicate (whole - digits.length) '0')
          ++ style.wholeSuffix
      else
        String.ofList (digits.take whole ++ ['.'] ++ digits.drop whole)
  else
    let fraction := digits.drop 1
    let power := Nat.toDigits 10 leading.natAbs
    String.ofList (digits.take 1 ++ (if fraction.isEmpty then [] else '.' :: fraction))
      ++ style.mark ++ (if leading < 0 then "-" else "+")
      ++ String.ofList (List.replicate (style.exponentWidth - power.length) '0' ++ power)

/-- The text of a number. -/
def text (style : DecimalStyle) : Binary64 → String
  | .nan => style.nan
  | .infinite negative => (if negative then "-" else "") ++ style.infinity
  | .finite negative mantissa exponent =>
    (if negative then "-" else "") ++
      if mantissa = 0 then "0" ++ style.wholeSuffix
      else style.layout (Binary64.shortest mantissa exponent)

end DecimalStyle

end BeaconCheck
