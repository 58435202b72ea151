import BeaconCheck.Number.Decimal
import BeaconCheck.Text.Blank
import BeaconCheck.Text.Digit
import BeaconCheck.Text.Casing

/-!
# Numerals in text

Reading numbers from text in the liberal notation of configuration values: blank space
around the numeral, a sign, digits of any script, and single underscores between
digits.

* `Numeral.decimal?` reads an unsigned decimal fraction with an optional exponent.
* `Numeral.float?` reads a signed one, an infinity or not-a-number.
* `Numeral.integer` reads an integer in a base; base 10 admits at most 4300 digits.
-/

namespace BeaconCheck.Numeral

/-- The digits of a numeral with their values and the rest of the text. If digits may
be `grouped`, a single underscore between two digits is left out; `after` tells that a
digit came before. -/
def digitRun (digit? : Char → Option Nat) (grouped after : Bool) :
    List Char → List Nat × List Char
  | [] => ([], [])
  | c :: rest =>
    match digit? c with
    | some d =>
      let (ds, left) := digitRun digit? grouped true rest
      (d :: ds, left)
    | none =>
      if grouped && after && c == '_' && (rest.head?.bind digit?).isSome then
        digitRun digit? grouped false rest
      else ([], c :: rest)

/-- A sign in front of a numeral: whether it is negative, and the rest. -/
def sign : List Char → Bool × List Char
  | '-' :: rest => (true, rest)
  | '+' :: rest => (false, rest)
  | text => (false, text)

/-- The exponent at the end of a decimal, `0` where there is none; `none` for any
other text. -/
def exponent? (grouped : Bool) : List Char → Option Int
  | [] => some 0
  | c :: rest =>
    if c = 'e' ∨ c = 'E' then
      let (negative, rest) := sign rest
      match digitRun digitValue? grouped false rest with
      | (d :: ds, []) =>
        let n : Int := ofDigits 10 (d :: ds)
        some (if negative then -n else n)
      | _ => none
    else none

/-- An unsigned decimal with an optional point and exponent. -/
def decimal? (grouped negative : Bool) (text : List Char) : Option Binary64 :=
  let (whole, rest) := digitRun digitValue? grouped false text
  let (fraction, rest) :=
    match rest with
    | '.' :: rest => digitRun digitValue? grouped false rest
    | _ => ([], rest)
  if whole.isEmpty && fraction.isEmpty then none
  else
    (exponent? grouped rest).map fun e =>
      .ofDecimal negative (ofDigits 10 (whole ++ fraction)) (e - fraction.length)

/-- The number that a text spells. -/
def float? (text : List Char) : Option Binary64 :=
  let (negative, body) := sign (trimBlank text)
  let name := String.ofList (body.map lowerAscii)
  if name = "inf" ∨ name = "infinity" then some (.infinite negative)
  else if name = "nan" then some .nan
  else decimal? true negative body

/-- The letter that may stand behind a leading zero to announce a base. -/
def baseMark? : Nat → Option Char
  | 2 => some 'b'
  | 8 => some 'o'
  | 16 => some 'x'
  | _ => none

/-- The digits of an integer behind its sign, without an announcement of the base. -/
def integerDigits (base : Nat) (text : List Char) : List Char :=
  match text with
  | '0' :: mark :: rest =>
    if baseMark? base = some (lowerAscii mark) then
      match rest with
      -- one underscore can stand behind the mark
      | '_' :: rest => rest
      | _ => rest
    else text
  | _ => text

/-- The value of a digit in a base: a decimal digit of any script, or a letter. -/
def baseDigit? (base : Nat) (c : Char) : Option Nat :=
  ((digitValue? c).orElse fun _ => asciiDigit? 16 c).filter (· < base)

/-- What reading an integer can give. -/
inductive IntegerReading where
  | value (i : Int)
  | notAnInteger
  | tooLong (digits : Nat)
deriving DecidableEq, Repr

/-- The integer that a text spells in a base. -/
def integer (base : Nat) (text : List Char) : IntegerReading :=
  let (negative, body) := sign (trimBlank text)
  match digitRun (baseDigit? base) true false (integerDigits base body) with
  | (d :: ds, []) =>
    if base = 10 ∧ 4300 < (d :: ds).length then .tooLong (d :: ds).length
    else
      let n : Int := ofDigits base (d :: ds)
      .value (if negative then -n else n)
  | _ => .notAnInteger

end BeaconCheck.Numeral
