import BeaconCheck.Number.Numeral
import BeaconCheck.Value.Same

/-!
# Tolerant comparison

Values that a page pushes are compared with expected values the way scripts on a page
compare: a number and a text that spells it are equal, and a truth value counts as a
number. Null equals null alone, and two texts are compared as texts.

* `Value.toNumber?` is the numeric reading of a value, `readNumber` that of a text.
* `Value.looselyEquals` is the comparison. Both sides are read as numbers before either
  is looked at, so a crash on one side is not hidden by the other.
-/

namespace BeaconCheck

namespace Loose

/-- The number that the digits behind a base mark spell, and nothing else. -/
def radixDigits (base : Nat) (text : List Char) : Option Nat :=
  match Numeral.digitRun (asciiDigit? base) false false text with
  | (d :: ds, []) => some (Numeral.ofDigits base (d :: ds))
  | _ => none

/-- An unsigned integer behind a zero and a base mark. -/
def radix? : List Char → Option Nat
  | '0' :: mark :: rest =>
    match lowerAscii mark with
    | 'x' => radixDigits 16 rest
    | 'o' => radixDigits 8 rest
    | 'b' => radixDigits 2 rest
    | _ => none
  | _ => none

/-- A signed decimal with optional fraction and exponent. -/
def decimal? (text : List Char) : Option Binary64 :=
  let (negative, body) := Numeral.sign text
  Numeral.decimal? false negative body

/-- The signs in front of a text, and the rest. -/
def signs (text : List Char) : List Char × List Char :=
  text.span fun c => c == '+' || c == '-'

/-- The text is an infinity behind signs. More than one sign cannot be read. -/
def infinity? (text : List Char) : Option (Except Crash Binary64) :=
  match signs text with
  | (marks, body) =>
    if String.ofList body = "Infinity" then
      match marks with
      | [] => some (.ok (.infinite false))
      | [mark] => some (.ok (.infinite (mark == '-')))
      | _ => some (.error (.notANumber (.whole (String.ofList (marks ++ ['i', 'n', 'f'])))))
    else none

/-- The numeric reading of a text: blank text is zero. A half of a surrogate pair is read as
it is shown, and no number is spelled with it. -/
def readNumber (t : Text) : Except Crash (Option Binary64) :=
  let text := trimBlank t.shown.toList
  if text.isEmpty then .ok (some (.zero false))
  else
    match decimal? text with
    | some x => .ok (some x)
    | none =>
      match radix? text with
      | some n => (Number.int n).toBinary64.map some
      | none =>
        match infinity? text with
        | some reading => reading.map some
        | none => .ok none

end Loose

namespace Value

/-- The numeric reading of a value. Only truth values, numbers and some texts have
one. -/
def toNumber? : Value → Except Crash (Option Binary64)
  | .bool b => (Scalar.ofBool b).toBinary64.map some
  | .number n => n.toBinary64.map some
  | .text s => Loose.readNumber s
  | _ => .ok none

/-- The value is a truth value or a number. -/
def isNumeric : Value → Bool
  | .bool _ => true
  | .number _ => true
  | _ => false

/-- Comparison by numeric reading; a value without one equals nothing. -/
def numericallyEquals (left right : Value) : Except Crash Bool := do
  let a ← left.toNumber?
  let b ← right.toNumber?
  match a, b with
  | some x, some y => return x.equals y
  | _, _ => return false

/-- Tolerant comparison of two values. -/
def looselyEquals (left right : Value) : Except Crash Bool :=
  if left.isNull || right.isNull then .ok (left.isNull && right.isNull)
  else
    match left, right with
    | .text s, .text t => .ok (s == t)
    | _, _ =>
      if left.isNumeric || right.isNumeric then numericallyEquals left right
      else .ok (left.same right)

end Value

end BeaconCheck
