import BeaconCheck.Json.Bytes
import BeaconCheck.Number.Decimal
import BeaconCheck.Text.Digit
import BeaconCheck.Value.Basic

/-!
# Reading JSON

`Json.parse?` reads a text that is one JSON value with blank space around it. Beyond
the standard the numbers `NaN`, `Infinity` and `-Infinity` are read; of an object's
entries with the same name the last one counts, in the place of the first; an integer
may have at most 4300 digits. A half of a surrogate pair can stand inside a string, and
two escapes that name the halves of a pair name its character. Every reader takes what it
reads off the front of the text and returns it with the rest.
-/

namespace BeaconCheck.Json

/-- The blank characters between tokens. -/
def isBlank (c : Char) : Bool :=
  c == ' ' || c == '\t' || c == '\n' || c == '\r'

/-- The text without leading blanks. -/
def skipBlank (text : List Letter) : List Letter :=
  text.dropWhile (Letter.satisfies isBlank)

/-- The rest of the text behind a word that it must start with. -/
def expect : List Char → List Letter → Option (List Letter)
  | [], text => some text
  | c :: cs, l :: ls => if .char c = l then expect cs ls else none
  | _ :: _, [] => none

/-- The number that four hexadecimal digits spell, and the rest. -/
def hex4 : List Letter → Option (Nat × List Letter)
  | .char a :: .char b :: .char c :: .char d :: rest =>
    match asciiDigit? 16 a, asciiDigit? 16 b, asciiDigit? 16 c, asciiDigit? 16 d with
    | some a, some b, some c, some d => some (Numeral.ofDigits 16 [a, b, c, d], rest)
    | _, _, _, _ => none
  | _ => none

/-- The character of a high surrogate and of the escape of a low one that comes next, and
the rest behind it. -/
def pairEscape? (unit : Nat) : List Letter → Option (Char × List Letter)
  | .char '\\' :: .char 'u' :: text => do
    let (low, rest) ← hex4 text
    return (← paired? unit low, rest)
  | _ => none

/-- The letter of the unit behind `\u`; a high surrogate takes the low one that follows
it along. -/
def unicodeEscape (text : List Letter) : Option (Letter × List Letter) := do
  let (unit, rest) ← hex4 text
  match pairEscape? unit rest with
  | some (c, rest) => return (.char c, rest)
  | none => return (.ofCode unit, rest)

/-- The character of an escape of one letter. -/
def simpleEscape? : Char → Option Char
  | '"' => some '"'
  | '\\' => some '\\'
  | '/' => some '/'
  | 'b' => some '\x08'
  | 'f' => some '\x0c'
  | 'n' => some '\n'
  | 'r' => some '\r'
  | 't' => some '\t'
  | _ => none

/-- The letter that stands at the front of a string, as it is or as an escape, and the
rest. -/
def letter : List Letter → Option (Letter × List Letter)
  | .char '\\' :: .char 'u' :: rest => unicodeEscape rest
  | .char '\\' :: .char e :: rest => (simpleEscape? e).map fun c => (.char c, rest)
  | .char '\\' :: _ => none
  | .char c :: rest => if c.toNat < 0x20 then none else some (.char c, rest)
  | .half place :: rest => some (.half place, rest)
  | [] => none

/-- The letters of a string behind its opening quote, and the rest behind the closing
one. -/
def string : Nat → List Letter → Option (List Letter × List Letter)
  | 0, _ => none
  | _, .char '"' :: rest => some ([], rest)
  | fuel + 1, text => do
    let (l, rest) ← letter text
    let (ls, rest) ← string fuel rest
    return (l :: ls, rest)

/-- The leading decimal digits of a text, and the rest. -/
def digits : List Letter → List Nat × List Letter
  | [] => ([], [])
  | l :: rest =>
    match asciiDigit? 10 l.glyph with
    | some d =>
      let (ds, after) := digits rest
      (d :: ds, after)
    | none => ([], l :: rest)

/-- The fraction of a number; nothing where no digit follows the point. -/
def fraction : List Letter → List Nat × List Letter
  | .char '.' :: rest =>
    match digits rest with
    | ([], _) => ([], .char '.' :: rest)
    | found => found
  | text => ([], text)

/-- The exponent of a number; `none` where no digit follows the mark. -/
def exponent? (text : List Letter) : Option (Int × List Letter) :=
  match text with
  | mark :: rest =>
    if mark = 'e' ∨ mark = 'E' then
      let (negative, body) :=
        match rest with
        | .char '-' :: body => (true, body)
        | .char '+' :: body => (false, body)
        | _ => (false, rest)
      match digits body with
      | ([], _) => none
      | (ds, after) =>
        let n : Int := Numeral.ofDigits 10 ds
        some (if negative then -n else n, after)
    else none
  | [] => none

/-- A number behind its sign. -/
def number (negative : Bool) (text : List Letter) : Option (Value × List Letter) := do
  let (whole, rest) ←
    match text with
    | .char '0' :: rest => some ([0], rest)
    | _ =>
      match digits text with
      | ([], _) => none
      | found => some found
  let (part, rest) := fraction rest
  let power := exponent? rest
  -- without a fraction and an exponent it is an integer, which keeps all its digits
  if part.isEmpty && power.isNone then
    if 4300 < whole.length then none
    else
      let n : Int := Numeral.ofDigits 10 whole
      return (.int (if negative then -n else n), rest)
  else
    let (e, rest) := power.getD (0, rest)
    return (.float (.ofDecimal negative (Numeral.ofDigits 10 (whole ++ part))
      (e - part.length)), rest)

mutual

/-- Reads a value that starts at the front of the text. -/
def value : Nat → List Letter → Option (Value × List Letter)
  | 0, _ => none
  | _, [] => none
  | fuel + 1, l :: rest =>
    match l with
    | .char '"' => (string (rest.length + 1) rest).map fun p => (.text (.ofLetters p.1), p.2)
    | .char '[' =>
      match skipBlank rest with
      | .char ']' :: rest => some (.list [], rest)
      | rest => (items fuel rest).map fun p => (.list p.1, p.2)
    | .char '\x7b' =>
      match skipBlank rest with
      | .char '\x7d' :: rest => some (.object [], rest)
      | rest => (entries fuel rest).map fun p => (.object (Entries.ofPairs p.1), p.2)
    | .char 'n' => (expect ['u', 'l', 'l'] rest).map ((.null, ·))
    | .char 't' => (expect ['r', 'u', 'e'] rest).map ((.bool true, ·))
    | .char 'f' => (expect ['a', 'l', 's', 'e'] rest).map ((.bool false, ·))
    | .char 'N' => (expect ['a', 'N'] rest).map ((.float .nan, ·))
    | .char 'I' => (expect "nfinity".toList rest).map ((.float (.infinite false), ·))
    | .char '-' =>
      match expect "Infinity".toList rest with
      | some rest => some (.float (.infinite true), rest)
      | none => number true rest
    | _ => number false (l :: rest)

/-- Reads the items of a list that has some, up to its end. -/
def items : Nat → List Letter → Option (List Value × List Letter)
  | 0, _ => none
  | fuel + 1, text => do
    let (first, rest) ← value fuel text
    match skipBlank rest with
    | .char ']' :: rest => return ([first], rest)
    | .char ',' :: rest =>
      let (more, rest) ← items fuel (skipBlank rest)
      return (first :: more, rest)
    | _ => none

/-- Reads the entries of an object that has some, up to its end. -/
def entries : Nat → List Letter → Option (List (Scalar × Value) × List Letter)
  | 0, _ => none
  | fuel + 1, text =>
    match text with
    | .char '"' :: rest => do
      let (name, rest) ← string (rest.length + 1) rest
      let rest ← expect [':'] (skipBlank rest)
      let (first, rest) ← value fuel (skipBlank rest)
      match skipBlank rest with
      | .char '\x7d' :: rest => return ([(.text (.ofLetters name), first)], rest)
      | .char ',' :: rest =>
        let (more, rest) ← entries fuel (skipBlank rest)
        return ((.text (.ofLetters name), first) :: more, rest)
      | _ => none
    | _ => none

end

/-- The value that the text writes. Every value, item and entry takes at least one letter,
so twice the length of the text bounds the depth of the reading. -/
def parse? (text : List Letter) : Option Value := do
  let (found, rest) ← value (2 * text.length + 1) (skipBlank text)
  if (skipBlank rest).isEmpty then return found else none

/-- The value of a JSON body. -/
def ofBody? (body : List UInt8) : Option Value :=
  (decode body).bind parse?

end BeaconCheck.Json
