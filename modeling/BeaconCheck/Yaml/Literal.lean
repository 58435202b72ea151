import BeaconCheck.Number.Basic
import BeaconCheck.Number.Numeral
import BeaconCheck.Value.Basic
import BeaconCheck.Yaml.Tag

/-!
# The values of scalars

What the text of a scalar stands for under its tag. A tag can be given by hand, so each
reader takes any text and says what is wrong with it. A half of a surrogate pair is
neither a digit nor a sign nor a blank, as the character that it is shown as.

* `integer`, `float` read numbers: underscores are left out, and a colon separates
  sixtieths.
* `stamp` reads dates and times, `boolean` truth values, `bytes` base64.
-/

namespace BeaconCheck.Yaml.Literal

/-! ## Numbers -/

/-- The text without underscores. -/
def unspaced (text : Text) : List Letter :=
  text.letters.filter fun l => l != '_'

/-- The sign of a numeral, which must not be empty, and what is behind it. -/
def signed : List Letter → Except Crash (Bool × List Letter)
  | [] => .error .emptyNumeral
  | .char '-' :: rest => .ok (true, rest)
  | .char '+' :: rest => .ok (false, rest)
  | text => .ok (false, text)

/-- The integer that a text spells in a base. -/
def integerIn (base : Nat) (text : List Letter) : Except Crash Int :=
  match Numeral.integer base (text.map Letter.glyph) with
  | .value i => .ok i
  | .notAnInteger => .error (.notAnInteger base (.ofLetters text))
  | .tooLong digits => .error (.tooLongToRead digits)

/-- The parts of a text between colons. -/
def colonParts (text : List Letter) : List (List Letter) :=
  text.foldr
    (fun l parts =>
      match l, parts with
      | .char ':', parts => [] :: parts
      | l, part :: parts => (l :: part) :: parts
      | l, [] => [[l]])
    [[]]

/-- The size of an integer behind its sign. A zero in front announces a base. -/
def magnitude (body : List Letter) : Except Crash Int :=
  match body with
  | [] => .error .emptyNumeral
  | [.char '0'] => .ok 0
  | .char '0' :: .char 'b' :: digits => integerIn 2 digits
  | .char '0' :: .char 'x' :: digits => integerIn 16 digits
  | .char '0' :: _ => integerIn 8 body
  | _ =>
    if body.contains ':' then
      ((colonParts body).mapM (integerIn 10)).map fun parts =>
        parts.foldl (fun n part => 60 * n + part) 0
    else integerIn 10 body

/-- The integer that a text spells. -/
def integer (text : Text) : Except Crash Int := do
  let (negative, body) ← signed (unspaced text)
  let size ← magnitude body
  return if negative then -size else size

/-- The number that a text spells. -/
def floatIn (text : List Letter) : Except Crash Binary64 :=
  match Numeral.float? (text.map Letter.glyph) with
  | some x => .ok x
  | none => .error (.notANumber (.ofLetters text))

/-- The sum of sixtieths, the smallest first. Each power of sixty is rounded. -/
def sixtieths (unit : Nat) (sum : Binary64) : List Binary64 → Except Crash Binary64
  | [] => .ok sum
  | part :: parts => do
    -- so many sixtieths can come together that their unit is no number any more
    let unitValue ← (Number.int unit).toBinary64
    sixtieths (unit * 60) (sum.add (part.mul unitValue)) parts

/-- The number that a text spells. -/
def float (text : Text) : Except Crash Binary64 := do
  let (negative, body) ← signed (lowered (unspaced text))
  let size ←
    if body = Text.letters ".inf" then pure (.infinite false)
    else if body = Text.letters ".nan" then pure .nan
    else if body.contains ':' then do
      let parts ← (colonParts body).mapM floatIn
      sixtieths 1 (.zero false) parts.reverse
    else floatIn body
  return if negative then size.neg else size

/-! ## Truth values -/

/-- The truth value that a word stands for, whatever its case. -/
def boolean (text : Text) : Except Crash Bool :=
  let word := Text.ofLetters (lowered text.letters)
  if word = "yes" ∨ word = "true" ∨ word = "on" then .ok true
  else if word = "no" ∨ word = "false" ∨ word = "off" then .ok false
  else .error (.notABoolean word)

/-! ## Dates and times -/

/-- A number of at least `least` and at most `most` digits, and the text behind it. -/
def number? (least most : Nat) (text : List Char) : Option (Nat × List Char) :=
  let run := (text.take most).takeWhile Tag.isDigit
  if run.length < least then none
  else some (Numeral.ofDigits 10 (run.filterMap (asciiDigit? 10)), text.drop run.length)

/-- The text behind a character. -/
def behind? (c : Char) : List Char → Option (List Char)
  | first :: rest => if first = c then some rest else none
  | [] => none

/-- The end of a text, which may be a line feed. -/
def atEnd (text : List Char) : Bool := text.isEmpty || text == ['\n']

/-- The millionths of a second that a fraction stands for. -/
def micros (fraction : List Char) : Nat :=
  Numeral.ofDigits 10 (((fraction ++ List.replicate 6 '0').take 6).filterMap (asciiDigit? 10))

/-- The offset of a zone in minutes; nothing stands for no zone. -/
def zone? (text : List Char) : Option (Option Int) :=
  if atEnd text then some none
  else
    match text.dropWhile fun c => c == ' ' || c == '\t' with
    | 'Z' :: rest => if atEnd rest then some (some 0) else none
    | c :: rest => do
      if c ≠ '+' ∧ c ≠ '-' then none
      let (hours, rest) ← number? 1 2 rest
      let (minutes, rest) ←
        match behind? ':' rest with
        | some rest => number? 2 2 rest
        | none => some (0, rest)
      let offset : Int := 60 * hours + minutes
      if atEnd rest then some (some (if c = '-' then -offset else offset)) else none
    | [] => none

/-- A date, with a time of day or without, as it is written. -/
def written? (text : List Char) : Option Stamp := do
  let (year, rest) ← number? 4 4 text
  let (month, rest) ← number? 1 2 (← behind? '-' rest)
  let (day, rest) ← number? 1 2 (← behind? '-' rest)
  if atEnd rest then return .date year month day
  let (hour, rest) ← number? 1 2 (← Tag.dayBreak rest)
  let (minute, rest) ← number? 2 2 (← behind? ':' rest)
  let (second, rest) ← number? 2 2 (← behind? ':' rest)
  let (fraction, rest) :=
    match behind? '.' rest with
    | some rest => (rest.takeWhile Tag.isDigit, rest.dropWhile Tag.isDigit)
    | none => ([], rest)
  return .moment year month day hour minute second (micros fraction) (← zone? rest)

/-- The year has a day more. -/
def isLeapYear (year : Nat) : Bool :=
  year % 4 = 0 && (year % 100 ≠ 0 || year % 400 = 0)

/-- The number of days of a month. -/
def monthLength (year month : Nat) : Nat :=
  if month = 2 then (if isLeapYear year then 29 else 28)
  else if [4, 6, 9, 11].contains month then 30
  else 31

/-- What is wrong with a date. -/
def dateProblem? (year month day : Nat) : Option CalendarProblem :=
  if year < 1 then some (.year year)
  else if month < 1 ∨ 12 < month then some .month
  else if day < 1 ∨ monthLength year month < day then some .day
  else none

/-- What is wrong with a date or time. -/
def problem? : Stamp → Option CalendarProblem
  | .date year month day => dateProblem? year month day
  | .moment year month day hour minute second _ offset =>
    let offsetProblem :=
      match offset with
      | some minutes => if minutes.natAbs < 1440 then none else some (CalendarProblem.offset minutes)
      | none => none
    let timeProblem :=
      if 23 < hour then some .hour
      else if 59 < minute then some .minute
      else if 59 < second then some CalendarProblem.second
      else none
    -- the zone is made before the date
    offsetProblem.or ((dateProblem? year month day).or timeProblem)

/-- The date or time that a text spells. -/
def stamp (text : Text) : Except Crash Stamp :=
  match written? (text.letters.map Letter.glyph) with
  | none => .error .notATimestamp
  | some s =>
    match problem? s with
    | some problem => .error (.calendar problem)
    | none => .ok s

/-! ## Raw bytes -/

/-- The six bits that a character stands for. -/
def sixBits? (c : Char) : Option Nat :=
  if 'A' ≤ c ∧ c ≤ 'Z' then some (c.toNat - 'A'.toNat)
  else if 'a' ≤ c ∧ c ≤ 'z' then some (c.toNat - 'a'.toNat + 26)
  else if '0' ≤ c ∧ c ≤ '9' then some (c.toNat - '0'.toNat + 52)
  else if c = '+' then some 62
  else if c = '/' then some 63
  else none

/-- The bytes of base64. `held` are the characters of the group that is being read, and
`pads` the equals signs behind them. A group of two or three characters is complete with
the equals signs that make it four, and ends the data. Other characters are passed over,
and equals signs that come too early too. -/
def groups (held : List Nat) (pads : Nat) : List Char → Option (List UInt8)
  | [] => if held.isEmpty then some [] else none
  | c :: rest =>
    match sixBits? c, held with
    | some d, [a, b, e] =>
      (groups [] 0 rest).map fun bytes =>
        UInt8.ofNat (a * 4 + b / 16) :: UInt8.ofNat (b % 16 * 16 + e / 4) ::
          UInt8.ofNat (e % 4 * 64 + d) :: bytes
    | some d, held => groups (held ++ [d]) 0 rest
    | none, [a, b] =>
      if c = '=' then
        if 2 ≤ pads + 1 then some [UInt8.ofNat (a * 4 + b / 16)]
        else groups held (pads + 1) rest
      else groups held pads rest
    | none, [a, b, e] =>
      if c = '=' then
        some [UInt8.ofNat (a * 4 + b / 16), UInt8.ofNat (b % 16 * 16 + e / 4)]
      else groups held pads rest
    | none, held => groups held pads rest

/-- The bytes that a text of ASCII characters stands for. -/
def bytes? (text : Text) : Option (List UInt8) :=
  let chars := text.letters.map Letter.glyph
  if chars.all (·.toNat < 128) then groups [] 0 chars else none

end BeaconCheck.Yaml.Literal
