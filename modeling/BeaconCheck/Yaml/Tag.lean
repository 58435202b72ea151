import BeaconCheck.Text.Basic
import BeaconCheck.Text.Digit

/-!
# Tags

The tag of a node says what it stands for. A plain scalar without a tag gets one by its
text: `Tag.ofText`. The forms of the texts are recognised from the left; each may end in
a line feed.
-/

namespace BeaconCheck.Yaml

/-- What a node stands for. -/
inductive Tag where
  | null
  | bool
  | int
  | float
  | timestamp
  | binary
  | string
  | sequence
  | mapping
  | set
  | orderedMapping
  | pairs
  | merge
  | value
  | unknown
deriving DecidableEq, Repr, Inhabited

namespace Tag

/-- What stands in front of the names of the tags that every document knows. -/
def commonStart : String := "tag:yaml.org,2002:"

/-- The names of the tags that every document knows. -/
def names : List (String × Tag) := [
  ("null", .null), ("bool", .bool), ("int", .int), ("float", .float),
  ("timestamp", .timestamp), ("binary", .binary), ("str", .string), ("seq", .sequence),
  ("map", .mapping), ("set", .set), ("omap", .orderedMapping), ("pairs", .pairs),
  ("merge", .merge), ("value", .value)]

/-- The tag of a full name. -/
def ofName (name : String) : Tag :=
  ((names.map fun p => (commonStart ++ p.1, p.2)).lookup name).getD .unknown

/-! ## The forms of plain scalars -/

/-- A form: it takes its part from the left of a text, if the text starts with it. -/
abbrev Form := List Char → Option (List Char)

/-- A text of the form; it may end in a line feed. -/
def isOf (form : Form) (text : List Char) : Bool :=
  match form text with
  | some [] => true
  | some ['\n'] => true
  | _ => false

def isDigit (c : Char) : Bool := (asciiDigit? 10 c).isSome

/-- A digit or an underscore. -/
def isSpacedDigit (c : Char) : Bool := isDigit c || c == '_'

/-- A sign that may be missing. -/
def sign : Form
  | '+' :: rest => some rest
  | '-' :: rest => some rest
  | text => some text

/-- Characters of a kind, as many as there are. -/
def many (p : Char → Bool) : Form := fun text => some (text.dropWhile p)

/-- Characters of a kind, at least one. -/
def some1 (p : Char → Bool) : Form
  | c :: rest => if p c then some (rest.dropWhile p) else none
  | [] => none

/-- One character of a kind. -/
def one (p : Char → Bool) : Form
  | c :: rest => if p c then some rest else none
  | [] => none

/-- Exactly this text. -/
def word (w : String) : Form := fun text =>
  if w.toList.isPrefixOf text then some (text.drop w.length) else none

/-- The forms one behind the other. -/
def inOrder : List Form → Form
  | [], text => some text
  | form :: forms, text => (form text).bind (inOrder forms)

/-- The form, if it is there. -/
def optional (form : Form) : Form := fun text => (form text).orElse fun _ => some text

/-- A colon and a number below sixty, with one or two digits. -/
def sixtieth : Form
  | ':' :: a :: b :: rest =>
    if '0' ≤ a && a ≤ '5' && isDigit b then some rest
    else if isDigit a then some (b :: rest)
    else none
  | [':', a] => if isDigit a then some [] else none
  | _ => none

/-- Sixtieths, at least one. -/
def sixtieths : Form := fun text =>
  let rec more : Nat → Form
    | 0, text => some text
    | fuel + 1, text =>
      match sixtieth text with
      | some rest => more fuel rest
      | none => some text
  (sixtieth text).bind (more text.length)

/-- The exponent of a number in scientific notation, which has a sign. -/
def exponent : Form :=
  inOrder [one fun c => c == 'e' || c == 'E', one fun c => c == '+' || c == '-', some1 isDigit]

/-- The digits of a number, which may be spaced by underscores. -/
def digits : Form := inOrder [one isDigit, many isSpacedDigit]

/-- The forms of numbers with a point. -/
def floatForms : List Form := [
  inOrder [sign, digits, word ".", many isSpacedDigit, optional exponent],
  inOrder [word ".", digits, optional exponent],
  inOrder [sign, digits, sixtieths, word ".", many isSpacedDigit],
  inOrder [sign, word ".inf"], inOrder [sign, word ".Inf"], inOrder [sign, word ".INF"],
  word ".nan", word ".NaN", word ".NAN"]

/-- A hexadecimal digit or an underscore. -/
def isSpacedHexDigit (c : Char) : Bool := (asciiDigit? 16 c).isSome || c == '_'

/-- A digit from one to nine. -/
def isLeadingDigit (c : Char) : Bool := isDigit c && c != '0'

/-- The forms of integers: binary, octal, decimal, hexadecimal, in sixtieths. -/
def intForms : List Form := [
  inOrder [sign, word "0b", some1 fun c => c == '0' || c == '1' || c == '_'],
  inOrder [sign, word "0", some1 fun c => ('0' ≤ c && c ≤ '7') || c == '_'],
  inOrder [sign, word "0"],
  inOrder [sign, one isLeadingDigit, many isSpacedDigit],
  inOrder [sign, word "0x", some1 isSpacedHexDigit],
  inOrder [sign, one isLeadingDigit, many isSpacedDigit, sixtieths]]

/-- Exactly two digits. -/
def twoDigits : Form := inOrder [one isDigit, one isDigit]

/-- One or two digits. -/
def shortNumber : Form := inOrder [one isDigit, optional (one isDigit)]

/-- A year. -/
def year : Form := inOrder [twoDigits, twoDigits]

/-- What stands between a date and a time of day. -/
def dayBreak : Form := fun text =>
  (one (fun c => c == 'T' || c == 't') text).orElse fun _ =>
    some1 (fun c => c == ' ' || c == '\t') text

/-- A zone: universal time or an offset. -/
def zone : Form := fun text =>
  (word "Z" text).orElse fun _ =>
    inOrder [one fun c => c == '+' || c == '-', shortNumber,
      optional (inOrder [word ":", twoDigits])] text

/-- The forms of dates and times. -/
def timestampForms : List Form := [
  inOrder [year, word "-", twoDigits, word "-", twoDigits],
  inOrder [year, word "-", shortNumber, word "-", shortNumber, dayBreak, shortNumber,
    word ":", twoDigits, word ":", twoDigits, optional (inOrder [word ".", many isDigit]),
    optional (inOrder [many fun c => c == ' ' || c == '\t', zone])]]

/-- The words of a kind: all in lower case, with a capital, and all in capitals. -/
def wordForms (words : List (String × String × String)) : List Form :=
  words.flatMap fun (a, b, c) => [word a, word b, word c]

/-- The forms of truth values. -/
def boolForms : List Form :=
  wordForms [("yes", "Yes", "YES"), ("no", "No", "NO"), ("true", "True", "TRUE"),
    ("false", "False", "FALSE"), ("on", "On", "ON"), ("off", "Off", "OFF")]

/-- The forms of null, apart from the empty text. -/
def nullForms : List Form := [word "~", word "null", word "Null", word "NULL"]

/-- The kinds of plain scalars with their forms. -/
def forms : List (Tag × List Form) := [
  (.bool, boolForms), (.float, floatForms), (.int, intForms), (.merge, [word "<<"]),
  (.null, nullForms), (.timestamp, timestampForms), (.value, [word "="]),
  (.unknown, [word "!", word "&", word "*"])]

/-- The tag of a plain string without one. -/
def ofString (s : String) : Tag :=
  let chars := s.toList
  if chars.isEmpty then .null
  else
    match forms.find? fun p => p.2.any fun form => isOf form chars with
    | some (tag, _) => tag
    | none => .string

/-- The tag of a plain scalar without one. No form takes a half of a surrogate pair. -/
def ofText : Text → Tag
  | .whole s => ofString s
  | .broken .. => .string

end Tag

end BeaconCheck.Yaml
