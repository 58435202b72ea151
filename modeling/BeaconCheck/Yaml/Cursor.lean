import BeaconCheck.Crash

/-!
# Places in a document

The text of a YAML document is read through a cursor, which knows the column of the next
character. Lines end at a line feed, a carriage return, a next-line character or one of
the Unicode separators; a byte order mark takes no column.
-/

namespace BeaconCheck.Yaml

/-- What keeps a document from being loaded: it is no document, or loading it crashes. -/
inductive DocumentFailure where
  | unreadable
  | crash (c : Crash)
deriving DecidableEq, Repr, Inhabited

/-- A character that ends a line. -/
def isBreak (c : Char) : Bool :=
  c == '\n' || c == '\r' || c == '\x85' || c == '\u2028' || c == '\u2029'

/-- A character that ends a line, as it counts inside a text. -/
def breakText (c : Char) : Char :=
  if c = '\u2028' ∨ c = '\u2029' then c else '\n'

/-- A space, a tab or the end of a line. -/
def isBlank (c : Char) : Bool :=
  c == ' ' || c == '\t' || isBreak c

/-- The next character, if any, is blank. -/
def endsWord (next : Option Char) : Bool :=
  match next with
  | none => true
  | some c => isBlank c

/-- The line, if any, ends here. -/
def endsLine (next : Option Char) : Bool :=
  match next with
  | none => true
  | some c => isBreak c

/-- A place in a text. -/
structure Cursor where
  rest : List Char
  index : Nat := 0
  line : Nat := 0
  column : Nat := 0
deriving DecidableEq, Repr, Inhabited

namespace Cursor

/-- The next character. -/
def peek (c : Cursor) : Option Char := c.rest.head?

/-- The character behind the next one. -/
def peekNext (c : Cursor) : Option Char := c.rest.tail.head?

/-- The place behind the next character. -/
def next (c : Cursor) : Cursor :=
  match c.rest with
  | [] => c
  | ch :: rest =>
    if isBreak ch then ⟨rest, c.index + 1, c.line + 1, 0⟩
    else if ch = '\uFEFF' then ⟨rest, c.index + 1, c.line, c.column⟩
    else ⟨rest, c.index + 1, c.line, c.column + 1⟩

/-- The place some characters further. -/
def skip : Nat → Cursor → Cursor
  | 0, c => c
  | n + 1, c => skip n c.next

/-- The characters from here on of which `p` holds, and the place behind them. -/
def span (p : Char → Bool) (c : Cursor) : List Char × Cursor :=
  let taken := c.rest.takeWhile p
  (taken, c.skip taken.length)

/-- The place behind the characters from here on of which `p` holds. -/
def skipWhile (p : Char → Bool) (c : Cursor) : Cursor := (c.span p).2

/-- The place behind spaces. -/
def skipSpaces (c : Cursor) : Cursor := c.skipWhile (· == ' ')

/-- The place behind spaces, as long as the column is below a bound. -/
def skipIndent (bound : Nat) (c : Cursor) : Cursor :=
  c.skip (min (bound - c.column) (c.span (· == ' ')).1.length)

/-- The place behind a comment, where one starts. -/
def skipComment (c : Cursor) : Cursor :=
  if c.peek = some '#' then c.skipWhile fun ch => !isBreak ch else c

/-- The end of a line and the place behind it, if the line ends here. -/
def lineBreak? (c : Cursor) : Option (Char × Cursor) :=
  match c.peek with
  | some ch => if isBreak ch then some (breakText ch, c.next) else none
  | none => none

/-- The place behind the end of a line, if it ends here. -/
def skipBreak (c : Cursor) : Cursor :=
  match c.lineBreak? with
  | some (_, c) => c
  | none => c

/-- Three times a character, and then a blank. -/
def isMarker (mark : Char) (c : Cursor) : Bool :=
  match c.rest with
  | x :: y :: z :: rest => x == mark && y == mark && z == mark && endsWord rest.head?
  | _ => false

/-- The start or the end of a document is marked here, if this is the start of a line. -/
def atMarker (c : Cursor) : Bool := c.isMarker '-' || c.isMarker '.'

/-- The place behind spaces, a comment and the end of the line; nothing else may come. -/
def skipRestOfLine (c : Cursor) : Except DocumentFailure Cursor :=
  let c := c.skipSpaces.skipComment
  if endsLine c.peek then .ok c.skipBreak else .error .unreadable

end Cursor

/-- A letter, digit, dash or underscore of ASCII. -/
def isNameChar (c : Char) : Bool :=
  ('0' ≤ c && c ≤ '9') || ('A' ≤ c && c ≤ 'Z') || ('a' ≤ c && c ≤ 'z') || c == '-' || c == '_'

end BeaconCheck.Yaml
