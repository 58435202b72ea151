import BeaconCheck.Number.Numeral
import BeaconCheck.Yaml.Cursor

/-!
# The text of scalars

A scalar is plain, quoted, or a block of indented lines. Line breaks inside plain and
quoted scalars and inside folded blocks are folded: a single one becomes a space, and of
several the first is dropped.

* `plain` reads a plain scalar, and tells whether it stopped at the start of a line.
* `singleQuoted`, `doubleQuoted` read from behind the opening quote. An escape inside
  double quotes can name a half of a surrogate pair, and two of them never name the
  character of the pair.
* `block` reads a block from behind its indicator.

Loops are bounded by the number of characters that are left.
-/

namespace BeaconCheck.Yaml

/-- Folded line breaks: the first, then the others. -/
def folded (first : Char) (others : List Char) : List Char :=
  if first ≠ '\n' then first :: others
  else if others.isEmpty then [' ']
  else others

/-! ## Plain scalars -/

/-- The characters of a plain scalar up to a blank or to what ends it. -/
def plainRun (flow : Bool) : List Char → List Char
  | [] => []
  | c :: rest =>
    let endsKey :=
      c == ':' && (endsWord rest.head? || (flow && (rest.head?.any (",[]\x7b\x7d".contains ·))))
    if isBlank c || endsKey || (flow && ",?[]\x7b\x7d".contains c) then []
    else c :: plainRun flow rest

/-- Breaks and spaces from the start of a line on; `none` if a document is marked there. -/
def plainBreaks : Nat → List Char → Cursor → Option (List Char) × Cursor
  | 0, breaks, c => (some breaks, c)
  | fuel + 1, breaks, c =>
    match c.lineBreak? with
    | some (b, after) =>
      if after.atMarker then (none, after)
      else plainBreaks fuel (breaks ++ [b]) after
    | none =>
      if c.peek = some ' ' then plainBreaks fuel breaks c.next else (some breaks, c)

/-- What stands between two runs of a plain scalar, empty if nothing does; whether a line
ended in it; and the place behind. -/
def plainSpaces (c : Cursor) : List Char × Bool × Cursor :=
  let (spaces, c) := c.span (· == ' ')
  match c.lineBreak? with
  | none => (spaces, false, c)
  | some (first, after) =>
    -- the scalar has ended on the line before the mark
    if after.atMarker then ([], true, after)
    else
      match plainBreaks (after.rest.length + 1) [] after with
      | (none, c) => ([], true, c)
      | (some breaks, c) => (folded first breaks, true, c)

/-- The runs of a plain scalar, each with what stands before it. Whether a line ended
behind the last one. -/
def plainRuns (flow : Bool) (indent : Int) :
    Nat → (text spaces : List Char) → (broken : Bool) → Cursor → List Char × Bool × Cursor
  | 0, text, _, broken, c => (text, broken, c)
  | fuel + 1, text, spaces, broken, c =>
    let run := plainRun flow c.rest
    if c.peek = some '#' || run.isEmpty then (text, broken, c)
    else
      let text := text ++ spaces ++ run
      let (spaces, broken, c) := plainSpaces (c.skip run.length)
      -- a run without a blank behind it stopped at a delimiter, and a line that is not indented
      -- enough belongs to a block further out
      if spaces.isEmpty || c.peek = some '#' || (!flow && (c.column : Int) < indent) then
        (text, broken, c)
      else plainRuns flow indent fuel text spaces broken c

/-- A plain scalar inside a block of an indentation. -/
def plain (flow : Bool) (indent : Int) (c : Cursor) : List Char × Bool × Cursor :=
  plainRuns flow (indent + 1) (c.rest.length + 1) [] [] false c

/-! ## Quoted scalars -/

/-- Breaks inside quotes, with the blanks that start the lines dropped. No document may be
marked there. -/
def quotedBreaks : Nat → List Char → Cursor → Except DocumentFailure (List Char × Cursor)
  | 0, breaks, c => .ok (breaks, c)
  | fuel + 1, breaks, c =>
    if c.atMarker then .error .unreadable
    else
      let c := c.skipWhile fun ch => ch == ' ' || ch == '\t'
      match c.lineBreak? with
      | some (b, c) => quotedBreaks fuel (breaks ++ [b]) c
      | none => .ok (breaks, c)

/-- Blanks inside quotes. They must not be the last that there is. -/
def quotedSpaces (c : Cursor) : Except DocumentFailure (List Char × Cursor) := do
  let (spaces, c) := c.span fun ch => ch == ' ' || ch == '\t'
  match c.peek, c.lineBreak? with
  | none, _ => throw .unreadable
  | _, none => return (spaces, c)
  | _, some (first, c) =>
    let (breaks, c) ← quotedBreaks (c.rest.length + 1) [] c
    return (folded first breaks, c)

/-- The characters of the escapes of one letter. -/
def simpleEscape? : Char → Option Char
  | '0' => some '\x00'
  | 'a' => some '\x07'
  | 'b' => some '\x08'
  | 't' => some '\t'
  | '\t' => some '\t'
  | 'n' => some '\n'
  | 'v' => some '\x0b'
  | 'f' => some '\x0c'
  | 'r' => some '\r'
  | 'e' => some '\x1b'
  | ' ' => some ' '
  | '"' => some '"'
  | '\\' => some '\\'
  | '/' => some '/'
  | 'N' => some '\x85'
  | '_' => some '\xa0'
  | 'L' => some '\u2028'
  | 'P' => some '\u2029'
  | _ => none

/-- The number of hexadecimal digits behind the letter of an escape. -/
def escapeWidth? : Char → Option Nat
  | 'x' => some 2
  | 'u' => some 4
  | 'U' => some 8
  | _ => none

/-- The number that exactly `width` hexadecimal digits spell. -/
def hexDigits? (width : Nat) (text : List Char) : Option Nat :=
  let digits := (text.take width).filterMap (asciiDigit? 16)
  if digits.length = width then some (Numeral.ofDigits 16 digits) else none

/-- The code of an escape whose letter was taken. -/
def escapeCode (width : Nat) (c : Cursor) : Except DocumentFailure (Nat × Cursor) :=
  match hexDigits? width c.rest with
  | none => .error .unreadable
  | some code =>
    -- a code of more than 31 bits fails by its size, a smaller one for want of a character
    if 0x7fffffff < code then .error (.crash (.codePointTooLarge false))
    else if 0x10ffff < code then .error (.crash (.codePointTooLarge true))
    else .ok (code, c.skip width)

/-- Characters that were read, as letters. -/
def asLetters (read : List Char × Cursor) : List Letter × Cursor :=
  (read.1.map .char, read.2)

/-- The letters of an escape from behind its backslash. An escaped line break is nothing
but the breaks behind it. -/
def escape (c : Cursor) : Except DocumentFailure (List Letter × Cursor) :=
  match c.peek with
  | none => .error .unreadable
  | some mark =>
    match simpleEscape? mark, escapeWidth? mark with
    | some ch, _ => .ok ([.char ch], c.next)
    | none, some width => (escapeCode width c.next).map fun p => ([.ofCode p.1], p.2)
    | none, none =>
      if isBreak mark then (quotedBreaks (c.rest.length + 1) [] c.next).map asLetters
      else .error .unreadable

/-- The letters of a scalar in double quotes up to the closing quote. -/
def doubleQuotedFrom :
    Nat → List Letter → Cursor → Except DocumentFailure (List Letter × Cursor)
  | 0, _, _ => .error .unreadable
  | fuel + 1, text, c =>
    match c.peek with
    | none => .error .unreadable
    | some ch =>
      if ch = '"' then .ok (text, c.next)
      else if ch = '\\' then do
        let (more, c) ← escape c.next
        doubleQuotedFrom fuel (text ++ more) c
      else if isBlank ch then do
        let (more, c) ← quotedSpaces c
        doubleQuotedFrom fuel (text ++ more.map .char) c
      else
        let (run, c) := c.span fun ch => !isBlank ch && ch != '"' && ch != '\\'
        doubleQuotedFrom fuel (text ++ run.map .char) c

/-- A scalar in double quotes, from behind the opening one. -/
def doubleQuoted (c : Cursor) : Except DocumentFailure (List Letter × Cursor) :=
  doubleQuotedFrom (c.rest.length + 1) [] c

/-- The text of a scalar in single quotes up to the closing quote. A quote inside is
written twice. -/
def singleQuotedFrom :
    Nat → List Char → Cursor → Except DocumentFailure (List Char × Cursor)
  | 0, _, _ => .error .unreadable
  | fuel + 1, text, c =>
    match c.peek with
    | none => .error .unreadable
    | some ch =>
      if ch = '\'' then
        if c.peekNext = some '\'' then singleQuotedFrom fuel (text ++ ['\'']) (c.skip 2)
        else .ok (text, c.next)
      else if isBlank ch then do
        let (more, c) ← quotedSpaces c
        singleQuotedFrom fuel (text ++ more) c
      else
        let (run, c) := c.span fun ch => !isBlank ch && ch != '\''
        singleQuotedFrom fuel (text ++ run) c

/-- A scalar in single quotes, from behind the opening one. -/
def singleQuoted (c : Cursor) : Except DocumentFailure (List Letter × Cursor) :=
  (singleQuotedFrom (c.rest.length + 1) [] c).map asLetters

/-! ## Blocks -/

/-- What happens to the line breaks at the end of a block. -/
inductive Chomping where
  | strip
  | clip
  | keep
deriving DecidableEq, Repr, Inhabited

/-- The sign of a chomping. -/
def chomping? (c : Cursor) : Option Chomping :=
  match c.peek with
  | some '+' => some .keep
  | some '-' => some .strip
  | _ => none

/-- The digit of an indentation. -/
def increment? (c : Cursor) : Option Nat :=
  c.peek.bind (asciiDigit? 10)

/-- The header of a block: chomping and indentation in either order. -/
def blockHeader (c : Cursor) : Except DocumentFailure (Chomping × Option Nat × Cursor) := do
  let (chomping, increment, c) :=
    match chomping? c, increment? c with
    | some chomping, _ =>
      let c := c.next
      match increment? c with
      | some n => (chomping, some n, c.next)
      | none => (chomping, none, c)
    | none, some n =>
      let c := c.next
      match chomping? c with
      | some chomping => (chomping, some n, c.next)
      | none => (.clip, some n, c)
    | none, none => (.clip, none, c)
  if increment = some 0 then throw .unreadable
  if c.peek = some ' ' || endsLine c.peek then return (chomping, increment, c)
  throw .unreadable

/-- Breaks and spaces before the first line of a block, and the largest column that the
spaces reach. -/
def blockStart : Nat → List Char → Nat → Cursor → List Char × Nat × Cursor
  | 0, breaks, widest, c => (breaks, widest, c)
  | fuel + 1, breaks, widest, c =>
    match c.lineBreak? with
    | some (b, c) => blockStart fuel (breaks ++ [b]) widest c
    | none =>
      if c.peek = some ' ' then blockStart fuel breaks (max widest c.next.column) c.next
      else (breaks, widest, c)

/-- Breaks inside a block; the place behind is in the indentation of the next line. -/
def blockBreaks (indent : Nat) : Nat → List Char → Cursor → List Char × Cursor
  | 0, breaks, c => (breaks, c)
  | fuel + 1, breaks, c =>
    let c := c.skipIndent indent
    match c.lineBreak? with
    | some (b, c) => blockBreaks indent fuel (breaks ++ [b]) c
    | none => (breaks, c)

/-- A line starts with a space or a tab behind its indentation. -/
def startsBlank (c : Cursor) : Bool :=
  c.peek == some ' ' || c.peek == some '\t'

/-- The lines of a block. The end of the last line and the breaks behind it are kept
apart. -/
def blockLines (fold : Bool) (indent : Nat) :
    Nat → (text breaks lineEnd : List Char) → Cursor → List Char × List Char × List Char × Cursor
  | 0, text, breaks, lineEnd, c => (text, breaks, lineEnd, c)
  | fuel + 1, text, breaks, lineEnd, c =>
    if c.column = indent && !c.rest.isEmpty then
      let blank := startsBlank c
      let (line, c) := c.span fun ch => !isBreak ch
      let text := text ++ breaks ++ line
      let (lineEnd, c) :=
        match c.lineBreak? with
        | some (b, c) => ([b], c)
        | none => ([], c)
      let (breaks, c) := blockBreaks indent (c.rest.length + 1) [] c
      if c.column = indent && !c.rest.isEmpty then
        -- a break is folded only between two lines neither of which starts blank
        let joined :=
          if fold && lineEnd == ['\n'] && !blank && !startsBlank c then
            if breaks.isEmpty then [' '] else []
          else lineEnd
        blockLines fold indent fuel (text ++ joined) breaks lineEnd c
      else (text, breaks, lineEnd, c)
    else (text, breaks, lineEnd, c)

/-- A block inside another block of an indentation, from behind its indicator. -/
def block (fold : Bool) (outer : Int) (c : Cursor) :
    Except DocumentFailure (List Char × Cursor) := do
  let (chomping, increment, c) ← blockHeader c
  let c ← c.skipRestOfLine
  let least := max 1 (outer + 1).toNat
  let fuel := c.rest.length + 1
  let (indent, breaks, c) :=
    match increment with
    | none =>
      let (breaks, widest, c) := blockStart fuel [] 0 c
      -- a blank line can be wider than the first one with text, and counts then
      (max least widest, breaks, c)
    | some n =>
      let indent := least + n - 1
      let (breaks, c) := blockBreaks indent fuel [] c
      (indent, breaks, c)
  let (text, breaks, lineEnd, c) := blockLines fold indent fuel [] breaks [] c
  let tail :=
    match chomping with
    | .strip => []
    | .clip => lineEnd
    | .keep => lineEnd ++ breaks
  return (text ++ tail, c)

end BeaconCheck.Yaml
