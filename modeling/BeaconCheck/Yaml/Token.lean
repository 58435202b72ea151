import BeaconCheck.Yaml.Cursor
import BeaconCheck.Text.Digit
import BeaconCheck.Number.Numeral

/-!
# Tokens of a document

The tokens of a YAML document, and the readers of those that are no scalars: directives,
anchors, aliases and tags.
-/

namespace BeaconCheck.Yaml

/-- A directive in front of a document. -/
inductive Directive where
  | version (major : Nat)
  | tag (handle pre : String)
  | other
deriving DecidableEq, Repr, Inhabited

/-- A token of a document. -/
inductive Token where
  | directive (d : Directive)
  | documentStart
  | documentEnd
  | blockSequenceStart
  | blockMappingStart
  | blockEnd
  | flowSequenceStart
  | flowSequenceEnd
  | flowMappingStart
  | flowMappingEnd
  | blockEntry
  | flowEntry
  | key
  | value
  | alias (name : String)
  | anchor (name : String)
  | tag (handle : Option String) (suffix : String)
  | scalar (text : Text) (plain : Bool)
deriving DecidableEq, Repr, Inhabited

/-! ## Anchors and aliases -/

/-- The name of an anchor or alias, from behind its indicator. -/
def anchorName (c : Cursor) : Except DocumentFailure (String × Cursor) :=
  let (name, c) := c.span isNameChar
  if name.isEmpty then .error .unreadable
  else if endsWord c.peek || c.peek.any ("?:,]\x7d%@`".contains ·) then
    .ok (String.ofList name, c)
  else .error .unreadable

/-! ## Tags -/

/-- A character that a tag can hold as it is, or the percent sign of an escape. -/
def isUriChar (c : Char) : Bool :=
  isNameChar c || ";/?:@&=+$,.!~*'()[]%".contains c

/-- The bytes of percent escapes from here on, and the place behind them. -/
def uriBytes : Nat → List UInt8 → Cursor → Except DocumentFailure (List UInt8 × Cursor)
  | 0, bytes, c => .ok (bytes, c)
  | fuel + 1, bytes, c =>
    match c.rest with
    | '%' :: a :: b :: _ =>
      match asciiDigit? 16 a, asciiDigit? 16 b with
      | some high, some low =>
        uriBytes fuel (bytes ++ [UInt8.ofNat (16 * high + low)]) (c.skip 3)
      | _, _ => .error .unreadable
    | '%' :: _ => .error .unreadable
    | _ => .ok (bytes, c)

/-- The characters of a tag from here on. -/
def uriChars : Nat → List Char → Cursor → Except DocumentFailure (List Char × Cursor)
  | 0, text, c => .ok (text, c)
  | fuel + 1, text, c =>
    match c.peek with
    | some '%' => do
      let (bytes, c) ← uriBytes (c.rest.length + 1) [] c
      match Utf8.decode bytes with
      | .ok more => uriChars fuel (text ++ more) c
      | .error _ => .error .unreadable
    | some ch => if isUriChar ch then uriChars fuel (text ++ [ch]) c.next else .ok (text, c)
    | none => .ok (text, c)

/-- A part of a tag that must not be empty. -/
def uri (c : Cursor) : Except DocumentFailure (List Char × Cursor) :=
  if c.peek.any isUriChar then uriChars (c.rest.length + 1) [] c else .error .unreadable

/-- The handle of a tag: two exclamation marks with a name between them, or one before a
space. -/
def tagHandle (c : Cursor) : Except DocumentFailure (String × Cursor) :=
  match c.rest with
  | '!' :: ' ' :: _ => .ok ("!", c.next)
  | '!' :: rest =>
    let name := rest.takeWhile isNameChar
    if (rest.drop name.length).head? = some '!' then
      .ok (String.ofList ('!' :: name ++ ['!']), c.skip (name.length + 2))
    else .error .unreadable
  | _ => .error .unreadable

/-- The text up to a space or the end of the line. -/
def wordUpToSpace (text : List Char) : List Char :=
  text.takeWhile fun ch => ch != ' ' && !isBreak ch

/-- A space or the end of the line comes next. -/
def atSpace (c : Cursor) : Bool :=
  c.peek == some ' ' || endsLine c.peek

/-- A tag whose exclamation mark comes next. -/
def tagToken (c : Cursor) : Except DocumentFailure (Token × Cursor) := do
  let (handle, suffix, c) ←
    match c.rest with
    | '!' :: '<' :: _ => do
      let (suffix, c) ← uri (c.skip 2)
      if c.peek ≠ some '>' then throw .unreadable
      pure (none, suffix, c.next)
    | _ =>
      if endsWord c.peekNext then pure (none, ['!'], c.next)
      else if (wordUpToSpace c.rest.tail).contains '!' then do
        let (handle, c) ← tagHandle c
        let (suffix, c) ← uri c
        pure (some handle, suffix, c)
      else do
        let (suffix, c) ← uri c.next
        pure (some "!", suffix, c)
  if atSpace c then return (.tag handle (String.ofList suffix), c)
  throw .unreadable

/-! ## Directives -/

/-- A number of a version. -/
def versionNumber (c : Cursor) : Except DocumentFailure (Nat × Cursor) :=
  let (digits, c) := c.span fun ch => (asciiDigit? 10 ch).isSome
  if digits.isEmpty then .error .unreadable
  else if 4300 < digits.length then .error (.crash (.tooLongToRead digits.length))
  else .ok (Numeral.ofDigits 10 (digits.filterMap (asciiDigit? 10)), c)

/-- The version of a directive. -/
def versionDirective (c : Cursor) : Except DocumentFailure (Directive × Cursor) := do
  let (major, c) ← versionNumber c.skipSpaces
  if c.peek ≠ some '.' then throw .unreadable
  let (_, c) ← versionNumber c.next
  if atSpace c then return (.version major, c)
  throw .unreadable

/-- The handle of a directive and what it stands for. -/
def tagDirective (c : Cursor) : Except DocumentFailure (Directive × Cursor) := do
  let (handle, c) ← tagHandle c.skipSpaces
  if c.peek ≠ some ' ' then throw .unreadable
  let (pre, c) ← uri c.skipSpaces
  if atSpace c then return (.tag handle (String.ofList pre), c)
  throw .unreadable

/-- A directive, from behind its percent sign to the start of the next line. -/
def directive (c : Cursor) : Except DocumentFailure (Directive × Cursor) := do
  let (name, c) := c.span isNameChar
  if name.isEmpty || !atSpace c then throw .unreadable
  let (d, c) ←
    match String.ofList name with
    | "YAML" => versionDirective c
    | "TAG" => tagDirective c
    | _ => pure (.other, c.skipWhile fun ch => !isBreak ch)
  return (d, ← c.skipRestOfLine)

end BeaconCheck.Yaml
