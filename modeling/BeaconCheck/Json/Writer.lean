import BeaconCheck.Text.Quoted
import BeaconCheck.Value.Basic

/-!
# Writing JSON

`Json.write` writes a value in a style. Text is written as it is, apart from the quote,
the backslash and control characters, so a half of a surrogate pair stays one. A pair is
written as a list. Dates, times, bytes and sets have no JSON form; nor has a value that
contains itself.
-/

namespace BeaconCheck.Json

/-- How JSON is laid out. -/
structure Style where
  /-- What stands between items and entries on one line. -/
  itemSeparator : String
  /-- What stands between a name and its value. -/
  nameSeparator : String
  /-- Items and entries stand on lines of their own, indented by this much. -/
  indent : Option Nat
  /-- Infinities and not-a-number are refused. -/
  strict : Bool

namespace Style

/-- Without blank space, for response bodies. -/
def compact : Style := ⟨",", ":", none, true⟩

/-- On one line, for the log. -/
def line : Style := ⟨", ", ": ", none, false⟩

/-- On lines of their own, for the terminal and for files. -/
def page : Style := ⟨",", ": ", some 2, false⟩

/-- A line break and the indentation of a level. -/
def lineBreak (style : Style) (level : Nat) : String :=
  match style.indent with
  | none => ""
  | some width => String.ofList ('\n' :: List.replicate (width * level) ' ')

end Style

/-- One character inside a string. -/
def escape (c : Char) : List Char :=
  if c = '"' ∨ c = '\\' then ['\\', c]
  else if c = '\n' then ['\\', 'n']
  else if c = '\r' then ['\\', 'r']
  else if c = '\t' then ['\\', 't']
  else if c = '\x0c' then ['\\', 'f']
  else if c = '\x08' then ['\\', 'b']
  else if c.toNat < 0x20 then '\\' :: 'u' :: Quoted.hex 4 c.toNat
  else [c]

/-- A text. -/
def writeText (t : Text) : Text :=
  "\"" ++ t.flatMap escape ++ "\""

/-- A number. -/
def writeNumber (style : Style) : Number → Except Crash String
  | .int i => integerText i
  | .float .nan => if style.strict then .error .notFinite else .ok "NaN"
  | .float (.infinite negative) =>
    if style.strict then .error .notFinite
    else .ok (if negative then "-Infinity" else "Infinity")
  | .float x => .ok (DecimalStyle.document.text x)

/-- The name of the kind of a stamp. -/
def stampType : Stamp → String
  | .date .. => "date"
  | .moment .. => "datetime"

/-- A scalar. -/
def writeScalar (style : Style) : Scalar → Except Crash Text
  | .null => .ok "null"
  | .bool b => .ok (if b then "true" else "false" : String)
  | .number n => (writeNumber style n).map .whole
  | .text t => .ok (writeText t)
  | .bytes _ => .error (.notWritable "bytes")
  | .stamp t => .error (.notWritable (stampType t))

/-- The name of an entry. Keys that are no text are written as their JSON form. -/
def writeKey (style : Style) : Scalar → Except Crash Text
  | .text t => .ok (writeText t)
  | .bytes _ => .error (.notWritableKey "bytes")
  | .stamp t => .error (.notWritableKey (stampType t))
  | key => (writeScalar style key).map writeText

/-- Parts between brackets, on lines of their own if the style asks for it. -/
def enclose (style : Style) (level : Nat) (opening closing : String)
    (parts : List Text) : Text :=
  if parts.isEmpty then opening ++ closing
  else
    let inner := style.lineBreak (level + 1)
    opening ++ inner ++ Text.intercalate (style.itemSeparator ++ inner) parts
      ++ style.lineBreak level ++ closing

mutual

/-- Writes a value at a level of nesting. -/
def writeAt (style : Style) (level : Nat) : Value → Except Crash Text
  | .scalar s => writeScalar style s
  | .list items => do
    return enclose style level "[" "]" (← writeItems style (level + 1) items)
  | .object entries => do
    return enclose style level "\x7b" "\x7d" (← writeEntries style (level + 1) entries)
  | .pair a b => do
    let first ← writeAt style (level + 1) a
    let second ← writeAt style (level + 1) b
    return enclose style level "[" "]" [first, second]
  | .set _ => .error (.notWritable "set")
  | .enclosing _ => .error .circular

/-- Writes the items of a list. -/
def writeItems (style : Style) (level : Nat) : List Value → Except Crash (List Text)
  | [] => .ok []
  | x :: xs => do
    let first ← writeAt style level x
    let rest ← writeItems style level xs
    return first :: rest

/-- Writes the entries of an object. -/
def writeEntries (style : Style) (level : Nat) :
    List (Scalar × Value) → Except Crash (List Text)
  | [] => .ok []
  | (k, x) :: es => do
    let name ← writeKey style k
    let value ← writeAt style level x
    let rest ← writeEntries style level es
    return (name ++ style.nameSeparator ++ value) :: rest

end

/-- The JSON text of a value. -/
def write (style : Style) (v : Value) : Except Crash Text :=
  writeAt style 0 v

end BeaconCheck.Json
