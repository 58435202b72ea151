import BeaconCheck.Value.Basic
import BeaconCheck.Text.Quoted

/-!
# The text of values

How messages and logs show a value. `Value.display` shows text as it is and a stamp as
a date and time; `Value.quoted` shows text between quotes and a stamp as the call that
builds it, and is what both show inside lists and objects. Either fails on an integer
with too many digits.
-/

namespace BeaconCheck

/-- The decimal digits of `n`, with zeros in front up to `width`. -/
def padded (width n : Nat) : String :=
  let digits := Nat.toDigits 10 n
  String.ofList (List.replicate (width - digits.length) '0' ++ digits)

namespace Stamp

/-- The offset as hours and minutes. -/
def offsetText (minutes : Int) : String :=
  let size := minutes.natAbs
  (if minutes < 0 then "-" else "+") ++ s!"{padded 2 (size / 60)}:{padded 2 (size % 60)}"

/-- The date and time as digits. -/
def display : Stamp → String
  | .date y m d => s!"{padded 4 y}-{padded 2 m}-{padded 2 d}"
  | .moment y m d hour minute second micro offset =>
    s!"{padded 4 y}-{padded 2 m}-{padded 2 d} " ++
      s!"{padded 2 hour}:{padded 2 minute}:{padded 2 second}" ++
      (if micro = 0 then "" else s!".{padded 6 micro}") ++
      (match offset with
        | none => ""
        | some minutes => offsetText minutes)

/-- The zone of an offset. -/
def zoneText (minutes : Int) : String :=
  if minutes = 0 then "datetime.timezone.utc"
  else s!"datetime.timezone({CalendarProblem.offsetText minutes})"

/-- The call that builds the stamp; seconds and microseconds are left out where they
and all that follows are zero. -/
def construction : Stamp → String
  | .date y m d => s!"datetime.date({y}, {m}, {d})"
  | .moment y m d hour minute second micro offset =>
    let time :=
      if micro ≠ 0 then [hour, minute, second, micro]
      else if second ≠ 0 then [hour, minute, second]
      else [hour, minute]
    let zone :=
      match offset with
      | none => []
      | some minutes => [s!"tzinfo={zoneText minutes}"]
    let parts := ([y, m, d] ++ time).map toString ++ zone
    "datetime.datetime(" ++ ", ".intercalate parts ++ ")"

end Stamp

/-- One byte inside the quotes of raw bytes. -/
def escapeByte (quote : Char) (b : UInt8) : List Char :=
  let c := Char.ofNat b.toNat
  if c = quote ∨ c = '\\' then ['\\', c]
  else if c = '\t' then ['\\', 't']
  else if c = '\n' then ['\\', 'n']
  else if c = '\r' then ['\\', 'r']
  else if 0x20 ≤ b ∧ b < 0x7f then [c]
  else '\\' :: 'x' :: Quoted.hex 2 b.toNat

/-- Raw bytes between quotes, with a mark in front. -/
def quotedBytes (bytes : List UInt8) : String :=
  let quote := Quoted.quoteFor (bytes.map fun b => Char.ofNat b.toNat)
  String.ofList ('b' :: quote :: bytes.flatMap (escapeByte quote) ++ [quote])

/-- The text of a scalar inside lists, objects and messages. -/
def Scalar.quoted : Scalar → Except Crash String
  | .null => .ok "None"
  | .bool b => .ok (if b then "True" else "False")
  | .number n => n.text
  | .text s => .ok (BeaconCheck.quoted s)
  | .bytes bs => .ok (quotedBytes bs)
  | .stamp t => .ok t.construction

/-- The text of a reference to a list or an object. -/
def Value.outline : Value → String
  | .list _ => "[...]"
  | _ => "\x7b...\x7d"

mutual

/-- The text of a value inside lists, objects and messages. -/
def Value.quoted : Value → Except Crash String
  | .scalar s => s.quoted
  | .list items => do
    let parts ← Value.quotedItems items
    return "[" ++ ", ".intercalate parts ++ "]"
  | .object entries => do
    let parts ← Value.quotedEntries entries
    return "\x7b" ++ ", ".intercalate parts ++ "\x7d"
  | .pair a b => do
    let a ← Value.quoted a
    let b ← Value.quoted b
    return "(" ++ a ++ ", " ++ b ++ ")"
  | .set members => do
    let parts ← members.mapM Scalar.quoted
    return if parts.isEmpty then "set()" else "\x7b" ++ ", ".intercalate parts ++ "\x7d"
  | .enclosing target => .ok target.outline

/-- The texts of the items of a list. -/
def Value.quotedItems : List Value → Except Crash (List String)
  | [] => .ok []
  | x :: xs => do
    let first ← Value.quoted x
    let rest ← Value.quotedItems xs
    return first :: rest

/-- The texts of the entries of an object. -/
def Value.quotedEntries : List (Scalar × Value) → Except Crash (List String)
  | [] => .ok []
  | (k, x) :: es => do
    let key ← k.quoted
    let value ← Value.quoted x
    let rest ← Value.quotedEntries es
    return (key ++ ": " ++ value) :: rest

end

/-- The text of a value on its own. -/
def Value.display : Value → Except Crash Text
  | .text s => .ok s
  | .scalar (.stamp t) => .ok t.display
  | v => v.quoted.map .whole

end BeaconCheck
