import BeaconCheck.Text.Utf8

/-!
# The text of a JSON body

A JSON body comes as bytes. Its encoding is told by a byte order mark or, without one,
by where the zero bytes stand among the first four. A half of a surrogate pair that
stands without its other half is kept as one.
-/

namespace BeaconCheck.Json

/-- The encodings of JSON bodies; the byte order is that of the units. -/
inductive Encoding where
  | utf8
  | utf16 (bigEndian : Bool)
  | utf32 (bigEndian : Bool)
deriving DecidableEq, Repr

/-- The encoding of a body without a byte order mark. -/
def plainEncoding : List UInt8 → Encoding
  | a :: b :: c :: d :: _ =>
    if a = 0 then (if b = 0 then .utf32 true else .utf16 true)
    else if b = 0 then (if c = 0 ∧ d = 0 then .utf32 false else .utf16 false)
    else .utf8
  | [a, b] => if a = 0 then .utf16 true else if b = 0 then .utf16 false else .utf8
  | _ => .utf8

/-- The encoding of a body, and the body without its byte order mark. -/
def detect (body : List UInt8) : Encoding × List UInt8 :=
  match body with
  | 0x00 :: 0x00 :: 0xfe :: 0xff :: rest => (.utf32 true, rest)
  | 0xff :: 0xfe :: 0x00 :: 0x00 :: rest => (.utf32 false, rest)
  | 0xfe :: 0xff :: rest => (.utf16 true, rest)
  | 0xff :: 0xfe :: rest => (.utf16 false, rest)
  | 0xef :: 0xbb :: 0xbf :: rest => (.utf8, rest)
  | _ => (plainEncoding body, body)

/-- The code point of the half of a surrogate pair that three bytes write as if it were a
character. -/
def surrogate? : List UInt8 → Option Nat
  | a :: b :: c :: _ =>
    if a == 0xed && 0xa0 ≤ b && b < 0xc0 && Utf8.isContinuation c then
      some (0xd000 + Utf8.payload b * 64 + Utf8.payload c)
    else none
  | _ => none

/-- Decodes UTF-8, passing over `skip` bytes of a letter that has been read. -/
def decodeUtf8 : Nat → List UInt8 → Option (List Letter)
  | _, [] => some []
  | skip + 1, _ :: rest => decodeUtf8 skip rest
  | 0, a :: rest =>
    -- looked for first, as strict decoding knows no halves
    match surrogate? (a :: rest) with
    | some code => (decodeUtf8 2 rest).map (.ofCode code :: ·)
    | none =>
      match Utf8.front a rest with
      | .char c length => (decodeUtf8 (length - 1) rest).map (.char c :: ·)
      | .bad .. => none

/-- The units of two bytes. -/
def units16 (bigEndian : Bool) : List UInt8 → Option (List Nat)
  | [] => some []
  | [_] => none
  | a :: b :: rest =>
    let unit := if bigEndian then a.toNat * 256 + b.toNat else b.toNat * 256 + a.toNat
    (units16 bigEndian rest).map (unit :: ·)

/-- The units of four bytes; none lies beyond the last code point. -/
def units32 (bigEndian : Bool) : List UInt8 → Option (List Nat)
  | [] => some []
  | a :: b :: c :: d :: rest =>
    let bytes := if bigEndian then [a, b, c, d] else [d, c, b, a]
    let unit := bytes.foldl (fun n byte => n * 256 + byte.toNat) 0
    if unit < 0x110000 then (units32 bigEndian rest).map (unit :: ·) else none
  | _ => none

/-- The character that two units of two bytes are the halves of. -/
def paired? (high low : Nat) : Option Char :=
  if 0xd800 ≤ high ∧ high < 0xdc00 ∧ 0xdc00 ≤ low ∧ low < 0xe000 then
    some (Char.ofNat (0x10000 + (high - 0xd800) * 1024 + (low - 0xdc00)))
  else none

/-- The letters of units of two bytes. -/
def joinPairs : List Nat → List Letter
  | [] => []
  | [unit] => [.ofCode unit]
  | high :: low :: rest =>
    match paired? high low with
    | some c => .char c :: joinPairs rest
    -- the second unit can still be the first of a pair
    | none => .ofCode high :: joinPairs (low :: rest)

/-- The letters of a body; `none` where its bytes are not of its encoding. -/
def decode (body : List UInt8) : Option (List Letter) :=
  match detect body with
  | (.utf8, bytes) => decodeUtf8 0 bytes
  | (.utf16 bigEndian, bytes) => (units16 bigEndian bytes).map joinPairs
  | (.utf32 bigEndian, bytes) => (units32 bigEndian bytes).map (·.map .ofCode)

end BeaconCheck.Json
