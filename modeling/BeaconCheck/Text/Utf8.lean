import BeaconCheck.Text.Basic

/-!
# UTF-8

Strict decoding of bytes. A fault names the bytes that cannot be decoded and what is
wrong with them: a byte that starts no character, a sequence broken off by another
byte, or one broken off by the end of the data. The bytes of a broken sequence are
those that could still have been part of a character.

Every character has bytes, but a half of a surrogate pair has none, so a text that holds
one cannot be encoded: `Utf8.writable`.
-/

namespace BeaconCheck.Utf8

/-- What is wrong with bytes that cannot be decoded. -/
inductive Problem where
  | invalidStart
  | invalidContinuation
  | unexpectedEnd
deriving DecidableEq, Repr, Inhabited

/-- Bytes that cannot be decoded: their position, how many they are, the first of
them, and the problem. -/
structure Fault where
  position : Nat
  length : Nat
  byte : UInt8
  problem : Problem
deriving DecidableEq, Repr, Inhabited

def Problem.message : Problem → String
  | .invalidStart => "invalid start byte"
  | .invalidContinuation => "invalid continuation byte"
  | .unexpectedEnd => "unexpected end of data"

/-- The two lower-case hexadecimal digits of a byte. -/
def hexByte (b : UInt8) : String :=
  String.ofList [Nat.digitChar (b.toNat / 16), Nat.digitChar (b.toNat % 16)]

def Fault.message (f : Fault) : String :=
  let place :=
    if f.length = 1 then s!"byte 0x{hexByte f.byte} in position {f.position}"
    else s!"bytes in position {f.position}-{f.position + f.length - 1}"
  s!"'utf-8' codec can't decode {place}: {f.problem.message}"

/-- A byte of the form `10xxxxxx`. -/
def isContinuation (b : UInt8) : Bool :=
  0x80 ≤ b && b < 0xc0

/-- The byte may follow the first byte of a sequence of three or four: the ranges
shut out longer forms than needed, surrogates and code points beyond the last. -/
def mayFollow (first second : UInt8) : Bool :=
  isContinuation second &&
    !(first == 0xe0 && second < 0xa0) && !(first == 0xed && 0xa0 ≤ second) &&
    !(first == 0xf0 && second < 0x90) && !(first == 0xf4 && 0x90 ≤ second)

/-- The six payload bits of a continuation byte. -/
def payload (b : UInt8) : Nat :=
  b.toNat % 64

/-- What stands at the front of the bytes: a character and the number of its bytes,
or a problem and the number of bytes it concerns. -/
inductive Front where
  | char (c : Char) (length : Nat)
  | bad (problem : Problem) (length : Nat)

/-- The front of a sequence of three bytes, after its first byte. -/
def front3 (a : UInt8) : List UInt8 → Front
  | [] => .bad .unexpectedEnd 1
  | b :: rest =>
    if mayFollow a b then
      match rest with
      | [] => .bad .unexpectedEnd 2
      | c :: _ =>
        if isContinuation c then
          .char (Char.ofNat (a.toNat % 16 * 4096 + payload b * 64 + payload c)) 3
        else .bad .invalidContinuation 2
    else .bad .invalidContinuation 1

/-- The front of a sequence of four bytes, after its first byte. -/
def front4 (a : UInt8) : List UInt8 → Front
  | [] => .bad .unexpectedEnd 1
  | b :: rest =>
    if mayFollow a b then
      match rest with
      | [] => .bad .unexpectedEnd 2
      | c :: rest =>
        if isContinuation c then
          match rest with
          | [] => .bad .unexpectedEnd 3
          | d :: _ =>
            if isContinuation d then
              .char (Char.ofNat
                (a.toNat % 8 * 262144 + payload b * 4096 + payload c * 64 + payload d)) 4
            else .bad .invalidContinuation 3
        else .bad .invalidContinuation 2
    else .bad .invalidContinuation 1

/-- The front of the bytes that start with `a`. -/
def front (a : UInt8) (rest : List UInt8) : Front :=
  if a < 0x80 then .char (Char.ofNat a.toNat) 1
  -- continuation bytes, and the starts of forms that are longer than needed
  else if a < 0xc2 then .bad .invalidStart 1
  else if a < 0xe0 then
    match rest with
    | [] => .bad .unexpectedEnd 1
    | b :: _ =>
      if isContinuation b then .char (Char.ofNat (a.toNat % 32 * 64 + payload b)) 2
      else .bad .invalidContinuation 1
  else if a < 0xf0 then front3 a rest
  else if a < 0xf5 then front4 a rest
  else .bad .invalidStart 1

/-- Decodes bytes from a position on, passing over `skip` bytes of a character that
has been read. -/
def decodeFrom : Nat → Nat → List UInt8 → Except Fault (List Char)
  | _, _, [] => .ok []
  | position, skip + 1, _ :: rest => decodeFrom (position + 1) skip rest
  | position, 0, a :: rest =>
    match front a rest with
    | .char c length => (decodeFrom (position + 1) (length - 1) rest).map (c :: ·)
    | .bad problem length => .error ⟨position, length, a, problem⟩

/-- The characters that the bytes encode, or the first fault. -/
def decode (bytes : List UInt8) : Except Fault (List Char) :=
  decodeFrom 0 0 bytes

/-- Decodes as far as whole characters go, and gives back the bytes of a last character
that breaks off. -/
def decodeWhole (bytes : List UInt8) : Except Fault (List Char × List UInt8) :=
  match decode bytes with
  | .ok text => .ok (text, [])
  | .error fault =>
    -- what is missing may come with the next block
    if fault.problem = .unexpectedEnd then
      (decode (bytes.take fault.position)).map fun text => (text, bytes.drop fault.position)
    else .error fault

/-- The characters up to the first fault. -/
def decodable (bytes : List UInt8) : List Char :=
  match decode bytes with
  | .ok text => text
  | .error fault => (decode (bytes.take fault.position)).toOption.getD []

/-- Decodes bytes that arrive in blocks; the size of a block can depend on how many bytes
are left. Positions count from the start of the block, or of the character that began
before it; a character that the end of the data breaks off is a block of its own. -/
def decodeBlocks (size : Nat → Nat) :
    Nat → List UInt8 → List UInt8 → Except Fault (List Char)
  | 0, begun, _ => decode begun
  | fuel + 1, begun, bytes =>
    if bytes.isEmpty then decode begun
    else
      let next := size bytes.length
      match decodeWhole (begun ++ bytes.take next) with
      | .error fault => .error fault
      | .ok (text, begun) =>
        (decodeBlocks size fuel begun (bytes.drop next)).map (text ++ ·)

/-- The bytes of a character. -/
def encodeChar (c : Char) : List UInt8 :=
  let n := c.toNat
  let tail (k : Nat) : UInt8 := UInt8.ofNat (0x80 + n / k % 64)
  if n < 0x80 then [UInt8.ofNat n]
  else if n < 0x800 then [UInt8.ofNat (0xc0 + n / 64), tail 1]
  else if n < 0x10000 then [UInt8.ofNat (0xe0 + n / 4096), tail 64, tail 1]
  else [UInt8.ofNat (0xf0 + n / 262144), tail 4096, tail 64, tail 1]

/-- The bytes of a text. -/
def encode (text : List Char) : List UInt8 :=
  text.flatMap encodeChar

/-- Halves of surrogate pairs in a text that is to be encoded: the position of the first
of them, how many follow each other, and the first. -/
structure Unpaired where
  position : Nat
  length : Nat
  first : Fin 2048
deriving DecidableEq, Repr, Inhabited

def Unpaired.message (u : Unpaired) : String :=
  let digits := String.ofList (Nat.toDigits 16 (Letter.half u.first).code)
  let place :=
    if u.length = 1 then "character '\\u" ++ digits ++ s!"' in position {u.position}"
    else s!"characters in position {u.position}-{u.position + u.length - 1}"
  s!"'utf-8' codec can't encode {place}: surrogates not allowed"

/-- The string that a text is to be encoded as. A text that holds a half has none. -/
def writable : Text → Except Unpaired String
  | .whole s => .ok s
  | .broken front place rest =>
    .error ⟨front.length, (rest.takeWhile Letter.isHalf).length + 1, place⟩

end BeaconCheck.Utf8
