import BeaconCheck.Yaml.Build

/-!
# Documents

A file holds one YAML document in UTF-8. A JSON text is read as one, too.
`Document.ofBytes` gives its value, null if the file holds none.

The bytes are decoded block by block, and the characters are looked at portion by portion,
each when the tokens before it are cut. So a fault of the bytes or of a character is met
only when its portion is asked for, and a failure of the tokens before it comes first.
Which of several faults comes first is up to the `Supply`; a file without any has the same
value under all of them.
-/

namespace BeaconCheck.Yaml

/-- How a file is handed out while its document is read. -/
structure Supply where
  /-- How many bytes more than a block are decoded at a time, by how many are left. More are
  asked for where the characters before took several bytes. -/
  surplus : Nat → Nat := fun _ => 0
  /-- How many steps of cutting are done before the portion with a fault is asked for. -/
  pace : Nat := 0
  /-- Bytes that are not UTF-8 are met before a character that cannot stand in a document. -/
  bytesFirst : Bool := true
deriving Inhabited

namespace Document

/-- The least number of bytes of a file that are decoded at a time. -/
def blockSize : Nat := 8192

/-- All line ends are line feeds. -/
def unifyLineEnds : List Char → List Char
  | [] => []
  | '\r' :: '\n' :: rest => '\n' :: unifyLineEnds rest
  | '\r' :: rest => '\n' :: unifyLineEnds rest
  | c :: rest => c :: unifyLineEnds rest

/-- A character that can stand in a document. -/
def isAdmissible (c : Char) : Bool :=
  c == '\t' || c == '\n' || c == '\r' || (' ' ≤ c && c ≤ '~') || c == '\x85' ||
    ('\xa0' ≤ c && c ≤ '\ud7ff') || ('\ue000' ≤ c && c ≤ '\ufffd') || 0x10000 ≤ c.toNat

/-- Decodes a file block by block. -/
def decode (s : Supply) (bytes : List UInt8) : Except Utf8.Fault (List Char) :=
  Utf8.decodeBlocks (fun left => blockSize + s.surplus left) (bytes.length + 1) [] bytes

/-- The fault of a file that is met first. -/
def fault? (s : Supply) (bytes : List UInt8) : Option DocumentFailure :=
  match decode s bytes with
  | .ok text => if text.all isAdmissible then none else some .unreadable
  | .error fault =>
    -- in front of the bytes there may be a character that is at fault as well
    if s.bytesFirst || (Utf8.decodable bytes).all isAdmissible then
      some (.crash (.undecodable fault))
    else some .unreadable

/-- The tokens of a file, and the failure that keeps it from being cut to its end. The text
is had up to the first fault in it. -/
def tokens (s : Supply) (bytes : List UInt8) : List Token × Option DocumentFailure :=
  let text := unifyLineEnds ((Utf8.decodable bytes).takeWhile isAdmissible)
  match fault? s bytes with
  | none => Token.scan text
  | some fault => Token.scanUntil fault s.pace text

/-- The value of the document that tokens make up. -/
def ofTokens (tokens : List Token) (ending : Option DocumentFailure) :
    Except DocumentFailure Value := do
  match ← Node.ofTokens tokens ending with
  | none => return .null
  | some n => n.toValue

/-- The value of the document that a file holds. -/
def ofBytes (s : Supply) (bytes : List UInt8) : Except DocumentFailure Value :=
  let (tokens, ending) := tokens s bytes
  ofTokens tokens ending

end Document

end BeaconCheck.Yaml
