import BeaconCheck.Entries
import BeaconCheck.Text.Digit
import BeaconCheck.Text.Utf8

/-!
# Query parameters

The parameters in the query of a URL. The query is what follows the first question
mark, up to the first hash after it. It is cut at every `&`, and each piece at its
first `=`, before anything is decoded, so encoded delimiters survive in names and
values. In a name or value a plus is a space, and each run of ASCII characters has its
percent escapes replaced by the bytes they stand for, which must be UTF-8.

* `Query.ofUrl?` finds the query, `Query.pieces` cuts it.
* `Query.decodeText` decodes a name or a value, `Query.params` a whole URL.
-/

namespace BeaconCheck

/-- Decoded parameters: every name once, with its last value. -/
abbrev Params := Entries String String

/-- Why a URL has no parameters. -/
inductive QueryError where
  | noQuery (url : String)
  | emptyQuery (url : String)
  | undecodable (url : String) (fault : Utf8.Fault)
deriving DecidableEq, Repr, Inhabited

def QueryError.message : QueryError → String
  | .noQuery url => s!"Request URL has no query string: {url}"
  | .emptyQuery url => s!"Request URL has an empty query string: {url}"
  | .undecodable url fault => s!"Cannot decode query string of {url}: {fault.message}"

namespace Query

/-- The text before the first `mark` and the text after it; `none` if there is none. -/
def cut? (mark : Char) : List Char → Option (List Char × List Char)
  | [] => none
  | c :: rest =>
    if c = mark then some ([], rest)
    else (cut? mark rest).map fun p => (c :: p.1, p.2)

/-- The text before the first `mark`, or all of it. -/
def before (mark : Char) (text : List Char) : List Char :=
  text.takeWhile (· != mark)

/-- The query of a URL: from its first question mark to the next hash. -/
def ofUrl? (url : List Char) : Option (List Char) :=
  (cut? '?' url).map fun p => before '#' p.2

/-- The pieces of a text between the marks. -/
def splitAt (mark : Char) : List Char → List (List Char)
  | [] => [[]]
  | c :: rest =>
    if c = mark then [] :: splitAt mark rest
    else
      match splitAt mark rest with
      | [] => [[c]]
      | piece :: more => (c :: piece) :: more

/-- The pieces of a query that are not empty, each as the name and the value that it
writes. A piece without `=` has an empty value. -/
def pieces (query : List Char) : List (List Char × List Char) :=
  ((splitAt '&' query).filter (!·.isEmpty)).map fun piece =>
    (cut? '=' piece).getD (piece, [])

/-- A plus stands for a space. -/
def plusToSpace (c : Char) : Char :=
  if c = '+' then ' ' else c

/-- The bytes of ASCII text after percent decoding. A percent sign without two
hexadecimal digits behind it stands for itself. -/
def unescape : List Char → List UInt8
  | [] => []
  | '%' :: a :: b :: rest =>
    match asciiDigit? 16 a, asciiDigit? 16 b with
    | some high, some low => UInt8.ofNat (16 * high + low) :: unescape rest
    -- only the percent sign is passed over, as an escape may start right behind it
    | _, _ => UInt8.ofNat '%'.toNat :: unescape (a :: b :: rest)
  | c :: rest => UInt8.ofNat c.toNat :: unescape rest

/-- An ASCII character. -/
def isAscii (c : Char) : Bool :=
  c.toNat < 0x80

/-- Decodes text that starts after the ASCII characters of `run`, which are collected
in reverse order. -/
def decodeRuns (run : List Char) : List Char → Except Utf8.Fault (List Char)
  | [] => Utf8.decode (unescape run.reverse)
  | c :: rest =>
    if isAscii c then decodeRuns (c :: run) rest
    else do
      let decoded ← Utf8.decode (unescape run.reverse)
      let after ← decodeRuns [] rest
      return decoded ++ c :: after

/-- A name or value as it was meant. -/
def decodeText (text : List Char) : Except Utf8.Fault String :=
  (decodeRuns [] (text.map plusToSpace)).map String.ofList

/-- One name and value as they were meant; the name is decoded first. -/
def decodePair (pair : List Char × List Char) : Except Utf8.Fault (String × String) := do
  let name ← decodeText pair.1
  let value ← decodeText pair.2
  return (name, value)

/-- The names and values of a query in their order, repeated names included. -/
def pairs (query : List Char) : Except Utf8.Fault (List (String × String)) :=
  (pieces query).mapM decodePair

/-- The parameters of a URL. -/
def params (url : String) : Except QueryError Params :=
  match ofUrl? url.toList with
  | none => .error (.noQuery url)
  | some [] => .error (.emptyQuery url)
  | some query =>
    match pairs query with
    | .error fault => .error (.undecodable url fault)
    | .ok found => .ok (Entries.ofPairs found)

end Query

end BeaconCheck
