import BeaconCheck.Yaml.Scalar
import BeaconCheck.Yaml.Token

/-!
# Cutting a document into tokens

The structure of a YAML document is in part in its indentation. The lexer keeps the
columns of the open blocks, and turns a deeper column into the start of a block and a
shallower one into ends.

A scalar may turn out to be a key only when a colon follows. Until then its place among
the tokens is remembered, one for each level of nesting; a key must end on the line where
it starts and within 1024 characters. In a block where only a key can stand, not being
one is an error.

`Token.scan` cuts a text. A text that cannot be cut any further ends with a failure, which
counts when the tokens before it are used up. `Token.scanUntil` cuts a text of which only
the front can be had.
-/

namespace BeaconCheck.Yaml

/-- A token that may turn out to be a key. -/
structure KeyCandidate where
  /-- The number of tokens before it. -/
  position : Nat
  /-- Only a key can stand here. -/
  required : Bool
  index : Nat
  line : Nat
  column : Nat
deriving DecidableEq, Repr, Inhabited

/-- The state of the lexer. -/
structure Lexer where
  cursor : Cursor
  /-- The tokens so far, the last one first. -/
  tokens : List Token := []
  /-- How deep brackets and braces are nested. -/
  flow : Nat := 0
  /-- The column of the innermost block, -1 outside of all. -/
  indent : Int := -1
  /-- The columns of the blocks around it. -/
  outer : List Int := []
  /-- A key can start here. -/
  keyAllowed : Bool := true
  /-- The candidates by their level of nesting. -/
  candidates : List (Nat × KeyCandidate) := []
deriving Repr, Inhabited

namespace Lexer

/-- A candidate can no longer be a key. -/
def isStale (l : Lexer) (k : KeyCandidate) : Bool :=
  k.line != l.cursor.line || 1024 < l.cursor.index - k.index

/-- The tokens that are known to be no keys: those before the first candidate. -/
def settled (l : Lexer) : List Token :=
  let live := l.candidates.filter fun p => !l.isStale p.2
  let count := live.foldl (fun n p => min n p.2.position) l.tokens.length
  l.tokens.reverse.take count

end Lexer

/-- Cutting off a token changes the lexer and can fail. -/
abbrev LexM := StateT Lexer (Except DocumentFailure)

namespace LexM

/-- The text is no document. -/
def fail {α : Type} : LexM α := throw .unreadable

/-- Adds a token. -/
def emit (t : Token) : LexM Unit :=
  modify fun l => { l with tokens := t :: l.tokens }

/-- Puts a token behind the first ones. -/
def insertAt (position : Nat) (t : Token) : LexM Unit :=
  modify fun l => { l with tokens := l.tokens.insertIdx (l.tokens.length - position) t }

/-- Moves on to a place. -/
def moveTo (c : Cursor) : LexM Unit :=
  modify fun l => { l with cursor := c }

/-- Moves on by some characters. -/
def forward (n : Nat) : LexM Unit :=
  modify fun l => { l with cursor := l.cursor.skip n }

/-- Says whether a key can start behind the token. -/
def allowKey (allowed : Bool) : LexM Unit :=
  modify fun l => { l with keyAllowed := allowed }

/-- Drops the candidates that can no longer be keys. -/
def dropStale : LexM Unit := do
  let l ← get
  if l.candidates.any fun p => l.isStale p.2 && p.2.required then fail
  set { l with candidates := l.candidates.filter fun p => !l.isStale p.2 }

/-- Drops the candidate of this level. -/
def dropCandidate : LexM Unit := do
  let l ← get
  match l.candidates.lookup l.flow with
  | none => return ()
  | some k =>
    if k.required then fail
    set { l with candidates := l.candidates.filter fun p => p.1 != l.flow }

/-- The next token may be a key. -/
def saveCandidate : LexM Unit := do
  let l ← get
  if l.keyAllowed then
    dropCandidate
    let k : KeyCandidate := {
      position := l.tokens.length
      -- at the column of a block nothing but its next key can stand
      required := l.flow = 0 && l.indent = (l.cursor.column : Int)
      index := l.cursor.index
      line := l.cursor.line
      column := l.cursor.column }
    modify fun l => { l with candidates := (l.flow, k) :: l.candidates }

/-- Ends the blocks that are indented deeper than a column. -/
def unwindOf (column : Int) : List Int → LexM Unit
  | [] => return ()
  | outer :: rest => do
    if column < (← get).indent then
      emit .blockEnd
      modify fun l => { l with indent := outer, outer := rest }
      unwindOf column rest

@[inherit_doc unwindOf]
def unwind (column : Int) : LexM Unit := do
  let l ← get
  -- between brackets the indentation says nothing
  if l.flow = 0 then unwindOf column l.outer

/-- Starts a block at a column, if the column is deeper than that of the block around. -/
def startsBlock (column : Nat) : LexM Bool := do
  let l ← get
  if l.indent < (column : Int) then
    set { l with outer := l.indent :: l.outer, indent := (column : Int) }
    return true
  else return false

/-- Adds a token that was read at a place. -/
def emitScanned (result : Except DocumentFailure (Token × Cursor)) : LexM Unit := do
  let (t, c) ← StateT.lift result
  moveTo c
  emit t

/-! ## Kinds of tokens -/

/-- A token at the top of the document, which ends all blocks. -/
def topLevel : LexM Unit := do
  unwind (-1)
  dropCandidate
  allowKey false

/-- The start of a bracket or brace. -/
def openFlow (t : Token) : LexM Unit := do
  saveCandidate
  modify fun l => { l with flow := l.flow + 1 }
  allowKey true
  forward 1
  emit t

/-- The end of a bracket or brace. -/
def closeFlow (t : Token) : LexM Unit := do
  dropCandidate
  if (← get).flow = 0 then fail
  modify fun l => { l with flow := l.flow - 1 }
  allowKey false
  forward 1
  emit t

/-- A comma. -/
def flowEntry : LexM Unit := do
  allowKey true
  dropCandidate
  forward 1
  emit .flowEntry

/-- The dash of an entry. -/
def blockEntry : LexM Unit := do
  let l ← get
  if l.flow = 0 then
    if !l.keyAllowed then fail
    if ← startsBlock l.cursor.column then emit .blockSequenceStart
  allowKey true
  dropCandidate
  forward 1
  emit .blockEntry

/-- The question mark of a key. -/
def explicitKey : LexM Unit := do
  let l ← get
  if l.flow = 0 then
    if !l.keyAllowed then fail
    if ← startsBlock l.cursor.column then emit .blockMappingStart
  allowKey (l.flow = 0)
  dropCandidate
  forward 1
  emit .key

/-- The colon of a value whose key was a candidate. -/
def valueOf (k : KeyCandidate) : LexM Unit := do
  let l ← get
  set { l with candidates := l.candidates.filter fun p => p.1 != l.flow }
  insertAt k.position .key
  if l.flow = 0 then
    -- put in at the same place, so the block starts in front of its key
    if ← startsBlock k.column then insertAt k.position .blockMappingStart
  allowKey false

/-- The colon of a value whose key was none. -/
def valueAlone : LexM Unit := do
  let l ← get
  if l.flow = 0 then
    if !l.keyAllowed then fail
    if ← startsBlock l.cursor.column then emit .blockMappingStart
  allowKey (l.flow = 0)
  dropCandidate

/-- The colon of a value. -/
def value : LexM Unit := do
  let l ← get
  match l.candidates.lookup l.flow with
  | some k => valueOf k
  | none => valueAlone
  forward 1
  emit .value

/-- A token that may be a key, or belong to one. -/
def keyPart (read : Cursor → Except DocumentFailure (Token × Cursor)) : LexM Unit := do
  saveCandidate
  allowKey false
  emitScanned (read (← get).cursor)

/-- A block scalar, behind which a key can start. -/
def blockScalar (fold : Bool) : LexM Unit := do
  allowKey true
  dropCandidate
  let l ← get
  emitScanned ((block fold l.indent l.cursor.next).map fun p =>
    (.scalar (.whole (String.ofList p.1)) false, p.2))

/-- A plain scalar, behind which a key can start if it stopped at the start of a line. -/
def plainScalar : LexM Unit := do
  saveCandidate
  let l ← get
  let (text, broken, c) := plain (l.flow != 0) l.indent l.cursor
  allowKey broken
  moveTo c
  emit (.scalar (.whole (String.ofList text)) true)

/-- A quoted scalar. -/
def quotedScalar
    (read : Cursor → Except DocumentFailure (List Letter × Cursor)) : LexM Unit :=
  keyPart fun c => (read c.next).map fun p => (.scalar (.ofLetters p.1) false, p.2)

/-- A directive. -/
def directiveLine : LexM Unit := do
  topLevel
  emitScanned ((directive (← get).cursor.next).map fun p => (.directive p.1, p.2))

/-! ## Choosing -/

/-- A plain scalar can start here. -/
def startsPlain (flow : Bool) (c : Cursor) : Bool :=
  match c.peek with
  | none => false
  | some ch =>
    (!isBlank ch && !"-?:,[]\x7b\x7d#&*!|>'\"%@`".contains ch) ||
      (!endsWord c.peekNext && (ch == '-' || (!flow && (ch == '?' || ch == ':'))))

/-- Reads spaces, comments and line ends. A key can start on a new line of a block. -/
def skipToToken : Nat → LexM Unit
  | 0 => return ()
  | fuel + 1 => do
    let l ← get
    let c := l.cursor.skipSpaces.skipComment
    match c.lineBreak? with
    | none => moveTo c
    | some (_, c) =>
      moveTo c
      if l.flow = 0 then allowKey true
      skipToToken fuel

/-- Reads a byte order mark at the start of the text. -/
def skipMark : LexM Unit := do
  let c := (← get).cursor
  if c.index = 0 && c.peek = some '\uFEFF' then moveTo c.next

/-- Reads the token that starts with a character. -/
def token (ch : Char) : LexM Unit := do
  let l ← get
  let c := l.cursor
  let flow := l.flow != 0
  let standsAlone := flow || endsWord c.peekNext
  -- what marks a document counts before all else, at the start of a line
  if c.column = 0 && ch = '%' then directiveLine
  else if c.column = 0 && c.isMarker '-' then
    topLevel
    forward 3
    emit .documentStart
  else if c.column = 0 && c.isMarker '.' then
    topLevel
    forward 3
    emit .documentEnd
  else if ch = '[' then openFlow .flowSequenceStart
  else if ch = '\x7b' then openFlow .flowMappingStart
  else if ch = ']' then closeFlow .flowSequenceEnd
  else if ch = '\x7d' then closeFlow .flowMappingEnd
  else if ch = ',' then flowEntry
  else if ch = '-' && endsWord c.peekNext then blockEntry
  else if ch = '?' && standsAlone then explicitKey
  else if ch = ':' && standsAlone then value
  else if ch = '*' then keyPart fun c => (anchorName c.next).map fun p => (.alias p.1, p.2)
  else if ch = '&' then keyPart fun c => (anchorName c.next).map fun p => (.anchor p.1, p.2)
  else if ch = '!' then keyPart tagToken
  else if ch = '|' && !flow then blockScalar false
  else if ch = '>' && !flow then blockScalar true
  else if ch = '\'' then quotedScalar singleQuoted
  else if ch = '"' then quotedScalar doubleQuoted
  -- what is none of the above can still be the start of plain text
  else if startsPlain flow c then plainScalar
  else fail

/-- Reads the next token and those that its column stands for. Tells whether there was
one. -/
def step : LexM Bool := do
  skipMark
  -- each round takes a line end, so the characters that are left bound the rounds
  skipToToken ((← get).cursor.rest.length + 1)
  dropStale
  let c := (← get).cursor
  unwind c.column
  match c.peek with
  | none =>
    -- the end of the text ends all blocks
    unwind (-1)
    dropCandidate
    return false
  | some ch =>
    token ch
    return true

/-- Reads all tokens. Those that were settled stay when reading fails. -/
def run : Nat → Lexer → List Token × Option DocumentFailure
  | 0, l => (l.settled, some .unreadable)
  | fuel + 1, l =>
    match step l with
    | .error failure => (l.settled, some failure)
    | .ok (false, l) => (l.tokens.reverse, none)
    | .ok (true, l) => run fuel l

/-- Reads tokens until so many steps are done, and fails then for want of the text behind.
Those that were settled stay. -/
def runUntil (failure : DocumentFailure) : Nat → Lexer → List Token × Option DocumentFailure
  | 0, l => (l.settled, some failure)
  | pace + 1, l =>
    match step l with
    | .error earlier => (l.settled, some earlier)
    | .ok (false, _) => (l.settled, some failure)
    | .ok (true, l) => runUntil failure pace l

end LexM

/-- The tokens of a text, and the failure that keeps it from being cut to its end. -/
def Token.scan (text : List Char) : List Token × Option DocumentFailure :=
  LexM.run (text.length + 2) { cursor := { rest := text } }

/-- The tokens of the front of a text, and the failure that keeps it from being cut further:
one of its own, or after so many steps the failure to get at what is behind it. -/
def Token.scanUntil (failure : DocumentFailure) (pace : Nat) (text : List Char) :
    List Token × Option DocumentFailure :=
  LexM.runUntil failure pace { cursor := { rest := text } }

end BeaconCheck.Yaml
