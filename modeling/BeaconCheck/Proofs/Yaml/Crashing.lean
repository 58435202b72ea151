import BeaconCheck.Proofs.Computation
import BeaconCheck.Yaml.Lexer

/-!
# What cutting a text crashes with

A text that is no document is unreadable. Only two things in it crash instead: a number of a
version that has too many digits, and the escape of a code point beyond the last one.

* `Crash.IsOversize`          — one of these is in a text.
* `LexM.lexical_step`         — no step fails otherwise,
* `Token.isLexical_of_scan`   — so neither does a text.
-/

namespace BeaconCheck

/-- A number in a text is too large: the number of a version, or the code of an escape. -/
def Crash.IsOversize : Crash → Prop
  | .tooLongToRead digits => 4300 < digits
  | .codePointTooLarge _ => True
  | _ => False

namespace Yaml

/-- What keeps a text from being cut: it is no document, or a number in it is too large. -/
def DocumentFailure.IsLexical : DocumentFailure → Prop
  | .unreadable => True
  | .crash c => c.IsOversize

/-- Reading fails only as the cutting of a text can. -/
abbrev Lexical {α : Type} (r : Except DocumentFailure α) : Prop :=
  FailsOnly DocumentFailure.IsLexical r

theorem lexical_unreadable {α : Type} : Lexical (.error .unreadable : Except DocumentFailure α) :=
  .error trivial

theorem lexical_skipRestOfLine (c : Cursor) : Lexical c.skipRestOfLine := by
  unfold Cursor.skipRestOfLine
  dsimp only
  split
  · exact .ok _
  · exact lexical_unreadable

/-! ## Names, tags and directives -/

theorem lexical_anchorName (c : Cursor) : Lexical (anchorName c) := by
  unfold anchorName
  dsimp only
  split
  · exact lexical_unreadable
  · split
    · exact .ok _
    · exact lexical_unreadable

/-- Escaped bytes that are no character are refused, not raised. -/
theorem lexical_uriBytes (fuel : Nat) (bytes : List UInt8) (c : Cursor) :
    Lexical (uriBytes fuel bytes c) := by
  -- by induction on the fuel: an escape goes on, or it is malformed
  induction fuel generalizing bytes c with
  | zero => exact .ok _
  | succ fuel ih =>
    rw [uriBytes]
    split
    · split
      · exact ih _ _
      · exact lexical_unreadable
    · exact lexical_unreadable
    · exact .ok _

theorem lexical_uriChars (fuel : Nat) (text : List Char) (c : Cursor) :
    Lexical (uriChars fuel text c) := by
  induction fuel generalizing text c with
  | zero => exact .ok _
  | succ fuel ih =>
    rw [uriChars]
    split
    · refine (lexical_uriBytes _ _ _).bind fun ⟨bytes, c⟩ => ?_
      dsimp only
      -- bytes that are not UTF-8 make a tag unreadable; here nothing escapes
      split
      · exact ih _ _
      · exact lexical_unreadable
    · split
      · exact ih _ _
      · exact .ok _
    · exact .ok _

theorem lexical_uri (c : Cursor) : Lexical (uri c) := by
  unfold uri
  split
  · exact lexical_uriChars _ _ _
  · exact lexical_unreadable

theorem lexical_tagHandle (c : Cursor) : Lexical (tagHandle c) := by
  unfold tagHandle
  split
  · exact .ok _
  · dsimp only
    split
    · exact .ok _
    · exact lexical_unreadable
  · exact lexical_unreadable

/-- A tag is read or refused. -/
theorem lexical_tagToken (c : Cursor) : Lexical (tagToken c) := by
  have hEnd (p : Option String × List Char × Cursor) :
      Lexical (if atSpace p.2.2 then pure (Token.tag p.1 (String.ofList p.2.1), p.2.2)
        else throw .unreadable) := by
    split
    · exact .ok _
    · exact lexical_unreadable
  unfold tagToken
  dsimp only
  -- a tag in full, the mark by itself, a handle with a suffix, or a suffix behind the usual handle
  split
  · refine (lexical_uri _).bind fun p => ?_
    split
    · exact lexical_unreadable
    · exact hEnd (none, p.1, p.2.next)
  · split
    · exact hEnd (none, ['!'], c.next)
    · split
      · exact (lexical_tagHandle _).bind fun p => (lexical_uri _).bind fun q => hEnd (some p.1, q)
      · exact (lexical_uri _).bind fun p => hEnd (some "!", p)

/-- A number of a version crashes if it has too many digits. -/
theorem lexical_versionNumber (c : Cursor) : Lexical (versionNumber c) := by
  unfold versionNumber
  dsimp only
  split
  · exact lexical_unreadable
  · split
    · next hLong => exact .error hLong
    · exact .ok _

theorem lexical_versionDirective (c : Cursor) : Lexical (versionDirective c) := by
  refine (lexical_versionNumber _).bind fun ⟨major, c⟩ => ?_
  dsimp only
  split
  · exact lexical_unreadable
  · refine (lexical_versionNumber _).bind fun ⟨_, c⟩ => ?_
    dsimp only
    split
    · exact .ok _
    · exact lexical_unreadable

theorem lexical_tagDirective (c : Cursor) : Lexical (tagDirective c) := by
  refine (lexical_tagHandle _).bind fun ⟨handle, c⟩ => ?_
  dsimp only
  split
  · exact lexical_unreadable
  · refine (lexical_uri _).bind fun ⟨pre, c⟩ => ?_
    dsimp only
    split
    · exact .ok _
    · exact lexical_unreadable

/-- A directive is read or refused, unless the numbers of its version are too large. -/
theorem lexical_directive (c : Cursor) : Lexical (directive c) := by
  -- whatever the directive is, the rest of its line has to be empty
  have hEnd (p : Directive × Cursor) :
      Lexical (do return (p.1, ← p.2.skipRestOfLine) : Except DocumentFailure (Directive × Cursor)) :=
    (lexical_skipRestOfLine p.2).bind fun _ => .ok _
  unfold directive
  dsimp only
  split
  · exact lexical_unreadable
  · split
    · exact (lexical_versionDirective _).bind hEnd
    · exact (lexical_tagDirective _).bind hEnd
    · exact hEnd (.other, _)

/-! ## Scalars -/

/-- Line ends inside of quotes are read unless a document is marked there. -/
theorem lexical_quotedBreaks (fuel : Nat) (breaks : List Char) (c : Cursor) :
    Lexical (quotedBreaks fuel breaks c) := by
  -- by induction on the fuel, one line end at a time
  induction fuel generalizing breaks c with
  | zero => exact .ok _
  | succ fuel ih =>
    rw [quotedBreaks]
    dsimp only
    split
    · exact lexical_unreadable
    · split
      · exact ih _ _
      · exact .ok _

theorem lexical_quotedSpaces (c : Cursor) : Lexical (quotedSpaces c) := by
  unfold quotedSpaces
  dsimp only
  split
  · exact lexical_unreadable
  · exact .ok _
  · exact (lexical_quotedBreaks _ _ _).bind fun _ => .ok _

/-- An escape crashes if its code is beyond the last code point. -/
theorem lexical_escapeCode (width : Nat) (c : Cursor) : Lexical (escapeCode width c) := by
  unfold escapeCode
  split
  · exact lexical_unreadable
  · split
    · exact .error trivial
    · split
      · exact .error trivial
      · exact .ok _

/-- An escape is read or refused, unless its number is no character at all. -/
theorem lexical_escape (c : Cursor) : Lexical (escape c) := by
  unfold escape
  split
  · exact lexical_unreadable
  · split
    · exact .ok _
    · exact (lexical_escapeCode _ _).map _
    · -- the escape of a line break, or of nothing that can be escaped
      split
      · exact (lexical_quotedBreaks _ _ _).map _
      · exact lexical_unreadable

/-- A string in double quotes fails for nothing but its escapes and its end. -/
theorem lexical_doubleQuotedFrom (fuel : Nat) (text : List Letter) (c : Cursor) :
    Lexical (doubleQuotedFrom fuel text c) := by
  -- by induction on the fuel; only an escape can crash, and what it crashes with is lexical
  induction fuel generalizing text c with
  | zero => exact lexical_unreadable
  | succ fuel ih =>
    rw [doubleQuotedFrom]
    split
    · exact lexical_unreadable
    · split
      · exact .ok _
      · split
        · exact (lexical_escape _).bind fun _ => ih _ _
        · split
          · exact (lexical_quotedSpaces _).bind fun _ => ih _ _
          · exact ih _ _

/-- A string in single quotes fails for nothing but its end. -/
theorem lexical_singleQuotedFrom (fuel : Nat) (text : List Char) (c : Cursor) :
    Lexical (singleQuotedFrom fuel text c) := by
  -- by induction on the fuel: two quotes in turn stand for one and go on
  induction fuel generalizing text c with
  | zero => exact lexical_unreadable
  | succ fuel ih =>
    rw [singleQuotedFrom]
    split
    · exact lexical_unreadable
    · split
      · split
        · exact ih _ _
        · exact .ok _
      · split
        · exact (lexical_quotedSpaces _).bind fun _ => ih _ _
        · exact ih _ _

/-- The header of a block scalar is read or refused. -/
theorem lexical_blockHeader (c : Cursor) : Lexical (blockHeader c) := by
  have hEnd (p : Chomping × Option Nat × Cursor) :
      Lexical (if p.2.1 = some 0 then throw .unreadable
        else if p.2.2.peek = some ' ' || endsLine p.2.2.peek then pure p
        else throw .unreadable : Except DocumentFailure (Chomping × Option Nat × Cursor)) := by
    split
    · exact lexical_unreadable
    · split
      · exact .ok _
      · exact lexical_unreadable
  exact hEnd _

theorem lexical_block (fold : Bool) (outer : Int) (c : Cursor) : Lexical (block fold outer c) :=
  (lexical_blockHeader c).bind fun _ => (lexical_skipRestOfLine _).bind fun _ => .ok _

/-! ## Steps of the lexer -/

namespace LexM

section

variable {α β : Type}

/-- The step fails only as the cutting of a text can. -/
def Lexical (m : LexM α) : Prop := ∀ l, Yaml.Lexical (m l)

theorem Lexical.pure (a : α) : Lexical (Pure.pure a : LexM α) := fun _ => .ok _

theorem Lexical.fail : Lexical (fail : LexM α) := fun _ => lexical_unreadable

theorem Lexical.modify (f : Lexer → Lexer) : Lexical (modify f : LexM Unit) := fun _ => .ok _

theorem Lexical.set (l : Lexer) : Lexical (set l : LexM Unit) := fun _ => .ok _

/-- Steps in turn fail lexically if each of them does. -/
theorem Lexical.bind {m : LexM α} {f : α → LexM β} (h : Lexical m) (hNext : ∀ a, Lexical (f a)) :
    Lexical (m >>= f) :=
  fun l => (h l).bind fun p => hNext p.1 p.2

theorem Lexical.get {f : Lexer → LexM α} (h : ∀ l, Lexical (f l)) : Lexical (get >>= f) :=
  fun l => h l l

/-- A choice between two steps fails lexically if both do. -/
theorem Lexical.ite {p : Prop} [Decidable p] {m n : LexM α} (hThen : Lexical m) (hElse : Lexical n) :
    Lexical (if p then m else n) := by
  split
  · exact hThen
  · exact hElse

end

theorem lexical_dropStale : Lexical dropStale :=
  .get fun _ => .ite (.bind .fail fun _ => .set _) (.set _)

theorem lexical_dropCandidate : Lexical dropCandidate := by
  refine .get fun l => ?_
  split
  · exact .pure _
  · exact .ite (.bind .fail fun _ => .set _) (.set _)

theorem lexical_saveCandidate : Lexical saveCandidate :=
  .get fun _ => .ite (lexical_dropCandidate.bind fun _ => .modify _) (.pure _)

theorem lexical_unwindOf (column : Int) : ∀ outer, Lexical (unwindOf column outer)
  | [] => .pure _
  | _ :: rest => .get fun _ =>
    .ite (.bind (.modify _) fun _ => .bind (.modify _) fun _ => lexical_unwindOf column rest) (.pure _)

theorem lexical_unwind (column : Int) : Lexical (unwind column) :=
  .get fun _ => .ite (lexical_unwindOf column _) (.pure _)

theorem lexical_startsBlock (column : Nat) : Lexical (startsBlock column) :=
  .get fun _ => .ite (.bind (.set _) fun _ => .pure _) (.pure _)

/-- A token that was scanned is emitted, or its failure is passed on. -/
theorem lexical_emitScanned {result : Except DocumentFailure (Token × Cursor)}
    (h : Yaml.Lexical result) : Lexical (emitScanned result) :=
  .bind (fun _ => h.bind fun _ => .ok _) fun _ => .bind (.modify _) fun _ => .modify _

/-! ## Kinds of tokens -/

theorem lexical_topLevel : Lexical topLevel :=
  (lexical_unwind _).bind fun _ => lexical_dropCandidate.bind fun _ => .modify _

theorem lexical_openFlow (t : Token) : Lexical (openFlow t) :=
  lexical_saveCandidate.bind fun _ => .bind (.modify _) fun _ => .bind (.modify _) fun _ =>
    .bind (.modify _) fun _ => .modify _

theorem lexical_closeFlow (t : Token) : Lexical (closeFlow t) := by
  have hEnd : Lexical (do
      modify fun l => { l with flow := l.flow - 1 }
      allowKey false
      forward 1
      emit t) :=
    .bind (.modify _) fun _ => .bind (.modify _) fun _ => .bind (.modify _) fun _ => .modify _
  exact lexical_dropCandidate.bind fun _ => .get fun _ => .ite (.bind .fail fun _ => hEnd) hEnd

theorem lexical_flowEntry : Lexical flowEntry :=
  .bind (.modify _) fun _ => lexical_dropCandidate.bind fun _ => .bind (.modify _) fun _ => .modify _

/-- A token that starts a block, if it is not between brackets; there it must not stand where no
key can. -/
theorem lexical_starting (l : Lexer) (start : Token) {rest : LexM Unit} (h : Lexical rest) :
    Lexical (do
      if l.flow = 0 then
        if !l.keyAllowed then fail
        if ← startsBlock l.cursor.column then emit start
      rest) := by
  have hStart : Lexical (do
      if ← startsBlock l.cursor.column then emit start
      rest) :=
    (lexical_startsBlock _).bind fun _ => .ite (.bind (.modify _) fun _ => h) h
  exact .ite (.ite (.bind .fail fun _ => hStart) hStart) h

theorem lexical_blockEntry : Lexical blockEntry :=
  .get fun l => lexical_starting l .blockSequenceStart <| .bind (.modify _) fun _ =>
    lexical_dropCandidate.bind fun _ => .bind (.modify _) fun _ => .modify _

theorem lexical_explicitKey : Lexical explicitKey :=
  .get fun l => lexical_starting l .blockMappingStart <| .bind (.modify _) fun _ =>
    lexical_dropCandidate.bind fun _ => .bind (.modify _) fun _ => .modify _

theorem lexical_valueOf (k : KeyCandidate) : Lexical (valueOf k) :=
  .get fun _ => .bind (.set _) fun _ => .bind (.modify _) fun _ =>
    .ite ((lexical_startsBlock _).bind fun _ =>
      .ite (.bind (.modify _) fun _ => .modify _) (.modify _)) (.modify _)

theorem lexical_valueAlone : Lexical valueAlone :=
  .get fun l => lexical_starting l .blockMappingStart <| .bind (.modify _) fun _ =>
    lexical_dropCandidate

theorem lexical_value : Lexical value := by
  have hEnd : Lexical (do forward 1; emit .value) := .bind (.modify _) fun _ => .modify _
  refine .get fun l => ?_
  split
  · exact (lexical_valueOf _).bind fun _ => hEnd
  · exact lexical_valueAlone.bind fun _ => hEnd

/-- An anchor, an alias or a tag is taken for the start of a key, if one may stand there. -/
theorem lexical_keyPart {read : Cursor → Except DocumentFailure (Token × Cursor)}
    (h : ∀ c, Yaml.Lexical (read c)) : Lexical (keyPart read) :=
  lexical_saveCandidate.bind fun _ => .bind (.modify _) fun _ => .get fun _ =>
    lexical_emitScanned (h _)

theorem lexical_blockScalar (fold : Bool) : Lexical (blockScalar fold) :=
  .bind (.modify _) fun _ => lexical_dropCandidate.bind fun _ => .get fun _ =>
    lexical_emitScanned ((lexical_block _ _ _).map _)

theorem lexical_plainScalar : Lexical plainScalar :=
  lexical_saveCandidate.bind fun _ => .get fun _ => .bind (.modify _) fun _ =>
    .bind (.modify _) fun _ => .modify _

/-- A quoted scalar fails as its reader does. -/
theorem lexical_quotedScalar {read : Cursor → Except DocumentFailure (List Letter × Cursor)}
    (h : ∀ c, Yaml.Lexical (read c)) : Lexical (quotedScalar read) :=
  lexical_keyPart fun _ => (h _).map _

theorem lexical_directiveLine : Lexical directiveLine :=
  lexical_topLevel.bind fun _ => .get fun _ => lexical_emitScanned ((lexical_directive _).map _)

/-! ## Choosing -/

theorem lexical_skipToToken : ∀ fuel, Lexical (skipToToken fuel)
  | 0 => .pure _
  | fuel + 1 => by
    refine .get fun l => ?_
    dsimp only
    split
    · exact .modify _
    · exact .bind (.modify _) fun _ => .ite (.bind (.modify _) fun _ => lexical_skipToToken fuel)
        (lexical_skipToToken fuel)

theorem lexical_skipMark : Lexical skipMark :=
  .get fun _ => .ite (.modify _) (.pure _)

/-- Each kind of token is told by its first character, and fails as its reader does. -/
theorem lexical_token (ch : Char) : Lexical (token ch) := by
  have hMarker (t : Token) : Lexical (do topLevel; forward 3; emit t) :=
    lexical_topLevel.bind fun _ => .bind (.modify _) fun _ => .modify _
  have hName (f : String → Token) :
      Lexical (keyPart fun c => (anchorName c.next).map fun p => (f p.1, p.2)) :=
    lexical_keyPart fun _ => (lexical_anchorName _).map _
  -- in the order in which the first characters are tried
  exact .get fun l => .ite lexical_directiveLine <| .ite (hMarker _) <| .ite (hMarker _) <|
    .ite (lexical_openFlow _) <| .ite (lexical_openFlow _) <|
    .ite (lexical_closeFlow _) <| .ite (lexical_closeFlow _) <| .ite lexical_flowEntry <|
    .ite lexical_blockEntry <| .ite lexical_explicitKey <| .ite lexical_value <|
    .ite (hName _) <| .ite (hName _) <| .ite (lexical_keyPart lexical_tagToken) <|
    .ite (lexical_blockScalar _) <| .ite (lexical_blockScalar _) <|
    .ite (lexical_quotedScalar fun _ => (lexical_singleQuotedFrom _ _ _).map _) <|
    .ite (lexical_quotedScalar fun _ => lexical_doubleQuotedFrom _ _ _) <|
    .ite lexical_plainScalar .fail

/-- **No step fails** but for what is no document or too large. -/
theorem lexical_step : Lexical step := by
  refine lexical_skipMark.bind fun _ => .get fun _ => (lexical_skipToToken _).bind fun _ =>
    lexical_dropStale.bind fun _ => .get fun _ => (lexical_unwind _).bind fun _ => ?_
  split
  · exact (lexical_unwind _).bind fun _ => lexical_dropCandidate.bind fun _ => .pure _
  · exact (lexical_token _).bind fun _ => .pure _

/-- Reading the front of a text always fails: as a step does, or for want of what is behind. -/
theorem exists_of_runUntil (fault : DocumentFailure) (pace : Nat) (l : Lexer) :
    ∃ tokens failure, runUntil fault pace l = (tokens, some failure) ∧
      (failure = fault ∨ failure.IsLexical) := by
  induction pace generalizing l with
  | zero => exact ⟨_, _, rfl, .inl rfl⟩
  | succ pace ih =>
    rw [runUntil]
    split
    · next hStep => exact ⟨_, _, rfl, .inr (lexical_step l hStep)⟩
    · exact ⟨_, _, rfl, .inl rfl⟩
    · exact ih _

end LexM

/-- The front of a text ends with a failure: one of its own, or the one to get at the rest. -/
theorem Token.exists_of_scanUntil (fault : DocumentFailure) (pace : Nat) (text : List Char) :
    ∃ tokens failure, Token.scanUntil fault pace text = (tokens, some failure) ∧
      (failure = fault ∨ failure.IsLexical) :=
  LexM.exists_of_runUntil fault pace _

end Yaml

end BeaconCheck
