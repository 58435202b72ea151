import BeaconCheck.Proofs.Yaml.Quoted
import BeaconCheck.Yaml.Lexer
import BeaconCheck.Yaml.Document
import Mathlib.Data.Bool.AllAny

/-!
# Steps of the lexer

One step of the lexer where JSON stands: white space is passed over, candidates for keys that have
become too old are dropped, and the next character decides which token is taken. No block is open
and no candidate is required, so tokens of blocks and their failures are out of the question.

* `Yaml.Lexer.arrive`            — the lexer behind the white space.
* `Yaml.Lexer.Standing`          — where the lexer stands between two tokens, and what holds there.
* `Yaml.LexM.step_eq`            — a step is the token at the next character.
* `Yaml.LexM.saved`              — the candidates when a token comes that may be a key.
* `Yaml.LexM.value_of_candidate`, `Yaml.LexM.value_of_none` — a colon with a candidate and without.
* `Yaml.LexM.token_eq`           — the token that a character starts.
-/

namespace BeaconCheck.Yaml

open Document Json

/-! ## Arriving at a token -/

/-- The lexer behind white space, where old candidates are no longer any. -/
def Lexer.arrive (l : Lexer) (allowed : Bool) : Lexer :=
  let l := { l with cursor := l.cursor.behindWhite, keyAllowed := allowed }
  { l with candidates := l.candidates.filter fun p => !l.isStale p.2 }

/-- The spaces in front of what is no comment. -/
theorem Cursor.exists_behindSpaces {c : Cursor}
    (hComment : (c.rest.dropWhile isWhite).head? ≠ some '#') :
    ∃ d, c.skipSpaces.skipComment = d ∧ d.rest = c.rest.dropWhile (· == ' ') ∧
      d.behindWhite = c.behindWhite := by
  let spaces := c.rest.takeWhile (· == ' ')
  have hSplit : c.rest = spaces ++ c.rest.dropWhile (· == ' ') :=
    List.takeWhile_append_dropWhile.symm
  have hSpaces : ∀ ch ∈ spaces, isWhite ch = true := by
    intro ch hMem
    have hSpace := List.all_eq_true.mp List.all_takeWhile ch hMem
    rw [beq_iff_eq.mp hSpace]
    rfl
  let d := c.skip spaces.length
  have hRest : d.rest = c.rest.dropWhile (· == ' ') := by
    rw [Cursor.rest_skip, hSplit, List.drop_left, ← hSplit]
  have hWhite : d.behindWhite = c.behindWhite := Cursor.behindWhite_skip hSplit hSpaces
  -- a comment would stand behind the white space as well
  have hNoComment : d.peek ≠ some '#' := by
    intro hPeek
    apply hComment
    rw [← Cursor.rest_behindWhite, ← hWhite, Cursor.behindWhite_of_head, ← hPeek]
    · rfl
    · intro ch hMem
      obtain rfl := Option.some.inj (hPeek.symm.trans hMem)
      decide
  exact ⟨d, if_neg hNoComment, hRest, hWhite⟩

namespace LexM

variable {fuel : Nat} {l : Lexer} {c : Cursor}

/-- Where no line ends behind the spaces, the lexer has arrived. -/
theorem skipToToken_stop (hSpaces : l.cursor.skipSpaces.skipComment = c)
    (hBreak : c.lineBreak? = none) :
    skipToToken (fuel + 1) l = .ok ((), { l with cursor := c }) := by
  rw [skipToToken]
  simp only [bind, StateT.bind, get, getThe, MonadStateOf.get, StateT.get, Except.bind, pure,
    Except.pure, hSpaces, hBreak]
  rfl

/-- Behind the end of a line the search goes on, and outside of brackets a key can start. -/
theorem skipToToken_line (hSpaces : l.cursor.skipSpaces.skipComment = c) {text : Char}
    {next : Cursor} (hBreak : c.lineBreak? = some (text, next)) :
    skipToToken (fuel + 1) l = skipToToken fuel { l with
      cursor := next, keyAllowed := if l.flow = 0 then true else l.keyAllowed } := by
  rw [skipToToken]
  simp only [bind, StateT.bind, get, getThe, MonadStateOf.get, StateT.get, Except.bind, pure,
    Except.pure, hSpaces, hBreak]
  -- a line end allows a key outside of all brackets
  by_cases hFlow : l.flow = 0
  · simp only [if_pos hFlow]
    rfl
  · simp only [if_neg hFlow]
    rfl

/-- White space that no comment follows is skipped. -/
theorem skipToToken_eq (hFuel : l.cursor.rest.length < fuel)
    (hComment : (l.cursor.rest.dropWhile isWhite).head? ≠ some '#') :
    ∃ allowed, (l.flow ≠ 0 → allowed = l.keyAllowed) ∧
      skipToToken fuel l =
        .ok ((), { l with cursor := l.cursor.behindWhite, keyAllowed := allowed }) := by
  induction fuel generalizing l with
  | zero => cases hFuel
  | succ fuel ih =>
    obtain ⟨c, hSpaces, hRest, hWhite⟩ := Cursor.exists_behindSpaces hComment
    -- where the white space ends here, nothing else changes
    have hStop (hBreak : c.lineBreak? = none) (hHead : ∀ d ∈ c.rest.head?, isWhite d = false) :
        ∃ allowed, (l.flow ≠ 0 → allowed = l.keyAllowed) ∧ skipToToken (fuel + 1) l =
          .ok ((), { l with cursor := l.cursor.behindWhite, keyAllowed := allowed }) := by
      refine ⟨l.keyAllowed, fun _ => rfl, ?_⟩
      rw [skipToToken_stop hSpaces hBreak, ← hWhite, Cursor.behindWhite_of_head hHead]
    cases hEnd : c.rest with
    | nil =>
      have hBreak : c.lineBreak? = none := by
        rw [Cursor.lineBreak?, Cursor.peek, hEnd]
        rfl
      refine hStop hBreak ?_
      rw [hEnd]
      exact fun d hMem => (Option.not_mem_none d hMem).elim
    | cons ch more =>
      have hLine := Cursor.lineBreak?_cons hEnd
      cases hBreak : isBreak ch with
      | true =>
        rw [hBreak, if_pos rfl] at hLine
        have hNext : c.next.behindWhite = l.cursor.behindWhite := by
          have hFirst : c.rest = [ch] ++ more := hEnd
          rw [← hWhite]
          exact Cursor.behindWhite_skip hFirst
            (List.forall_mem_singleton.mpr (isWhite_of_isBreak hBreak))
        have hLess : c.next.rest.length < fuel := by
          have hLength : (ch :: more).length ≤ l.cursor.rest.length := by
            rw [← hEnd, hRest]
            exact (List.dropWhile_sublist _).length_le
          rw [Cursor.rest_next, hEnd, List.tail_cons]
          rw [List.length_cons] at hLength
          omega
        have hNoComment : (c.next.rest.dropWhile isWhite).head? ≠ some '#' := by
          rw [← Cursor.rest_behindWhite, hNext, Cursor.rest_behindWhite]
          exact hComment
        obtain ⟨allowed, hAllowed, hRun⟩ := ih (l := { l with
          cursor := c.next
          keyAllowed := if l.flow = 0 then true else l.keyAllowed }) hLess hNoComment
        refine ⟨allowed, fun h => (hAllowed h).trans (if_neg h), ?_⟩
        rw [skipToToken_line hSpaces hLine, ← hNext]
        exact hRun
      | false =>
        rw [hBreak, if_neg Bool.false_ne_true] at hLine
        refine hStop hLine ?_
        -- the spaces have been skipped
        have hSpace : (ch == ' ') = false := by
          have hNot := List.head?_dropWhile_not (· == ' ') l.cursor.rest
          rw [← hRest, hEnd] at hNot
          exact hNot
        rw [hEnd]
        rintro _ ⟨⟩
        rw [isWhite, hSpace, hBreak]
        rfl

end LexM

/-! ## Where the lexer stands -/

/-- The lexer stands in front of a text, apart from white space, inside of `flow` brackets and of
no block, and with these tokens behind it. With `key` the next token may be a key. -/
structure Lexer.Standing (flow : Nat) (key : Bool) (tokens : List Token) (text : List Char)
    (l : Lexer) : Prop where
  noBlock : l.indent = -1
  noOuter : l.outer = []
  noneRequired : ∀ p ∈ l.candidates, p.2.required = false
  inside : l.flow = flow
  allowed : key = true → flow ≠ 0 → l.keyAllowed = true
  taken : l.tokens = tokens
  front : l.cursor.rest.dropWhile isWhite = (unifyLineEnds text).dropWhile isWhite

variable {flow : Nat} {key : Bool} {tokens : List Token} {text rest : List Char} {l : Lexer}

namespace LexM

/-- Where no key is required, candidates that are too old are dropped without more ado. -/
theorem dropStale_eq (h : ∀ p ∈ l.candidates, p.2.required = false) :
    dropStale l = .ok ((), { l with candidates := l.candidates.filter fun p => !l.isStale p.2 }) := by
  have hNone : (l.candidates.any fun p => l.isStale p.2 && p.2.required) = false := by
    rw [List.any_eq_false]
    intro p hp
    rw [h p hp, Bool.and_false]
    exact Bool.false_ne_true
  simp only [dropStale, bind, StateT.bind, get, getThe, MonadStateOf.get, StateT.get, Except.bind,
    pure, Except.pure, hNone, Bool.false_eq_true, if_false]
  rfl

/-- Outside of all blocks there is none to end. -/
theorem unwind_eq (column : Int) (h : l.outer = []) : unwind column l = .ok ((), l) := by
  simp only [unwind, bind, StateT.bind, get, getThe, MonadStateOf.get, StateT.get, Except.bind,
    pure, Except.pure, h, unwindOf]
  split <;> rfl

/-- Without a byte order mark there is nothing to skip. -/
theorem skipMark_eq (h : l.cursor.rest.head? ≠ some '\uFEFF') : skipMark l = .ok ((), l) := by
  have hNo : (l.cursor.index = 0 && l.cursor.peek = some '\uFEFF') = false := by
    rw [Bool.and_eq_false_iff]
    exact .inr (decide_eq_false h)
  simp only [skipMark, bind, StateT.bind, get, getThe, MonadStateOf.get, StateT.get, Except.bind,
    pure, Except.pure, hNo, Bool.false_eq_true, if_false]
  rfl

/-- The candidate of this level is dropped, if there is one. -/
theorem dropCandidate_eq (h : ∀ p ∈ l.candidates, p.2.required = false) :
    dropCandidate l = .ok ((), { l with candidates := l.candidates.filter fun p => p.1 != l.flow }) := by
  simp only [dropCandidate, bind, StateT.bind, get, getThe, MonadStateOf.get, StateT.get,
    Except.bind, pure, Except.pure]
  -- there is no candidate at this depth, or there is one that is not required
  cases hLookup : l.candidates.lookup l.flow with
  | none =>
    have hAll : l.candidates.filter (fun p => p.1 != l.flow) = l.candidates := by
      refine List.filter_eq_self.mpr fun p hp => ?_
      have hNe := List.lookup_eq_none_iff.mp hLookup p hp
      rw [bne_iff_ne] at hNe ⊢
      exact hNe.symm
    rw [hAll]
    rfl
  | some k =>
    obtain ⟨front, behind, hMem, -⟩ := List.lookup_eq_some_iff.mp hLookup
    have hNot : k.required = false := h (l.flow, k) (hMem ▸ List.mem_append_right _ List.mem_cons_self)
    simp only [hNot, Bool.false_eq_true, if_false]
    rfl

/-- What is done behind white space. -/
def arrived (next : Option Char) : LexM Bool := do
  match next with
  | none =>
    unwind (-1)
    dropCandidate
    return false
  | some ch =>
    token ch
    return true

/-- A step passes over the white space. -/
theorem step_eq_arrived (h : l.Standing flow key tokens text)
    (hFirst : ∀ ch ∈ ((unifyLineEnds text).dropWhile isWhite).head?, ch ≠ '#' ∧ ch ≠ '\uFEFF') :
    ∃ allowed, (l.flow ≠ 0 → allowed = l.keyAllowed) ∧
      step l = arrived ((unifyLineEnds text).dropWhile isWhite).head? (l.arrive allowed) := by
  rw [← h.front] at hFirst ⊢
  -- a byte order mark is not white, so it would stand behind the white space
  have hMark : l.cursor.rest.head? ≠ some '\uFEFF' := by
    cases hRest : l.cursor.rest with
    | nil => nofun
    | cons c more =>
      rintro ⟨⟩
      rw [hRest, List.dropWhile_cons_of_neg (by decide)] at hFirst
      exact (hFirst _ rfl).2 rfl
  have hComment : (l.cursor.rest.dropWhile isWhite).head? ≠ some '#' :=
    fun h => (hFirst _ h).1 rfl
  obtain ⟨allowed, hAllowed, hSkip⟩ := skipToToken_eq (Nat.lt_succ_self _) hComment
  have hStale := dropStale_eq (l := { l with
    cursor := l.cursor.behindWhite, keyAllowed := allowed }) h.noneRequired
  have hUnwind := unwind_eq l.cursor.behindWhite.column (l := l.arrive allowed) h.noOuter
  refine ⟨allowed, hAllowed, ?_⟩
  simp only [step, bind, StateT.bind, skipMark_eq hMark, Except.bind, get, getThe,
    MonadStateOf.get, StateT.get, pure, Except.pure, hSkip, hStale]
  simp only [Lexer.arrive] at hUnwind ⊢
  simp only [hUnwind, Cursor.peek, Cursor.rest_behindWhite]
  rfl

/-- **A step** takes the token behind the white space. -/
theorem step_eq {ch : Char} (h : l.Standing flow key tokens text)
    (hText : (unifyLineEnds text).dropWhile isWhite = ch :: rest)
    (hFirst : ch ≠ '#' ∧ ch ≠ '\uFEFF') :
    ∃ allowed, (l.flow ≠ 0 → allowed = l.keyAllowed) ∧
      step l = (token ch (l.arrive allowed)).map fun p => (true, p.2) := by
  obtain ⟨allowed, hAllowed, hStep⟩ := step_eq_arrived h (by rw [hText]; rintro _ ⟨⟩; exact hFirst)
  refine ⟨allowed, hAllowed, ?_⟩
  rw [hStep, hText]
  simp only [List.head?_cons, arrived, bind, StateT.bind, Except.bind]
  cases token ch (l.arrive allowed) <;> rfl

/-- Behind the last token there is nothing but white space. -/
theorem step_end (h : l.Standing flow key tokens []) :
    ∃ l', step l = .ok (false, l') ∧ l'.tokens = tokens := by
  obtain ⟨allowed, -, hStep⟩ := step_eq_arrived h nofun
  -- at the end no candidate is required, so that all of them are dropped
  have hNone : ∀ p ∈ (l.arrive allowed).candidates, p.2.required = false :=
    fun p hp => h.noneRequired p (List.mem_of_mem_filter hp)
  refine ⟨{ l.arrive allowed with
    candidates := (l.arrive allowed).candidates.filter fun p => p.1 != (l.arrive allowed).flow },
    ?_, h.taken⟩
  rw [hStep]
  have hUnwind := unwind_eq (-1) (l := l.arrive allowed) h.noOuter
  have hDrop := dropCandidate_eq hNone
  simp only [unifyLineEnds, List.dropWhile_nil, List.head?_nil, arrived, bind, StateT.bind,
    Except.bind, hUnwind, hDrop]
  rfl

/-! ## Tokens -/

/-- The candidate for a key that starts here. -/
def candidate (l : Lexer) : KeyCandidate where
  position := l.tokens.length
  required := false
  index := l.cursor.index
  line := l.cursor.line
  column := l.cursor.column

/-- The candidates with the one that starts here, where a key can start. -/
def saved (l : Lexer) : List (Nat × KeyCandidate) :=
  if l.keyAllowed then (l.flow, candidate l) :: l.candidates.filter fun p => p.1 != l.flow
  else l.candidates

theorem set_apply (l l' : Lexer) : (set l' : LexM Unit) l = .ok ((), l') := rfl

/-- The colon behind a scalar that is still a candidate for a key. -/
theorem value_of_candidate (hFlow : l.flow ≠ 0) {k : KeyCandidate}
    (hCandidate : l.candidates.lookup l.flow = some k) {scalar : Token} {before : List Token}
    (hTokens : l.tokens = scalar :: before) (hPosition : k.position = before.length) :
    value l = .ok ((), { l with
      candidates := l.candidates.filter fun p => p.1 != l.flow, keyAllowed := false
      cursor := l.cursor.skip 1, tokens := .value :: scalar :: .key :: before }) := by
  -- the key is put in front of the scalar that was taken for it
  have hInsert : (scalar :: before).insertIdx ((scalar :: before).length - k.position) Token.key =
      scalar :: .key :: before := by
    rw [hPosition, List.length_cons, Nat.add_sub_cancel_left]
    rfl
  simp only [value, bind, StateT.bind, get, getThe, MonadStateOf.get, StateT.get, pure, Except.pure,
    Except.bind, hCandidate, valueOf, set_apply, insertAt, modify, modifyGet,
    MonadStateOf.modifyGet, StateT.modifyGet, hTokens, hInsert, hFlow, if_false, allowKey, forward,
    emit]

section Token

variable (hNone : ∀ p ∈ l.candidates, p.2.required = false)

include hNone

/-- No candidate that is saved inside of brackets has to be a key. -/
theorem saved_noneRequired : ∀ p ∈ saved l, p.2.required = false := by
  intro p hp
  rw [saved] at hp
  split at hp
  · rcases List.mem_cons.mp hp with rfl | hp
    · rfl
    · exact hNone p (List.mem_of_mem_filter hp)
  · exact hNone p hp

/-- Outside of blocks the place of a scalar is remembered as a candidate. -/
theorem saveCandidate_eq (hBlock : l.indent = -1) :
    saveCandidate l = .ok ((), { l with candidates := saved l }) := by
  have hDrop := dropCandidate_eq hNone
  -- within no block nothing is indented, so that no key is required
  have hRequired (column : Nat) : (decide (l.flow = 0) && decide (l.indent = (column : Int))) = false := by
    rw [Bool.and_eq_false_iff]
    exact .inr (decide_eq_false (by omega))
  simp only [saveCandidate, bind, StateT.bind, get, getThe, MonadStateOf.get, StateT.get,
    Except.bind, pure, Except.pure, saved]
  split
  · simp only [StateT.bind, bind, Except.bind, hDrop, hRequired]
    rfl
  · rfl

/-- An opening bracket is remembered as a candidate, and nests one level deeper. -/
theorem openFlow_eq (hBlock : l.indent = -1) (t : Token) :
    openFlow t l = .ok ((), { l with
      candidates := saved l, flow := l.flow + 1, keyAllowed := true
      cursor := l.cursor.skip 1, tokens := t :: l.tokens }) := by
  simp only [openFlow, bind, StateT.bind, saveCandidate_eq hNone hBlock, Except.bind]
  rfl

/-- A closing bracket drops the candidate of its level and goes one level up. -/
theorem closeFlow_eq (hFlow : l.flow ≠ 0) (t : Token) :
    closeFlow t l = .ok ((), { l with
      candidates := l.candidates.filter fun p => p.1 != l.flow, flow := l.flow - 1
      keyAllowed := false, cursor := l.cursor.skip 1, tokens := t :: l.tokens }) := by
  simp only [closeFlow, bind, StateT.bind, dropCandidate_eq hNone, Except.bind, get, getThe,
    MonadStateOf.get, StateT.get, pure, Except.pure, hFlow, if_false]
  rfl

/-- A comma drops the candidate of its level, and a key may follow. -/
theorem flowEntry_eq :
    flowEntry l = .ok ((), { l with
      candidates := l.candidates.filter fun p => p.1 != l.flow, keyAllowed := true
      cursor := l.cursor.skip 1, tokens := .flowEntry :: l.tokens }) := by
  have hDrop := dropCandidate_eq (l := { l with keyAllowed := true }) hNone
  simp only [flowEntry, bind, StateT.bind, allowKey, modify, modifyGet, MonadStateOf.modifyGet,
    StateT.modifyGet, pure, Except.pure, Except.bind, hDrop]
  rfl

/-- A scalar that is read from here on. -/
theorem keyPart_eq (hBlock : l.indent = -1)
    (read : Cursor → Except DocumentFailure (Token × Cursor)) :
    keyPart read l = (read l.cursor).map fun p => ((), { l with
      candidates := saved l, keyAllowed := false, cursor := p.2, tokens := p.1 :: l.tokens }) := by
  simp only [keyPart, bind, StateT.bind, saveCandidate_eq hNone hBlock, Except.bind, allowKey,
    modify, modifyGet, MonadStateOf.modifyGet, StateT.modifyGet, pure, Except.pure, get, getThe,
    MonadStateOf.get, StateT.get, emitScanned, StateT.lift]
  cases read l.cursor <;> rfl

/-- A quoted scalar is remembered as a candidate, and becomes a token. -/
theorem quotedScalar_eq (hBlock : l.indent = -1)
    (read : Cursor → Except DocumentFailure (List Letter × Cursor)) :
    quotedScalar read l = (read l.cursor.next).map fun p => ((), { l with
      candidates := saved l, keyAllowed := false, cursor := p.2
      tokens := .scalar (.ofLetters p.1) false :: l.tokens }) := by
  rw [quotedScalar, keyPart_eq hNone hBlock]
  cases read l.cursor.next <;> rfl

/-- So does a plain scalar; a key may follow it on another line. -/
theorem plainScalar_eq (hBlock : l.indent = -1) {word : List Char} {broken : Bool} {c : Cursor}
    (hPlain : plain (l.flow != 0) l.indent l.cursor = (word, broken, c)) :
    plainScalar l = .ok ((), { l with
      candidates := saved l, keyAllowed := broken, cursor := c
      tokens := .scalar (String.ofList word) true :: l.tokens }) := by
  simp only [plainScalar, bind, StateT.bind, saveCandidate_eq hNone hBlock, Except.bind, get, getThe,
    MonadStateOf.get, StateT.get, pure, Except.pure, hPlain]
  rfl

/-- The colon behind a scalar that is no candidate. -/
theorem value_of_none (hFlow : l.flow ≠ 0) (hCandidate : l.candidates.lookup l.flow = none) :
    value l = .ok ((), { l with
      candidates := l.candidates.filter fun p => p.1 != l.flow, keyAllowed := false
      cursor := l.cursor.skip 1, tokens := .value :: l.tokens }) := by
  have hDrop (allowed : Bool) := dropCandidate_eq (l := { l with keyAllowed := allowed }) hNone
  simp only [value, bind, StateT.bind, get, getThe, MonadStateOf.get, StateT.get, pure, Except.pure,
    Except.bind, hCandidate, valueAlone, hFlow, if_false, allowKey, modify, modifyGet,
    MonadStateOf.modifyGet, StateT.modifyGet, hDrop]
  rfl

end Token

/-! ## Choosing -/

/-- A token that is chosen by its first character alone. -/
theorem token_eq {ch : Char} (read : LexM Unit) (h : l.cursor.rest = ch :: rest)
    (hRead : (ch, read) ∈ [
      ('[', openFlow .flowSequenceStart), ('\x7b', openFlow .flowMappingStart),
      (']', closeFlow .flowSequenceEnd), ('\x7d', closeFlow .flowMappingEnd), (',', flowEntry),
      ('"', quotedScalar doubleQuoted)]) :
    token ch l = read l := by
  -- none of these characters begins a marker of a document
  have hNoMark (hNe : ch ≠ '-' ∧ ch ≠ '.') : l.cursor.isMarker '-' = false ∧ l.cursor.isMarker '.' = false :=
    Bool.or_eq_false_iff.mp (Cursor.atMarker_of_head h hNe)
  simp only [List.mem_cons, Prod.mk.injEq, List.not_mem_nil, or_false] at hRead
  rcases hRead with ⟨rfl, rfl⟩ | ⟨rfl, rfl⟩ | ⟨rfl, rfl⟩ | ⟨rfl, rfl⟩ | ⟨rfl, rfl⟩ | ⟨rfl, rfl⟩
  all_goals
    obtain ⟨hMinus, hDot⟩ := hNoMark (by decide)
    simp [token, bind, StateT.bind, get, getThe, MonadStateOf.get, StateT.get, pure, Except.pure,
      Except.bind, hMinus, hDot]

/-- Inside of brackets a colon always stands behind a key. -/
theorem token_colon (h : l.cursor.rest = ':' :: rest) (hFlow : l.flow ≠ 0) :
    token ':' l = value l := by
  obtain ⟨hMinus, hDot⟩ := Bool.or_eq_false_iff.mp (Cursor.atMarker_of_head h (by decide))
  simp [token, bind, StateT.bind, get, getThe, MonadStateOf.get, StateT.get, pure, Except.pure,
    Except.bind, hMinus, hDot, hFlow]

/-- No token starts with a tab. -/
theorem token_tab (h : l.cursor.rest = '\t' :: rest) : token '\t' l = .error .unreadable := by
  obtain ⟨hMinus, hDot⟩ := Bool.or_eq_false_iff.mp (Cursor.atMarker_of_head h (by decide))
  have hPlain (flow : Bool) : startsPlain flow l.cursor = false := by
    rw [startsPlain, Cursor.peek, h]
    cases flow <;> cases endsWord l.cursor.peekNext <;> rfl
  simp [token, bind, StateT.bind, get, getThe, MonadStateOf.get, StateT.get, pure, Except.pure,
    Except.bind, hMinus, hDot, hPlain]
  rfl

/-- The characters that the words of JSON begin with, apart from a minus sign. -/
def wordStarts : List Char := "0123456789ntfNI".toList

/-- A plain scalar that begins with a letter or a digit. -/
theorem token_word {ch : Char} (h : l.cursor.rest = ch :: rest) (hStart : ch ∈ wordStarts) :
    token ch l = plainScalar l := by
  -- the first character excludes every other kind of token
  have hNe : ∀ c ∈ wordStarts, c ≠ '-' ∧ c ≠ '.' := List.all_iff_forall_prop.mp (by decide)
  obtain ⟨hMinus, hDot⟩ := Bool.or_eq_false_iff.mp (Cursor.atMarker_of_head h (hNe ch hStart))
  have hPlain (flow : Bool) : startsPlain flow l.cursor = true := by
    have hAll : ∀ c ∈ wordStarts,
        (!isBlank c && !decide (c ∈ "-?:,[]\x7b\x7d#&*!|>'\"%@`".toList)) = true :=
      List.all_iff_forall_prop.mp (by decide)
    rw [startsPlain, Cursor.peek, h]
    simp only [List.head?_cons, String.contains_char_eq, hAll ch hStart, Bool.true_or]
  have hOther : ∀ c ∈ wordStarts, c ∉ "%[]\x7b\x7d,-?:*&!|>'\"".toList :=
    List.all_iff_forall_prop.mp (by decide)
  have hMarks := hOther ch hStart
  simp only [String.reduceToList, List.mem_cons, List.not_mem_nil, or_false, not_or] at hMarks
  simp [token, bind, StateT.bind, get, getThe, MonadStateOf.get, StateT.get, pure, Except.pure,
    Except.bind, hMinus, hDot, hPlain, hMarks]

/-- A plain scalar that begins with a minus sign. -/
theorem token_minus {ch : Char} (h : l.cursor.rest = '-' :: ch :: rest) (hStart : ch ∈ wordStarts) :
    token '-' l = plainScalar l := by
  have hNe : ∀ c ∈ wordStarts, c ≠ '-' ∧ isBlank c = false :=
    List.all_iff_forall_prop.mp (by decide)
  obtain ⟨hNoMark, hNoBlank⟩ := hNe ch hStart
  -- it is no mark of a document, and no entry of a list, which a blank would follow
  have hMinus : l.cursor.isMarker '-' = false := by
    rw [Cursor.isMarker, h]
    cases rest with
    | nil => rfl
    | cons d rest => simp [hNoMark]
  have hDot : l.cursor.isMarker '.' = false := by
    rw [Cursor.isMarker, h]
    cases rest with
    | nil => rfl
    | cons d rest => simp
  have hNext : endsWord l.cursor.peekNext = false := by
    rw [Cursor.peekNext, h]
    exact hNoBlank
  have hPlain (flow : Bool) : startsPlain flow l.cursor = true := by
    rw [startsPlain, Cursor.peek, h]
    simp [hNext]
  simp [token, bind, StateT.bind, get, getThe, MonadStateOf.get, StateT.get, pure, Except.pure,
    Except.bind, hMinus, hDot, hPlain, hNext]

end LexM

end BeaconCheck.Yaml
