import BeaconCheck.Proofs.Yaml.Lexer
import Mathlib.Logic.Relation

/-!
# Tokens of JSON, one by one

A tree has the tokens that its text is cut into where it stands in a document, unless the text
cannot be cut to its end: tabs between tokens stop the lexer, and so does a string in whose lines a
document is marked. A name is marked as a key only where its colon is near.

* `Json.Source.tokens?`  — the tokens of a value.
* `Yaml.Leads`           — cutting comes through tokens, or fails where there are none.
* `Yaml.leads_blanks`, `Yaml.leads_open`, `Yaml.leads_close`, `Yaml.leads_comma`,
  `Yaml.leads_string`    — what is cut off one by one.
-/

namespace BeaconCheck

open Yaml

/-! ## The tokens of a tree -/

namespace Json

/-- The tokens of two texts, one behind the other; there are none if one of them cannot be cut. -/
def join (first second : Option (List Token)) : Option (List Token) :=
  first.bind fun front => second.map (front ++ ·)

/-- The tokens of blanks: none, but a tab cannot be cut. -/
def Blanks.tokens? (b : Blanks) : Option (List Token) :=
  if '\t' ∈ b.text then none else some []

/-- The token of a string. -/
def Piece.tokens? (pieces : List Piece) : Option (List Token) :=
  (Piece.folded pieces).map fun text => [.scalar (.ofLetters text) false]

/-- The name stands on one line with its colon and starts at most 1024 characters before it. -/
def Name.isKey (n : Name) : Bool :=
  let text := Piece.quoted n.pieces ++ n.between.text
  !text.any Yaml.isBreak && text.length ≤ 1024

/-- The tokens of a name. -/
def Name.tokens? (n : Name) : Option (List Token) :=
  join n.before.tokens? (join
    ((join (Piece.tokens? n.pieces) n.between.tokens?).map fun scalar =>
      (if n.isKey then .key :: scalar else scalar) ++ [.value])
    n.behind.tokens?)

/-- The tokens of what stands in brackets. -/
def enclosed (first last : Token) (inner : Option (List Token)) : Option (List Token) :=
  join (some [first]) (join inner (some [last]))

mutual

/-- The tokens of a value in a document; `none` if the text cannot be cut to its end. -/
def Source.tokens? : Source → Option (List Token)
  | .word w => some [.scalar (String.ofList w.text) true]
  | .number n => some [.scalar (String.ofList n.text) true]
  | .string pieces => Piece.tokens? pieces
  | .emptyList inner => enclosed .flowSequenceStart .flowSequenceEnd inner.tokens?
  | .list items => enclosed .flowSequenceStart .flowSequenceEnd items.tokens?
  | .emptyObject inner => enclosed .flowMappingStart .flowMappingEnd inner.tokens?
  | .object members => enclosed .flowMappingStart .flowMappingEnd members.tokens?

/-- The tokens between the brackets. -/
def Items.tokens? : Items → Option (List Token)
  | .last before item after => join before.tokens? (join item.tokens? after.tokens?)
  | .more before item after rest =>
    join before.tokens? (join item.tokens? (join after.tokens?
      (join (some [.flowEntry]) rest.tokens?)))

/-- The tokens between the braces. -/
def Members.tokens? : Members → Option (List Token)
  | .last name item after => join name.tokens? (join item.tokens? after.tokens?)
  | .more name item after rest =>
    join name.tokens? (join item.tokens? (join after.tokens?
      (join (some [.flowEntry]) rest.tokens?)))

end

/-- The tokens of a whole text. -/
def Whole.tokens? (w : Whole) : Option (List Token) :=
  join w.before.tokens? (join w.source.tokens? w.after.tokens?)

/-! ## Characters of strings -/

/-- A digit is no control character. -/
theorem le_of_asciiDigit? {base : Nat} {c : Char} (h : (asciiDigit? base c).isSome = true) :
    0x20 ≤ c.toNat := by
  by_contra hLow
  have hNot (first : Char) {last : Char} (hFirst : 0x20 ≤ first.toNat) : ¬(first ≤ c ∧ c ≤ last) := by
    rintro ⟨hLe, -⟩
    have hNat : first.toNat ≤ c.toNat := hLe
    omega
  rw [asciiDigit?] at h
  simp only [if_neg (hNot '0' (by decide)), if_neg (hNot 'a' (by decide)),
    if_neg (hNot 'A' (by decide))] at h
  cases h

/-- A string is written without control characters. -/
theorem Piece.le_of_mem_text {p : Piece} {c : Char} (h : c ∈ p.text) : 0x20 ≤ c.toNat := by
  have hMark : 0x20 ≤ '\\'.toNat ∧ 0x20 ≤ 'u'.toNat := by decide
  -- no piece is written with a control character
  have hUnit {u : CodeUnit} {c : Char} (h : c ∈ '\\' :: 'u' :: u.digits) : 0x20 ≤ c.toNat := by
    rcases List.mem_cons.mp h with rfl | h
    · exact hMark.1
    · rcases List.mem_cons.mp h with rfl | h
      · exact hMark.2
      · exact le_of_asciiDigit? (u.spelled c h)
  cases p with
  | char d hChar =>
    obtain rfl := List.mem_singleton.mp h
    exact hChar.2.2
  | escape letter d hLetter =>
    rcases List.mem_cons.mp h with rfl | h
    · exact hMark.1
    · obtain rfl := List.mem_singleton.mp h
      unfold Json.simpleEscape? at hLetter
      split at hLetter
      all_goals first | decide | cases hLetter
  | unit u => exact hUnit h
  | pair high low =>
    rcases List.mem_append.mp h with h | h
    · exact hUnit h
    · exact hUnit h

/-- There are no control characters in a string as it is written. -/
theorem Piece.le_of_mem_quoted {pieces : List Piece} {c : Char} (h : c ∈ Piece.quoted pieces) :
    0x20 ≤ c.toNat := by
  have hQuote : 0x20 ≤ '"'.toNat := by decide
  rcases List.mem_cons.mp h with rfl | h
  · exact hQuote
  · rcases List.mem_append.mp h with h | h
    · obtain ⟨p, -, hText⟩ := List.mem_flatMap.mp h
      exact p.le_of_mem_text hText
    · obtain rfl := List.mem_singleton.mp h
      exact hQuote

/-- Nothing in a string is a carriage return. -/
theorem Piece.unifyLineEnds_quoted (pieces : List Piece) (text : List Char) :
    Document.unifyLineEnds (Piece.quoted pieces ++ text) =
      Piece.quoted pieces ++ Document.unifyLineEnds text := by
  refine Document.unifyLineEnds_append (fun c hc => ?_) text
  rintro rfl
  exact absurd (Piece.le_of_mem_quoted hc) (by decide)

end Json

namespace Yaml

open Json Document LexM

variable {flow : Nat} {key : Bool} {tokens : List Token} {text rest : List Char} {l l' : Lexer}

/-! ## Cutting off tokens -/

/-- A step cuts off a token and gets further. -/
def Cuts (l l' : Lexer) : Prop :=
  step l = .ok (true, l') ∧ l'.cursor.rest.length < l.cursor.rest.length

/-- Cutting comes through these tokens to this text, or fails where there are none. -/
def Leads (l : Lexer) (new : Option (List Token)) (flow : Nat) (key : Bool) (tokens : List Token)
    (text : List Char) : Prop :=
  ∃ l', Relation.ReflTransGen Cuts l l' ∧
    match new with
    | none => ∃ failure, step l' = .error failure
    | some new => l'.Standing flow key (new.reverse ++ tokens) text

theorem Leads.nothing (h : l.Standing flow key tokens text) : Leads l (some []) flow key tokens text :=
  ⟨l, .refl, h⟩

/-- A step that fails leads to no tokens. -/
theorem Leads.failure {failure : DocumentFailure} (h : step l = .error failure) :
    Leads l none flow key tokens text :=
  ⟨l, .refl, failure, h⟩

/-- A step that cuts one token leads to it. -/
theorem Leads.token {t : Token} (hCuts : Cuts l l') (h : l'.Standing flow key (t :: tokens) text) :
    Leads l (some [t]) flow key tokens text :=
  ⟨l', .single hCuts, h⟩

/-- One text behind the other. -/
theorem Leads.join {first second : Option (List Token)} {flow' : Nat} {key' : Bool}
    {text' : List Char} (hFirst : Leads l first flow' key' tokens text')
    (hSecond : ∀ {l' tokens'}, l'.Standing flow' key' tokens' text' →
      Leads l' second flow key tokens' text) :
    Leads l (join first second) flow key tokens text := by
  obtain ⟨l₁, hReach, hEnd⟩ := hFirst
  -- where the first part breaks off the second is not reached
  cases first with
  | none => exact ⟨l₁, hReach, hEnd⟩
  | some front =>
    obtain ⟨l₂, hMore, hLast⟩ := hSecond hEnd
    refine ⟨l₂, hReach.trans hMore, ?_⟩
    cases second with
    | none => exact hLast
    | some behind =>
      simp only [Json.join, Option.bind_some, Option.map_some, List.reverse_append, List.append_assoc]
      exact hLast

/-- Blanks are no tokens, but a tab stops the lexer. -/
theorem leads_blanks {b : Blanks} (h : l.Standing flow key tokens (b.text ++ text)) :
    Leads l b.tokens? flow key tokens text := by
  rw [Blanks.tokens?]
  -- a tab stops the lexer, and all other blanks are passed over
  split
  · next hTab =>
    obtain ⟨rest, hRest⟩ := exists_tab b.blank hTab text
    obtain ⟨allowed, -, hStep⟩ := step_eq h hRest (by decide)
    have hArrived : (l.arrive allowed).cursor.rest = '\t' :: rest :=
      (Cursor.rest_behindWhite _).trans (h.front.trans hRest)
    rw [token_tab hArrived] at hStep
    exact .failure hStep
  · next hTab =>
    exact .nothing { h with front := h.front.trans (dropWhile_isWhite_append b.blank hTab text) }

/-- The lexer stands right in front of a text. -/
structure Arrived (flow : Nat) (key : Bool) (tokens : List Token) (rest : List Char) (l : Lexer) :
    Prop where
  noBlock : l.indent = -1
  noneRequired : ∀ p ∈ l.candidates, p.2.required = false
  inside : l.flow = flow
  allowed : key = true → flow ≠ 0 → l.keyAllowed = true
  taken : l.tokens = tokens
  noOuter : l.outer = []
  front : l.cursor.rest = rest

/-- Behind the token the lexer stands in front of the rest. -/
theorem Arrived.standing (h : Arrived flow key tokens (unifyLineEnds text) l) :
    l.Standing flow key tokens text :=
  { noBlock := h.noBlock, noOuter := h.noOuter, noneRequired := h.noneRequired, inside := h.inside
    allowed := h.allowed, taken := h.taken, front := congrArg _ h.front }

/-- A character that is a token or starts one. -/
def StartsToken (ch : Char) : Prop :=
  isWhite ch = false ∧ ch ≠ '\r' ∧ ch ≠ '#' ∧ ch ≠ '\uFEFF'

instance (ch : Char) : Decidable (StartsToken ch) :=
  inferInstanceAs (Decidable (_ ∧ _ ∧ _ ∧ _))

/-- White space is passed over before a token. -/
theorem exists_arrived {ch : Char} (h : l.Standing flow key tokens (ch :: text))
    (hCh : StartsToken ch) : ∃ allowed, Arrived flow key tokens (ch :: unifyLineEnds text) (l.arrive allowed) ∧
      step l = (token ch (l.arrive allowed)).map fun p => (true, p.2) := by
  obtain ⟨hWhite, hReturn, hComment, hMark⟩ := hCh
  -- there is nothing to pass over in front of the token
  have hText : (unifyLineEnds (ch :: text)).dropWhile isWhite = ch :: unifyLineEnds text := by
    rw [unifyLineEnds_cons hReturn, List.dropWhile_cons_of_neg (by rw [hWhite]; exact Bool.false_ne_true)]
  obtain ⟨allowed, hAllowed, hStep⟩ := step_eq h hText ⟨hComment, hMark⟩
  refine ⟨allowed, ?_, hStep⟩
  exact {
    noBlock := h.noBlock, noOuter := h.noOuter, inside := h.inside, taken := h.taken
    noneRequired := fun p hp => h.noneRequired p (List.mem_of_mem_filter hp)
    allowed := fun hKey hFlow => (hAllowed (h.inside ▸ hFlow)).trans (h.allowed hKey hFlow)
    front := (Cursor.rest_behindWhite _).trans (h.front.trans hText) }

/-- A token that is cut off. -/
theorem leads_token {ch : Char} {t : Token} {flow' : Nat} {key' : Bool} {text' : List Char}
    (h : l.Standing flow key tokens (ch :: text)) (hCh : StartsToken ch)
    (hToken : ∀ l₁, Arrived flow key tokens (ch :: unifyLineEnds text) l₁ →
      ∃ l₂, token ch l₁ = .ok ((), l₂) ∧ l₂.cursor.rest.length ≤ (unifyLineEnds text).length ∧
        l₂.Standing flow' key' (t :: tokens) text') :
    Leads l (some [t]) flow' key' tokens text' := by
  obtain ⟨allowed, hArrived, hStep⟩ := exists_arrived h hCh
  obtain ⟨l₂, hRead, hLength, hStanding⟩ := hToken _ hArrived
  refine .token ⟨by rw [hStep, hRead]; rfl, ?_⟩ hStanding
  -- the first character at least is taken
  have hWhole : (ch :: unifyLineEnds text).length ≤ l.cursor.rest.length := by
    rw [← hArrived.front]
    exact (congrArg List.length (Cursor.rest_behindWhite _)).trans_le (List.dropWhile_sublist _).length_le
  rw [List.length_cons] at hWhole
  omega

/-- A bracket that opens. -/
theorem leads_open {first : Char} {t : Token}
    (hFirst : (first, t) ∈ [('[', Token.flowSequenceStart), ('\x7b', .flowMappingStart)])
    (h : l.Standing flow key tokens (first :: text)) :
    Leads l (some [t]) (flow + 1) true tokens text := by
  have hKinds : first = '[' ∧ t = .flowSequenceStart ∨ first = '\x7b' ∧ t = .flowMappingStart := by
    simpa using hFirst
  have hStart : StartsToken first := by
    rcases hKinds with ⟨rfl, -⟩ | ⟨rfl, -⟩ <;> decide
  refine leads_token h hStart fun l₁ hArrived => ?_
  -- both opening marks are read in the same way
  have hToken : token first l₁ = openFlow t l₁ := by
    rcases hKinds with ⟨rfl, rfl⟩ | ⟨rfl, rfl⟩ <;> exact token_eq _ hArrived.front (by simp)
  have hRest : (l₁.cursor.skip 1).rest = unifyLineEnds text := by
    rw [Cursor.rest_skip, hArrived.front]
    rfl
  refine ⟨_, hToken.trans (openFlow_eq hArrived.noneRequired hArrived.noBlock t),
    (congrArg List.length hRest).le, Arrived.standing ?_⟩
  exact {
    noBlock := hArrived.noBlock, noOuter := hArrived.noOuter
    noneRequired := saved_noneRequired hArrived.noneRequired
    inside := congrArg (· + 1) hArrived.inside, allowed := fun _ _ => rfl
    taken := congrArg _ hArrived.taken, front := hRest }

/-- A bracket that closes. -/
theorem leads_close {last : Char} {t : Token}
    (hLast : (last, t) ∈ [(']', Token.flowSequenceEnd), ('\x7d', .flowMappingEnd)])
    (h : l.Standing (flow + 1) key tokens (last :: text)) :
    Leads l (some [t]) flow false tokens text := by
  have hKinds : last = ']' ∧ t = .flowSequenceEnd ∨ last = '\x7d' ∧ t = .flowMappingEnd := by
    simpa using hLast
  have hStart : StartsToken last := by
    rcases hKinds with ⟨rfl, -⟩ | ⟨rfl, -⟩ <;> decide
  refine leads_token h hStart fun l₁ hArrived => ?_
  -- both closing marks are read in the same way
  have hToken : token last l₁ = closeFlow t l₁ := by
    rcases hKinds with ⟨rfl, rfl⟩ | ⟨rfl, rfl⟩ <;> exact token_eq _ hArrived.front (by simp)
  have hRest : (l₁.cursor.skip 1).rest = unifyLineEnds text := by
    rw [Cursor.rest_skip, hArrived.front]
    rfl
  have hInside : l₁.flow ≠ 0 := by
    rw [hArrived.inside]
    exact Nat.succ_ne_zero flow
  refine ⟨_, hToken.trans (closeFlow_eq hArrived.noneRequired hInside t),
    (congrArg List.length hRest).le, Arrived.standing ?_⟩
  exact {
    noBlock := hArrived.noBlock, noOuter := hArrived.noOuter
    noneRequired := fun p hp => hArrived.noneRequired p (List.mem_of_mem_filter hp)
    inside := congrArg (· - 1) hArrived.inside, allowed := nofun
    taken := congrArg _ hArrived.taken, front := hRest }

/-- A comma. -/
theorem leads_comma (h : l.Standing flow key tokens (',' :: text)) :
    Leads l (some [.flowEntry]) flow true tokens text := by
  refine leads_token h (by decide) fun l₁ hArrived => ?_
  -- behind the comma a key may stand again
  have hToken : token ',' l₁ = flowEntry l₁ := token_eq _ hArrived.front (by simp)
  have hRest : (l₁.cursor.skip 1).rest = unifyLineEnds text := by
    rw [Cursor.rest_skip, hArrived.front]
    rfl
  refine ⟨_, hToken.trans (flowEntry_eq hArrived.noneRequired), (congrArg List.length hRest).le,
    Arrived.standing ?_⟩
  exact {
    noBlock := hArrived.noBlock, noOuter := hArrived.noOuter
    noneRequired := fun p hp => hArrived.noneRequired p (List.mem_of_mem_filter hp)
    inside := hArrived.inside, allowed := fun _ _ => rfl
    taken := congrArg _ hArrived.taken, front := hRest }

/-! ## Scalars -/

/-- A string behind white space: its scalar, or a failure where its lines cannot be folded. -/
theorem token_string {pieces : List Piece}
    (h : Arrived flow key tokens (Piece.quoted pieces ++ rest) l) :
    token '"' l =
      match Piece.folded pieces with
      | none => .error .unreadable
      | some string => .ok ((), { l with
          candidates := saved l, keyAllowed := false
          cursor := l.cursor.skip (Piece.quoted pieces).length
          tokens := .scalar (.ofLetters string) false :: l.tokens }) := by
  -- behind the opening quote stand the pieces and the closing one
  have hRest : l.cursor.next.rest = Piece.body pieces ++ rest := by
    rw [Cursor.rest_next, h.front]
    rfl
  have hRead := doubleQuoted_body hRest
  rw [token_eq (quotedScalar doubleQuoted) h.front (by simp),
    quotedScalar_eq h.noneRequired h.noBlock, hRead]
  cases Piece.folded pieces <;> rfl

/-- White space is passed over before a string. -/
theorem exists_arrived_string {pieces : List Piece}
    (h : l.Standing flow key tokens (Piece.quoted pieces ++ text)) :
    ∃ allowed, Arrived flow key tokens (Piece.quoted pieces ++ unifyLineEnds text) (l.arrive allowed) ∧
      step l = (token '"' (l.arrive allowed)).map fun p => (true, p.2) := by
  have hText := Piece.unifyLineEnds_quoted pieces text
  rw [Piece.quoted, List.cons_append, unifyLineEnds_cons (by decide)] at hText
  have hQuote : l.Standing flow key tokens ('"' :: (Piece.body pieces ++ text)) := h
  obtain ⟨allowed, hArrived, hStep⟩ := exists_arrived hQuote (by decide)
  rw [hText] at hArrived
  exact ⟨allowed, hArrived, hStep⟩

/-- The lexer behind a string. -/
theorem Arrived.behind_string {pieces : List Piece} (string : Text)
    (h : Arrived flow key tokens (Piece.quoted pieces ++ rest) l) :
    Arrived flow false (.scalar string false :: tokens) rest { l with
      candidates := saved l, keyAllowed := false
      cursor := l.cursor.skip (Piece.quoted pieces).length
      tokens := .scalar string false :: l.tokens } where
  -- a quoted scalar may be a key, but none may follow it at once
  noBlock := h.noBlock
  noOuter := h.noOuter
  noneRequired := saved_noneRequired h.noneRequired
  inside := h.inside
  allowed := nofun
  taken := congrArg _ h.taken
  front := by rw [Cursor.rest_skip, h.front, List.drop_left]

/-- Cutting off a string gets further. -/
theorem cuts_string {pieces : List Piece} {allowed : Bool}
    (h : Arrived flow key tokens (Piece.quoted pieces ++ rest) (l.arrive allowed))
    (hStep : step l = .ok (true, l')) (hRest : l'.cursor.rest = rest) : Cuts l l' := by
  refine ⟨hStep, ?_⟩
  have hWhole : (Piece.quoted pieces ++ rest).length ≤ l.cursor.rest.length := by
    rw [← h.front]
    exact (congrArg List.length (Cursor.rest_behindWhite _)).trans_le
      (List.dropWhile_sublist _).length_le
  rw [List.length_append, Piece.quoted, List.length_cons] at hWhole
  rw [hRest]
  omega

/-- A string that is a value. -/
theorem leads_string {pieces : List Piece}
    (h : l.Standing flow key tokens (Piece.quoted pieces ++ text)) :
    Leads l (Piece.tokens? pieces) flow false tokens text := by
  obtain ⟨allowed, hArrived, hStep⟩ := exists_arrived_string h
  rw [token_string hArrived] at hStep
  rw [Piece.tokens?]
  -- the string breaks off by itself, or it is one token
  cases hFolded : Piece.folded pieces with
  | none =>
    rw [hFolded] at hStep
    exact .failure hStep
  | some string =>
    rw [hFolded] at hStep
    have hBehind := hArrived.behind_string (.ofLetters string)
    exact .token (cuts_string hArrived hStep hBehind.front) hBehind.standing

end Yaml

end BeaconCheck
