import BeaconCheck.Proofs.Json.Source
import BeaconCheck.Proofs.Yaml.Cursor
import BeaconCheck.Yaml.Scalar

/-!
# Strings in documents

A string of JSON is a scalar in double quotes, and every escape of one is an escape of the other.
But where two escapes by number name the halves of a surrogate pair, JSON reads the character of
the pair and a document the two halves. What a document reads otherwise, too, are the characters
that end a line there and may stand as they are in a string of JSON, the next-line character and
the Unicode separators. They are folded with the spaces around them, and where the line behind one
is the mark of a document nothing can be read at all.

* `Json.Piece.letters`        — what a document reads of one piece.
* `Json.Piece.folded`         — the text of a string with its lines folded.
* `Yaml.doubleQuoted_body`    — what a document reads where a string stands.
* `Json.Piece.folded_of_flat` — on one line every piece is read by itself.
-/

namespace BeaconCheck

/-! ## Folding -/

namespace Json.Piece

/-- The character that stands for itself. -/
def raw? : Piece → Option Char
  | .char c _ => some c
  | _ => none

/-- What is being read of a string in a document. -/
inductive Fold where
  /-- Spaces that stay, unless a line ends behind them. -/
  | spaces (held : List Char)
  /-- Ends of lines; `fresh` tells that nothing was read of the last line. -/
  | lines (first : Char) (others : List Char) (fresh : Bool)

namespace Fold

/-- What is left of it in front of something else. -/
def text : Fold → List Char
  | .spaces held => held
  | .lines first others _ => Yaml.folded first others

/-- A line starts here. -/
def isFresh : Fold → Bool
  | .spaces _ => false
  | .lines _ _ fresh => fresh

/-- A space comes. -/
def space : Fold → Fold
  | .spaces held => .spaces (held ++ [' '])
  | .lines first others _ => .lines first others false

/-- A line ends. -/
def lineEnd (c : Char) : Fold → Fold
  | .spaces _ => .lines (Yaml.breakText c) [] true
  | .lines first others _ => .lines first (others ++ [Yaml.breakText c]) true

end Fold

/-- A document would be marked by the text. -/
def marks (text : List Char) : Bool :=
  Yaml.Cursor.atMarker { rest := text }

/-- The letters that a document reads of a piece: those of each escape by itself. -/
def letters : Piece → List Letter
  | .pair high low .. => [.ofCode high.number, .ofCode low.number]
  | p => [p.value]

/-- The text of a string as a document reads it; `none` where a document is marked inside of it. -/
def foldFrom : Fold → List Piece → Option (List Letter)
  | state, [] => some (state.text.map .char)
  | state, p :: pieces =>
    if state.isFresh && marks (body (p :: pieces)) then none
    else if p.raw? = some ' ' then foldFrom state.space pieces
    else
      match p.raw?.filter Yaml.isBreak with
      | some c => foldFrom (state.lineEnd c) pieces
      | none =>
        (foldFrom (.spaces []) pieces).map fun text => state.text.map .char ++ (p.letters ++ text)

@[inherit_doc foldFrom]
def folded (pieces : List Piece) : Option (List Letter) :=
  foldFrom (.spaces []) pieces

/-- On one line every piece is read by itself. -/
theorem folded_of_flat {pieces : List Piece}
    (h : ∀ p ∈ pieces, ∀ c ∈ p.raw?, Yaml.isBreak c = false) :
    folded pieces = some (pieces.flatMap letters) := by
  -- spaces that are held are text like the rest, as no line ends behind them
  suffices hHeld : ∀ held : List Char, foldFrom (.spaces held) pieces =
      some (held.map .char ++ pieces.flatMap letters) from hHeld []
  induction pieces with
  | nil =>
    intro held
    rw [List.flatMap_nil, List.append_nil]
    rfl
  | cons p pieces ih =>
    intro held
    obtain ⟨hFirst, hMore⟩ := List.forall_mem_cons.mp h
    have hNone : p.raw?.filter Yaml.isBreak = none := by
      rw [Option.filter_eq_none_iff]
      exact fun c hc => by rw [hFirst c hc]; exact Bool.false_ne_true
    rw [foldFrom, Fold.isFresh, Bool.false_and, if_neg Bool.false_ne_true, hNone]
    split
    · next hSpace =>
      have hLetters : p.letters = [.char ' '] := by
        cases p with
        | char c _ => exact congrArg (fun ch => [Letter.char ch]) (Option.some.inj hSpace)
        | _ => cases hSpace
      rw [Fold.space, ih hMore, List.flatMap_cons, hLetters, List.map_append, List.append_assoc]
      rfl
    · rw [ih hMore]
      rfl

end Json.Piece

namespace Yaml

open Json

/-! ## Reading pieces -/

/-- Reading the rest of a string, with enough fuel. -/
def Reads (text : List Letter) (c : Cursor) (r : Except DocumentFailure (List Letter × Cursor)) :
    Prop :=
  ∀ fuel, c.rest.length < fuel → doubleQuotedFrom fuel text c = r

section Piece

variable {c : Cursor} {text : List Letter} {rest : List Char}
  {r : Except DocumentFailure (List Letter × Cursor)}

/-- A character that is taken together with those behind it. -/
theorem Reads.char {ch : Char} (hQuote : ch ≠ '"') (hEscape : ch ≠ '\\') (hBlank : isBlank ch = false)
    (h : c.rest = ch :: rest) (hNext : Reads (text ++ [.char ch]) c.next r) : Reads text c r := by
  let p (ch : Char) : Bool := !isBlank ch && ch != '"' && ch != '\\'
  have hFirst : p ch = true := by simp [p, hQuote, hEscape, hBlank]
  have hRun : c.rest.takeWhile p = ch :: rest.takeWhile p := by
    rw [h, List.takeWhile_cons_of_pos hFirst]
  have hRest : c.next.rest = rest := by rw [Cursor.rest_next, h]; rfl
  -- the run as the reader takes it
  have hStep (fuel : Nat) : doubleQuotedFrom (fuel + 1) text c =
      doubleQuotedFrom fuel (text ++ (ch :: rest.takeWhile p).map .char)
        (c.next.skip (rest.takeWhile p).length) := by
    rw [doubleQuotedFrom, Cursor.peek, h]
    simp only [List.head?_cons, if_neg hQuote, if_neg hEscape, hBlank, Bool.false_eq_true, if_false]
    rw [Cursor.span, hRun]
    rfl
  intro fuel hFuel
  obtain ⟨fuel, rfl⟩ := Nat.exists_eq_add_one_of_ne_zero (Nat.ne_zero_of_lt hFuel)
  rw [h, List.length_cons] at hFuel
  rw [hStep]
  cases hMore : rest.takeWhile p with
  | nil => exact hNext fuel (by rw [hRest]; omega)
  | cons d more =>
    rw [← hMore, ← hNext (fuel + 1) (by rw [hRest]; omega)]
    -- the rest of the run, if the first character of it was taken before
    have hSplit : ∃ behind, rest = d :: behind := by
      cases rest with
      | nil => cases hMore
      | cons d' behind =>
        rw [List.takeWhile_cons] at hMore
        split at hMore
        · exact ⟨behind, by rw [(List.cons.inj hMore).1]⟩
        · cases hMore
    obtain ⟨behind, rfl⟩ := hSplit
    have hSecond : p d = true := List.all_eq_true.mp List.all_takeWhile d
      (hMore ▸ List.mem_cons_self : d ∈ (d :: behind).takeWhile p)
    obtain ⟨⟨hBlank', hQuote'⟩, hEscape'⟩ : (isBlank d = false ∧ d ≠ '"') ∧ d ≠ '\\' := by
      simpa [p] using hSecond
    rw [doubleQuotedFrom, Cursor.peek, hRest]
    simp only [List.head?_cons, if_neg hQuote', if_neg hEscape', hBlank', Bool.false_eq_true,
      if_false]
    rw [Cursor.span, hRest, List.append_assoc]
    rfl

/-- The escapes of one letter are escapes in documents. -/
theorem simpleEscape?_of_json {letter ch : Char} (h : Json.simpleEscape? letter = some ch) :
    simpleEscape? letter = some ch := by
  unfold Json.simpleEscape? at h
  split at h
  all_goals first | exact h | cases h

/-- An escape that was read. -/
theorem Reads.behindEscape {l : Letter} {after : Cursor} (h : c.rest = '\\' :: rest)
    (hEscape : escape c.next = .ok ([l], after)) (hLength : after.rest.length < c.rest.length)
    (hNext : Reads (text ++ [l]) after r) : Reads text c r := by
  intro fuel hFuel
  obtain ⟨fuel, rfl⟩ := Nat.exists_eq_add_one_of_ne_zero (Nat.ne_zero_of_lt hFuel)
  rw [doubleQuotedFrom, Cursor.peek, h]
  simp only [List.head?_cons, show ('\\' : Char) ≠ '"' by decide, if_false, if_true, hEscape]
  exact hNext fuel (by omega)

/-- Four hexadecimal digits spell the same number in a document, which is below 2 ^ 16. -/
theorem hexDigits?_codeUnit (u : CodeUnit) (rest : List Char) :
    hexDigits? 4 (u.digits ++ rest) = some u.number ∧ u.number < 0x10000 := by
  have hTake : (u.digits ++ rest).take 4 = u.digits := List.take_left' u.four
  have hLength : (u.digits.filterMap (asciiDigit? 16)).length = 4 := by
    rw [List.length_filterMap_eq_countP, List.countP_eq_length.mpr u.spelled, u.four]
  have hSmall : ∀ v ∈ u.digits.filterMap (asciiDigit? 16), v < 16 := by
    intro v hv
    obtain ⟨ch, -, hDigit⟩ := List.mem_filterMap.mp hv
    exact of_decide_eq_true (Option.filter_eq_some_iff.mp hDigit).2
  -- four digits to the base of sixteen are less than its fourth power
  have hLess := Numeral.ofDigits_lt hSmall
  rw [hLength] at hLess
  refine ⟨?_, hLess⟩
  rw [hexDigits?, hTake]
  exact if_pos hLength

/-- An escape by number is read as what the number names, be it a half. -/
theorem Reads.unit {u : CodeUnit} (h : c.rest = '\\' :: 'u' :: (u.digits ++ rest))
    (hNext : Reads (text ++ [.ofCode u.number]) (c.skip 6) r) : Reads text c r := by
  have hPeek : c.next.peek = some 'u' := by rw [Cursor.peek, Cursor.rest_next, h]; rfl
  have hRest : c.next.next.rest = u.digits ++ rest := by
    rw [Cursor.rest_next, Cursor.rest_next, h]
    rfl
  obtain ⟨hNumber, hSmall⟩ := hexDigits?_codeUnit u rest
  -- four digits of a code unit are small enough for every bound on escapes
  have hCode : escapeCode 4 c.next.next = .ok (u.number, c.next.next.skip 4) := by
    rw [escapeCode, hRest, hNumber]
    simp only []
    rw [if_neg (by omega), if_neg (by omega)]
  have hEscape : escape c.next = .ok ([.ofCode u.number], c.next.next.skip 4) := by
    have hWidth : escapeWidth? 'u' = some 4 := rfl
    have hLong : simpleEscape? 'u' = none := rfl
    rw [Yaml.escape, hPeek]
    simp only [hWidth, hLong, hCode]
    rfl
  refine .behindEscape h hEscape ?_ hNext
  rw [Cursor.rest_skip, hRest, h]
  simp only [List.length_drop, List.length_append, List.length_cons]
  omega

/-- **A piece is read as its letters**, unless it is blank. -/
theorem Reads.piece {p : Piece} (hBlank : ∀ ch ∈ p.raw?, isBlank ch = false)
    (h : c.rest = p.text ++ rest) (hNext : Reads (text ++ p.letters) (c.skip p.text.length) r) :
    Reads text c r := by
  have hUnit (u : CodeUnit) : ('\\' :: 'u' :: u.digits).length = 6 := by
    rw [List.length_cons, List.length_cons, u.four]
  cases p with
  | char ch hRaw => exact .char hRaw.1 hRaw.2.1 (hBlank ch rfl) h hNext
  | escape letter ch hLetter =>
    have hRest : c.next.rest = letter :: rest := by rw [Cursor.rest_next, h]; rfl
    have hEscape : escape c.next = .ok ([.char ch], c.next.next) := by
      rw [Yaml.escape, Cursor.peek, hRest]
      simp only [List.head?_cons, simpleEscape?_of_json hLetter]
    refine .behindEscape h hEscape ?_ hNext
    rw [Cursor.rest_next, hRest, h]
    simp only [Piece.text, List.tail_cons, List.length_append, List.length_cons, List.length_nil]
    omega
  | unit u =>
    rw [Piece.text, hUnit u] at hNext
    exact .unit h hNext
  | pair high low ch hPaired =>
    -- the two escapes are read one after the other
    have hLow : (c.skip 6).rest = '\\' :: 'u' :: (low.digits ++ rest) := by
      rw [Cursor.rest_skip, h, Piece.text, List.append_assoc, ← hUnit high, List.drop_left]
      rfl
    have hSkip : c.skip (Piece.pair high low ch hPaired).text.length = (c.skip 6).skip 6 := by
      rw [Cursor.skip_skip, Piece.text, List.length_append, hUnit, hUnit]
    rw [hSkip, Piece.letters, List.append_cons] at hNext
    rw [Piece.text, List.append_assoc] at h
    exact .unit h (.unit hLow hNext)

/-- At the closing quote a string ends. -/
theorem Reads.quote (h : c.rest = '"' :: rest) : Reads text c (.ok (text, c.next)) := by
  intro fuel hFuel
  obtain ⟨fuel, rfl⟩ := Nat.exists_eq_add_one_of_ne_zero (Nat.ne_zero_of_lt hFuel)
  rw [doubleQuotedFrom, Cursor.peek, h]
  rfl

/-- A blank in front is where the blanks are read. -/
theorem doubleQuotedFrom_blank {ch : Char} (h : c.rest = ch :: rest) (hBlank : isBlank ch = true)
    (fuel : Nat) : doubleQuotedFrom (fuel + 1) text c =
      quotedSpaces c >>= fun p => doubleQuotedFrom fuel (text ++ p.1.map .char) p.2 := by
  have hQuote : ch ≠ '"' := by rintro rfl; cases hBlank
  have hEscape : ch ≠ '\\' := by rintro rfl; cases hBlank
  rw [doubleQuotedFrom, Cursor.peek, h]
  simp only [List.head?_cons, if_neg hQuote, if_neg hEscape, hBlank, if_true]

/-- Spaces are held up to what is neither a space nor a tab. -/
theorem span_spaces {held : List Char} {d : Char} (hHeld : ∀ ch ∈ held, ch = ' ')
    (h : c.rest = held ++ d :: rest) (hNext : (d == ' ' || d == '\t') = false) :
    c.span (fun ch => ch == ' ' || ch == '\t') = (held, c.skip held.length) := by
  refine Cursor.span_append h (fun ch hMem => ?_) ?_
  · rw [hHeld ch hMem]
    rfl
  · rintro _ ⟨⟩
    exact hNext

/-- Spaces in front of something else stay. -/
theorem Reads.held {held : List Char} {d : Char} (hHeld : ∀ ch ∈ held, ch = ' ')
    (h : c.rest = held ++ d :: rest) (hBlank : isBlank d = false)
    (hNext : Reads (text ++ held.map .char) (c.skip held.length) r) : Reads text c r := by
  cases held with
  | nil =>
    rw [List.map_nil, List.append_nil] at hNext
    exact hNext
  | cons first held =>
    have hOther : (d == ' ' || d == '\t') = false ∧ isBreak d = false := Bool.or_eq_false_iff.mp hBlank
    have hRest : (c.skip (first :: held).length).rest = d :: rest := by
      rw [Cursor.rest_skip, h, List.drop_left]
    -- the spaces are not followed by a line end, so that they are kept
    have hSpaces : quotedSpaces c = .ok (first :: held, c.skip (first :: held).length) := by
      rw [quotedSpaces, span_spaces hHeld h hOther.1]
      simp only [Cursor.peek, Cursor.lineBreak?, hRest, List.head?_cons, hOther.2, Bool.false_eq_true,
        if_false]
      rfl
    -- one step of fuel for all of the spaces
    intro fuel hFuel
    obtain ⟨fuel, rfl⟩ := Nat.exists_eq_add_one_of_ne_zero (Nat.ne_zero_of_lt hFuel)
    have hFirst : isBlank first = true := by rw [hHeld first List.mem_cons_self]; rfl
    rw [doubleQuotedFrom_blank h hFirst, hSpaces]
    refine hNext fuel ?_
    rw [h, List.length_append] at hFuel
    rw [hRest]
    rw [List.length_cons] at hFuel
    omega

/-! ## Reading ends of lines -/

/-- Reading the rest of a string from inside of ends of lines, with enough fuel. -/
def ReadsLines (first : Char) (others : List Char) (text : List Letter) (c : Cursor)
    (r : Except DocumentFailure (List Letter × Cursor)) : Prop :=
  ∀ fuel fuel', c.rest.length < fuel → c.rest.length < fuel' →
    (quotedBreaks fuel others c >>= fun p =>
      doubleQuotedFrom fuel' (text ++ (folded first p.1).map .char) p.2) = r

variable {first : Char} {others held : List Char}

/-- No document may be marked inside of a string. -/
theorem ReadsLines.marker (h : c.atMarker = true) :
    ReadsLines first others text c (.error .unreadable) := by
  intro fuel fuel' hFuel _
  obtain ⟨fuel, rfl⟩ := Nat.exists_eq_add_one_of_ne_zero (Nat.ne_zero_of_lt hFuel)
  rw [quotedBreaks, if_pos h]
  rfl

/-- What ends a line is neither a space nor a tab. -/
theorem not_space_of_isBreak {b : Char} (h : isBreak b = true) : (b == ' ' || b == '\t') = false := by
  rw [Bool.or_eq_false_iff, beq_eq_false_iff_ne, beq_eq_false_iff_ne]
  constructor
  all_goals
    rintro rfl
    cases h

/-- A line without text. -/
theorem ReadsLines.lineEnd {b : Char} (hHeld : ∀ ch ∈ held, ch = ' ') (hBreak : isBreak b = true)
    (h : c.rest = held ++ b :: rest)
    (hNext : ReadsLines first (others ++ [breakText b]) text (c.skip (held.length + 1)) r) :
    ReadsLines first others text c r := by
  -- neither a space nor a line end begins the mark of a document
  have hNoMark : c.atMarker = false := by
    cases held with
    | nil =>
      refine Cursor.atMarker_of_head h ⟨?_, ?_⟩
      all_goals
        rintro rfl
        cases hBreak
    | cons ch held =>
      obtain rfl := hHeld ch List.mem_cons_self
      exact Cursor.atMarker_of_head h (by decide)
  have hRest : (c.skip held.length).rest = b :: rest := by
    rw [Cursor.rest_skip, h, List.drop_left]
  have hLine : (c.skip held.length).lineBreak? = some (breakText b, c.skip (held.length + 1)) := by
    rw [Cursor.lineBreak?_cons hRest, if_pos hBreak, ← Cursor.skip_skip]
    rfl
  intro fuel fuel' hFuel hFuel'
  obtain ⟨fuel, rfl⟩ := Nat.exists_eq_add_one_of_ne_zero (Nat.ne_zero_of_lt hFuel)
  have hSkip : c.skipWhile (fun ch => ch == ' ' || ch == '\t') = c.skip held.length := by
    rw [Cursor.skipWhile, span_spaces hHeld h (not_space_of_isBreak hBreak)]
  rw [quotedBreaks, hNoMark, if_neg Bool.false_ne_true, hSkip]
  simp only [hLine]
  have hLength : (c.skip (held.length + 1)).rest.length + held.length + 1 = c.rest.length := by
    rw [Cursor.rest_skip, h, List.length_drop, List.length_append, List.length_cons]
    omega
  exact hNext fuel fuel' (by omega) (by omega)

/-- The text goes on behind the spaces that start a line. -/
theorem ReadsLines.lastLine {d : Char} (hHeld : ∀ ch ∈ held, ch = ' ') (hBlank : isBlank d = false)
    (h : c.rest = held ++ d :: rest) (hNoMark : c.atMarker = false)
    (hNext : Reads (text ++ (folded first others).map .char) (c.skip held.length) r) :
    ReadsLines first others text c r := by
  have hOther : (d == ' ' || d == '\t') = false ∧ isBreak d = false := Bool.or_eq_false_iff.mp hBlank
  have hRest : (c.skip held.length).rest = d :: rest := by
    rw [Cursor.rest_skip, h, List.drop_left]
  -- behind the spaces no further line ends, so that the folding is over
  have hLine : (c.skip held.length).lineBreak? = none := by
    rw [Cursor.lineBreak?_cons hRest, hOther.2, if_neg Bool.false_ne_true]
  have hSkip : c.skipWhile (fun ch => ch == ' ' || ch == '\t') = c.skip held.length := by
    rw [Cursor.skipWhile, span_spaces hHeld h hOther.1]
  intro fuel fuel' hFuel hFuel'
  obtain ⟨fuel, rfl⟩ := Nat.exists_eq_add_one_of_ne_zero (Nat.ne_zero_of_lt hFuel)
  rw [quotedBreaks, hNoMark, if_neg Bool.false_ne_true, hSkip]
  simp only [hLine]
  refine hNext fuel' ?_
  rw [Cursor.rest_skip, List.length_drop]
  omega

/-- A line ends behind spaces. -/
theorem Reads.lineEnd {b : Char} (hHeld : ∀ ch ∈ held, ch = ' ') (hBreak : isBreak b = true)
    (h : c.rest = held ++ b :: rest)
    (hNext : ReadsLines (breakText b) [] text (c.skip (held.length + 1)) r) : Reads text c r := by
  have hRest : (c.skip held.length).rest = b :: rest := by
    rw [Cursor.rest_skip, h, List.drop_left]
  have hLine : (c.skip held.length).lineBreak? = some (breakText b, c.skip (held.length + 1)) := by
    rw [Cursor.lineBreak?_cons hRest, if_pos hBreak, ← Cursor.skip_skip]
    rfl
  have hSpaces : quotedSpaces c =
      quotedBreaks ((c.skip (held.length + 1)).rest.length + 1) [] (c.skip (held.length + 1)) >>=
        fun p => .ok (folded (breakText b) p.1, p.2) := by
    rw [quotedSpaces, span_spaces hHeld h (not_space_of_isBreak hBreak)]
    simp only [Cursor.peek, hRest, hLine, List.head?_cons]
    rfl
  -- the reader is at something blank: the first space, or the line end itself
  obtain ⟨first, behind, hFirst, hBlank⟩ : ∃ ch behind, c.rest = ch :: behind ∧ isBlank ch = true := by
    cases held with
    | nil => exact ⟨b, rest, h, by rw [isBlank, hBreak, Bool.or_true]⟩
    | cons ch held => exact ⟨ch, _, h, by rw [hHeld ch List.mem_cons_self]; rfl⟩
  intro fuel hFuel
  obtain ⟨fuel, rfl⟩ := Nat.exists_eq_add_one_of_ne_zero (Nat.ne_zero_of_lt hFuel)
  have hLength : (c.skip (held.length + 1)).rest.length + held.length + 1 = c.rest.length := by
    rw [Cursor.rest_skip, h, List.length_drop, List.length_append, List.length_cons]
    omega
  rw [doubleQuotedFrom_blank hFirst hBlank, hSpaces, bind_assoc]
  exact hNext _ fuel (Nat.lt_succ_self _) (by omega)

end Piece

/-! ## Reading strings -/

/-- The mark of a document does not depend on what comes behind a quote. -/
theorem atMarker_body {c : Cursor} {pieces : List Piece} {behind : List Char}
    (h : c.rest = Piece.body pieces ++ behind) : c.atMarker = Piece.marks (Piece.body pieces) := by
  have hMarker {mark : Char} (hMark : ('"' == mark) = false) (front : List Char) :
      c.rest = front ++ '"' :: behind →
        c.isMarker mark = Cursor.isMarker mark { rest := front ++ ['"'] } := by
    intro h
    unfold Cursor.isMarker
    rw [h]
    -- a mark has three characters, and the one behind it decides
    match front with
    | [] => cases behind with
      | nil => rfl
      | cons d behind => cases behind <;> simp [hMark]
    | [x] => cases behind <;> simp [hMark]
    | [x, y] => simp [hMark]
    | [x, y, z] => rfl
    | x :: y :: z :: w :: front => rfl
  have hQuote : c.rest = pieces.flatMap Piece.text ++ '"' :: behind := by
    rw [h, Piece.body, List.append_assoc]
    rfl
  rw [Cursor.atMarker, hMarker (by decide) _ hQuote, hMarker (by decide) _ hQuote]
  rfl

/-- A piece is a space, the end of a line, or begins with something that is not blank. -/
theorem piece_cases (p : Piece) : (p.raw? = some ' ' ∧ p.text = [' ']) ∨
    (∃ b, p.raw? = some b ∧ p.text = [b] ∧ isBreak b = true) ∨
    (∀ ch ∈ p.raw?, isBlank ch = false) ∧ ∃ d rest, p.text = d :: rest ∧ isBlank d = false := by
  -- an escape begins with a backslash, and a character stands for itself
  cases p with
  | char c h =>
    by_cases hSpace : c = ' '
    · exact .inl ⟨congrArg some hSpace, congrArg ([·]) hSpace⟩
    · cases hBreak : isBreak c with
      | true => exact .inr (.inl ⟨c, rfl, rfl, hBreak⟩)
      | false =>
        have hTab : c ≠ '\t' := by
          rintro rfl
          exact absurd h.2.2 (by decide)
        have hBlank : isBlank c = false := by
          rw [isBlank, hBreak, beq_eq_false_iff_ne.mpr hSpace, beq_eq_false_iff_ne.mpr hTab]
          rfl
        refine .inr (.inr ⟨?_, c, [], rfl, hBlank⟩)
        rintro _ ⟨⟩
        exact hBlank
  | _ => exact .inr (.inr ⟨nofun, '\\', _, rfl, by decide⟩)

section Fold

variable {state : Piece.Fold} {p : Piece} {pieces : List Piece}
  (hFresh : (state.isFresh && Piece.marks (Piece.body (p :: pieces))) = false)

include hFresh

/-- A space is held until it is known whether the line ends. -/
theorem foldFrom_space (h : p.raw? = some ' ') :
    Piece.foldFrom state (p :: pieces) = Piece.foldFrom state.space pieces := by
  rw [Piece.foldFrom, hFresh, if_neg Bool.false_ne_true, if_pos h]

/-- The end of a line folds the spaces around it. -/
theorem foldFrom_break {b : Char} (h : p.raw? = some b) (hBreak : isBreak b = true) :
    Piece.foldFrom state (p :: pieces) = Piece.foldFrom (state.lineEnd b) pieces := by
  have hSpace : ¬p.raw? = some ' ' := by
    rw [h]
    rintro ⟨⟩
    cases hBreak
  have hFilter : p.raw?.filter isBreak = some b := by
    rw [h, Option.filter_some, if_pos hBreak]
  rw [Piece.foldFrom, hFresh, if_neg Bool.false_ne_true, if_neg hSpace, hFilter]

/-- Any other piece is text, and so are the spaces that were held before it. -/
theorem foldFrom_other (h : ∀ ch ∈ p.raw?, isBlank ch = false) :
    Piece.foldFrom state (p :: pieces) =
      (Piece.foldFrom (.spaces []) pieces).map fun text =>
        state.text.map .char ++ (p.letters ++ text) := by
  have hSpace : ¬p.raw? = some ' ' := by
    intro hSpace
    exact absurd (h ' ' hSpace) (by decide)
  -- the piece is neither a space nor a line end, so that the fold begins anew behind it
  have hFilter : p.raw?.filter isBreak = none := by
    rw [Option.filter_eq_none_iff]
    intro ch hRaw
    rw [(Bool.or_eq_false_iff.mp (h ch hRaw)).2]
    exact Bool.false_ne_true
  rw [Piece.foldFrom, hFresh, if_neg Bool.false_ne_true, if_neg hSpace, hFilter]

end Fold

/-- What reading a string gives. -/
def readText (text : List Letter) (more : Option (List Letter)) (behind : Cursor) :
    Except DocumentFailure (List Letter × Cursor) :=
  match more with
  | none => .error .unreadable
  | some more => .ok (text ++ more, behind)

/-- A text and a piece behind what was read before. -/
theorem readText_map (text front letters : List Letter) (more : Option (List Letter))
    (behind : Cursor) :
    readText text (more.map fun more => front ++ (letters ++ more)) behind =
      readText (text ++ front ++ letters) more behind := by
  cases more with
  | none => rfl
  | some more => simp only [Option.map_some, readText, List.append_assoc]

/-- Behind spaces that are held, the pieces are read as they fold. -/
def ReadsHeld (behind : List Char) (pieces : List Piece) : Prop :=
  ∀ (held : List Char) (text : List Letter) (c : Cursor), (∀ ch ∈ held, ch = ' ') →
    c.rest = held ++ (Piece.body pieces ++ behind) →
    Reads text c (readText text (Piece.foldFrom (.spaces held) pieces)
      (c.skip (held.length + (Piece.body pieces).length)))

/-- Behind ends of lines and the spaces that a line starts with, the pieces are read as they
fold. -/
def ReadsFolded (behind : List Char) (pieces : List Piece) : Prop :=
  ∀ (first : Char) (others held : List Char) (text : List Letter) (c : Cursor),
    (∀ ch ∈ held, ch = ' ') →
    c.rest = held ++ (Piece.body pieces ++ behind) →
    ReadsLines first others text c
      (readText text (Piece.foldFrom (.lines first others held.isEmpty) pieces)
        (c.skip (held.length + (Piece.body pieces).length)))

section Pieces

variable {c : Cursor} {behind held : List Char} {text : List Letter} {pieces : List Piece} {p : Piece}

/-- The closing quote behind spaces. -/
theorem reads_quote (h : c.rest = held ++ '"' :: behind) :
    Reads text (c.skip held.length) (.ok (text, c.skip (held.length + 1))) := by
  have hRest : (c.skip held.length).rest = '"' :: behind := by
    rw [Cursor.rest_skip, h, List.drop_left]
  rw [← Cursor.skip_skip]
  exact .quote hRest

/-- Where a line starts with spaces, no document is marked. -/
theorem atMarker_of_held (hHeld : ∀ ch ∈ held, ch = ' ') (h : c.rest = held ++ rest)
    (hEmpty : held = [] → c.atMarker = false) : c.atMarker = false := by
  cases held with
  | nil => exact hEmpty rfl
  | cons ch held =>
    obtain rfl := hHeld ch List.mem_cons_self
    exact Cursor.atMarker_of_head h (by decide)

theorem readsHeld_nil : ReadsHeld behind [] := fun _ _ _ hHeld h =>
  .held hHeld h (by decide : isBlank '"' = false) (reads_quote h)

/-- A line that ends at the closing quote is folded. -/
theorem readsFolded_nil : ReadsFolded behind [] := fun _ _ _ _ _ hHeld h => by
  refine .lastLine hHeld (by decide : isBlank '"' = false) h ?_ (reads_quote h)
  refine atMarker_of_held hHeld h ?_
  rintro rfl
  exact Cursor.atMarker_of_head h (by decide)

/-- Behind a piece that is not blank the text goes on. -/
theorem ReadsHeld.piece (ih : ReadsHeld behind pieces)
    (hBlank : ∀ ch ∈ p.raw?, isBlank ch = false)
    (h : c.rest = held ++ (Piece.body (p :: pieces) ++ behind)) :
    Reads text (c.skip held.length) (readText (text ++ p.letters)
      (Piece.foldFrom (.spaces []) pieces)
      ((c.skip held.length).skip (Piece.body (p :: pieces)).length)) := by
  have hPiece : (c.skip held.length).rest = p.text ++ (Piece.body pieces ++ behind) := by
    rw [Cursor.rest_skip, h, List.drop_left, Piece.body_cons, List.append_assoc]
  have hRest : ((c.skip held.length).skip p.text.length).rest =
      [] ++ (Piece.body pieces ++ behind) := by
    rw [Cursor.rest_skip, hPiece, List.drop_left, List.nil_append]
  -- behind the piece nothing is held
  have hNext := ih [] (text ++ p.letters) _ nofun hRest
  rw [Cursor.skip_skip _ p.text.length, List.length_nil, Nat.zero_add, ← List.length_append,
    ← Piece.body_cons] at hNext
  exact .piece hBlank hPiece hNext

/-- A space is held with those before it. -/
theorem rest_of_space (hText : p.text = [' '])
    (h : c.rest = held ++ (Piece.body (p :: pieces) ++ behind)) :
    c.rest = (held ++ [' ']) ++ (Piece.body pieces ++ behind) ∧
      held.length + (Piece.body (p :: pieces)).length =
        (held ++ [' ']).length + (Piece.body pieces).length := by
  rw [Piece.body_cons, hText] at h ⊢
  simp only [h, List.append_assoc, List.length_append, Nat.add_assoc, and_self]

/-- A line ends, and the next one starts without spaces. -/
theorem rest_of_lineEnd {b : Char} (hText : p.text = [b])
    (h : c.rest = held ++ (Piece.body (p :: pieces) ++ behind)) :
    c.rest = held ++ b :: (Piece.body pieces ++ behind) ∧
      (c.skip (held.length + 1)).rest = [] ++ (Piece.body pieces ++ behind) ∧
      c.skip (held.length + (Piece.body (p :: pieces)).length) =
        (c.skip (held.length + 1)).skip (([] : List Char).length + (Piece.body pieces).length) := by
  -- the line end is one character, and behind it nothing is held
  rw [Piece.body_cons, hText] at h ⊢
  refine ⟨h, ?_, ?_⟩
  · rw [← Cursor.skip_skip, Cursor.rest_skip, Cursor.rest_skip, h, List.drop_left]
    rfl
  · rw [Cursor.skip_skip, List.length_append]
    congr 1
    simp only [List.length_cons, List.length_nil]
    omega

theorem held_space (hHeld : ∀ ch ∈ held, ch = ' ') : ∀ ch ∈ held ++ [' '], ch = ' ' :=
  List.forall_mem_append.mpr ⟨hHeld, List.forall_mem_singleton.mpr rfl⟩

/-- The rest behind spaces that are held, from its first character on. -/
theorem rest_of_other {d : Char} {others : List Char} (hText : p.text = d :: others)
    (h : c.rest = held ++ (Piece.body (p :: pieces) ++ behind)) :
    c.rest = held ++ d :: (others ++ Piece.body pieces ++ behind) := by
  rw [h, Piece.body_cons, hText]
  rfl

/-- A piece behind held spaces is read as it is folded. -/
theorem readsHeld_cons (ihHeld : ReadsHeld behind pieces) (ihFolded : ReadsFolded behind pieces) :
    ReadsHeld behind (p :: pieces) := by
  intro held text c hHeld h
  have hFresh : ((Piece.Fold.spaces held).isFresh && Piece.marks (Piece.body (p :: pieces))) =
      false := rfl
  -- a space is held too, a line end begins the folding, and anything else releases what is held
  rcases piece_cases p with
    ⟨hRaw, hText⟩ | ⟨b, hRaw, hText, hBreak⟩ | ⟨hBlank, d, rest, hText, hNoBlank⟩
  · obtain ⟨hRest, hLength⟩ := rest_of_space hText h
    rw [foldFrom_space hFresh hRaw, hLength]
    exact ihHeld _ _ _ (held_space hHeld) hRest
  · obtain ⟨hRest, hNext, hSkip⟩ := rest_of_lineEnd hText h
    rw [foldFrom_break hFresh hRaw hBreak, hSkip]
    exact .lineEnd hHeld hBreak hRest (ihFolded _ _ [] _ _ (List.forall_mem_nil _) hNext)
  · rw [foldFrom_other hFresh hBlank, readText_map, ← Cursor.skip_skip]
    exact .held hHeld (rest_of_other hText h) hNoBlank (ihHeld.piece hBlank h)

/-- A piece behind the end of a line is read as it is folded. -/
theorem readsFolded_cons (ihHeld : ReadsHeld behind pieces) (ihFolded : ReadsFolded behind pieces) :
    ReadsFolded behind (p :: pieces) := by
  intro first others held text c hHeld h
  cases hFresh : held.isEmpty && Piece.marks (Piece.body (p :: pieces)) with
  | true =>
    -- a line starts here, and it is the mark of a document
    obtain ⟨hEmpty, hMarks⟩ := Bool.and_eq_true_iff.mp hFresh
    obtain rfl := List.isEmpty_iff.mp hEmpty
    have hMarked : Piece.foldFrom (.lines first others true) (p :: pieces) = none := by
      rw [Piece.foldFrom]
      exact if_pos hMarks
    rw [List.isEmpty_nil, hMarked]
    exact .marker ((atMarker_body h).trans hMarks)
  | false =>
    have hNoMark : c.atMarker = false := by
      refine atMarker_of_held hHeld h ?_
      rintro rfl
      exact (atMarker_body h).trans hFresh
    have hState : ((Piece.Fold.lines first others held.isEmpty).isFresh &&
        Piece.marks (Piece.body (p :: pieces))) = false := hFresh
    rcases piece_cases p with
      ⟨hRaw, hText⟩ | ⟨b, hRaw, hText, hBreak⟩ | ⟨hBlank, d, rest, hText, hNoBlank⟩
    · obtain ⟨hRest, hLength⟩ := rest_of_space hText h
      have hNotFresh : (held ++ [' ']).isEmpty = false := by simp
      have hNext := ihFolded first others _ text c (held_space hHeld) hRest
      rw [hNotFresh] at hNext
      rw [foldFrom_space hState hRaw, hLength]
      exact hNext
    · obtain ⟨hRest, hNext, hSkip⟩ := rest_of_lineEnd hText h
      rw [foldFrom_break hState hRaw hBreak, hSkip]
      exact .lineEnd hHeld hBreak hRest (ihFolded _ _ [] _ _ (List.forall_mem_nil _) hNext)
    · rw [foldFrom_other hState hBlank, readText_map, ← Cursor.skip_skip]
      exact .lastLine hHeld hNoBlank (rest_of_other hText h) hNoMark
        (ihHeld.piece hBlank h)

/-- **The pieces that are left are read as they fold**, from spaces or from ends of lines on. -/
theorem reads_pieces : ReadsHeld behind pieces ∧ ReadsFolded behind pieces := by
  induction pieces with
  | nil => exact ⟨readsHeld_nil, readsFolded_nil⟩
  | cons p pieces ih =>
    obtain ⟨ihHeld, ihFolded⟩ := ih
    exact ⟨readsHeld_cons ihHeld ihFolded, readsFolded_cons ihHeld ihFolded⟩

/-- **What a document reads where a string stands**: its text with its lines folded, up to the
closing quote. -/
theorem doubleQuoted_body (h : c.rest = Piece.body pieces ++ behind) :
    doubleQuoted c = readText [] (Piece.folded pieces) (c.skip (Piece.body pieces).length) := by
  have hReads := reads_pieces.1 [] [] c nofun h
  rw [List.length_nil, Nat.zero_add] at hReads
  exact hReads (c.rest.length + 1) (Nat.lt_succ_self _)

end Pieces

end Yaml

end BeaconCheck
