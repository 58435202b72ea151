import BeaconCheck.Proofs.Yaml.Number
import BeaconCheck.Proofs.Yaml.Plain
import BeaconCheck.Proofs.Yaml.TokenSteps

/-!
# The tokens of a JSON text

A JSON text in a document is cut into the tokens of its tree, or it fails before its end.

* `Yaml.leads_name`, `Yaml.leads_word` — names with their colons, and words and numbers.
* `Yaml.leads_source`                  — a value, by recursion over its tree.
* `Yaml.scan_of_tokens`, `Yaml.scan_of_none` — the tokens of a whole text, and a text without.
-/

namespace BeaconCheck.Yaml

open Json Document LexM

variable {flow : Nat} {key : Bool} {tokens : List Token} {text rest : List Char} {l l' : Lexer}

/-! ## Names -/

/-- A candidate is old at a colon if its name is no key. -/
theorem isStale_eq {n : Name} (hTab : '\t' ∉ n.between.text) {c : Cursor} {k : KeyCandidate}
    (hRest : c.rest = Piece.quoted n.pieces ++ unifyLineEnds (n.between.text ++ ':' :: text))
    (hLine : k.line = c.line) (hIndex : k.index = c.index)
    (hPlace : l.cursor = (c.skip (Piece.quoted n.pieces).length).behindWhite) :
    l.isStale k = !n.isKey := by
  -- the cursor has moved over the name and the white space behind it
  let white := (unifyLineEnds (n.between.text ++ ':' :: text)).takeWhile isWhite
  have hSplit : c.rest = (Piece.quoted n.pieces ++ white) ++
      (unifyLineEnds (n.between.text ++ ':' :: text)).dropWhile isWhite := by
    rw [hRest, List.append_assoc, List.takeWhile_append_dropWhile]
  have hCursor : l.cursor = c.skip (Piece.quoted n.pieces ++ white).length := by
    rw [hPlace, Cursor.behindWhite, Cursor.rest_skip, hRest, List.drop_left, Cursor.skip_skip,
      List.length_append]
  have hLineAfter : l.cursor.line = k.line + (Piece.quoted n.pieces ++ white).countP isBreak := by
    rw [hCursor, Cursor.line_skip, hSplit, List.take_left, hLine]
  have hIndexAfter : l.cursor.index = k.index + (Piece.quoted n.pieces ++ white).length := by
    have hLength := congrArg List.length hSplit
    rw [List.length_append] at hLength
    rw [hCursor, Cursor.index_skip _ (by omega), hIndex]
  -- old is what began on another line, or more than 1024 characters in front
  have hStale : l.isStale k = ((Piece.quoted n.pieces ++ white).any isBreak ||
      decide (1024 < (Piece.quoted n.pieces ++ white).length)) := by
    rw [Lexer.isStale, hLineAfter, hIndexAfter, Nat.add_sub_cancel_left]
    congr 1
    rw [Bool.eq_iff_iff, bne_iff_ne, List.any_eq_true, ← List.countP_pos_iff]
    omega
  rw [hStale, Name.isKey]
  cases hBreak : n.between.text.any isBreak with
  | true =>
    have hWhite : white.any isBreak = true :=
      any_isBreak_takeWhile n.between.blank hTab hBreak _
    simp only [List.any_append, hWhite, hBreak, Bool.or_true, Bool.true_or, Bool.not_true,
      Bool.false_and, Bool.not_false]
  | false =>
    have hWhite : white = n.between.text :=
      takeWhile_isWhite_append n.between.blank hTab hBreak (by decide) text
    rw [hWhite, Bool.not_and, Bool.not_not, ← decide_not]
    exact congrArg _ (decide_eq_decide.mpr Nat.not_le.symm)

/-- The candidates of the lexer behind a name. -/
theorem lookup_saved (hAllowed : l.keyAllowed = true) (live : KeyCandidate → Bool) :
    ((saved l).filter fun p => live p.2).lookup l.flow =
      if live (candidate l) then some (candidate l) else none := by
  -- the candidate that was saved here before has been dropped
  have hOthers : ((l.candidates.filter fun p => p.1 != l.flow).filter fun p => live p.2).lookup
      l.flow = none := by
    rw [List.lookup_eq_none_iff]
    intro p hp
    have hNe := (List.mem_filter.mp (List.mem_of_mem_filter hp)).2
    rw [bne_iff_ne] at hNe ⊢
    exact hNe.symm
  rw [saved, if_pos hAllowed, List.filter_cons]
  split
  · rw [List.lookup_cons_self]
  · exact hOthers

/-- The colon behind a name. -/
theorem leads_colon {n : Name} (string : Text) (hFlow : flow ≠ 0)
    (hTab : '\t' ∉ n.between.text)
    (h : Arrived flow true tokens
      (Piece.quoted n.pieces ++ unifyLineEnds (n.between.text ++ ':' :: text)) l) :
    Leads { l with
        candidates := saved l, keyAllowed := false
        cursor := l.cursor.skip (Piece.quoted n.pieces).length
        tokens := .scalar string false :: l.tokens }
      (some ((if n.isKey then [.key, .scalar string false] else [.scalar string false]) ++ [.value]))
      flow false tokens text := by
  have hBehind := h.behind_string string
  generalize hBefore : ({ l with
    candidates := saved l, keyAllowed := false
    cursor := l.cursor.skip (Piece.quoted n.pieces).length
    tokens := .scalar string false :: l.tokens } : Lexer) = l₁ at hBehind
  have hStanding : l₁.Standing flow false (.scalar string false :: tokens) (':' :: text) :=
    { hBehind.standing with
      front := hBehind.standing.front.trans (dropWhile_isWhite_append n.between.blank hTab _) }
  obtain ⟨allowed, hArrived, hStep⟩ := exists_arrived hStanding (by decide)
  have hInside : (l₁.arrive allowed).flow ≠ 0 := hArrived.inside ▸ hFlow
  have hCandidate : (l₁.arrive allowed).candidates.lookup (l₁.arrive allowed).flow =
      if n.isKey then some (candidate l) else none := by
    have hStale : ({ l₁ with cursor := l₁.cursor.behindWhite, keyAllowed := allowed } : Lexer).isStale
        (candidate l) = !n.isKey := by
      refine isStale_eq hTab h.front rfl rfl ?_
      rw [← hBefore]
    have hLookup := lookup_saved (h.allowed rfl hFlow) fun k =>
      !({ l₁ with cursor := l₁.cursor.behindWhite, keyAllowed := allowed } : Lexer).isStale k
    rw [hStale, Bool.not_not] at hLookup
    rw [← hLookup, ← hBefore]
    rfl
  have hRest : ((l₁.arrive allowed).cursor.skip 1).rest = unifyLineEnds text := by
    rw [Cursor.rest_skip, hArrived.front]
    rfl
  rw [token_colon hArrived.front hInside] at hStep
  have hFurther : (unifyLineEnds text).length < l₁.cursor.rest.length := by
    have hWhole : (':' :: unifyLineEnds text).length ≤ l₁.cursor.rest.length := by
      rw [← hArrived.front]
      exact (congrArg List.length (Cursor.rest_behindWhite _)).trans_le
        (List.dropWhile_sublist _).length_le
    exact hWhole
  -- the lexer behind the colon, whatever tokens there are
  have hEnd {new : List Token} (hValue : value (l₁.arrive allowed) = .ok ((), { l₁.arrive allowed with
      candidates := (l₁.arrive allowed).candidates.filter fun p => p.1 != (l₁.arrive allowed).flow
      keyAllowed := false
      cursor := (l₁.arrive allowed).cursor.skip 1
      tokens := new.reverse ++ tokens })) :
      Leads l₁ (some new) flow false tokens text := by
    rw [hValue] at hStep
    refine ⟨_, .single ⟨hStep, (congrArg List.length hRest).trans_lt hFurther⟩, Arrived.standing ?_⟩
    exact {
      noBlock := hArrived.noBlock, noOuter := hArrived.noOuter, inside := hArrived.inside
      noneRequired := fun p hp => hArrived.noneRequired p (List.mem_of_mem_filter hp)
      allowed := nofun, taken := rfl, front := hRest }
  cases hKey : n.isKey with
  | true =>
    rw [hKey, if_pos rfl] at hCandidate
    exact hEnd (value_of_candidate hInside hCandidate hArrived.taken (congrArg _ h.taken))
  | false =>
    rw [hKey, if_neg Bool.false_ne_true] at hCandidate
    refine hEnd ((value_of_none hArrived.noneRequired hInside hCandidate).trans ?_)
    rw [hArrived.taken]
    rfl

/-- A name with its colon: its scalar, marked as a key if it can be one, and the mark of the
value. -/
theorem leads_named {n : Name} (hFlow : flow ≠ 0)
    (h : l.Standing flow true tokens
      (Piece.quoted n.pieces ++ (n.between.text ++ ':' :: text))) :
    Leads l ((Json.join (Piece.tokens? n.pieces) n.between.tokens?).map fun scalar =>
      (if n.isKey then .key :: scalar else scalar) ++ [.value]) flow false tokens text := by
  obtain ⟨allowed, hArrived, hStep⟩ := exists_arrived_string h
  rw [token_string hArrived] at hStep
  rw [Piece.tokens?]
  -- the string is read first, and may break off by itself
  cases hFolded : Piece.folded n.pieces with
  | none =>
    rw [hFolded] at hStep
    exact .failure hStep
  | some string =>
    rw [hFolded] at hStep
    have hBehind := hArrived.behind_string (.ofLetters string)
    have hCuts := cuts_string hArrived hStep hBehind.front
    rw [Option.map_some, Blanks.tokens?]
    by_cases hTab : '\t' ∈ n.between.text
    · -- the lexer stops at the tab
      have hFails := leads_blanks hBehind.standing
      rw [Blanks.tokens?, if_pos hTab] at hFails
      obtain ⟨l₂, hReach, hEnd⟩ := hFails
      rw [if_pos hTab]
      exact ⟨l₂, .head hCuts hReach, hEnd⟩
    · rw [if_neg hTab]
      have hColon := leads_colon (.ofLetters string) hFlow hTab hArrived
      obtain ⟨l₂, hReach, hEnd⟩ := hColon
      exact ⟨l₂, .head hCuts hReach, hEnd⟩

/-! ## Words -/

/-- The text begins like a word: with a letter or a digit, which may have a minus sign in front. -/
inductive StartsWord : List Char → Prop where
  | plain {ch : Char} {rest : List Char} (h : ch ∈ wordStarts) : StartsWord (ch :: rest)
  | minus {ch : Char} {rest : List Char} (h : ch ∈ wordStarts) : StartsWord ('-' :: ch :: rest)

/-- A text goes on, behind blanks, with nothing that can belong to a word. -/
def EndsWord (flow : Nat) (text : List Char) : Prop :=
  ∃ (b : Blanks) (rest : List Char), text = b.text ++ rest ∧
    ∀ ch ∈ rest.head?, flow ≠ 0 ∧ ch ∈ ",]\x7d".toList

/-- Behind an item there are blanks and then a comma or a bracket. -/
theorem endsWord_append {ch : Char} (h : ch ∈ ",]\x7d".toList) (b : Blanks) (text : List Char) :
    EndsWord (flow + 1) (b.text ++ ch :: text) := by
  refine ⟨b, ch :: text, rfl, ?_⟩
  rintro _ ⟨⟩
  exact ⟨Nat.succ_ne_zero flow, h⟩

/-- What ends a word ends a plain scalar. -/
theorem EndsWord.head (h : EndsWord flow text) :
    ∀ ch ∈ (unifyLineEnds text).head?, EndsPlain (flow != 0) ch := by
  obtain ⟨b, rest, rfl, hRest⟩ := h
  have hMark : ∀ ch ∈ ",]\x7d".toList, ch ≠ '\r' := List.all_iff_forall_prop.mp (by decide)
  intro ch hMem
  cases hBlanks : b.text with
  | nil =>
    rw [hBlanks, List.nil_append] at hMem
    cases rest with
    | nil => cases hMem
    | cons d rest =>
      obtain ⟨hFlow, hEnd⟩ := hRest d rfl
      rw [unifyLineEnds_cons (hMark d hEnd)] at hMem
      obtain rfl := Option.some.inj hMem
      exact .inr ⟨bne_iff_ne.mpr hFlow, hEnd⟩
  | cons c blanks =>
    -- a blank stays one, however lines end
    have hBlank := b.blank c (hBlanks ▸ List.mem_cons_self)
    obtain ⟨d, behind, hUnified, hFirst⟩ := exists_unifyLineEnds_blank hBlank (blanks ++ rest)
    rw [hBlanks, List.cons_append, hUnified] at hMem
    obtain rfl := Option.some.inj hMem
    exact .inl hFirst

/-- It does so also behind white space. -/
theorem EndsWord.head_behindWhite (h : EndsWord flow text) :
    ∀ ch ∈ ((unifyLineEnds text).dropWhile isWhite).head?, EndsPlain (flow != 0) ch := by
  obtain ⟨b, rest, rfl, hRest⟩ := h
  intro ch hMem
  by_cases hTab : '\t' ∈ b.text
  · -- a tab is not passed over
    obtain ⟨behind, hBehind⟩ := exists_tab b.blank hTab rest
    rw [hBehind] at hMem
    obtain rfl := Option.some.inj hMem
    exact .inl rfl
  -- without a tab the blanks are passed over, and what is behind them ends the word
  · have hMark : ∀ ch ∈ ",]\x7d".toList, ch ≠ '\r' ∧ isWhite ch = false :=
      List.all_iff_forall_prop.mp (by decide)
    rw [dropWhile_isWhite_append b.blank hTab] at hMem
    cases rest with
    | nil => cases hMem
    | cons d rest =>
      obtain ⟨hFlow, hEnd⟩ := hRest d rfl
      obtain ⟨hReturn, hWhite⟩ := hMark d hEnd
      rw [unifyLineEnds_cons hReturn,
        List.dropWhile_cons_of_neg (by rw [hWhite]; exact Bool.false_ne_true)] at hMem
      obtain rfl := Option.some.inj hMem
      exact .inr ⟨bne_iff_ne.mpr hFlow, hEnd⟩

/-- A word that is a value. -/
theorem leads_word {word : List Char} (hStarts : StartsWord word) (hWord : ∀ ch ∈ word, IsPlain ch)
    (hEnds : EndsWord flow text) (h : l.Standing flow key tokens (word ++ text)) :
    Leads l (some [.scalar (String.ofList word) true]) flow false tokens text := by
  have hReturn : ∀ ch ∈ word, ch ≠ '\r' := by
    rintro _ hMem rfl
    exact absurd (hWord _ hMem).1 (by decide)
  -- the plain scalar is read from the word on
  have hPlain {l₁ : Lexer} (hArrived : Arrived flow key tokens (word ++ unifyLineEnds text) l₁)
      {ch : Char} (hToken : token ch l₁ = plainScalar l₁) :
      ∃ l₂, token ch l₁ = .ok ((), l₂) ∧ l₂.cursor.rest.length ≤ (unifyLineEnds text).length ∧
        l₂.Standing flow false (.scalar (String.ofList word) true :: tokens) text := by
    have hThere : word ≠ [] := by cases hStarts <;> exact List.cons_ne_nil _ _
    obtain ⟨broken, c, hRead, hPasses⟩ :=
      plain_word l₁.indent hArrived.front hThere hWord hEnds.head hEnds.head_behindWhite
    have hRest : (l₁.cursor.skip word.length).rest = unifyLineEnds text := by
      rw [Cursor.rest_skip, hArrived.front, List.drop_left]
    rw [← hArrived.inside] at hRead
    refine ⟨_, hToken.trans (plainScalar_eq hArrived.noneRequired hArrived.noBlock hRead),
      hRest ▸ hPasses.length_le, ?_⟩
    exact {
      noBlock := hArrived.noBlock, noOuter := hArrived.noOuter, inside := hArrived.inside
      noneRequired := saved_noneRequired hArrived.noneRequired
      allowed := nofun, taken := congrArg _ hArrived.taken
      front := by
        rw [← Cursor.rest_behindWhite, hPasses.behindWhite, Cursor.rest_behindWhite, hRest] }
  -- the first character, and the others behind it
  have hSplit {ch : Char} {rest : List Char} (hCh : ch ∈ '-' :: wordStarts) (hText : word = ch :: rest)
      (hToken : ∀ l₁ : Lexer, l₁.cursor.rest = word ++ unifyLineEnds text →
        token ch l₁ = plainScalar l₁) :
      Leads l (some [.scalar (String.ofList word) true]) flow false tokens text := by
    have hStart : ∀ ch ∈ '-' :: wordStarts, StartsToken ch := List.all_iff_forall_prop.mp (by decide)
    have hRest : unifyLineEnds (rest ++ text) = rest ++ unifyLineEnds text :=
      unifyLineEnds_append (fun c hc => hReturn c (hText ▸ List.mem_cons_of_mem _ hc)) text
    have hFirst : l.Standing flow key tokens (ch :: (rest ++ text)) := by
      rw [hText] at h
      exact h
    refine leads_token hFirst (hStart ch hCh) fun l₁ hArrived => ?_
    have hWhole : ch :: unifyLineEnds (rest ++ text) = word ++ unifyLineEnds text := by
      rw [hRest, hText, List.cons_append]
    rw [hWhole] at hArrived
    obtain ⟨l₂, hRead, hLength, hStanding⟩ := hPlain hArrived (hToken l₁ hArrived.front)
    refine ⟨l₂, hRead, hLength.trans ?_, hStanding⟩
    rw [hRest, List.length_append]
    exact Nat.le_add_left _ _
  cases hStarts with
  | plain hFirst => exact hSplit (List.mem_cons_of_mem _ hFirst) rfl fun l₁ h => token_word h hFirst
  | minus hSecond => exact hSplit List.mem_cons_self rfl fun l₁ h => token_minus h hSecond

/-- The words of JSON begin like plain scalars. -/
theorem startsWord_word (w : Word) : StartsWord w.text := by
  cases w
  case minusInfinity => exact .minus (by decide)
  all_goals exact .plain (by decide)

theorem isPlain_word (w : Word) : ∀ ch ∈ w.text, IsPlain ch := by
  cases w <;> exact List.all_iff_forall_prop.mp (by decide)

/-- A number begins like a plain scalar. -/
theorem startsWord_number (n : NumberText) : StartsWord n.text := by
  obtain ⟨d, rest, hDigit, hFirst⟩ := n.exists_first
  have hStart : d ∈ wordStarts := hDigit.of_all (P := (· ∈ wordStarts)) (by decide)
  rw [NumberText.text, hFirst]
  split
  · exact .minus hStart
  · exact .plain hStart

/-- It has only characters that a plain scalar may have. -/
theorem isPlain_number (n : NumberText) : ∀ ch ∈ n.text, IsPlain ch := by
  have hAll : ∀ ch ∈ numberChars, IsPlain ch := List.all_iff_forall_prop.mp (by decide)
  exact fun ch hMem => hAll ch (n.text_mem_numberChars ch hMem)

/-! ## Trees -/

/-- A name with the blanks around it and its colon. -/
theorem leads_name {n : Name} (hFlow : flow ≠ 0)
    (h : l.Standing flow true tokens (n.text ++ text)) :
    Leads l n.tokens? flow false tokens text := by
  have hText : n.text ++ text = n.before.text ++ (Piece.quoted n.pieces ++
      (n.between.text ++ ':' :: (n.behind.text ++ text))) := by
    simp only [Name.text, List.append_assoc, List.cons_append]
  rw [hText] at h
  exact (leads_blanks h).join fun h => (leads_named hFlow h).join leads_blanks

mutual

/-- **Cutting comes through a value** to what is behind it, if the value can be cut at all. -/
theorem leads_source : ∀ (s : Source) {flow : Nat} {key : Bool} {tokens : List Token}
    {text : List Char} {l : Lexer}, EndsWord flow text →
    l.Standing flow key tokens (s.text ++ text) → Leads l s.tokens? flow false tokens text
  -- by recursion on the written value: an opening mark, what is inside, a closing mark
  | .word w, _, _, _, _, _, hEnds, h => leads_word (startsWord_word w) (isPlain_word w) hEnds h
  | .number n, _, _, _, _, _, hEnds, h =>
    leads_word (startsWord_number n) (isPlain_number n) hEnds h
  | .string _, _, _, _, _, _, _, h => leads_string h
  | .emptyList inner, _, _, _, _, _, _, h => by
    rw [Source.text, enclosed_append] at h
    exact (leads_open (.head _) h).join fun h => (leads_blanks h).join (leads_close (.head _))
  | .list items, _, _, _, _, _, _, h => by
    rw [Source.text, enclosed_append] at h
    exact (leads_open (.head _) h).join fun h =>
      (leads_items items h).join (leads_close (.head _))
  | .emptyObject inner, _, _, _, _, _, _, h => by
    rw [Source.text, enclosed_append] at h
    exact (leads_open (.tail _ (.head _)) h).join fun h =>
      (leads_blanks h).join (leads_close (.tail _ (.head _)))
  | .object members, _, _, _, _, _, _, h => by
    rw [Source.text, enclosed_append] at h
    exact (leads_open (.tail _ (.head _)) h).join fun h =>
      (leads_members members h).join (leads_close (.tail _ (.head _)))

/-- Items up to the bracket. -/
theorem leads_items : ∀ (items : Items) {flow : Nat} {key : Bool} {tokens : List Token}
    {text : List Char} {l : Lexer},
    l.Standing (flow + 1) key tokens (items.text ++ ']' :: text) →
    Leads l items.tokens? (flow + 1) false tokens (']' :: text)
  | .last before item after, flow, _, _, text, _, h => by
    -- a word ends at the bracket, with any blanks in between
    have hEnds : EndsWord (flow + 1) (after.text ++ ']' :: text) :=
      endsWord_append (by decide) after text
    simp only [Items.text, List.append_assoc] at h
    exact (leads_blanks h).join fun h => (leads_source item hEnds h).join leads_blanks
  | .more before item after rest, flow, _, _, text, _, h => by
    have hEnds : EndsWord (flow + 1) (after.text ++ ',' :: (rest.text ++ ']' :: text)) :=
      endsWord_append (by decide) after _
    simp only [Items.text, List.append_assoc, List.cons_append] at h
    exact (leads_blanks h).join fun h => (leads_source item hEnds h).join fun h =>
      (leads_blanks h).join fun h => (leads_comma h).join (leads_items rest)

/-- Entries up to the brace. -/
theorem leads_members : ∀ (members : Members) {flow : Nat} {tokens : List Token}
    {text : List Char} {l : Lexer},
    l.Standing (flow + 1) true tokens (members.text ++ '\x7d' :: text) →
    Leads l members.tokens? (flow + 1) false tokens ('\x7d' :: text)
  | .last name item after, flow, _, text, _, h => by
    have hEnds : EndsWord (flow + 1) (after.text ++ '\x7d' :: text) :=
      endsWord_append (by decide) after text
    simp only [Members.text, List.append_assoc] at h
    -- the name with its colon, the value, and the blanks up to the next mark
    exact (leads_name (Nat.succ_ne_zero flow) h).join fun h =>
      (leads_source item hEnds h).join leads_blanks
  | .more name item after rest, flow, _, text, _, h => by
    have hEnds : EndsWord (flow + 1) (after.text ++ ',' :: (rest.text ++ '\x7d' :: text)) :=
      endsWord_append (by decide) after _
    simp only [Members.text, List.append_assoc, List.cons_append] at h
    exact (leads_name (Nat.succ_ne_zero flow) h).join fun h =>
      (leads_source item hEnds h).join fun h =>
        (leads_blanks h).join fun h => (leads_comma h).join (leads_members rest)

end

/-! ## Whole texts -/

/-- Cutting goes on as long as there are tokens. -/
theorem run_of_cuts (h : Relation.ReflTransGen Cuts l l') {fuel : Nat}
    (hFuel : l.cursor.rest.length < fuel) :
    ∃ fuel', l'.cursor.rest.length < fuel' ∧ run fuel l = run fuel' l' := by
  induction h with
  | refl => exact ⟨fuel, hFuel, rfl⟩
  | tail _ hCuts ih =>
    obtain ⟨fuel', hFuel', hRun⟩ := ih
    obtain ⟨fuel', rfl⟩ := Nat.exists_eq_add_one_of_ne_zero (Nat.ne_zero_of_lt hFuel')
    refine ⟨fuel', by have := hCuts.2; omega, ?_⟩
    rw [hRun, run, hCuts.1]

/-- The lexer in front of a text. -/
def Lexer.front (text : List Char) : Lexer := { cursor := { rest := unifyLineEnds text } }

/-- A JSON text leads to its end. -/
theorem leads_whole (w : Whole) :
    Leads (.front w.text) w.tokens? 0 false [] [] := by
  have hText : w.text = w.before.text ++ (w.source.text ++ (w.after.text ++ [])) := by
    rw [Whole.text, List.append_nil, List.append_assoc]
  have hStart : (Lexer.front w.text).Standing 0 true []
      (w.before.text ++ (w.source.text ++ (w.after.text ++ []))) := {
    noBlock := rfl, noOuter := rfl, noneRequired := List.forall_mem_nil _, inside := rfl
    allowed := fun _ _ => rfl, taken := rfl, front := by rw [← hText]; rfl }
  have hEnds : EndsWord 0 (w.after.text ++ []) :=
    ⟨w.after, [], rfl, fun c hMem => (Option.not_mem_none c hMem).elim⟩
  exact (leads_blanks hStart).join fun h => (leads_source w.source hEnds h).join leads_blanks

/-- The tokens of a text are those that come where its cutting has led to. -/
theorem scan_of_cuts (h : Relation.ReflTransGen Cuts (.front text) l) :
    ∃ fuel, Token.scan (unifyLineEnds text) = run (fuel + 1) l := by
  obtain ⟨fuel, hFuel, hRun⟩ := run_of_cuts h
    (Nat.lt_add_of_pos_right Nat.zero_lt_two : (Lexer.front text).cursor.rest.length < _ + 2)
  obtain ⟨fuel, rfl⟩ := Nat.exists_eq_add_one_of_ne_zero (Nat.ne_zero_of_lt hFuel)
  exact ⟨fuel, hRun⟩

/-- A JSON text that has no tokens cannot be cut to its end. -/
theorem scan_of_none {w : Whole} (h : w.tokens? = none) :
    ∃ found failure, Token.scan (unifyLineEnds w.text) = (found, some failure) := by
  obtain ⟨l, hReach, hEnd⟩ := leads_whole w
  obtain ⟨fuel, hScan⟩ := scan_of_cuts hReach
  rw [h] at hEnd
  obtain ⟨failure, hFailure⟩ := hEnd
  refine ⟨l.settled, failure, ?_⟩
  rw [hScan, run, hFailure]

/-- **The tokens of a JSON text in a document.** -/
theorem scan_of_tokens {w : Whole} (h : w.tokens? = some tokens) :
    Token.scan (unifyLineEnds w.text) = (tokens, none) := by
  obtain ⟨l, hReach, hEnd⟩ := leads_whole w
  obtain ⟨fuel, hScan⟩ := scan_of_cuts hReach
  rw [h] at hEnd
  obtain ⟨l', hStep, hLast⟩ := step_end hEnd
  rw [hScan, run, hStep]
  simp only [hLast, List.append_nil, List.reverse_reverse]

end BeaconCheck.Yaml
