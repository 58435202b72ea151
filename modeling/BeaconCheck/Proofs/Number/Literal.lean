import BeaconCheck.Number.Numeral

/-!
# How decimals are written

The decimals that are read without grouping, as a grammar over the characters that count as
digits: digits with an optional fraction, or a fraction alone, and an optional exponent behind
them, which may have a sign. The reader takes digits as long as there are any, and what it leaves
begins with a point, an exponent or nothing, so it reads what the grammar writes and no more.

* `Numeral.digitRun_append`     — a run of digits, and what the reader leaves of the text.
* `Numeral.IsExponent`, `Numeral.IsUnsigned`, `Numeral.IsDecimal` — how decimals are written.
* `Numeral.decimal?_isSome_iff` — the unsigned decimals are read, with digits of any script.
-/

namespace BeaconCheck.Numeral

/-! ## Runs of digits -/

section Digits

variable {digit? : Char → Option Nat} {digits rest : List Char}

/-- **A run of digits** is as long as there are digits, and each of them has its value. -/
theorem digitRun_append (after : Bool) (hDigits : ∀ c ∈ digits, (digit? c).isSome = true)
    (hRest : ∀ c ∈ rest.head?, digit? c = none) :
    digitRun digit? false after (digits ++ rest) = (digits.filterMap digit?, rest) := by
  -- by induction on the digits, with something behind them that is none
  induction digits generalizing after with
  | nil =>
    cases rest with
    | nil => rfl
    | cons c rest => simp [digitRun, hRest c rfl]
  | cons c digits ih =>
    obtain ⟨hFirst, hMore⟩ := List.forall_mem_cons.mp hDigits
    obtain ⟨d, hd⟩ := Option.isSome_iff_exists.mp hFirst
    rw [List.cons_append, List.filterMap_cons_some hd, digitRun]
    simp only [hd, ih true hMore]

/-- Every text is a run of digits and something that does not begin with a digit. -/
theorem exists_digits (digit? : Char → Option Nat) (text : List Char) :
    ∃ digits rest, text = digits ++ rest ∧ (∀ c ∈ digits, (digit? c).isSome = true) ∧
      ∀ c ∈ rest.head?, digit? c = none := by
  refine ⟨text.takeWhile fun c => (digit? c).isSome, text.dropWhile fun c => (digit? c).isSome,
    List.takeWhile_append_dropWhile.symm, ?_, ?_⟩
  · exact List.all_eq_true.mp List.all_takeWhile
  · intro c hc
    have hNot := List.head?_dropWhile_not (fun c => (digit? c).isSome) text
    rw [hc] at hNot
    simpa using hNot

/-- Digits have values, so a run without values has no digits. -/
theorem filterMap_isEmpty (hDigits : ∀ c ∈ digits, (digit? c).isSome = true) :
    (digits.filterMap digit?).isEmpty = digits.isEmpty := by
  cases digits with
  | nil => rfl
  | cons c digits =>
    obtain ⟨d, hd⟩ := Option.isSome_iff_exists.mp (hDigits c List.mem_cons_self)
    rw [List.filterMap_cons_some hd]
    rfl

end Digits

/-! ## Signs -/

/-- A sign, or nothing. -/
def IsSign (text : List Char) : Prop :=
  text = [] ∨ text = ['+'] ∨ text = ['-']

/-- What is behind the sign of a text. -/
theorem exists_sign (text : List Char) : ∃ mark, IsSign mark ∧ text = mark ++ (sign text).2 := by
  unfold sign
  split
  · exact ⟨['-'], .inr (.inr rfl), rfl⟩
  · exact ⟨['+'], .inr (.inl rfl), rfl⟩
  · exact ⟨[], .inl rfl, rfl⟩

/-- A sign is taken from a text that does not begin with another. -/
theorem sign_append {mark body : List Char} (hMark : IsSign mark)
    (hBody : ∀ c ∈ body.head?, c ≠ '+' ∧ c ≠ '-') : (sign (mark ++ body)).2 = body := by
  -- without a sign the body must not be taken for one
  rcases hMark with rfl | rfl | rfl
  · cases body with
    | nil => rfl
    | cons c body =>
      obtain ⟨hPlus, hMinus⟩ := hBody c rfl
      rw [List.nil_append]
      unfold sign
      split
      · next h => exact absurd (List.cons.inj h).1 hMinus
      · next h => exact absurd (List.cons.inj h).1 hPlus
      · rfl
  · rfl
  · rfl

/-! ## Decimals -/

/-- At least one character, and digits only. -/
def IsDigits (digit : Char → Bool) (text : List Char) : Prop :=
  text ≠ [] ∧ ∀ c ∈ text, digit c = true

/-- How an exponent is written, which may be missing. -/
inductive IsExponent (digit : Char → Bool) : List Char → Prop
  | absent : IsExponent digit []
  | present {letter : Char} {mark digits : List Char} (hLetter : letter = 'e' ∨ letter = 'E')
      (hMark : IsSign mark) (hDigits : IsDigits digit digits) :
      IsExponent digit (letter :: (mark ++ digits))

/-- How a decimal without a sign is written. -/
inductive IsUnsigned (digit : Char → Bool) : List Char → Prop
  | whole {whole exponent : List Char} (hWhole : IsDigits digit whole)
      (hExponent : IsExponent digit exponent) : IsUnsigned digit (whole ++ exponent)
  | point {whole fraction exponent : List Char} (hWhole : IsDigits digit whole)
      (hFraction : ∀ c ∈ fraction, digit c = true) (hExponent : IsExponent digit exponent) :
      IsUnsigned digit (whole ++ '.' :: (fraction ++ exponent))
  | fraction {fraction exponent : List Char} (hFraction : IsDigits digit fraction)
      (hExponent : IsExponent digit exponent) : IsUnsigned digit ('.' :: (fraction ++ exponent))

/-- How a decimal is written. -/
def IsDecimal (digit : Char → Bool) (text : List Char) : Prop :=
  ∃ mark body, IsSign mark ∧ IsUnsigned digit body ∧ text = mark ++ body

section Grammar

variable {digit digit' : Char → Bool} {text : List Char}

/-! More characters that count as digits give more decimals. -/

theorem IsDigits.mono (hDigit : ∀ c, digit c = true → digit' c = true) (h : IsDigits digit text) :
    IsDigits digit' text :=
  ⟨h.1, fun c hc => hDigit c (h.2 c hc)⟩

theorem IsExponent.mono (hDigit : ∀ c, digit c = true → digit' c = true)
    (h : IsExponent digit text) : IsExponent digit' text := by
  cases h with
  | absent => exact .absent
  | present hLetter hMark hDigits => exact .present hLetter hMark (hDigits.mono hDigit)

theorem IsUnsigned.mono (hDigit : ∀ c, digit c = true → digit' c = true)
    (h : IsUnsigned digit text) : IsUnsigned digit' text := by
  cases h with
  | whole hWhole hExponent => exact .whole (hWhole.mono hDigit) (hExponent.mono hDigit)
  | point hWhole hFraction hExponent =>
    exact .point (hWhole.mono hDigit) (fun c hc => hDigit c (hFraction c hc))
      (hExponent.mono hDigit)
  | fraction hFraction hExponent =>
    exact .fraction (hFraction.mono hDigit) (hExponent.mono hDigit)

theorem IsDecimal.mono (hDigit : ∀ c, digit c = true → digit' c = true)
    (h : IsDecimal digit text) : IsDecimal digit' text := by
  obtain ⟨mark, body, hMark, hBody, rfl⟩ := h
  exact ⟨mark, body, hMark, hBody.mono hDigit, rfl⟩

theorem IsDigits.exists_digit (h : IsDigits digit text) : ∃ c ∈ text, digit c = true := by
  obtain ⟨c, hc⟩ := List.exists_mem_of_ne_nil _ h.1
  exact ⟨c, hc, h.2 c hc⟩

/-- A decimal has a digit. -/
theorem IsDecimal.exists_digit (h : IsDecimal digit text) : ∃ c ∈ text, digit c = true := by
  obtain ⟨mark, body, -, hBody, rfl⟩ := h
  -- there are digits in front of the point or behind it
  cases hBody with
  | whole hWhole =>
    obtain ⟨c, hc, hDigit⟩ := hWhole.exists_digit
    exact ⟨c, by simp [hc], hDigit⟩
  | point hWhole =>
    obtain ⟨c, hc, hDigit⟩ := hWhole.exists_digit
    exact ⟨c, by simp [hc], hDigit⟩
  | fraction hFraction =>
    obtain ⟨c, hc, hDigit⟩ := hFraction.exists_digit
    exact ⟨c, by simp [hc], hDigit⟩

end Grammar

/-- The ten ASCII digits are among the digits of all scripts. -/
theorem isDigit_of_ascii {c : Char} (h : c.isDigit = true) : isDigit c = true := by
  rw [Char.isDigit, Bool.and_eq_true, decide_eq_true_iff, decide_eq_true_iff] at h
  have hLow : 0x30 ≤ c.toNat := h.1
  have hHigh : c.toNat ≤ 0x39 := h.2
  have hFirst : digitZeros.find? (fun first => c.toNat < first + 10) = some 0x30 :=
    List.find?_cons_of_pos (decide_eq_true (by omega))
  simp only [isDigit, digitValue?, hFirst, Option.bind_some, if_pos hLow]
  rfl

variable {text : List Char}

/-- An exponent begins neither with a digit nor with a point. -/
theorem IsExponent.head (h : IsExponent isDigit text) :
    (∀ c ∈ text.head?, digitValue? c = none) ∧ text.head? ≠ some '.' := by
  cases h with
  | absent => exact ⟨nofun, nofun⟩
  | present hLetter =>
    refine ⟨fun c hc => ?_, fun hc => ?_⟩
    · obtain rfl := Option.some.inj hc
      rcases hLetter with rfl | rfl <;> rfl
    · rcases hLetter with rfl | rfl <;> cases hc

/-- Digits do not begin with a sign, whatever is behind them. -/
theorem IsDigits.head_ne_sign (h : IsDigits isDigit text) (rest : List Char) :
    ∀ c ∈ (text ++ rest).head?, c ≠ '+' ∧ c ≠ '-' := by
  obtain ⟨d, more, rfl⟩ := List.exists_cons_of_ne_nil h.1
  have hDigit : isDigit d = true := h.2 d List.mem_cons_self
  rintro _ ⟨⟩
  constructor
  all_goals
    rintro rfl
    revert hDigit
    decide

/-- **The exponents that are read.** -/
theorem exponent?_isSome_iff : (exponent? false text).isSome = true ↔ IsExponent isDigit text := by
  constructor
  · intro h
    cases text with
    | nil => exact .absent
    | cons letter text =>
      rw [exponent?] at h
      split at h
      · next hLetter =>
        obtain ⟨mark, hMark, hText⟩ := exists_sign text
        obtain ⟨digits, rest, hBody, hDigits, hRest⟩ := exists_digits digitValue? (sign text).2
        simp only [hBody, digitRun_append false hDigits hRest] at h
        split at h
        · next d ds hRun =>
          -- there are digits, and nothing behind them
          obtain ⟨hValues, rfl⟩ := Prod.mk.inj hRun
          rw [List.append_nil] at hBody
          rw [hText, hBody]
          refine .present hLetter hMark ⟨?_, hDigits⟩
          rintro rfl
          cases hValues
        · cases h
      · cases h
  · intro h
    cases h with
    | absent => rfl
    | @present letter mark digits hLetter hMark hDigits =>
      have hBody : (sign (mark ++ (digits ++ []))).2 = digits ++ [] :=
        sign_append hMark (hDigits.head_ne_sign [])
      have hRun : digitRun digitValue? false false (digits ++ []) = _ :=
        digitRun_append false hDigits.2 nofun
      have hSome : (digits.filterMap digitValue?).isEmpty = false := by
        rw [filterMap_isEmpty hDigits.2]
        simpa using hDigits.1
      obtain ⟨d, ds, hValues⟩ := List.exists_cons_of_ne_nil (List.isEmpty_eq_false_iff.mp hSome)
      rw [List.append_nil] at hBody hRun
      simp only [exponent?, if_pos hLetter, hBody, hRun, hValues]
      rfl

section Parts

variable {negative : Bool} {whole fraction rest : List Char}

/-- A decimal with a point has a digit on one side of it, and ends in an exponent. -/
theorem decimal?_point_isSome_iff (hWhole : ∀ c ∈ whole, isDigit c = true)
    (hFraction : ∀ c ∈ fraction, isDigit c = true)
    (hRest : ∀ c ∈ rest.head?, digitValue? c = none) :
    (decimal? false negative (whole ++ '.' :: (fraction ++ rest))).isSome = true ↔
      (whole ≠ [] ∨ fraction ≠ []) ∧ IsExponent isDigit rest := by
  -- the point ends the digits in front of it, since it is none
  have hPoint : ∀ c ∈ ('.' :: (fraction ++ rest)).head?, digitValue? c = none := by
    rintro _ ⟨⟩
    rfl
  rw [← exponent?_isSome_iff]
  simp only [decimal?, digitRun_append false hWhole hPoint, digitRun_append false hFraction hRest,
    filterMap_isEmpty hWhole, filterMap_isEmpty hFraction]
  have hNone : (whole.isEmpty && fraction.isEmpty) = true ↔ whole = [] ∧ fraction = [] := by
    rw [Bool.and_eq_true, List.isEmpty_iff, List.isEmpty_iff]
  split
  · next h =>
    obtain ⟨rfl, rfl⟩ := hNone.mp h
    exact iff_of_false nofun fun h => h.1.elim (· rfl) (· rfl)
  · next h =>
    rw [hNone, Classical.not_and_iff_not_or_not] at h
    rw [Option.isSome_map]
    exact (and_iff_right h).symm

/-- One without a point has a digit, and ends in an exponent. -/
theorem decimal?_whole_isSome_iff (hWhole : ∀ c ∈ whole, isDigit c = true)
    (hRest : ∀ c ∈ rest.head?, digitValue? c = none) (hPoint : rest.head? ≠ some '.') :
    (decimal? false negative (whole ++ rest)).isSome = true ↔
      whole ≠ [] ∧ IsExponent isDigit rest := by
  rw [← exponent?_isSome_iff]
  simp only [decimal?, digitRun_append false hWhole hRest]
  split
  · next h => exact absurd rfl hPoint
  · rw [filterMap_isEmpty hWhole, List.isEmpty_nil, Bool.and_true]
    -- without a point there has to be a digit in front of the exponent
    cases whole with
    | nil => exact iff_of_false nofun fun h => h.1 rfl
    | cons c whole =>
      rw [List.isEmpty_cons, if_neg Bool.false_ne_true, Option.isSome_map]
      exact (and_iff_right (List.cons_ne_nil c whole)).symm

end Parts

/-- **The unsigned decimals that are read.** -/
theorem decimal?_isSome_iff {negative : Bool} :
    (decimal? false negative text).isSome = true ↔ IsUnsigned isDigit text := by
  constructor
  · intro h
    obtain ⟨whole, rest, rfl, hWhole, hRest⟩ := exists_digits digitValue? text
    -- the first digits end at a point, or else at the exponent or the end
    by_cases hPoint : rest.head? = some '.'
    · obtain ⟨more, rfl⟩ := List.head?_eq_some_iff.mp hPoint
      obtain ⟨fraction, exponent, rfl, hFraction, hBehind⟩ := exists_digits digitValue? more
      obtain ⟨hSome, hExponent⟩ := (decimal?_point_isSome_iff hWhole hFraction hBehind).mp h
      by_cases hNone : whole = []
      · rw [hNone]
        exact .fraction ⟨hSome.resolve_left (absurd hNone), hFraction⟩ hExponent
      · exact .point ⟨hNone, hWhole⟩ hFraction hExponent
    · obtain ⟨hSome, hExponent⟩ := (decimal?_whole_isSome_iff hWhole hRest hPoint).mp h
      exact .whole ⟨hSome, hWhole⟩ hExponent
  · intro h
    cases h with
    | whole hWhole hExponent =>
      obtain ⟨hDigit, hPoint⟩ := hExponent.head
      exact (decimal?_whole_isSome_iff hWhole.2 hDigit hPoint).mpr ⟨hWhole.1, hExponent⟩
    | point hWhole hFraction hExponent =>
      exact (decimal?_point_isSome_iff hWhole.2 hFraction hExponent.head.1).mpr
        ⟨.inl hWhole.1, hExponent⟩
    | fraction hFraction hExponent =>
      exact (decimal?_point_isSome_iff (List.forall_mem_nil _) hFraction.2 hExponent.head.1).mpr
        ⟨.inr hFraction.1, hExponent⟩

/-- A decimal without a sign begins with a digit or a point. -/
theorem IsUnsigned.head_ne_sign (h : IsUnsigned isDigit text) :
    ∀ c ∈ text.head?, c ≠ '+' ∧ c ≠ '-' := by
  cases h with
  | whole hWhole => exact hWhole.head_ne_sign _
  | point hWhole => exact hWhole.head_ne_sign _
  | fraction =>
    rintro _ ⟨⟩
    decide

end BeaconCheck.Numeral
