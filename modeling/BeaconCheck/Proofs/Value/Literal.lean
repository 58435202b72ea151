import BeaconCheck.Proofs.Number.Literal
import BeaconCheck.Proofs.Value.Comparison

/-!
# Texts that are read as numbers

A script reads a text as a number if it is blank or a literal: a decimal with an optional sign, an
unsigned integer behind a base mark, or an infinity with at most one sign. The reader accepts all
of these but the integers that are beyond the range of numbers, which crash it, and it accepts
decimals with digits of other scripts besides. Behind more than one sign an infinity crashes it.

* `Loose.IsInteger`, `Loose.IsInfinity`, `Loose.IsLiteral` — how numbers are written.
* `Loose.readNumber_eq_number_iff` — the texts that are read as numbers.
* `Loose.ReadsAsLiteral`           — a text is read as a number if it is one to a script.
* `Loose.reads_literals`           — which texts are read so, and what becomes of the others.
* `Loose.misread_texts`            — a text of each kind that is not.
-/

namespace BeaconCheck.Loose

open Numeral (IsDecimal IsDigits IsSign IsUnsigned)
open Binary64 (overflow)

/-! ## Literals -/

/-- The base that a letter behind a zero announces. -/
inductive IsBase : Char → Nat → Prop
  | hexadecimal {mark : Char} (h : mark = 'x' ∨ mark = 'X') : IsBase mark 16
  | octal {mark : Char} (h : mark = 'o' ∨ mark = 'O') : IsBase mark 8
  | binary {mark : Char} (h : mark = 'b' ∨ mark = 'B') : IsBase mark 2

/-- How an integer behind a base mark is written, and which integer it is. -/
inductive IsInteger : List Char → Nat → Prop
  | digits {mark : Char} {base : Nat} {digits : List Char} (hMark : IsBase mark base)
      (hDigits : IsDigits (fun c => (asciiDigit? base c).isSome) digits) :
      IsInteger ('0' :: mark :: digits)
        (Numeral.ofDigits base (digits.filterMap (asciiDigit? base)))

/-- How an infinity with at most one sign is written. -/
def IsInfinity (text : List Char) : Prop :=
  ∃ mark, IsSign mark ∧ text = mark ++ "Infinity".toList

/-- How a number is written, over the characters that count as decimal digits. -/
def IsLiteral (digit : Char → Bool) (text : List Char) : Prop :=
  IsDecimal digit text ∨ (∃ n, IsInteger text n) ∨ IsInfinity text

variable {text : List Char} {base n : Nat}

/-! ## Integers behind a base mark -/

/-- The digits behind a base mark are all of the text. -/
theorem radixDigits_eq_some_iff :
    radixDigits base text = some n ↔ IsDigits (fun c => (asciiDigit? base c).isSome) text ∧
      Numeral.ofDigits base (text.filterMap (asciiDigit? base)) = n := by
  obtain ⟨digits, rest, rfl, hDigits, hRest⟩ := Numeral.exists_digits (asciiDigit? base) text
  rw [radixDigits, Numeral.digitRun_append false hDigits hRest]
  cases rest with
  | nil =>
    rw [List.append_nil]
    cases digits with
    | nil => exact iff_of_false nofun fun h => h.1.1 rfl
    | cons c digits =>
      obtain ⟨d, hd⟩ := Option.isSome_iff_exists.mp (hDigits c List.mem_cons_self)
      simp only [List.filterMap_cons_some hd, Option.some.injEq]
      exact (and_iff_right ⟨List.cons_ne_nil c digits, hDigits⟩).symm
  | cons c rest =>
    -- something is left that is no digit
    refine iff_of_false ?_ fun h => ?_
    · cases digits.filterMap (asciiDigit? base) with
      | nil => exact nofun
      | cons d ds => exact nofun
    · have hDigit : (asciiDigit? base c).isSome = true :=
        h.1.2 c (List.mem_append_right digits List.mem_cons_self)
      rw [hRest c rfl] at hDigit
      cases hDigit

/-- **The integers that are read.** -/
theorem radix?_eq_some_iff : radix? text = some n ↔ IsInteger text n := by
  constructor
  · intro h
    unfold radix? at h
    split at h
    · next mark rest =>
      -- the letter behind the zero names the base, in either case
      split at h
      · next hMark =>
        obtain ⟨hDigits, rfl⟩ := radixDigits_eq_some_iff.mp h
        exact .digits (.hexadecimal (eq_or_eq_of_lowerAscii 'X' hMark rfl)) hDigits
      · next hMark =>
        obtain ⟨hDigits, rfl⟩ := radixDigits_eq_some_iff.mp h
        exact .digits (.octal (eq_or_eq_of_lowerAscii 'O' hMark rfl)) hDigits
      · next hMark =>
        obtain ⟨hDigits, rfl⟩ := radixDigits_eq_some_iff.mp h
        exact .digits (.binary (eq_or_eq_of_lowerAscii 'B' hMark rfl)) hDigits
      · cases h
    · cases h
  · rintro ⟨hMark, hDigits⟩
    have hRead := radixDigits_eq_some_iff.mpr ⟨hDigits, rfl⟩
    cases hMark with
    | hexadecimal h => rcases h with rfl | rfl <;> exact hRead
    | octal h => rcases h with rfl | rfl <;> exact hRead
    | binary h => rcases h with rfl | rfl <;> exact hRead

/-! ## The reading of a text -/

/-- **The decimals that are read.** -/
theorem decimal?_isSome_iff : (decimal? text).isSome = true ↔ IsDecimal isDigit text := by
  rw [decimal?, Numeral.decimal?_isSome_iff]
  constructor
  · intro h
    obtain ⟨mark, hMark, hText⟩ := Numeral.exists_sign text
    exact ⟨mark, _, hMark, h, hText⟩
  · rintro ⟨mark, body, hMark, hBody, rfl⟩
    rwa [Numeral.sign_append hMark hBody.head_ne_sign]

/-- An infinity is neither a decimal nor an integer behind a base mark. -/
theorem IsInfinity.not_read (h : IsInfinity text) : decimal? text = none ∧ radix? text = none := by
  obtain ⟨mark, hMark, rfl⟩ := h
  rcases hMark with rfl | rfl | rfl <;> decide

/-- **The infinities that are read** have at most one sign. -/
theorem exists_infinity?_eq_ok_iff : (∃ x, infinity? text = some (.ok x)) ↔ IsInfinity text := by
  constructor
  · rintro ⟨x, h⟩
    obtain ⟨marks, hMarks, rfl⟩ := eq_append_of_infinity? h
    rw [infinity?, signs_append hMarks] at h
    refine ⟨marks, ?_, rfl⟩
    -- no sign, one sign, or more of them, which crash
    rcases marks with _ | ⟨mark, _ | ⟨next, more⟩⟩
    · exact .inl rfl
    · rcases hMarks mark List.mem_cons_self with rfl | rfl
      · exact .inr (.inl rfl)
      · exact .inr (.inr rfl)
    · cases h
  · rintro ⟨mark, hMark, rfl⟩
    rcases hMark with rfl | rfl | rfl
    all_goals exact ⟨_, rfl⟩

/-- Integers up to the range of numbers have a numeric reading. -/
theorem exists_toBinary64_eq_ok_iff :
    (∃ x, (Number.int n).toBinary64.map some = .ok (some x)) ↔ n < overflow := by
  cases hRead : (Number.int n).toBinary64 with
  | error c =>
    obtain ⟨-, i, hi, hLarge⟩ := Number.toBinary64_eq_error_iff.mp hRead
    cases hi
    exact iff_of_false nofun (Nat.not_lt.mpr hLarge)
  | ok x =>
    refine iff_of_true ⟨x, rfl⟩ (Nat.lt_of_not_le fun hLarge => ?_)
    rw [Number.toBinary64_eq_error_iff.mpr ⟨rfl, n, rfl, hLarge⟩] at hRead
    cases hRead

/-- **The texts that are read as numbers**, once the blanks around them are taken away. -/
theorem readNumber_eq_number_iff {t : Text} :
    (∃ x, readNumber t = .ok (some x)) ↔
      trimBlank t.shown.toList = [] ∨ IsDecimal isDigit (trimBlank t.shown.toList) ∨
        (∃ n, IsInteger (trimBlank t.shown.toList) n ∧ n < overflow) ∨
        IsInfinity (trimBlank t.shown.toList) := by
  unfold readNumber
  generalize trimBlank t.shown.toList = text
  cases text with
  | nil => exact iff_of_true ⟨_, rfl⟩ (.inl rfl)
  | cons c rest =>
    rw [or_iff_right (List.cons_ne_nil c rest), ← decimal?_isSome_iff,
      ← exists_infinity?_eq_ok_iff]
    simp only [List.isEmpty_cons, Bool.false_eq_true, if_false, ← radix?_eq_some_iff]
    cases hDecimal : decimal? (c :: rest) with
    | some x => exact iff_of_true ⟨x, rfl⟩ (.inl rfl)
    | none =>
      cases hRadix : radix? (c :: rest) with
      | some n =>
        -- what has a base mark is not an infinity
        have hNot : ¬ ∃ x, infinity? (c :: rest) = some (.ok x) := by
          intro h
          have hNone := (exists_infinity?_eq_ok_iff.mp h).not_read.2
          rw [hRadix] at hNone
          cases hNone
        simp only [exists_toBinary64_eq_ok_iff, Option.isSome_none, Bool.false_eq_true,
          Option.some.injEq, exists_eq_left', hNot, or_false, false_or]
      | none =>
        simp only [Option.isSome_none, Bool.false_eq_true, reduceCtorEq, false_and, exists_false,
          false_or]
        cases infinity? (c :: rest) with
        | none => simp only [Except.ok.injEq, reduceCtorEq]
        | some reading =>
          cases reading with
          | error c => exact iff_of_false nofun nofun
          | ok x => exact iff_of_true ⟨x, rfl⟩ ⟨x, rfl⟩

/-- **The texts whose reading crashes**, by the grammar. -/
theorem unreadable_iff {c : Crash} :
    Unreadable text c ↔
      (c = .integerTooLarge ∧ ∃ n, IsInteger text n ∧ overflow ≤ n) ∨
      ∃ marks : List Char, (∀ m ∈ marks, m = '+' ∨ m = '-') ∧ 2 ≤ marks.length ∧
        text = marks ++ "Infinity".toList ∧
        c = .notANumber (String.ofList (marks ++ "inf".toList)) := by
  constructor
  · intro h
    -- the two crashes, each with the form that it belongs to
    cases h with
    | radix hRadix hLarge => exact .inl ⟨rfl, _, radix?_eq_some_iff.mp hRadix, hLarge⟩
    | signs hMarks hMany => exact .inr ⟨_, hMarks, hMany, rfl, rfl⟩
  · rintro (⟨rfl, n, hInteger, hLarge⟩ | ⟨marks, hMarks, hMany, rfl, rfl⟩)
    · exact .radix (radix?_eq_some_iff.mpr hInteger) hLarge
    · exact .signs hMarks hMany

/-! ## Reading as a script does -/

/-- A text is read as a number if it is blank or a literal over the ASCII digits, as a script reads
it, and in no case does the reading crash. -/
def ReadsAsLiteral (t : Text) : Prop :=
  (∀ c, readNumber t ≠ .error c) ∧
    ((∃ x, readNumber t = .ok (some x)) ↔
      trimBlank t.shown.toList = [] ∨ IsLiteral Char.isDigit (trimBlank t.shown.toList))

/-- A decimal is neither blank nor a literal of another kind. -/
theorem isDecimal_of_isLiteral {digit : Char → Bool} (hDecimal : IsDecimal isDigit text)
    (h : text = [] ∨ IsLiteral digit text) : IsDecimal digit text := by
  have hRead : (decimal? text).isSome = true := decimal?_isSome_iff.mpr hDecimal
  rcases h with rfl | h | ⟨n, h⟩ | h
  · cases hRead
  · exact h
  · rw [decimal?_of_radix? (radix?_eq_some_iff.mpr h)] at hRead
    cases hRead
  · rw [h.not_read.1] at hRead
    cases hRead

/-- Where no integer is too large, the texts that are read as numbers differ from the literals in
the digits of their decimals only. -/
theorem readNumber_eq_number_iff_isLiteral {t : Text}
    (hSmall : ∀ n, IsInteger (trimBlank t.shown.toList) n → n < overflow) :
    ((∃ x, readNumber t = .ok (some x)) ↔
      trimBlank t.shown.toList = [] ∨ IsLiteral Char.isDigit (trimBlank t.shown.toList)) ↔
    (IsDecimal isDigit (trimBlank t.shown.toList) → IsDecimal Char.isDigit (trimBlank t.shown.toList)) := by
  have hInteger : (∃ n, IsInteger (trimBlank t.shown.toList) n ∧ n < overflow) ↔
      ∃ n, IsInteger (trimBlank t.shown.toList) n :=
    exists_congr fun n => and_iff_left_of_imp (hSmall n)
  -- literals of integers and infinities are read the same; decimals may have digits of other
  -- scripts
  rw [readNumber_eq_number_iff, hInteger]
  constructor
  · intro hSame hDecimal
    exact isDecimal_of_isLiteral hDecimal (hSame.mp (.inr (.inl hDecimal)))
  · intro hDigits
    have hDecimal : IsDecimal isDigit (trimBlank t.shown.toList) ↔
        IsDecimal Char.isDigit (trimBlank t.shown.toList) :=
      ⟨hDigits, fun h => h.mono fun _ => Numeral.isDigit_of_ascii⟩
    rw [hDecimal]
    rfl

/-- **Which texts are read as literals.** A text is read as a number exactly if it is blank, a
decimal with digits of any script, an integer behind a base mark that is within the range of
numbers, or an infinity with at most one sign. Its reading crashes exactly if it is such an integer
beyond that range, or an infinity behind more than one sign. So a text is read as a script reads it
unless it is one of these two, or a decimal with a digit that is not an ASCII digit. -/
theorem reads_literals (t : Text) :
    let text := trimBlank t.shown.toList
    ((∃ x, readNumber t = .ok (some x)) ↔
      text = [] ∨ IsDecimal isDigit text ∨ (∃ n, IsInteger text n ∧ n < overflow) ∨
        IsInfinity text) ∧
    (∀ c, readNumber t = .error c ↔
      (c = .integerTooLarge ∧ ∃ n, IsInteger text n ∧ overflow ≤ n) ∨
      ∃ marks : List Char, (∀ m ∈ marks, m = '+' ∨ m = '-') ∧ 2 ≤ marks.length ∧
        text = marks ++ "Infinity".toList ∧
        c = .notANumber (String.ofList (marks ++ "inf".toList))) ∧
    (ReadsAsLiteral t ↔
      (∀ n, IsInteger text n → n < overflow) ∧
      (∀ marks : List Char, (∀ m ∈ marks, m = '+' ∨ m = '-') →
        text = marks ++ "Infinity".toList → marks.length < 2) ∧
      (IsDecimal isDigit text → IsDecimal Char.isDigit text)) := by
  intro text
  refine ⟨readNumber_eq_number_iff, fun c => readNumber_eq_error_iff.trans unreadable_iff, ?_⟩
  constructor
  · rintro ⟨hNoCrash, hLiteral⟩
    -- what reads as a literal does not crash, so that neither crash can be the case
    have hSmall : ∀ n, IsInteger text n → n < overflow := by
      refine fun n hInteger => Nat.lt_of_not_le fun hLarge => hNoCrash .integerTooLarge ?_
      exact readNumber_eq_error_iff.mpr (unreadable_iff.mpr (.inl ⟨rfl, n, hInteger, hLarge⟩))
    refine ⟨hSmall, fun marks hMarks hText => ?_,
      (readNumber_eq_number_iff_isLiteral hSmall).mp hLiteral⟩
    refine Nat.lt_of_not_le fun hMany => ?_
    exact hNoCrash _ (readNumber_eq_error_iff.mpr
      (unreadable_iff.mpr (.inr ⟨marks, hMarks, hMany, hText, rfl⟩)))
  · rintro ⟨hSmall, hFew, hDigits⟩
    refine ⟨fun c hCrash => ?_, (readNumber_eq_number_iff_isLiteral hSmall).mpr hDigits⟩
    rcases unreadable_iff.mp (readNumber_eq_error_iff.mp hCrash) with
      ⟨-, n, hInteger, hLarge⟩ | ⟨marks, hMarks, hMany, hText, -⟩
    · exact Nat.not_lt.mpr hLarge (hSmall n hInteger)
    · exact Nat.not_lt.mpr hMany (hFew marks hMarks hText)

/-- A digit of another script is read as a number, and two signs in front of an infinity and 257
hexadecimal digits crash the reading. -/
theorem misread_texts :
    (∃ x, readNumber "٣" = .ok (some x)) ∧ ¬ ReadsAsLiteral "٣" ∧
      readNumber "--Infinity" = .error (.notANumber "--inf") ∧ ¬ ReadsAsLiteral "--Infinity" ∧
      readNumber (String.ofList ("0x1".toList ++ List.replicate 256 '0')) =
        .error .integerTooLarge ∧
      ¬ ReadsAsLiteral (String.ofList ("0x1".toList ++ List.replicate 256 '0')) := by
  have hDigit : ∃ x, readNumber "٣" = .ok (some x) := ⟨_, rfl⟩
  have hSigns : readNumber "--Infinity" = .error (.notANumber "--inf") := by rfl
  have hLarge : readNumber (String.ofList ("0x1".toList ++ List.replicate 256 '0')) =
      .error .integerTooLarge := by
    have hText : trimBlank ("0x1".toList ++ List.replicate 256 '0') =
        "0x1".toList ++ List.replicate 256 '0' := by decide +kernel
    have hRadix : radix? ("0x1".toList ++ List.replicate 256 '0') = some (16 ^ 256) := by
      decide +kernel
    rw [readNumber_eq_error_iff, Text.shown_whole, String.toList_ofList, hText]
    exact .radix hRadix (by decide +kernel)
  refine ⟨hDigit, fun h => ?_, hSigns, fun h => h.1 _ hSigns, hLarge, fun h => h.1 _ hLarge⟩
  -- a decimal has a digit, and this text has no ASCII digit
  have hText : trimBlank (Text.shown "٣").toList = ['٣'] := by decide
  have hSmall : ∀ n, IsInteger ['٣'] n → n < overflow := nofun
  rw [← hText] at hSmall
  have hDecimal : IsDecimal Char.isDigit (trimBlank (Text.shown "٣").toList) :=
    (readNumber_eq_number_iff_isLiteral hSmall).mp h.2 (decimal?_isSome_iff.mp rfl)
  obtain ⟨c, hc, hAscii⟩ := hDecimal.exists_digit
  rw [hText, List.mem_singleton] at hc
  rw [hc] at hAscii
  cases hAscii

end BeaconCheck.Loose
