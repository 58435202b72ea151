import BeaconCheck.Proofs.Json.Source
import BeaconCheck.Yaml.Tag
import Mathlib.Data.Bool.AllAny

/-!
# The tags of numbers in documents

What a plain scalar counts as that is written like a number of JSON. An integer is an integer. A
number with a fraction is a number, unless it has an exponent without a sign; and with an exponent
but no fraction it is no number at all, but a text.

* `Json.NumberText.isCommon`   — the numbers that are written as in documents.
* `Yaml.Tag.floatForms_text`, `Yaml.Tag.intForms_text` — the forms that a number has.
* `Yaml.Tag.ofString_text`     — the tag of a scalar that is written like a number.
-/

namespace BeaconCheck

open Yaml

namespace Json

/-! ## Digits -/

/-- What holds of the ten digits holds of every digit. -/
theorem IsDigit.of_all {P : Char → Prop} [DecidablePred P]
    (h : "0123456789".toList.all (fun c => decide (P c)) = true) {c : Char} (hc : IsDigit c) :
    P c := by
  refine List.all_iff_forall_prop.mp h c ?_
  have hRange : '0' ≤ c ∧ c ≤ '9' := by
    unfold IsDigit asciiDigit? at hc
    by_contra hNot
    rw [if_neg hNot] at hc
    -- the value of a letter is ten at least
    split at hc
    · simp at hc
    · split at hc
      · simp at hc
      · cases hc
  have hCode : 48 ≤ c.toNat ∧ c.toNat < 58 := ⟨hRange.1, Nat.lt_succ_of_le hRange.2⟩
  have hAll : ∀ n < 58, 48 ≤ n → Char.ofNat n ∈ "0123456789".toList := by decide
  rw [← Char.ofNat_toNat c]
  exact hAll _ hCode.2 hCode.1

/-- The text goes on with nothing that belongs to digits in front of it. -/
def EndsDigits (text : List Char) : Prop :=
  ∀ c ∈ text.head?, c = '.' ∨ c = 'e' ∨ c = 'E'

namespace NumberText

variable (n : NumberText)

/-- The digits in front of an exponent end there. -/
theorem exponent_endsDigits : EndsDigits ((n.exponent.map ExponentText.text).getD []) := by
  intro c hc
  cases hExponent : n.exponent with
  | none =>
    rw [hExponent] at hc
    cases hc
  | some e =>
    rw [hExponent] at hc
    obtain rfl := Option.some.inj hc
    exact .inr e.marked

/-- The first digits of a number end at its fraction or its exponent. -/
theorem tail_endsDigits : EndsDigits n.tail := by
  unfold tail
  split
  · exact n.exponent_endsDigits
  · intro c hc
    exact .inl (Option.some.inj hc).symm

/-- The number has a fraction, and its exponent has a sign if there is one. -/
def isPointed : Bool :=
  !n.fraction.isEmpty && n.exponent.all fun e => !e.sign.isEmpty

/-- The number is written as documents write integers or numbers with a point. -/
def isCommon : Bool :=
  n.isInteger || n.isPointed

/-- The first digit of the number. -/
theorem exists_first : ∃ d rest, IsDigit d ∧ n.unsigned = d :: rest := by
  obtain ⟨hThere, hDigits⟩ := n.wholeSpelled
  cases hWhole : n.whole with
  | nil => exact absurd hWhole hThere
  | cons d ds =>
    refine ⟨d, ds ++ n.tail, hDigits d ?_, ?_⟩
    · rw [hWhole]
      exact List.mem_cons_self
    · rw [unsigned, hWhole]
      rfl

end NumberText

end Json

/-! ## Forms -/

namespace Yaml.Tag

open Json

variable {ds rest : List Char}

/-- Digits may stand between underscores. -/
theorem isSpacedDigit_of_isDigit {c : Char} (h : IsDigit c) : isSpacedDigit c = true := by
  rw [isSpacedDigit, isDigit, h]
  rfl

/-- What ends digits is of no kind that neither a point nor the mark of an exponent is of. -/
theorem head_of_endsDigits {p : Char → Bool} (h : EndsDigits rest)
    (hp : p '.' = false ∧ p 'e' = false ∧ p 'E' = false) : ∀ c ∈ rest.head?, p c = false := by
  intro c hc
  rcases h c hc with rfl | rfl | rfl
  · exact hp.1
  · exact hp.2.1
  · exact hp.2.2

/-- Characters of a kind in front of others are dropped. -/
theorem dropWhile_append_of_head {p : Char → Bool} (hDs : ∀ c ∈ ds, p c = true)
    (hRest : ∀ c ∈ rest.head?, p c = false) : (ds ++ rest).dropWhile p = rest := by
  rw [List.dropWhile_append_of_pos hDs]
  cases rest with
  | nil => rfl
  | cons c rest => rw [List.dropWhile_cons_of_neg (by rw [hRest c rfl]; exact Bool.false_ne_true)]

/-- Digits are passed up to what is none. -/
theorem dropWhile_isDigit (hDs : ∀ c ∈ ds, IsDigit c) (hRest : ∀ c ∈ rest.head?, isDigit c = false) :
    (ds ++ rest).dropWhile isDigit = rest :=
  dropWhile_append_of_head hDs hRest

/-- The same with underscores between them. -/
theorem dropWhile_isSpacedDigit (hDs : ∀ c ∈ ds, IsDigit c) (hRest : EndsDigits rest) :
    (ds ++ rest).dropWhile isSpacedDigit = rest :=
  dropWhile_append_of_head (fun c hc => isSpacedDigit_of_isDigit (hDs c hc))
    (head_of_endsDigits hRest (by decide))

/-- Digits are taken off a text up to what ends them. -/
theorem digits_append (hThere : ds ≠ []) (hDs : ∀ c ∈ ds, IsDigit c) (hRest : EndsDigits rest) :
    digits (ds ++ rest) = some rest := by
  cases ds with
  | nil => exact absurd rfl hThere
  | cons d ds =>
    obtain ⟨hFirst, hMore⟩ := List.forall_mem_cons.mp hDs
    have hOne : one isDigit (d :: ds ++ rest) = some (ds ++ rest) := if_pos hFirst
    simp only [digits, inOrder, hOne, Option.bind_some, many, dropWhile_isSpacedDigit hMore hRest]

/-- A word is not in front of a text that begins with another character. -/
theorem word_of_head_ne {w : String} {c d : Char} {others rest : List Char}
    (hWord : w.toList = c :: others) (hNe : c ≠ d) : word w (d :: rest) = none := by
  rw [word, hWord, List.isPrefixOf_cons_cons, beq_eq_false_iff_ne.mpr hNe]
  rfl

/-- A form that takes nothing is not there. -/
theorem isOf_none {form : Form} {text : List Char} (h : form text = none) :
    isOf form text = false := by
  rw [isOf, h]

/-- A form that takes all up to the end of digits is there if nothing comes behind. -/
theorem isOf_endsDigits {form : Form} {text : List Char} (h : form text = some rest)
    (hRest : EndsDigits rest) : isOf form text = rest.isEmpty := by
  rw [isOf, h]
  cases rest with
  | nil => rfl
  | cons c rest =>
    -- a form may leave a line end, and what ends the digits is none
    have hNewline : c ≠ '\n' := by
      rintro rfl
      have := hRest '\n' rfl
      revert this
      decide
    split
    · next hEnd => cases hEnd
    · next hEnd => exact absurd (List.cons.inj (Option.some.inj hEnd)).1 hNewline
    · rfl

/-- One character of a class is taken off a text. -/
theorem one_eq_some {p : Char → Bool} {text : List Char} (h : one p text = some rest) :
    ∃ c, p c = true ∧ text = c :: rest := by
  cases text with
  | nil => cases h
  | cons c text =>
    rw [one] at h
    split at h
    · next hc => exact ⟨c, hc, congrArg (c :: ·) (Option.some.inj h)⟩
    · cases h

/-- Two digits are taken off a text. -/
theorem twoDigits_eq_some {text : List Char} (h : twoDigits text = some rest) :
    ∃ a b, IsDigit a ∧ IsDigit b ∧ text = a :: b :: rest := by
  obtain ⟨behind, hFirst, hBehind⟩ := Option.bind_eq_some_iff.mp h
  obtain ⟨last, hSecond, hLast⟩ := Option.bind_eq_some_iff.mp hBehind
  obtain ⟨a, ha, rfl⟩ := one_eq_some hFirst
  obtain ⟨b, hb, rfl⟩ := one_eq_some hSecond
  obtain rfl := Option.some.inj hLast
  exact ⟨a, b, ha, hb, rfl⟩

/-- A year is some digits. -/
theorem year_eq_some {text : List Char} (h : year text = some rest) :
    ∃ ds : List Char, ds ≠ [] ∧ (∀ c ∈ ds, IsDigit c) ∧ text = ds ++ rest := by
  obtain ⟨behind, hFirst, hBehind⟩ := Option.bind_eq_some_iff.mp h
  obtain ⟨last, hSecond, hLast⟩ := Option.bind_eq_some_iff.mp hBehind
  obtain ⟨a, b, ha, hb, rfl⟩ := twoDigits_eq_some hFirst
  obtain ⟨c, d, hc, hd, rfl⟩ := twoDigits_eq_some hSecond
  obtain rfl := Option.some.inj hLast
  refine ⟨[a, b, c, d], List.cons_ne_nil _ _, ?_, rfl⟩
  simp [ha, hb, hc, hd]

/-! ## Texts of numbers -/

section Number

variable (n : NumberText)

/-- The sign of a number is taken off it. -/
theorem sign_text : sign n.text = some n.unsigned := by
  rw [NumberText.text]
  split
  · rfl
  · obtain ⟨d, rest, hDigit, hFirst⟩ := n.exists_first
    -- without a minus sign the number begins with a digit
    have hNoSign : d ≠ '+' ∧ d ≠ '-' := hDigit.of_all (P := fun d => d ≠ '+' ∧ d ≠ '-') (by decide)
    rw [hFirst]
    unfold sign
    split
    · next h => exact absurd (List.cons.inj h).1 hNoSign.1
    · next h => exact absurd (List.cons.inj h).1 hNoSign.2
    · rfl

/-- A number in JSON begins with a minus or a digit. -/
theorem exists_first_text : ∃ c rest, (c = '-' ∨ IsDigit c) ∧ n.text = c :: rest := by
  obtain ⟨d, rest, hDigit, hFirst⟩ := n.exists_first
  rw [NumberText.text, hFirst]
  split
  · exact ⟨'-', _, .inl rfl, rfl⟩
  · exact ⟨d, rest, .inr hDigit, rfl⟩

/-- The word begins with something that no number begins with. -/
def StartsNoNumber (w : String) : Bool :=
  w.toList.head?.any fun c => c != '-' && !isDigit c

/-- No number is one of the words for what is not finite. -/
theorem word_text {w : String} (h : StartsNoNumber w = true) : word w n.text = none := by
  obtain ⟨c, rest, hFirst, hText⟩ := exists_first_text n
  unfold StartsNoNumber at h
  -- the word and the number differ in their first character
  cases hWord : w.toList with
  | nil =>
    rw [hWord] at h
    cases h
  | cons d others =>
    rw [hWord] at h
    obtain ⟨hSign, hNoDigit⟩ : d ≠ '-' ∧ isDigit d = false := by simpa using h
    rw [hText]
    refine word_of_head_ne hWord ?_
    rintro rfl
    rcases hFirst with rfl | hDigit
    · exact hSign rfl
    · exact Bool.false_ne_true (hNoDigit.symm.trans hDigit)

/-- Nor is one without its sign. -/
theorem word_unsigned {w : String} (h : StartsNoNumber w = true) : word w n.unsigned = none := by
  -- without its sign the number is a number as well
  exact word_text { n with negative := false } h

/-- None of some words is there. -/
theorem words_text (words : List String) (h : ∀ w ∈ words, StartsNoNumber w = true) :
    ((words.map word).any fun form => isOf form n.text) = false := by
  rw [List.any_map, List.any_eq_false]
  intro w hw
  rw [Function.comp_apply, isOf_none (word_text n (h w hw))]
  exact Bool.false_ne_true

/-- A number does not begin with a date. -/
theorem date_text (forms : List Form) : inOrder (year :: word "-" :: forms) n.text = none := by
  refine Option.bind_eq_none_iff.mpr fun behind hYear => ?_
  obtain ⟨ds, hThere, hDigits, hText⟩ := year_eq_some hYear
  -- behind the first digits of a number comes no dash
  have hPositive : n.text = n.unsigned := by
    rw [NumberText.text, if_neg]
    intro hNegative
    rw [NumberText.text, if_pos hNegative] at hText
    obtain ⟨d, ds, rfl⟩ := List.exists_cons_of_ne_nil hThere
    exact absurd (List.cons.inj hText).1.symm
      ((hDigits d List.mem_cons_self).of_all (P := (· ≠ '-')) (by decide))
  have hDash : word "-" behind = none := by
    unfold word
    split
    · next hPrefix =>
      obtain ⟨more, rfl⟩ := List.isPrefixOf_iff_prefix.mp hPrefix
      have hTail := congrArg (List.dropWhile isDigit) (hPositive.symm.trans hText)
      rw [NumberText.unsigned,
        dropWhile_isDigit n.wholeSpelled.2 (head_of_endsDigits n.tail_endsDigits (by decide)),
        dropWhile_isDigit hDigits (by rintro _ ⟨⟩; decide)] at hTail
      exact absurd (n.tail_endsDigits '-' (by rw [hTail]; rfl)) (by decide)
    · rfl
  rw [inOrder, hDash]
  rfl

/-! ### Numbers with a point -/

/-- Digits up to the end leave nothing. -/
theorem some1_isDigit (hThere : ds ≠ []) (hDs : ∀ c ∈ ds, IsDigit c) : some1 isDigit ds = some [] := by
  obtain ⟨d, more, rfl⟩ := List.exists_cons_of_ne_nil hThere
  obtain ⟨hFirst, hMore⟩ := List.forall_mem_cons.mp hDs
  have hNone : (more ++ []).dropWhile isDigit = [] := dropWhile_isDigit hMore nofun
  rw [List.append_nil] at hNone
  exact (if_pos hFirst).trans (congrArg some hNone)

/-- An exponent is one of a document if it has a sign. -/
theorem exponent_text (e : ExponentText) :
    exponent e.text = if e.sign.isEmpty then none else some [] := by
  -- the form takes the mark, then a sign, which it insists on, and then the digits
  have hMark : one (fun c => c == 'e' || c == 'E') e.text = some (e.sign ++ e.digits) := by
    rcases e.marked with h | h <;> rw [ExponentText.text, h] <;> rfl
  obtain ⟨hThere, hDigits⟩ := e.spelled
  have hSign : one (fun c => c == '+' || c == '-') (e.sign ++ e.digits) =
      if e.sign.isEmpty then none else some e.digits := by
    rcases e.signed with hSign | hSign | hSign
    · -- a digit is no sign
      obtain ⟨d, more, hFirst⟩ := List.exists_cons_of_ne_nil hThere
      have hDigit : IsDigit d := hDigits d (hFirst ▸ List.mem_cons_self)
      rw [hSign, hFirst]
      exact if_neg (hDigit.of_all (P := fun c => ¬(c == '+' || c == '-') = true) (by decide))
    all_goals
      rw [hSign]
      rfl
  rw [exponent, inOrder, hMark, Option.bind_some, inOrder, hSign]
  split
  · rfl
  · rw [Option.bind_some, inOrder, some1_isDigit hThere hDigits]
    rfl

/-- A number with a point is one of a document if its exponent has a sign. -/
theorem isOf_pointed :
    isOf (inOrder [sign, digits, word ".", many isSpacedDigit, optional exponent]) n.text =
      n.isPointed := by
  have hPoint : inOrder [sign, digits, word ".", many isSpacedDigit, optional exponent] n.text =
      inOrder [word ".", many isSpacedDigit, optional exponent] n.tail := by
    rw [inOrder, sign_text, Option.bind_some, inOrder, NumberText.unsigned,
      digits_append n.wholeSpelled.1 n.wholeSpelled.2 n.tail_endsDigits, Option.bind_some]
  rw [isOf, hPoint, NumberText.tail, NumberText.isPointed]
  cases hFraction : n.fraction.isEmpty with
  | true =>
    -- without a fraction there is no point
    have hNone : word "." ((n.exponent.map ExponentText.text).getD []) = none := by
      cases n.exponent with
      | none => rfl
      | some e =>
        refine word_of_head_ne (c := '.') rfl ?_
        rcases e.marked with h | h <;> rw [h] <;> decide
    rw [if_pos rfl, List.nil_append, inOrder, hNone]
    rfl
  | false =>
    have hMany := dropWhile_isSpacedDigit n.fractionSpelled n.exponent_endsDigits
    have hWord (text : List Char) : word "." ('.' :: text) = some text := rfl
    rw [if_neg Bool.false_ne_true, List.cons_append, inOrder, hWord, Option.bind_some, inOrder,
      many, hMany, Option.bind_some, inOrder, optional]
    cases n.exponent with
    | none => rfl
    | some e =>
      rw [Option.map_some, Option.getD_some, exponent_text, Option.all_some]
      cases e.sign.isEmpty with
      | true =>
        -- the exponent is left
        rw [if_pos rfl, Option.orElse_none, ExponentText.text]
        rcases e.marked with h | h <;> rw [h] <;> rfl
      | false => rfl

/-- Behind the first digits of a number in JSON no colon follows. -/
theorem sixtieths_tail : sixtieths n.tail = none := by
  refine Option.bind_eq_none_iff.mpr fun rest h => ?_
  have hEnds := n.tail_endsDigits
  unfold sixtieth at h
  split at h
  · next hTail => exact absurd (hEnds ':' (by rw [hTail]; rfl)) (by decide)
  · next hTail => exact absurd (hEnds ':' (by rw [hTail]; rfl)) (by decide)
  · cases h

/-- Numbers are of no other form with a point. -/
theorem floatForms_text : (floatForms.any fun form => isOf form n.text) = n.isPointed := by
  have hDigits := digits_append n.wholeSpelled.1 n.wholeSpelled.2 n.tail_endsDigits
  -- of the forms of a float only the one with a point can fit
  have hSixtieths (forms : List Form) : inOrder (sign :: digits :: sixtieths :: forms) n.text = none := by
    rw [inOrder, sign_text, Option.bind_some, inOrder, NumberText.unsigned, hDigits,
      Option.bind_some, inOrder, sixtieths_tail, Option.bind_none]
  have hSigned {w : String} (h : StartsNoNumber w = true) : inOrder [sign, word w] n.text = none := by
    rw [inOrder, sign_text, Option.bind_some, inOrder, word_unsigned n h, Option.bind_none]
  have hWord {w : String} (h : StartsNoNumber w = true) (forms : List Form) :
      inOrder (word w :: forms) n.text = none := by
    rw [inOrder, word_text n h, Option.bind_none]
  simp only [floatForms, List.any_cons, List.any_nil, isOf_pointed, isOf_none (hSixtieths _),
    isOf_none (hSigned (w := ".inf") rfl), isOf_none (hSigned (w := ".Inf") rfl),
    isOf_none (hSigned (w := ".INF") rfl), isOf_none (word_text n (w := ".nan") rfl),
    isOf_none (word_text n (w := ".NaN") rfl), isOf_none (word_text n (w := ".NAN") rfl),
    isOf_none (hWord (w := ".") rfl _), Bool.or_false]

/-! ### Integers -/

/-- A number is zero in front of its tail, or begins with another digit. -/
theorem unsigned_cases : n.unsigned = '0' :: n.tail ∨
    ∃ d ds, isLeadingDigit d = true ∧ (∀ c ∈ ds, IsDigit c) ∧ n.unsigned = d :: (ds ++ n.tail) := by
  obtain ⟨hThere, hDigits⟩ := n.wholeSpelled
  obtain ⟨d, ds, hWhole⟩ := List.exists_cons_of_ne_nil hThere
  -- a zero in front is the only digit
  by_cases hZero : d = '0'
  · left
    rw [NumberText.unsigned, n.noLeadingZero (by rw [hWhole, hZero]; rfl)]
    rfl
  · right
    rw [hWhole] at hDigits
    obtain ⟨hFirst, hMore⟩ := List.forall_mem_cons.mp hDigits
    refine ⟨d, ds, ?_, hMore, by rw [NumberText.unsigned, hWhole, List.cons_append]⟩
    rw [isLeadingDigit, Bool.and_eq_true, bne_iff_ne]
    exact ⟨hFirst, hZero⟩

/-- A leading zero marks no base. -/
theorem word_zero_tail {w : String} {c : Char} (hWord : w.toList = ['0', c])
    (hMark : c ≠ '.' ∧ c ≠ 'e' ∧ c ≠ 'E') : word w ('0' :: n.tail) = none := by
  have hEnds := n.tail_endsDigits
  unfold word
  rw [hWord, if_neg]
  -- behind the zero there is a point, an exponent or nothing
  generalize n.tail = tail at hEnds
  cases tail with
  | nil => exact Bool.false_ne_true
  | cons d rest =>
    have hNe : c ≠ d := by
      rintro rfl
      rcases hEnds c rfl with h | h | h
      · exact hMark.1 h
      · exact hMark.2.1 h
      · exact hMark.2.2 h
    simp [List.isPrefixOf_cons_cons, hNe]

theorem some1_tail {p : Char → Bool} (hp : p '.' = false ∧ p 'e' = false ∧ p 'E' = false) :
    some1 p n.tail = none := by
  have hNone := head_of_endsDigits n.tail_endsDigits hp
  generalize n.tail = tail at hNone
  cases tail with
  | nil => rfl
  | cons c rest => exact if_neg (by rw [hNone c rfl]; exact Bool.false_ne_true)

/-- **The integers of JSON are integers.** A number that goes on behind its digits is of no form of
integers. -/
theorem intForms_text : (intForms.any fun form => isOf form n.text) = n.tail.isEmpty := by
  have hSigned (forms : List Form) : inOrder (sign :: forms) n.text = inOrder forms n.unsigned := by
    rw [inOrder, sign_text, Option.bind_some]
  rcases unsigned_cases n with hZero | ⟨d, ds, hLeading, hDigits, hWhole⟩
  · -- a zero by itself: the forms with a base find no digit behind it
    have hBinary (forms : List Form) : inOrder (sign :: word "0b" :: forms) n.text = none := by
      rw [hSigned, hZero, inOrder, word_zero_tail n rfl (by decide), Option.bind_none]
    have hHex (forms : List Form) : inOrder (sign :: word "0x" :: forms) n.text = none := by
      rw [hSigned, hZero, inOrder, word_zero_tail n rfl (by decide), Option.bind_none]
    have hBehind : word "0" ('0' :: n.tail) = some n.tail := rfl
    have hOctal : inOrder [sign, word "0", some1 fun c => ('0' ≤ c && c ≤ '7') || c == '_'] n.text =
        none := by
      rw [hSigned, hZero, inOrder, hBehind, Option.bind_some, inOrder, some1_tail n (by decide),
        Option.bind_none]
    have hPlain : inOrder [sign, word "0"] n.text = some n.tail := by
      rw [hSigned, hZero, inOrder, hBehind, Option.bind_some, inOrder]
    have hOther (forms : List Form) : inOrder (sign :: one isLeadingDigit :: forms) n.text = none := by
      rw [hSigned, hZero, inOrder]
      rfl
    simp only [intForms, List.any_cons, List.any_nil, isOf_none (hBinary _), isOf_none hOctal,
      isOf_endsDigits hPlain n.tail_endsDigits, isOf_none (hOther _), isOf_none (hHex _),
      Bool.false_or, Bool.or_false]
  · -- a leading digit: the forms with a base begin with a zero
    have hNoZero {w : String} {others : List Char} (hWord : w.toList = '0' :: others)
        (forms : List Form) : inOrder (sign :: word w :: forms) n.text = none := by
      have hNe : '0' ≠ d := by
        rintro rfl
        cases hLeading
      rw [hSigned, hWhole, inOrder, word_of_head_ne hWord hNe, Option.bind_none]
    have hMany (forms : List Form) :
        inOrder (sign :: one isLeadingDigit :: many isSpacedDigit :: forms) n.text =
          inOrder forms n.tail := by
      have hOne : one isLeadingDigit (d :: (ds ++ n.tail)) = some (ds ++ n.tail) := if_pos hLeading
      rw [hSigned, hWhole, inOrder, hOne, Option.bind_some, inOrder, many,
        dropWhile_isSpacedDigit hDigits n.tail_endsDigits, Option.bind_some]
    have hPlain : inOrder [sign, one isLeadingDigit, many isSpacedDigit] n.text = some n.tail :=
      hMany []
    have hSixtieths :
        inOrder [sign, one isLeadingDigit, many isSpacedDigit, sixtieths] n.text = none := by
      rw [hMany, inOrder, sixtieths_tail, Option.bind_none]
    simp only [intForms, List.any_cons, List.any_nil, isOf_none (hNoZero (w := "0b") rfl _),
      isOf_none (hNoZero (w := "0") rfl _), isOf_endsDigits hPlain n.tail_endsDigits,
      isOf_none (hNoZero (w := "0x") rfl _), isOf_none hSixtieths, Bool.false_or, Bool.or_false]

/-! ### Tags -/

/-- Only an integer ends behind its first digits. -/
theorem tail_isEmpty : n.tail.isEmpty = n.isInteger := by
  unfold NumberText.tail NumberText.isInteger
  cases n.fraction with
  | nil => cases n.exponent <;> rfl
  | cons c fraction => rfl

/-- **The tag of a number.** With a fraction, and a sign in the exponent, it is one with a point;
without either an integer, and else a text. -/
theorem ofString_text : ofString (String.ofList n.text) =
    if n.isPointed then .float else if n.isInteger then .int else .string := by
  have hThere : n.text.isEmpty = false := by
    obtain ⟨c, rest, -, hText⟩ := exists_first_text n
    rw [hText]
    rfl
  have hBool : (boolForms.any fun form => isOf form n.text) = false :=
    words_text n ["yes", "Yes", "YES", "no", "No", "NO", "true", "True", "TRUE", "false",
      "False", "FALSE", "on", "On", "ON", "off", "Off", "OFF"] (by decide)
  have hNull : (nullForms.any fun form => isOf form n.text) = false :=
    words_text n ["~", "null", "Null", "NULL"] (by decide)
  have hStamp : (timestampForms.any fun form => isOf form n.text) = false := by
    simp only [timestampForms, List.any_cons, List.any_nil, isOf_none (date_text n _),
      Bool.or_false]
  -- the other tags have a first character that no number has
  have hMark {w : String} (h : StartsNoNumber w = true) : isOf (word w) n.text = false :=
    isOf_none (word_text n h)
  simp only [ofString, String.toList_ofList, hThere, Bool.false_eq_true, if_false, forms, List.find?,
    hBool, floatForms_text, intForms_text, hNull, hStamp, List.any_cons, List.any_nil,
    hMark (w := "<<") rfl, hMark (w := "=") rfl, hMark (w := "!") rfl, hMark (w := "&") rfl,
    hMark (w := "*") rfl, Bool.or_false, tail_isEmpty]
  cases n.isPointed <;> cases n.isInteger <;> rfl

end Number

end Yaml.Tag

end BeaconCheck
