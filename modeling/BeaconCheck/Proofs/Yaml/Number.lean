import BeaconCheck.Proofs.Yaml.NumberTag
import BeaconCheck.Yaml.Build

/-!
# The values of numbers in documents

A number that is written as in documents has the value there that it has in JSON. A number with a
point is read with its letters made small, which changes the mark of its exponent and nothing else.

* `Yaml.Literal.integer_text`        — the value of an integer.
* `Yaml.Literal.float_text`          — the value of a number with a point.
* `Json.NumberText.scalarValue_text` — the value of a scalar that is written like a number.
-/

namespace BeaconCheck

open Yaml

/-! ## Characters of numbers -/

namespace Json

/-- The characters that numbers are written with. -/
def numberChars : List Char := "0123456789+-.eE".toList

theorem IsDigit.mem_numberChars {c : Char} (h : IsDigit c) : c ∈ numberChars :=
  h.of_all (P := (· ∈ numberChars)) (by decide)

/-- An exponent is written with them, too. -/
theorem ExponentText.mem_numberChars (e : ExponentText) : ∀ c ∈ e.text, c ∈ numberChars := by
  have hSign : ∀ c ∈ e.sign, c ∈ numberChars := by
    rcases e.signed with h | h | h <;> rw [h] <;> exact List.all_iff_forall_prop.mp (by decide)
  intro c hc
  rcases List.mem_cons.mp hc with rfl | hc
  · rcases e.marked with h | h <;> rw [h] <;> decide
  · rcases List.mem_append.mp hc with hc | hc
    · exact hSign c hc
    · exact (e.spelled.2 c hc).mem_numberChars

/-- A digit is no sign. -/
theorem sign_of_isDigit {d : Char} (h : IsDigit d) (rest : List Char) :
    Numeral.sign (d :: rest) = (false, d :: rest) := by
  have hNoSign : d ≠ '+' ∧ d ≠ '-' := h.of_all (P := fun d => d ≠ '+' ∧ d ≠ '-') (by decide)
  unfold Numeral.sign
  split
  · next h => exact absurd (List.cons.inj h).1 hNoSign.2
  · next h => exact absurd (List.cons.inj h).1 hNoSign.1
  · rfl

/-- Around the characters of a number there are no blanks. -/
theorem trimBlank_of_numberChars {text : List Char}
    (h : ∀ c ∈ text, c ∈ numberChars) : trimBlank text = text := by
  have hAll : ∀ c ∈ numberChars, CharSet.blank.contains c = false :=
    List.all_iff_forall_prop.mp (by decide)
  -- none of the characters of a number is blank
  have hDrop {text : List Char} (h : ∀ c ∈ text, c ∈ numberChars) :
      text.dropWhile CharSet.blank.contains = text := by
    cases text with
    | nil => rfl
    | cons c rest =>
      refine List.dropWhile_cons_of_neg ?_
      rw [hAll c (h c List.mem_cons_self)]
      exact Bool.false_ne_true
  rw [trimBlank, hDrop h, hDrop fun c hc => h c (List.mem_reverse.mp hc), List.reverse_reverse]

namespace NumberText

variable (n : NumberText)

/-- A fraction with an exponent behind it is written with them, too. -/
theorem tail_mem_numberChars : ∀ c ∈ n.tail, c ∈ numberChars := by
  intro c hc
  rcases List.mem_append.mp hc with hc | hc
  · split at hc
    · cases hc
    · rcases List.mem_cons.mp hc with rfl | hc
      · decide
      · exact (n.fractionSpelled c hc).mem_numberChars
  · cases hExponent : n.exponent with
    | none => rw [hExponent] at hc; cases hc
    | some e => rw [hExponent] at hc; exact e.mem_numberChars c hc

theorem unsigned_mem_numberChars : ∀ c ∈ n.unsigned, c ∈ numberChars := by
  intro c hc
  rcases List.mem_append.mp hc with hc | hc
  · exact (n.wholeSpelled.2 c hc).mem_numberChars
  · exact n.tail_mem_numberChars c hc

/-- A number in JSON is written in digits, signs, points and marks of exponents. -/
theorem text_mem_numberChars : ∀ c ∈ n.text, c ∈ numberChars := by
  intro c hc
  rw [text] at hc
  split at hc
  · rcases List.mem_cons.mp hc with rfl | hc
    · decide
    · exact n.unsigned_mem_numberChars c hc
  · exact n.unsigned_mem_numberChars c hc

/-- Behind the sign of a number there is none. -/
theorem sign_unsigned : Numeral.sign n.unsigned = (false, n.unsigned) := by
  obtain ⟨d, rest, hDigit, hFirst⟩ := n.exists_first
  rw [hFirst, sign_of_isDigit hDigit]

end NumberText

/-! ### Runs of digits -/

theorem digitValue?_of_isDigit {c : Char} (h : IsDigit c) : digitValue? c = asciiDigit? 10 c :=
  h.of_all (P := fun c => digitValue? c = asciiDigit? 10 c) (by decide)

/-- A decimal digit counts the same among the digits of a base. -/
theorem baseDigit?_of_isDigit {c : Char} (h : IsDigit c) :
    Numeral.baseDigit? 10 c = asciiDigit? 10 c :=
  h.of_all (P := fun c => Numeral.baseDigit? 10 c = asciiDigit? 10 c) (by decide)

/-- Digits without underscores, however they may be grouped. -/
theorem digitRun_of_isDigit {digit? : Char → Option Nat}
    (hDigit? : ∀ {c}, IsDigit c → digit? c = asciiDigit? 10 c) (grouped : Bool)
    {ds rest : List Char} (hDs : ∀ c ∈ ds, IsDigit c)
    (hRest : ∀ c ∈ rest.head?, digit? c = none ∧ c ≠ '_') (after : Bool) :
    Numeral.digitRun digit? grouped after (ds ++ rest) = (valuesOf ds, rest) := by
  -- by induction on the digits, with nothing behind them that could belong to the run
  induction ds generalizing after with
  | nil =>
    cases rest with
    | nil => rfl
    | cons c rest =>
      obtain ⟨hNone, hNoGroup⟩ := hRest c rfl
      simp [Numeral.digitRun, hNone, hNoGroup, valuesOf]
  | cons c ds ih =>
    obtain ⟨hFirst, hMore⟩ := List.forall_mem_cons.mp hDs
    obtain ⟨d, hd⟩ := Option.isSome_iff_exists.mp hFirst
    rw [List.cons_append, valuesOf, List.filterMap_cons_some hd, Numeral.digitRun]
    simp only [hDigit? hFirst, hd, ih hMore true]
    rfl

end Json

namespace Yaml.Literal

open Json

variable (n : NumberText)

/-- Nothing is left out of a number. -/
theorem unspaced_text : unspaced (.whole (String.ofList n.text)) = n.text.map .char := by
  have hAll : ∀ c ∈ numberChars, (Letter.char c != Letter.char '_') = true :=
    List.all_iff_forall_prop.mp (by decide)
  rw [unspaced, Text.letters_whole, String.toList_ofList]
  refine List.filter_eq_self.mpr fun l hl => ?_
  obtain ⟨c, hc, rfl⟩ := List.mem_map.mp hl
  exact hAll c (n.text_mem_numberChars c hc)

/-- The sign of a number in JSON is its sign in a document. -/
theorem signed_text : signed (n.text.map .char) = .ok (n.negative, n.unsigned.map .char) := by
  rw [NumberText.text]
  cases n.negative with
  | true => rfl
  | false =>
    -- the first character is a digit, and so no sign
    obtain ⟨d, rest, hDigit, hFirst⟩ := n.exists_first
    have hNoSign : d ≠ '-' ∧ d ≠ '+' := hDigit.of_all (P := fun d => d ≠ '-' ∧ d ≠ '+') (by decide)
    rw [if_neg Bool.false_ne_true, hFirst, List.map_cons]
    unfold signed
    split
    · next h => cases h
    · next h => exact absurd (Letter.char.inj (List.cons.inj h).1) hNoSign.1
    · next h => exact absurd (Letter.char.inj (List.cons.inj h).1) hNoSign.2
    · rfl

/-- Digits that do not begin with a zero spell an integer, if they are not too many. -/
theorem integerIn_digits {ds : List Char} (hThere : ds ≠ []) (hDs : ∀ c ∈ ds, IsDigit c)
    (hShort : ds.length ≤ 4300) :
    integerIn 10 (ds.map .char) = .ok (Numeral.ofDigits 10 (valuesOf ds) : Int) := by
  -- there is nothing to trim, no sign and no mark of a base
  have hTrim : trimBlank ds = ds :=
    trimBlank_of_numberChars fun c hc => (hDs c hc).mem_numberChars
  have hSign : Numeral.sign ds = (false, ds) := by
    obtain ⟨d, more, rfl⟩ := List.exists_cons_of_ne_nil hThere
    exact sign_of_isDigit (hDs d List.mem_cons_self) more
  have hBase : Numeral.integerDigits 10 ds = ds := by
    unfold Numeral.integerDigits
    split
    · exact if_neg fun h => Option.some_ne_none _ h.symm
    · rfl
  have hEnd : ∀ c ∈ ([] : List Char).head?, Numeral.baseDigit? 10 c = none ∧ c ≠ '_' := nofun
  have hRun := digitRun_of_isDigit baseDigit?_of_isDigit true hDs hEnd false
  have hLength := length_valuesOf hDs
  rw [List.append_nil] at hRun
  rw [integerIn, Letter.map_glyph_char, Numeral.integer, hTrim, hSign]
  simp only [hBase, hRun]
  cases hValues : valuesOf ds with
  | nil =>
    rw [hValues] at hLength
    exact absurd (List.length_eq_zero_iff.mp hLength.symm) hThere
  | cons d more =>
    rw [hValues] at hLength
    have hFew : ¬4300 < (d :: more).length := by omega
    simp only [hFew, and_false, if_false, Bool.false_eq_true]

/-- The size of an integer. -/
theorem magnitude_whole (hShort : n.whole.length ≤ 4300) :
    magnitude (n.whole.map .char) = .ok (Numeral.ofDigits 10 (valuesOf n.whole) : Int) := by
  obtain ⟨hThere, hDigits⟩ := n.wholeSpelled
  have hColon : (n.whole.map Letter.char).contains (.char ':') = false := by
    rw [List.contains_eq_any_beq, List.any_eq_false]
    intro l hl
    obtain ⟨c, hc, rfl⟩ := List.mem_map.mp hl
    exact (hDigits c hc).of_all (P := fun c => ¬(Letter.char ':' == .char c) = true) (by decide)
  -- a number that begins with a zero is zero, and all others have no mark in front
  by_cases hZero : n.whole.head? = some '0'
  · rw [n.noLeadingZero hZero]
    rfl
  · have hNoZero {ls : List Letter} (h : n.whole.map .char = .char '0' :: ls) : False := by
      obtain ⟨rest, hWhole, -⟩ := map_char_eq_char_cons_iff.mp h
      exact hZero (by rw [hWhole]; rfl)
    unfold magnitude
    split
    · next h => exact absurd (List.map_eq_nil_iff.mp h) hThere
    · next h => exact (hNoZero h).elim
    · next h => exact (hNoZero h).elim
    · next h => exact (hNoZero h).elim
    · next h => exact (hNoZero h).elim
    · rw [hColon, if_neg Bool.false_ne_true]
      exact integerIn_digits hThere hDigits hShort

/-- **Integers** have the same value in both. -/
theorem integer_text (h : n.isInteger = true) :
    (integer (.whole (String.ofList n.text))).map Value.int = .ok n.value := by
  obtain ⟨hFraction, hExponent⟩ := Bool.and_eq_true_iff.mp h
  have hTail : n.tail = [] := List.isEmpty_iff.mp ((Tag.tail_isEmpty n).trans h)
  have hWhole : n.unsigned = n.whole := by rw [NumberText.unsigned, hTail, List.append_nil]
  have hShort := n.short (List.isEmpty_iff.mp hFraction) (Option.isNone_iff_eq_none.mp hExponent)
  rw [integer, unspaced_text, signed_text, hWhole]
  simp only [bind, Except.bind, magnitude_whole n hShort]
  rw [NumberText.value, if_pos h]
  rfl

/-! ### Numbers with a point -/

/-- The other sign is the sign of the other number. -/
theorem ofDecimal_neg (m : Nat) (e : Int) :
    (Binary64.ofDecimal false m e).neg = Binary64.ofDecimal true m e := by
  -- the sign has no part in the rounding
  have hRatio (num den : Nat) : (Binary64.ofRatio false num den).neg =
      Binary64.ofRatio true num den := by
    unfold Binary64.ofRatio
    split
    · rfl
    · simp only []
      split <;> split <;> rfl
  unfold Binary64.ofDecimal
  simp only [apply_ite Binary64.neg, hRatio]
  rfl

/-- The mark of an exponent in lower case. -/
def lowerMark (c : Char) : Char := if c = 'E' then 'e' else c

theorem lowerMark_of_marked {c : Char} (h : c = 'e' ∨ c = 'E') : lowerMark c = 'e' := by
  rcases h with rfl | rfl <;> rfl

/-- The exponent with its mark in lower case. -/
def lowerExponent (e : ExponentText) : ExponentText :=
  { e with mark := lowerMark e.mark, marked := .inl (lowerMark_of_marked e.marked) }

/-- The number with the mark of its exponent in lower case. -/
def lowerNumber : NumberText :=
  { n with
    exponent := n.exponent.map lowerExponent
    short := fun hFraction hExponent => n.short hFraction (Option.map_eq_none_iff.mp hExponent) }

/-- Digits have no mark to be lowered. -/
theorem map_lowerMark {ds : List Char} (hDs : ∀ c ∈ ds, IsDigit c) : ds.map lowerMark = ds := by
  refine (List.map_congr_left fun c hc => ?_).trans (List.map_id ds)
  exact (hDs c hc).of_all (P := fun c => lowerMark c = id c) (by decide)

/-- Only the mark of an exponent is lowered. -/
theorem map_lowerMark_exponent (e : ExponentText) :
    e.text.map lowerMark = (lowerExponent e).text := by
  have hSign : e.sign.map lowerMark = e.sign := by
    rcases e.signed with h | h | h <;> rw [h] <;> rfl
  simp only [ExponentText.text, lowerExponent, List.map_append, List.map_cons, hSign,
    map_lowerMark e.spelled.2]

/-- Lowering the letters of a number changes the mark of its exponent only. -/
theorem map_lowerMark_text : n.text.map lowerMark = (lowerNumber n).text := by
  -- only the mark of the exponent can be a capital
  have hExponent : ((n.exponent.map ExponentText.text).getD []).map lowerMark =
      ((n.exponent.map lowerExponent).map ExponentText.text).getD [] := by
    cases n.exponent with
    | none => rfl
    | some e => exact map_lowerMark_exponent e
  have hTail : n.tail.map lowerMark = (lowerNumber n).tail := by
    have hPoint : lowerMark '.' = '.' := rfl
    unfold NumberText.tail
    rw [List.map_append, apply_ite (List.map lowerMark), List.map_cons, hPoint,
      map_lowerMark n.fractionSpelled, hExponent]
    rfl
  have hUnsigned : n.unsigned.map lowerMark = (lowerNumber n).unsigned := by
    rw [NumberText.unsigned, List.map_append, hTail, map_lowerMark n.wholeSpelled.2]
    rfl
  rw [NumberText.text, apply_ite (List.map lowerMark), List.map_cons, hUnsigned]
  rfl

/-- The value of a number does not depend on how its exponent is marked. -/
theorem value_lowerNumber : (lowerNumber n).value = n.value := by
  have hInteger : (lowerNumber n).isInteger = n.isInteger :=
    congrArg (n.fraction.isEmpty && ·) Option.isNone_map
  have hExponent : ((n.exponent.map lowerExponent).map ExponentText.value).getD 0 =
      (n.exponent.map ExponentText.value).getD 0 := by
    cases n.exponent <;> rfl
  unfold NumberText.value
  rw [hInteger, lowerNumber]
  simp only [hExponent]

/-- Numbers in lower case. -/
theorem lowered_text : lowered (n.text.map .char) = (lowerNumber n).text.map .char := by
  -- on the characters of a number both ways to make a letter small agree
  have hAll : ∀ c ∈ numberChars, c ≠ '\u0130' ∧ lowerCase c = lowerMark c :=
    List.all_iff_forall_prop.mp (by decide +kernel)
  have hText := n.text_mem_numberChars
  rw [← map_lowerMark_text]
  generalize n.text = text at hText
  induction text with
  | nil => rfl
  | cons c rest ih =>
    obtain ⟨hFirst, hMore⟩ := List.forall_mem_cons.mp hText
    obtain ⟨hNoDot, hLower⟩ := hAll c hFirst
    rw [List.map_cons, List.map_cons, List.map_cons, ← ih hMore, lowered, List.flatMap_cons,
      Letter.flatMap_char, lowerChars, if_neg hNoDot, hLower]
    rfl

/-- The exponent of a number, and zero where there is none. -/
theorem exponent?_text (e : Option ExponentText) :
    Numeral.exponent? true ((e.map ExponentText.text).getD []) =
      some ((e.map ExponentText.value).getD 0) := by
  cases e with
  | none => rfl
  | some e =>
    obtain ⟨hThere, hDigits⟩ := e.spelled
    have hSign : Numeral.sign (e.sign ++ e.digits) = (decide (e.sign = ['-']), e.digits) := by
      rcases e.signed with h | h | h
      · obtain ⟨d, more, hFirst⟩ := List.exists_cons_of_ne_nil hThere
        have hDigit : IsDigit d := hDigits d (hFirst ▸ List.mem_cons_self)
        rw [h, hFirst]
        exact sign_of_isDigit hDigit more
      all_goals
        rw [h]
        rfl
    -- the digits go on to the end
    have hEnd : ∀ c ∈ ([] : List Char).head?, digitValue? c = none ∧ c ≠ '_' := nofun
    have hRun := digitRun_of_isDigit digitValue?_of_isDigit true hDigits hEnd false
    rw [List.append_nil] at hRun
    have hLength := length_valuesOf hDigits
    rw [Option.map_some, Option.getD_some, ExponentText.text, List.cons_append, Numeral.exponent?,
      if_pos e.marked]
    simp only [hSign, hRun]
    cases hValues : valuesOf e.digits with
    | nil =>
      rw [hValues] at hLength
      exact absurd (List.length_eq_zero_iff.mp hLength.symm) hThere
    | cons d more =>
      simp only [Option.map_some, Option.getD_some, ExponentText.value, hValues, decide_eq_true_eq]

/-- A number with a point behind its sign. -/
theorem decimal?_unsigned (h : n.fraction.isEmpty = false) :
    Numeral.decimal? true false n.unsigned =
      some (.ofDecimal false (Numeral.ofDigits 10 (valuesOf (n.whole ++ n.fraction)))
        ((n.exponent.map ExponentText.value).getD 0 - n.fraction.length)) := by
  -- neither run of digits goes on behind its end
  have hEnd {rest : List Char} (hRest : EndsDigits rest) :
      ∀ c ∈ rest.head?, digitValue? c = none ∧ c ≠ '_' := by
    intro c hc
    rcases hRest c hc with rfl | rfl | rfl <;> decide
  have hWhole := digitRun_of_isDigit digitValue?_of_isDigit true n.wholeSpelled.2
    (hEnd n.tail_endsDigits) false
  have hFraction := digitRun_of_isDigit digitValue?_of_isDigit true n.fractionSpelled
    (hEnd n.exponent_endsDigits) false
  have hTail : n.tail = '.' :: (n.fraction ++ (n.exponent.map ExponentText.text).getD []) := by
    rw [NumberText.tail, h]
    rfl
  have hThere : (valuesOf n.fraction).isEmpty = false :=
    (Numeral.filterMap_isEmpty n.fractionSpelled).trans h
  -- the two runs together are the digits of the number
  have hValues : valuesOf n.whole ++ valuesOf n.fraction = valuesOf (n.whole ++ n.fraction) :=
    List.filterMap_append.symm
  rw [Numeral.decimal?, NumberText.unsigned, hWhole]
  simp only [hTail, hFraction, hThere, Bool.and_false, Bool.false_eq_true, if_false,
    exponent?_text, hValues, length_valuesOf n.fractionSpelled, Option.map_some]

/-- What is behind the sign of a number with a point spells a number. -/
theorem floatIn_unsigned (h : n.fraction.isEmpty = false) :
    floatIn (n.unsigned.map .char) =
      .ok (.ofDecimal false (Numeral.ofDigits 10 (valuesOf (n.whole ++ n.fraction)))
        ((n.exponent.map ExponentText.value).getD 0 - n.fraction.length)) := by
  obtain ⟨d, rest, hDigit, hFirst⟩ := n.exists_first
  -- no name begins with a digit
  have hName {w : String} {c : Char} {others : List Char} (hWord : w.toList = c :: others)
      (hNoDigit : "0123456789".toList.all (fun d => decide (lowerAscii d ≠ c)) = true) :
      String.ofList (n.unsigned.map lowerAscii) ≠ w := by
    rintro rfl
    rw [String.toList_ofList, hFirst, List.map_cons] at hWord
    exact hDigit.of_all (P := fun d => lowerAscii d ≠ c) hNoDigit (List.cons.inj hWord).1
  have hInf := hName (w := "inf") rfl (by decide)
  have hInfinity := hName (w := "infinity") rfl (by decide)
  have hNan := hName (w := "nan") rfl (by decide)
  rw [floatIn, Letter.map_glyph_char, Numeral.float?,
    trimBlank_of_numberChars n.unsigned_mem_numberChars, n.sign_unsigned]
  simp only [hInf, hInfinity, hNan, or_self, if_false, decimal?_unsigned n h]

/-- **Numbers with a point** have the same value in both. -/
theorem float_text (h : n.isPointed = true) :
    (float (.whole (String.ofList n.text))).map Value.float = .ok n.value := by
  obtain ⟨hFraction, -⟩ := Bool.and_eq_true_iff.mp h
  -- the reader sees the number in lower case
  rw [← value_lowerNumber, float, unspaced_text, lowered_text]
  have hThere : (lowerNumber n).fraction.isEmpty = false := Bool.not_eq_true' _ ▸ hFraction
  generalize lowerNumber n = m at hThere
  obtain ⟨d, rest, hDigit, hFirst⟩ := m.exists_first
  have hNoPoint : d ≠ '.' := hDigit.of_all (P := (· ≠ '.')) (by decide)
  have hWord {w : String} {others : List Char} (hText : w.toList = '.' :: others) :
      m.unsigned.map Letter.char ≠ Text.letters w := by
    rw [Text.letters_whole, hText, hFirst]
    exact fun h => hNoPoint (Letter.char.inj (List.cons.inj h).1)
  have hInf := hWord (w := ".inf") rfl
  have hNan := hWord (w := ".nan") rfl
  have hColon : (m.unsigned.map Letter.char).contains (.char ':') = false := by
    have hAll : ∀ c ∈ numberChars, ¬(Letter.char ':' == .char c) = true :=
      List.all_iff_forall_prop.mp (by decide)
    rw [List.contains_eq_any_beq, List.any_eq_false]
    intro l hl
    obtain ⟨c, hc, rfl⟩ := List.mem_map.mp hl
    exact hAll c (m.unsigned_mem_numberChars c hc)
  have hNoInteger : m.isInteger = false := by rw [NumberText.isInteger, hThere, Bool.false_and]
  rw [signed_text]
  simp only [bind, Except.bind, hInf, hNan, if_false, hColon, Bool.false_eq_true,
    floatIn_unsigned m hThere]
  rw [NumberText.value, hNoInteger]
  cases m.negative with
  | false => rfl
  | true =>
    rw [ofDecimal_neg]
    rfl

end Yaml.Literal

/-- **The value of a number in a document**: the same, unless it is written as no document writes
numbers, which makes it a text. -/
theorem Json.NumberText.scalarValue_text (n : NumberText) :
    scalarValue (Tag.ofText (String.ofList n.text)) (String.ofList n.text) =
      .ok (if n.isCommon then n.value else .text (String.ofList n.text)) := by
  rw [Tag.ofText, Tag.ofString_text, NumberText.isCommon]
  -- the two common forms are read as a float and as an integer, and the others stay texts
  cases hPointed : n.isPointed with
  | true =>
    have hFloat := congrArg Built.ofLiteral (Literal.float_text n hPointed)
    rw [Bool.or_true]
    exact hFloat
  | false =>
    cases hInteger : n.isInteger with
    | true => exact congrArg Built.ofLiteral (Literal.integer_text n hInteger)
    | false => rfl

end BeaconCheck
