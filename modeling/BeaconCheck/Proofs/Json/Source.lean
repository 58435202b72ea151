import BeaconCheck.Proofs.Json.Plain
import BeaconCheck.Proofs.Number.Literal

/-!
# How JSON texts are written

A JSON text of characters is the writing of a tree: words, numbers and strings with their escapes
at the leaves, and blanks between the tokens. A tree keeps all that can be seen in the text, so
that what depends on the writing alone can be said of it, and it has the value that reading the
text gives. An escape can name a half of a surrogate pair, so the strings of a tree are texts.

* `Json.Piece`, `Json.NumberText`  — the parts of strings, and numbers as they are written.
* `Json.Source`                    — a value as it is written, with its `text` and its `value`.
* `Json.Traits`, `Json.Whole.Has`  — what holds of all parts of a tree.
* `Json.sourced_of_reading`        — what the readers take off a text is the text of a tree.
* `Json.exists_whole_of_parse?`    — every text that can be read is the text of a tree.
-/

namespace BeaconCheck.Json

/-! ## Rows of characters -/

/-- The first of a row of characters is a character, and others follow it. -/
theorem map_char_eq_cons_iff {text : List Char} {l : Letter} {ls : List Letter} :
    text.map .char = l :: ls ↔ ∃ c rest, text = c :: rest ∧ l = .char c ∧ ls = rest.map .char := by
  cases text with
  | nil => simp
  | cons c rest => simp [eq_comm]

/-- A row that starts with a character. -/
theorem map_char_eq_char_cons_iff {text : List Char} {c : Char} {ls : List Letter} :
    text.map .char = .char c :: ls ↔ ∃ rest, text = c :: rest ∧ ls = rest.map .char := by
  rw [map_char_eq_cons_iff]
  simp

/-- Blanks are skipped alike in a text and in its letters. -/
theorem skipBlank_map_char (text : List Char) :
    skipBlank (text.map .char) = (text.dropWhile isBlank).map .char := by
  rw [skipBlank, List.dropWhile_map]
  rfl

/-- Blanks between tokens. -/
structure Blanks where
  text : List Char
  blank : ∀ c ∈ text, isBlank c = true

/-- The blanks in front of a text. -/
def Blanks.before (text : List Char) : Blanks where
  text := text.takeWhile isBlank
  blank := List.all_eq_true.mp List.all_takeWhile

/-- A text is the blanks in front of it and the rest. -/
theorem Blanks.before_append (text : List Char) :
    (Blanks.before text).text ++ text.dropWhile isBlank = text :=
  List.takeWhile_append_dropWhile

/-! ## Strings -/

/-- Four hexadecimal digits. -/
structure CodeUnit where
  digits : List Char
  four : digits.length = 4
  spelled : ∀ c ∈ digits, (asciiDigit? 16 c).isSome = true

/-- The number that the digits spell. -/
def CodeUnit.number (u : CodeUnit) : Nat :=
  Numeral.ofDigits 16 (u.digits.filterMap (asciiDigit? 16))

/-- A piece of a string: a character that stands for itself, an escape of one letter, an escape
by a number, or two of these for the halves of a surrogate pair. -/
inductive Piece where
  | char (c : Char) (h : c ≠ '"' ∧ c ≠ '\\' ∧ 0x20 ≤ c.toNat)
  | escape (letter c : Char) (h : simpleEscape? letter = some c)
  | unit (u : CodeUnit)
  | pair (high low : CodeUnit) (c : Char) (h : paired? high.number low.number = some c)

namespace Piece

/-- How the piece is written. -/
def text : Piece → List Char
  | .char c _ => [c]
  | .escape letter _ _ => ['\\', letter]
  | .unit u => '\\' :: 'u' :: u.digits
  | .pair high low .. => '\\' :: 'u' :: high.digits ++ '\\' :: 'u' :: low.digits

/-- The letter that the piece stands for. -/
def value : Piece → Letter
  | .char c _ => .char c
  | .escape _ c _ => .char c
  | .unit u => .ofCode u.number
  | .pair _ _ c _ => .char c

/-- How the pieces of a string are written behind its opening quote. -/
def body (pieces : List Piece) : List Char :=
  pieces.flatMap text ++ ['"']

/-- How the pieces are written as a string. -/
def quoted (pieces : List Piece) : List Char :=
  '"' :: body pieces

/-- The text that the pieces stand for. -/
def string (pieces : List Piece) : Text :=
  .ofLetters (pieces.map value)

theorem body_cons (p : Piece) (pieces : List Piece) : body (p :: pieces) = p.text ++ body pieces := by
  simp only [body, List.flatMap_cons, List.append_assoc]

end Piece

/-- Four digits that are read are written as a code unit. -/
theorem exists_codeUnit {text : List Char} {rest : List Letter} {n : Nat}
    (h : hex4 (text.map .char) = some (n, rest)) :
    ∃ (u : CodeUnit) (behind : List Char),
      text = u.digits ++ behind ∧ rest = behind.map .char ∧ u.number = n := by
  unfold hex4 at h
  split at h
  · next a b c d more hText =>
    -- the four letters are characters of the text
    obtain ⟨_, rfl, hB⟩ := map_char_eq_char_cons_iff.mp hText
    obtain ⟨_, rfl, hC⟩ := map_char_eq_char_cons_iff.mp hB.symm
    obtain ⟨_, rfl, hD⟩ := map_char_eq_char_cons_iff.mp hC.symm
    obtain ⟨behind, rfl, hBehind⟩ := map_char_eq_char_cons_iff.mp hD.symm
    split at h
    · next ha hb hc hd =>
      obtain ⟨rfl, rfl⟩ := Prod.mk.inj (Option.some.inj h)
      have hSpelled : ∀ ch ∈ [a, b, c, d], (asciiDigit? 16 ch).isSome = true := by
        simp [ha, hb, hc, hd]
      refine ⟨⟨[a, b, c, d], rfl, hSpelled⟩, behind, rfl, hBehind, ?_⟩
      simp only [CodeUnit.number, List.filterMap_cons, ha, hb, hc, hd, List.filterMap_nil]
    · cases h
  · cases h

/-- The escape of a low half behind a high one. -/
theorem exists_of_pairEscape? {unit : Nat} {text : List Char} {c : Char} {rest : List Letter}
    (h : pairEscape? unit (text.map .char) = some (c, rest)) :
    ∃ (low : CodeUnit) (behind : List Char), text = '\\' :: 'u' :: low.digits ++ behind ∧
      rest = behind.map .char ∧ paired? unit low.number = some c := by
  unfold pairEscape? at h
  split at h
  · next more hText =>
    -- the backslash and the letter are taken off, and then the four digits are read
    obtain ⟨behind, rfl, hBehind⟩ := map_char_eq_char_cons_iff.mp hText
    obtain ⟨behind, rfl, rfl⟩ := map_char_eq_char_cons_iff.mp hBehind.symm
    obtain ⟨⟨n, after⟩, hLow, h⟩ := Option.bind_eq_some_iff.mp h
    obtain ⟨found, hPaired, h⟩ := Option.bind_eq_some_iff.mp h
    obtain ⟨rfl, rfl⟩ := Prod.mk.inj (Option.some.inj h)
    obtain ⟨low, behind, rfl, rfl, rfl⟩ := exists_codeUnit hLow
    exact ⟨low, behind, rfl, rfl, hPaired⟩
  · cases h

/-- An escape by number is one piece. -/
theorem exists_of_unicodeEscape {text : List Char} {l : Letter} {rest : List Letter}
    (h : unicodeEscape (text.map .char) = some (l, rest)) :
    ∃ (p : Piece) (behind : List Char), '\\' :: 'u' :: text = p.text ++ behind ∧
      rest = behind.map .char ∧ p.value = l := by
  obtain ⟨⟨n, after⟩, hUnit, h⟩ := Option.bind_eq_some_iff.mp h
  obtain ⟨u, behind, rfl, rfl, rfl⟩ := exists_codeUnit hUnit
  simp only [] at h
  -- a second escape belongs to the piece only where the two make up a character
  split at h
  · next c after hPair =>
    obtain ⟨rfl, rfl⟩ := Prod.mk.inj (Option.some.inj h)
    obtain ⟨low, behind, rfl, rfl, hPaired⟩ := exists_of_pairEscape? hPair
    refine ⟨.pair u low c hPaired, behind, ?_, rfl, rfl⟩
    simp only [Piece.text, List.cons_append, List.append_assoc]
  · obtain ⟨rfl, rfl⟩ := Prod.mk.inj (Option.some.inj h)
    exact ⟨.unit u, behind, rfl, rfl, rfl⟩

/-- What is read at the front of a string is one piece. A quote is none. -/
theorem exists_of_letter {text : List Char} {l : Letter} {rest : List Letter}
    (hQuote : text.head? ≠ some '"') (h : letter (text.map .char) = some (l, rest)) :
    ∃ (p : Piece) (behind : List Char), text = p.text ++ behind ∧
      rest = behind.map .char ∧ p.value = l := by
  unfold letter at h
  split at h
  · next more hText =>
    obtain ⟨behind, rfl, hBehind⟩ := map_char_eq_char_cons_iff.mp hText
    obtain ⟨behind, rfl, rfl⟩ := map_char_eq_char_cons_iff.mp hBehind.symm
    exact exists_of_unicodeEscape h
  · next e more _ hText =>
    obtain ⟨behind, rfl, hBehind⟩ := map_char_eq_char_cons_iff.mp hText
    obtain ⟨behind, rfl, rfl⟩ := map_char_eq_char_cons_iff.mp hBehind.symm
    obtain ⟨c, hEscape, hFound⟩ := Option.map_eq_some_iff.mp h
    obtain ⟨rfl, rfl⟩ := Prod.mk.inj hFound
    exact ⟨.escape e c hEscape, behind, rfl, rfl, rfl⟩
  · cases h
  · next c more _ _ hNoEscape hText =>
    obtain ⟨behind, rfl, rfl⟩ := map_char_eq_char_cons_iff.mp hText
    split at h
    · cases h
    · next hControl =>
      obtain ⟨rfl, rfl⟩ := Prod.mk.inj (Option.some.inj h)
      have hBackslash : c ≠ '\\' := by
        exact hNoEscape
      have hPlain : c ≠ '"' ∧ c ≠ '\\' ∧ 0x20 ≤ c.toNat :=
        ⟨fun hSame => hQuote (congrArg some hSame), hBackslash, Nat.not_lt.mp hControl⟩
      exact ⟨.char c hPlain, behind, rfl, rfl, rfl⟩
  · next place more hText =>
    -- a file has no half in it
    obtain ⟨c, -, -, hHalf, -⟩ := map_char_eq_cons_iff.mp hText
    cases hHalf
  · cases h

/-- What is read of a string is written in pieces. -/
theorem exists_pieces {fuel : Nat} {text : List Char} {rest ls : List Letter}
    (h : string fuel (text.map .char) = some (ls, rest)) :
    ∃ (pieces : List Piece) (behind : List Char), text = Piece.body pieces ++ behind ∧
      rest = behind.map .char ∧ pieces.map Piece.value = ls := by
  -- by induction on the fuel, one piece at a time up to the closing quote
  induction fuel generalizing text ls with
  | zero => cases h
  | succ fuel ih =>
    unfold string at h
    split at h
    · cases ‹fuel + 1 = 0›
    · next hText _ =>
      obtain ⟨behind, rfl, rfl⟩ := map_char_eq_char_cons_iff.mp hText
      obtain ⟨rfl, rfl⟩ := Prod.mk.inj (Option.some.inj h)
      exact ⟨[], behind, rfl, rfl, rfl⟩
    · next hFuel hNoQuote =>
      obtain rfl := Nat.succ.inj hFuel
      have hQuote : text.head? ≠ some '"' := by
        intro hHead
        obtain ⟨behind, rfl⟩ := List.head?_eq_some_iff.mp hHead
        exact hNoQuote _ rfl
      obtain ⟨⟨l, after⟩, hLetter, h⟩ := Option.bind_eq_some_iff.mp h
      obtain ⟨⟨more, last⟩, hRest, h⟩ := Option.bind_eq_some_iff.mp h
      obtain ⟨rfl, rfl⟩ := Prod.mk.inj (Option.some.inj h)
      obtain ⟨p, behind, rfl, rfl, rfl⟩ := exists_of_letter hQuote hLetter
      obtain ⟨pieces, behind, rfl, rfl, rfl⟩ := ih hRest
      exact ⟨p :: pieces, behind, by rw [Piece.body_cons, List.append_assoc], rfl, rfl⟩

/-! ## Numbers -/

/-- The character is a decimal digit of ASCII. -/
def IsDigit (c : Char) : Prop := (asciiDigit? 10 c).isSome = true

instance : DecidablePred IsDigit := fun _ => inferInstanceAs (Decidable (_ = true))

/-- The values of digits. -/
def valuesOf (digits : List Char) : List Nat :=
  digits.filterMap (asciiDigit? 10)

/-- The digits that a text starts with, as they are written. -/
theorem exists_digits (text : List Char) : ∃ ds behind : List Char, (∀ c ∈ ds, IsDigit c) ∧
    text = ds ++ behind ∧ digits (text.map .char) = (valuesOf ds, behind.map .char) := by
  -- by induction on the text: the digits end with the first letter that is none
  induction text with
  | nil => exact ⟨[], [], nofun, rfl, rfl⟩
  | cons c rest ih =>
    rw [List.map_cons, digits, Letter.glyph_char]
    cases hDigit : asciiDigit? 10 c with
    | none => exact ⟨[], c :: rest, nofun, rfl, rfl⟩
    | some d =>
      obtain ⟨ds, behind, hDigits, rfl, hRead⟩ := ih
      have hFirst : IsDigit c := by rw [IsDigit, hDigit]; rfl
      refine ⟨c :: ds, behind, List.forall_mem_cons.mpr ⟨hFirst, hDigits⟩, rfl, ?_⟩
      simp only [hRead, valuesOf, List.filterMap_cons_some hDigit]

/-- The exponent of a number as it is written. -/
structure ExponentText where
  mark : Char
  sign : List Char
  digits : List Char
  marked : mark = 'e' ∨ mark = 'E'
  signed : Numeral.IsSign sign
  spelled : digits ≠ [] ∧ ∀ c ∈ digits, IsDigit c

namespace ExponentText

def text (e : ExponentText) : List Char :=
  e.mark :: e.sign ++ e.digits

def value (e : ExponentText) : Int :=
  let n : Int := Numeral.ofDigits 10 (valuesOf e.digits)
  if e.sign = ['-'] then -n else n

end ExponentText

/-- A number as it is written. Without a fraction the digits for it are empty, and an integer
has at most 4300 digits. -/
structure NumberText where
  negative : Bool
  whole : List Char
  fraction : List Char
  exponent : Option ExponentText
  wholeSpelled : whole ≠ [] ∧ ∀ c ∈ whole, IsDigit c
  noLeadingZero : whole.head? = some '0' → whole = ['0']
  fractionSpelled : ∀ c ∈ fraction, IsDigit c
  short : fraction = [] → exponent = none → whole.length ≤ 4300

namespace NumberText

/-- The number is written as an integer. -/
def isInteger (n : NumberText) : Bool :=
  n.fraction.isEmpty && n.exponent.isNone

/-- How the fraction and the exponent are written. -/
def tail (n : NumberText) : List Char :=
  (if n.fraction.isEmpty then [] else '.' :: n.fraction) ++
    (n.exponent.map ExponentText.text).getD []

/-- How the number is written behind its sign. -/
def unsigned (n : NumberText) : List Char :=
  n.whole ++ n.tail

def text (n : NumberText) : List Char :=
  if n.negative then '-' :: n.unsigned else n.unsigned

def value (n : NumberText) : Value :=
  if n.isInteger then
    let i : Int := Numeral.ofDigits 10 (valuesOf n.whole)
    .int (if n.negative then -i else i)
  else
    .float (.ofDecimal n.negative (Numeral.ofDigits 10 (valuesOf (n.whole ++ n.fraction)))
      ((n.exponent.map ExponentText.value).getD 0 - n.fraction.length))

end NumberText

/-- Each digit has one value. -/
theorem length_valuesOf {ds : List Char} (h : ∀ c ∈ ds, IsDigit c) :
    (valuesOf ds).length = ds.length := by
  induction ds with
  | nil => rfl
  | cons c ds ih =>
    obtain ⟨hFirst, hRest⟩ := List.forall_mem_cons.mp h
    obtain ⟨d, hDigit⟩ := Option.isSome_iff_exists.mp hFirst
    rw [valuesOf, List.filterMap_cons_some hDigit]
    exact congrArg Nat.succ (ih hRest)

/-- The digits before the point are a zero by itself, or begin with another digit. -/
theorem exists_of_whole? {text : List Char} {rest : List Letter} {whole : List Nat}
    (h : whole? (text.map .char) = some (whole, rest)) :
    ∃ ds behind : List Char, (ds ≠ [] ∧ ∀ c ∈ ds, IsDigit c) ∧
      (ds.head? = some '0' → ds = ['0']) ∧ text = ds ++ behind ∧ rest = behind.map .char ∧
      whole = valuesOf ds := by
  unfold whole? at h
  -- a zero in front is the whole number by itself
  split at h
  · next hText =>
    obtain ⟨behind, rfl, rfl⟩ := map_char_eq_char_cons_iff.mp hText
    obtain ⟨rfl, rfl⟩ := Prod.mk.inj (Option.some.inj h)
    have hZero : ∀ c ∈ ['0'], IsDigit c := List.forall_mem_singleton.mpr rfl
    exact ⟨['0'], behind, ⟨List.cons_ne_nil _ _, hZero⟩, fun _ => rfl, rfl, rfl, rfl⟩
  · next hNoZero =>
    obtain ⟨ds, behind, hDigits, rfl, hRead⟩ := exists_digits text
    rw [hRead] at h
    split at h
    · cases h
    · next hSome =>
      obtain ⟨rfl, rfl⟩ := Prod.mk.inj (Option.some.inj h)
      refine ⟨ds, behind, ⟨?_, hDigits⟩, fun hHead => ?_, rfl, rfl, rfl⟩
      · rintro rfl
        exact hSome _ rfl
      · -- a zero in front was read by itself
        obtain ⟨more, rfl⟩ := List.head?_eq_some_iff.mp hHead
        exact absurd rfl (hNoZero _)

/-- A fraction is a point with digits behind it; a point without digits is left alone. -/
theorem exists_of_fraction {text : List Char} {rest : List Letter} {part : List Nat}
    (h : fraction (text.map .char) = (part, rest)) :
    ∃ ds behind : List Char, (∀ c ∈ ds, IsDigit c) ∧ part = valuesOf ds ∧
      text = (if ds.isEmpty then [] else '.' :: ds) ++ behind ∧ rest = behind.map .char := by
  unfold fraction at h
  -- there is a fraction only where a point stands, and a digit behind it
  split at h
  · next more hText =>
    obtain ⟨after, rfl, rfl⟩ := map_char_eq_char_cons_iff.mp hText
    obtain ⟨ds, behind, hDigits, rfl, hRead⟩ := exists_digits after
    rw [hRead] at h
    split at h
    · -- without a digit the point is left where it is
      obtain ⟨rfl, rfl⟩ := Prod.mk.inj h
      exact ⟨[], '.' :: (ds ++ behind), nofun, rfl, rfl, rfl⟩
    · next hSome =>
      obtain ⟨rfl, rfl⟩ := Prod.mk.inj h
      cases ds with
      | nil => exact absurd rfl (hSome _)
      | cons c ds => exact ⟨c :: ds, behind, hDigits, rfl, rfl, rfl⟩
  · obtain ⟨rfl, rfl⟩ := Prod.mk.inj h
    exact ⟨[], text, nofun, rfl, rfl, rfl⟩

/-- Every text is a sign, which may be missing, and what is behind it. -/
theorem exists_signed (text : List Char) : ∃ mark body, Numeral.IsSign mark ∧
    text = mark ++ body ∧ Numeral.sign text = (decide (mark = ['-']), body) := by
  unfold Numeral.sign
  split
  · exact ⟨['-'], _, .inr (.inr rfl), rfl, rfl⟩
  · exact ⟨['+'], _, .inr (.inl rfl), rfl, rfl⟩
  · exact ⟨[], _, .inl rfl, rfl, rfl⟩

/-- The exponent is read behind its mark, if there are digits behind the sign. -/
theorem exponent?_map_char {rest : List Char} {ds : List Nat} {after : List Letter}
    (hDigits : digits ((Numeral.sign rest).2.map .char) = (ds, after)) (mark : Char) :
    exponent? ((mark :: rest).map .char) =
      if (mark = 'e' ∨ mark = 'E') ∧ ds ≠ [] then
        some (if (Numeral.sign rest).1 then -(Numeral.ofDigits 10 ds : Int)
          else Numeral.ofDigits 10 ds, after)
      else none := by
  -- the reader looks for the sign itself
  cases rest with
  | nil =>
    have hNone : digits [] = (ds, after) := hDigits
    cases ds <;> simp [exponent?, Numeral.sign, hNone]
  | cons c rest =>
    by_cases hMinus : c = '-'
    · subst hMinus
      have hBehind : digits (rest.map .char) = (ds, after) := hDigits
      cases ds <;> simp [exponent?, Numeral.sign, hBehind]
    · by_cases hPlus : c = '+'
      · subst hPlus
        have hBehind : digits (rest.map .char) = (ds, after) := hDigits
        cases ds <;> simp [exponent?, Numeral.sign, hBehind]
      · have hUnsigned : Numeral.sign (c :: rest) = (false, c :: rest) := by
          simp [Numeral.sign, hMinus, hPlus]
        rw [hUnsigned, List.map_cons] at hDigits
        cases ds <;> simp [exponent?, hUnsigned, hMinus, hPlus, hDigits]

/-- An exponent that is read is written as one. -/
theorem exists_of_exponent? {text : List Char} {rest : List Letter} {n : Int}
    (h : exponent? (text.map .char) = some (n, rest)) :
    ∃ (e : ExponentText) (behind : List Char), text = e.text ++ behind ∧
      rest = behind.map .char ∧ e.value = n := by
  cases text with
  | nil => cases h
  | cons mark behind =>
    obtain ⟨sign, body, hSigned, rfl, hSign⟩ := exists_signed behind
    obtain ⟨ds, after, hDigits, rfl, hRead⟩ := exists_digits body
    -- behind the mark a sign is read first, and then the digits
    have hBehind : digits ((Numeral.sign (sign ++ (ds ++ after))).2.map .char) =
        (valuesOf ds, after.map .char) := by
      rw [hSign]
      exact hRead
    rw [exponent?_map_char hBehind, hSign] at h
    split at h
    · next hBoth =>
      obtain ⟨hMark, hSome⟩ := hBoth
      obtain ⟨rfl, rfl⟩ := Prod.mk.inj (Option.some.inj h)
      have hThere : ds ≠ [] := by
        rintro rfl
        exact hSome rfl
      refine ⟨⟨mark, sign, ds, hMark, hSigned, hThere, hDigits⟩, after, ?_, rfl, ?_⟩
      · simp only [ExponentText.text, List.cons_append, List.append_assoc]
      · simp only [ExponentText.value, decide_eq_true_eq]
    · cases h

/-- A number that is read is written as one. -/
theorem exists_numberText {negative : Bool} {text : List Char} {rest : List Letter} {v : Value}
    (h : number negative (text.map .char) = some (v, rest)) :
    ∃ (n : NumberText) (behind : List Char), n.negative = negative ∧
      text = n.unsigned ++ behind ∧ rest = behind.map .char ∧ n.value = v := by
  rw [number_eq] at h
  obtain ⟨⟨values, _⟩, hWhole, h⟩ := Option.bind_eq_some_iff.mp h
  obtain ⟨whole, behind, hSpelled, hZero, rfl, rfl, rfl⟩ := exists_of_whole? hWhole
  unfold numberOf at h
  rcases hFraction : fraction (behind.map .char) with ⟨part, _⟩
  obtain ⟨ds, after, hDigits, rfl, rfl, rfl⟩ := exists_of_fraction hFraction
  simp only [hFraction] at h
  have hEmpty : (valuesOf ds).isEmpty = ds.isEmpty := Numeral.filterMap_isEmpty hDigits
  have hAppend : valuesOf whole ++ valuesOf ds = valuesOf (whole ++ ds) :=
    List.filterMap_append.symm
  rw [hEmpty, length_valuesOf hDigits, length_valuesOf hSpelled.2, hAppend] at h
  -- only without a fraction and an exponent is it an integer, which has a limit of digits
  cases hPower : exponent? (after.map .char) with
  | none =>
    rw [hPower] at h
    simp only [Option.isNone_none, Bool.and_true, Option.getD_none] at h
    split at h
    · next hInteger =>
      split at h
      · cases h
      · next hShort =>
        obtain ⟨rfl, rfl⟩ := Prod.mk.inj (Option.some.inj h)
        obtain rfl := List.isEmpty_iff.mp hInteger
        refine ⟨⟨negative, whole, [], none, hSpelled, hZero, nofun, fun _ _ => Nat.not_lt.mp hShort⟩,
          after, rfl, ?_, rfl, rfl⟩
        simp [NumberText.unsigned, NumberText.tail]
    · next hFloat =>
      obtain ⟨rfl, rfl⟩ := Prod.mk.inj (Option.some.inj h)
      refine ⟨⟨negative, whole, ds, none, hSpelled, hZero, hDigits, fun h _ => ?_⟩, after, rfl, ?_,
        rfl, ?_⟩
      · exact absurd (List.isEmpty_iff.mpr h) hFloat
      · simp [NumberText.unsigned, NumberText.tail]
      · simp [NumberText.value, NumberText.isInteger, hFloat]
  | some p =>
    obtain ⟨n, _⟩ := p
    obtain ⟨e, last, rfl, rfl, rfl⟩ := exists_of_exponent? hPower
    rw [hPower] at h
    simp only [Option.isNone_some, Bool.and_false, Bool.false_eq_true, if_false,
      Option.getD_some] at h
    obtain ⟨rfl, rfl⟩ := Prod.mk.inj (Option.some.inj h)
    refine ⟨⟨negative, whole, ds, some e, hSpelled, hZero, hDigits, nofun⟩, last, rfl, ?_, rfl, ?_⟩
    · simp [NumberText.unsigned, NumberText.tail]
    · simp [NumberText.value, NumberText.isInteger]

/-! ## Values -/

/-- The words that are values. The last three are none of the standard. -/
inductive Word where
  | null
  | yes
  | no
  | nan
  | infinity
  | minusInfinity
deriving DecidableEq, Repr

namespace Word

def text : Word → List Char
  | .null => "null".toList
  | .yes => "true".toList
  | .no => "false".toList
  | .nan => "NaN".toList
  | .infinity => "Infinity".toList
  | .minusInfinity => "-Infinity".toList

def value : Word → Value
  | .null => .null
  | .yes => .bool true
  | .no => .bool false
  | .nan => .float .nan
  | .infinity => .float (.infinite false)
  | .minusInfinity => .float (.infinite true)

end Word

/-- The name of an entry with the blanks around it and its colon. -/
structure Name where
  before : Blanks
  pieces : List Piece
  between : Blanks
  behind : Blanks

/-- How the name and its colon are written. -/
def Name.text (n : Name) : List Char :=
  n.before.text ++ Piece.quoted n.pieces ++ n.between.text ++ ':' :: n.behind.text

mutual

/-- A value as it is written. -/
inductive Source where
  | word (w : Word)
  | number (n : NumberText)
  | string (pieces : List Piece)
  | emptyList (inner : Blanks)
  | list (items : Items)
  | emptyObject (inner : Blanks)
  | object (members : Members)

/-- The items of a list that has some. -/
inductive Items where
  | last (before : Blanks) (item : Source) (after : Blanks)
  | more (before : Blanks) (item : Source) (after : Blanks) (rest : Items)

/-- The entries of an object that has some. -/
inductive Members where
  | last (name : Name) (item : Source) (after : Blanks)
  | more (name : Name) (item : Source) (after : Blanks) (rest : Members)

end

mutual

/-- The text of a value. -/
def Source.text : Source → List Char
  | .word w => w.text
  | .number n => n.text
  | .string pieces => Piece.quoted pieces
  | .emptyList inner => '[' :: inner.text ++ [']']
  | .list items => '[' :: items.text ++ [']']
  | .emptyObject inner => '\x7b' :: inner.text ++ ['\x7d']
  | .object members => '\x7b' :: members.text ++ ['\x7d']

/-- The text between the brackets. -/
def Items.text : Items → List Char
  | .last before item after => before.text ++ item.text ++ after.text
  | .more before item after rest => before.text ++ item.text ++ after.text ++ ',' :: rest.text

/-- The text between the braces. -/
def Members.text : Members → List Char
  | .last name item after => name.text ++ item.text ++ after.text
  | .more name item after rest => name.text ++ item.text ++ after.text ++ ',' :: rest.text

end

mutual

/-- The value that is written. -/
def Source.value : Source → Value
  | .word w => w.value
  | .number n => n.value
  | .string pieces => .text (Piece.string pieces)
  | .emptyList _ => .list []
  | .list items => .list items.values
  | .emptyObject _ => .object []
  | .object members => .object (Entries.ofPairs members.entries)

/-- The values of the items. -/
def Items.values : Items → List Value
  | .last _ item _ => [item.value]
  | .more _ item _ rest => item.value :: rest.values

/-- The names with their values. -/
def Members.entries : Members → List (Scalar × Value)
  | .last name item _ => [(.text (Piece.string name.pieces), item.value)]
  | .more name item _ rest => (.text (Piece.string name.pieces), item.value) :: rest.entries

end

/-- A whole text: a value with blanks around it. -/
structure Whole where
  before : Blanks
  source : Source
  after : Blanks

def Whole.text (w : Whole) : List Char :=
  w.before.text ++ w.source.text ++ w.after.text

/-! ## Traits -/

/-- What may hold of the parts that a tree is made of; `names` is about all names of an object. -/
structure Traits where
  blanks : Blanks → Prop := fun _ => True
  word : Word → Prop := fun _ => True
  number : NumberText → Prop := fun _ => True
  string : List Piece → Prop := fun _ => True
  name : Name → Prop := fun _ => True
  names : List Text → Prop := fun _ => True

/-- The names in the order in which they are written. -/
def Members.names : Members → List Text
  | .last name _ _ => [Piece.string name.pieces]
  | .more name _ _ rest => Piece.string name.pieces :: rest.names

mutual

/-- All parts of a value have the traits. -/
def Source.Has (t : Traits) : Source → Prop
  | .word w => t.word w
  | .number n => t.number n
  | .string pieces => t.string pieces
  | .emptyList inner => t.blanks inner
  | .list items => items.Have t
  | .emptyObject inner => t.blanks inner
  | .object members => t.names members.names ∧ members.Have t

/-- All parts of the items have the traits. -/
def Items.Have (t : Traits) : Items → Prop
  | .last before item after => t.blanks before ∧ item.Has t ∧ t.blanks after
  | .more before item after rest => t.blanks before ∧ item.Has t ∧ t.blanks after ∧ rest.Have t

/-- All parts of the entries have the traits. -/
def Members.Have (t : Traits) : Members → Prop
  | .last name item after => t.name name ∧ item.Has t ∧ t.blanks after
  | .more name item after rest => t.name name ∧ item.Has t ∧ t.blanks after ∧ rest.Have t

end

/-- All parts of a text have the traits. -/
def Whole.Has (t : Traits) (w : Whole) : Prop :=
  t.blanks w.before ∧ w.source.Has t ∧ t.blanks w.after

/-! ## Reading writes a tree -/

theorem enclosed_append (first last : Char) (inner rest : List Char) :
    first :: inner ++ [last] ++ rest = first :: (inner ++ last :: rest) := by
  rw [List.append_assoc]
  rfl

/-- A word that is expected is what the text begins with. -/
theorem exists_of_expect {word text : List Char} {rest : List Letter}
    (h : expect word (text.map .char) = some rest) :
    ∃ behind : List Char, text = word ++ behind ∧ rest = behind.map .char := by
  -- by induction on the word, letter by letter
  induction word generalizing text with
  | nil => exact ⟨text, rfl, (Option.some.inj h).symm⟩
  | cons c cs ih =>
    cases text with
    | nil => cases h
    | cons d ds =>
      rw [List.map_cons, expect] at h
      split at h
      · next hSame =>
        obtain ⟨behind, rfl, hRest⟩ := ih h
        exact ⟨behind, by rw [Letter.char.inj hSame]; rfl, hRest⟩
      · cases h

/-- What a reader takes for a value is the text of one. -/
def Sourced (text : List Char) (v : Value) (rest : List Letter) : Prop :=
  ∃ (s : Source) (behind : List Char), text = s.text ++ behind ∧ rest = behind.map .char ∧
    s.value = v

/-- What a reader takes for items, behind blanks, is the text of items and the bracket. -/
def SourcedItems (text : List Char) (vs : List Value) (rest : List Letter) : Prop :=
  ∀ before : Blanks, ∃ (items : Items) (behind : List Char),
    before.text ++ text = items.text ++ ']' :: behind ∧ rest = behind.map .char ∧
      items.values = vs

/-- What a reader takes for entries, behind blanks, is the text of entries and the brace. -/
def SourcedEntries (text : List Char) (es : List (Scalar × Value)) (rest : List Letter) : Prop :=
  ∀ before : Blanks, ∃ (members : Members) (behind : List Char),
    before.text ++ text = members.text ++ '\x7d' :: behind ∧ rest = behind.map .char ∧
      members.entries = es

/-- A word is read off its first character and the rest. -/
theorem sourced_word (w : Word) {first : Char} {others behind : List Char} {rest : List Letter}
    {found v : Value} (hText : w.text = first :: others) (hValue : w.value = v)
    (h : (expect others (behind.map .char)).map (fun rest => (v, rest)) = some (found, rest)) :
    Sourced (first :: behind) found rest := by
  obtain ⟨after, hExpect, hFound⟩ := Option.map_eq_some_iff.mp h
  obtain ⟨rfl, rfl⟩ := Prod.mk.inj hFound
  obtain ⟨behind, rfl, rfl⟩ := exists_of_expect hExpect
  exact ⟨.word w, behind, by rw [Source.text, hText]; rfl, rfl, hValue⟩

section Reading

variable {fuel : Nat} {text : List Char} {rest : List Letter}

/-- A value is written as a source, if what is read inside of it is. -/
theorem sourced_of_value {v : Value}
    (ihItems : ∀ {text : List Char} {rest vs}, items fuel (text.map .char) = some (vs, rest) →
      SourcedItems text vs rest)
    (ihEntries : ∀ {text : List Char} {rest es}, entries fuel (text.map .char) = some (es, rest) →
      SourcedEntries text es rest)
    (h : value (fuel + 1) (text.map .char) = some (v, rest)) : Sourced text v rest := by
  cases text with
  | nil => cases h
  | cons c behind =>
    have hBlanks := Blanks.before_append behind
    rw [List.map_cons] at h
    unfold value at h
    simp only [skipBlank_map_char] at h
    split at h
    · next hFirst =>
      -- a string
      obtain rfl := Letter.char.inj hFirst
      obtain ⟨⟨cs, after⟩, hString, hFound⟩ := Option.map_eq_some_iff.mp h
      obtain ⟨rfl, rfl⟩ := Prod.mk.inj hFound
      obtain ⟨pieces, after, rfl, rfl, rfl⟩ := exists_pieces hString
      exact ⟨.string pieces, after, rfl, rfl, rfl⟩
    · next hFirst =>
      -- a list
      obtain rfl := Letter.char.inj hFirst
      split at h
      · next hSkip =>
        obtain ⟨after, hFound, rfl⟩ := map_char_eq_char_cons_iff.mp hSkip
        obtain ⟨rfl, rfl⟩ := Prod.mk.inj (Option.some.inj h)
        refine ⟨.emptyList (.before behind), after, ?_, rfl, rfl⟩
        rw [Source.text, enclosed_append, ← hFound, hBlanks]
      · obtain ⟨⟨vs, after⟩, hItems, hFound⟩ := Option.map_eq_some_iff.mp h
        obtain ⟨rfl, rfl⟩ := Prod.mk.inj hFound
        obtain ⟨items, after, hText, rfl, rfl⟩ := ihItems hItems (.before behind)
        refine ⟨.list items, after, ?_, rfl, rfl⟩
        rw [Source.text, enclosed_append, ← hText, hBlanks]
    · next hFirst =>
      -- an object
      obtain rfl := Letter.char.inj hFirst
      split at h
      · next hSkip =>
        obtain ⟨after, hFound, rfl⟩ := map_char_eq_char_cons_iff.mp hSkip
        obtain ⟨rfl, rfl⟩ := Prod.mk.inj (Option.some.inj h)
        refine ⟨.emptyObject (.before behind), after, ?_, rfl, rfl⟩
        rw [Source.text, enclosed_append, ← hFound, hBlanks]
      · obtain ⟨⟨es, after⟩, hEntries, hFound⟩ := Option.map_eq_some_iff.mp h
        obtain ⟨rfl, rfl⟩ := Prod.mk.inj hFound
        obtain ⟨members, after, hText, rfl, rfl⟩ := ihEntries hEntries (.before behind)
        refine ⟨.object members, after, ?_, rfl, rfl⟩
        rw [Source.text, enclosed_append, ← hText, hBlanks]
    · next hFirst =>
      obtain rfl := Letter.char.inj hFirst
      exact sourced_word .null rfl rfl h
    · next hFirst =>
      obtain rfl := Letter.char.inj hFirst
      exact sourced_word .yes rfl rfl h
    · next hFirst =>
      obtain rfl := Letter.char.inj hFirst
      exact sourced_word .no rfl rfl h
    · next hFirst =>
      obtain rfl := Letter.char.inj hFirst
      exact sourced_word .nan rfl rfl h
    · next hFirst =>
      obtain rfl := Letter.char.inj hFirst
      exact sourced_word .infinity rfl rfl h
    · next hFirst =>
      -- a minus sign
      obtain rfl := Letter.char.inj hFirst
      split at h
      · next hExpect =>
        obtain ⟨rfl, rfl⟩ := Prod.mk.inj (Option.some.inj h)
        obtain ⟨after, rfl, rfl⟩ := exists_of_expect hExpect
        exact ⟨.word .minusInfinity, after, rfl, rfl, rfl⟩
      · obtain ⟨n, after, hNegative, rfl, rfl, rfl⟩ := exists_numberText h
        refine ⟨.number n, after, ?_, rfl, rfl⟩
        rw [Source.text, NumberText.text, if_pos hNegative]
        rfl
    · rw [← List.map_cons] at h
      obtain ⟨n, after, hNegative, hText, rfl, rfl⟩ := exists_numberText h
      refine ⟨.number n, after, ?_, rfl, rfl⟩
      rw [Source.text, NumberText.text, hNegative, hText]
      rfl

/-- Items are written with commas between them, if each of them is. -/
theorem sourced_of_items {vs : List Value}
    (ihValue : ∀ {text : List Char} {rest v}, value fuel (text.map .char) = some (v, rest) →
      Sourced text v rest)
    (ihItems : ∀ {text : List Char} {rest vs}, items fuel (text.map .char) = some (vs, rest) →
      SourcedItems text vs rest)
    (h : items (fuel + 1) (text.map .char) = some (vs, rest)) : SourcedItems text vs rest := by
  intro before
  unfold items at h
  obtain ⟨⟨first, _⟩, hFirst, h⟩ := Option.bind_eq_some_iff.mp h
  obtain ⟨s, behind, rfl, rfl, rfl⟩ := ihValue hFirst
  have hAfter := Blanks.before_append behind
  simp only [skipBlank_map_char] at h
  split at h
  · next hSkip =>
    obtain ⟨after, hFound, rfl⟩ := map_char_eq_char_cons_iff.mp hSkip
    obtain ⟨rfl, rfl⟩ := Prod.mk.inj (Option.some.inj h)
    refine ⟨.last before s (.before behind), after, ?_, rfl, rfl⟩
    rw [hFound] at hAfter
    simp only [Items.text, List.append_assoc, hAfter]
  · next hSkip =>
    -- a comma, and the blanks behind it stand in front of the next item
    obtain ⟨more, hFound, rfl⟩ := map_char_eq_char_cons_iff.mp hSkip
    obtain ⟨⟨others, _⟩, hMore, h⟩ := Option.bind_eq_some_iff.mp h
    obtain ⟨rfl, rfl⟩ := Prod.mk.inj (Option.some.inj h)
    rw [skipBlank_map_char] at hMore
    obtain ⟨items, after, hText, rfl, rfl⟩ := ihItems hMore (.before more)
    rw [Blanks.before_append] at hText
    refine ⟨.more before s (.before behind) items, after, ?_, rfl, rfl⟩
    rw [hFound, hText] at hAfter
    simp only [Items.text, List.append_assoc, List.cons_append, hAfter]
  · cases h

/-- Entries are written with commas between them, if each of them is. -/
theorem sourced_of_entries {es : List (Scalar × Value)}
    (ihValue : ∀ {text : List Char} {rest v}, value fuel (text.map .char) = some (v, rest) →
      Sourced text v rest)
    (ihEntries : ∀ {text : List Char} {rest es}, entries fuel (text.map .char) = some (es, rest) →
      SourcedEntries text es rest)
    (h : entries (fuel + 1) (text.map .char) = some (es, rest)) : SourcedEntries text es rest := by
  intro before
  unfold entries at h
  split at h
  · next hQuote =>
    obtain ⟨inner, rfl, rfl⟩ := map_char_eq_char_cons_iff.mp hQuote
    obtain ⟨⟨cs, _⟩, hName, h⟩ := Option.bind_eq_some_iff.mp h
    obtain ⟨pieces, behind, rfl, rfl, rfl⟩ := exists_pieces hName
    obtain ⟨_, hColon, h⟩ := Option.bind_eq_some_iff.mp h
    rw [skipBlank_map_char] at hColon
    obtain ⟨afterColon, hBehindName, rfl⟩ := exists_of_expect hColon
    obtain ⟨⟨first, _⟩, hFirst, h⟩ := Option.bind_eq_some_iff.mp h
    rw [skipBlank_map_char] at hFirst
    obtain ⟨s, behindValue, hSource, rfl, rfl⟩ := ihValue hFirst
    have hAfter := Blanks.before_append behindValue
    -- the name with its colon and the blanks around them
    let name : Name := ⟨before, pieces, .before behind, .before afterColon⟩
    have hEntry : before.text ++ '"' :: (Piece.body pieces ++ behind) =
        name.text ++ s.text ++ behindValue := by
      have hBetween := Blanks.before_append behind
      have hBehind := Blanks.before_append afterColon
      rw [hSource] at hBehind
      rw [hBehindName, ← hBehind] at hBetween
      simp only [name, Name.text, Piece.quoted, List.append_assoc, List.cons_append,
        List.nil_append] at hBetween ⊢
      rw [hBetween]
    rw [hEntry]
    simp only [skipBlank_map_char] at h
    split at h
    · next hSkip =>
      obtain ⟨after, hFound, rfl⟩ := map_char_eq_char_cons_iff.mp hSkip
      obtain ⟨rfl, rfl⟩ := Prod.mk.inj (Option.some.inj h)
      refine ⟨.last name s (.before behindValue), after, ?_, rfl, rfl⟩
      rw [hFound] at hAfter
      simp only [Members.text, List.append_assoc, hAfter]
    · next hSkip =>
      obtain ⟨more, hFound, rfl⟩ := map_char_eq_char_cons_iff.mp hSkip
      obtain ⟨⟨others, _⟩, hMore, h⟩ := Option.bind_eq_some_iff.mp h
      obtain ⟨rfl, rfl⟩ := Prod.mk.inj (Option.some.inj h)
      rw [skipBlank_map_char] at hMore
      obtain ⟨members, after, hText, rfl, rfl⟩ := ihEntries hMore (.before more)
      rw [Blanks.before_append] at hText
      refine ⟨.more name s (.before behindValue) members, after, ?_, rfl, rfl⟩
      rw [hFound, hText] at hAfter
      simp only [Members.text, List.append_assoc, List.cons_append, hAfter]
    · cases h
  · cases h

end Reading

/-- Values, items and entries that are read are the texts of trees, however deep the reading
goes. -/
theorem sourced_of_reading (fuel : Nat) :
    (∀ {text : List Char} {rest v}, value fuel (text.map .char) = some (v, rest) →
        Sourced text v rest) ∧
      (∀ {text : List Char} {rest vs}, items fuel (text.map .char) = some (vs, rest) →
        SourcedItems text vs rest) ∧
      ∀ {text : List Char} {rest es}, entries fuel (text.map .char) = some (es, rest) →
        SourcedEntries text es rest := by
  -- by induction on the fuel, for all three readers at once
  induction fuel with
  | zero => exact ⟨nofun, nofun, nofun⟩
  | succ fuel ih =>
    obtain ⟨ihValue, ihItems, ihEntries⟩ := ih
    exact ⟨sourced_of_value ihItems ihEntries, sourced_of_items ihValue ihItems,
      sourced_of_entries ihValue ihEntries⟩

/-- **Every text that can be read** is the text of a tree with the value that was read. -/
theorem exists_whole_of_parse? {text : List Char} {v : Value}
    (h : parse? (text.map .char) = some v) : ∃ w : Whole, w.text = text ∧ w.source.value = v := by
  obtain ⟨⟨found, _⟩, hFound, h⟩ := Option.bind_eq_some_iff.mp h
  rw [skipBlank_map_char] at hFound
  -- the value stands between two runs of blanks, and nothing else is left
  obtain ⟨s, rest, hText, rfl, rfl⟩ := (sourced_of_reading _).1 hFound
  simp only [skipBlank_map_char, List.isEmpty_map] at h
  split at h
  · next hEnd =>
    obtain rfl := Option.some.inj h
    refine ⟨⟨.before text, s, .before rest⟩, ?_, rfl⟩
    have hRest := Blanks.before_append rest
    rw [List.isEmpty_iff.mp hEnd, List.append_nil] at hRest
    simp only [Whole.text, List.append_assoc, hRest, ← hText]
    exact Blanks.before_append text
  · cases h

end BeaconCheck.Json
