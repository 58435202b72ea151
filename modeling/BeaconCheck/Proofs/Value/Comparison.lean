import BeaconCheck.Evaluation
import BeaconCheck.Proofs.Computation
import BeaconCheck.Proofs.Number.Range

/-!
# Comparisons that crash

Comparing two values reads both as numbers if one of them is a number or a truth value. Two
kinds of value crash that reading: integers beyond the range of binary64 numbers, written as
such or as text behind a base mark, and infinities behind more than one sign. Everything else
compares, and so an event layer can be searched up to the first entry that crashes.

* `Loose.Unreadable`               — the texts whose numeric reading crashes.
* `Value.Unreadable`               — the values whose numeric reading crashes.
* `Value.Incomparable`             — the pairs of values whose comparison crashes.
* `Value.looselyEquals_eq_error_iff` — these are all.
* `layerContains_eq_crash_iff`     — searching an event layer crashes at the first entry
  that does.
-/

namespace BeaconCheck

/-! ## Texts without a numeric reading -/

namespace Numeral

variable (grouped negative : Bool)

/-- No decimal begins with a character that is neither a digit nor a point. -/
theorem decimal?_eq_none_of_head {c : Char} {rest : List Char} (hDigit : digitValue? c = none)
    (hPoint : c ≠ '.') : decimal? grouped negative (c :: rest) = none := by
  have hRun : digitRun digitValue? grouped false (c :: rest) = ([], c :: rest) := by
    simp only [digitRun, hDigit, Bool.and_false, Bool.false_and, Bool.false_eq_true, if_false]
  unfold decimal?
  rw [hRun]
  simp only []
  split
  · next h => exact absurd (List.cons.inj h).1 hPoint
  · rfl

/-- No decimal goes on behind a leading zero with a character that is neither a digit nor a
point and does not announce an exponent. -/
theorem decimal?_eq_none_of_mark {c : Char} {rest : List Char} (hDigit : digitValue? c = none)
    (hPoint : c ≠ '.') (hExponent : ¬ (c = 'e' ∨ c = 'E')) :
    decimal? false negative ('0' :: c :: rest) = none := by
  -- the zero is read, and the mark ends the digits
  have hRun : digitRun digitValue? false false ('0' :: c :: rest) = ([0], c :: rest) := by
    have hZero : digitValue? '0' = some 0 := by decide
    simp only [digitRun, hZero, hDigit, Bool.false_and, Bool.false_eq_true, if_false]
  unfold decimal?
  rw [hRun]
  simp only []
  split
  · next h => exact absurd (List.cons.inj h).1 hPoint
  · simp only [List.isEmpty_cons, Bool.false_and, Bool.false_eq_true, if_false, exponent?,
      if_neg hExponent, Option.map_none]

end Numeral

namespace Loose

open Binary64 (overflow)

/-- The texts, without blank space around them, whose numeric reading crashes. -/
inductive Unreadable : List Char → Crash → Prop
  /-- An integer behind a base mark that is too large. -/
  | radix {text : List Char} {n : Nat} (hRadix : radix? text = some n) (hLarge : overflow ≤ n) :
      Unreadable text .integerTooLarge
  /-- An infinity behind more than one sign. -/
  | signs {marks : List Char} (hMarks : ∀ c ∈ marks, c = '+' ∨ c = '-')
      (hMany : 2 ≤ marks.length) :
      Unreadable (marks ++ "Infinity".toList) (.notANumber (String.ofList (marks ++ "inf".toList)))

/-- A letter is in lower case already, or is the capital of its lower case. -/
theorem eq_of_lowerAscii {c d : Char} (h : lowerAscii c = d) :
    c = d ∨ c.toNat + 32 = d.toNat := by
  unfold lowerAscii at h
  split at h
  -- a capital is moved on by 32, which leaves it a character
  · next hCapital =>
    have hZ : c.toNat ≤ 'Z'.toNat := hCapital.2
    have hValid : (c.toNat + 32).isValidChar := by
      have hValue : 'Z'.toNat = 90 := rfl
      exact Or.inl (by omega)
    refine Or.inr ?_
    rw [← h, Char.ofNat, dif_pos hValid]
    rfl
  · exact Or.inl h

/-- A character with a letter for its lower case is that letter or its capital. -/
theorem eq_or_eq_of_lowerAscii {c lower : Char} (upper : Char) (h : lowerAscii c = lower)
    (hCase : upper.toNat + 32 = lower.toNat) : c = lower ∨ c = upper := by
  refine (eq_of_lowerAscii h).imp_right fun hUpper => Char.toNat_inj.mp ?_
  omega

/-- A base mark is one of three letters in either case. -/
theorem mark_of_radix? {text : List Char} {n : Nat} (h : radix? text = some n) :
    ∃ mark rest, text = '0' :: mark :: rest ∧ mark ∈ ['x', 'X', 'o', 'O', 'b', 'B'] := by
  unfold radix? at h
  split at h
  -- the mark stands behind the zero, in either case
  · next mark rest =>
    refine ⟨mark, rest, rfl, ?_⟩
    split at h
    · next hx => rcases eq_or_eq_of_lowerAscii 'X' hx rfl with rfl | rfl <;> decide
    · next ho => rcases eq_or_eq_of_lowerAscii 'O' ho rfl with rfl | rfl <;> decide
    · next hb => rcases eq_or_eq_of_lowerAscii 'B' hb rfl with rfl | rfl <;> decide
    · cases h
  · cases h

/-- A text with a base mark is no decimal. -/
theorem decimal?_of_radix? {text : List Char} {n : Nat} (h : radix? text = some n) :
    decimal? text = none := by
  obtain ⟨mark, rest, rfl, hMark⟩ := mark_of_radix? h
  -- none of the letters is a digit, a point or the announcement of an exponent
  obtain ⟨hDigit, hPoint, hExponent⟩ :
      digitValue? mark = none ∧ mark ≠ '.' ∧ ¬ (mark = 'e' ∨ mark = 'E') := by
    simp only [List.mem_cons, List.not_mem_nil, or_false] at hMark
    rcases hMark with rfl | rfl | rfl | rfl | rfl | rfl <;> decide
  exact Numeral.decimal?_eq_none_of_mark false hDigit hPoint hExponent

/-- A text behind two signs is neither a decimal nor an integer behind a base mark. -/
theorem decimal?_of_signs {c d : Char} (hc : c = '+' ∨ c = '-') (hd : d = '+' ∨ d = '-')
    (rest : List Char) :
    decimal? (c :: d :: rest) = none ∧ radix? (c :: d :: rest) = none := by
  have hBody : Numeral.sign (c :: d :: rest) = (c == '-', d :: rest) := by
    rcases hc with rfl | rfl <;> rfl
  refine ⟨?_, ?_⟩
  · unfold decimal?
    rw [hBody]
    rcases hd with rfl | rfl <;>
      exact Numeral.decimal?_eq_none_of_head _ _ (by decide) (by decide)
  · rcases hc with rfl | rfl <;> rfl

/-- The signs of an infinity are all of the text in front of it. -/
theorem signs_append {marks : List Char} (h : ∀ m ∈ marks, m = '+' ∨ m = '-') :
    signs (marks ++ "Infinity".toList) = (marks, "Infinity".toList) := by
  have hAll : ∀ m ∈ marks, (m == '+' || m == '-') = true := by
    intro m hm
    rcases h m hm with rfl | rfl <;> rfl
  rw [signs, List.span_eq_takeWhile_dropWhile, List.takeWhile_append_of_pos hAll,
    List.dropWhile_append_of_pos hAll]
  simp

/-- What stands in front of an infinity are signs. -/
theorem eq_append_of_signs {text marks body : List Char} (h : signs text = (marks, body)) :
    (∀ m ∈ marks, m = '+' ∨ m = '-') ∧ text = marks ++ body := by
  rw [signs, List.span_eq_takeWhile_dropWhile, Prod.mk.injEq] at h
  obtain ⟨rfl, rfl⟩ := h
  refine ⟨fun m hm => ?_, (List.takeWhile_append_dropWhile ..).symm⟩
  have hSign := List.all_eq_true.mp List.all_takeWhile m hm
  simpa using hSign

/-- What is read as an infinity, or crashes as one, is an infinity behind signs. -/
theorem eq_append_of_infinity? {text : List Char} {reading : Except Crash Binary64}
    (h : infinity? text = some reading) :
    ∃ marks : List Char, (∀ m ∈ marks, m = '+' ∨ m = '-') ∧
      text = marks ++ "Infinity".toList := by
  rcases hSigns : signs text with ⟨marks, body⟩
  obtain ⟨hMarks, rfl⟩ := eq_append_of_signs hSigns
  rw [infinity?, hSigns] at h
  by_cases hBody : String.ofList body = "Infinity"
  · exact ⟨marks, hMarks, by rw [← hBody, String.toList_ofList]⟩
  · simp only [if_neg hBody] at h
    cases h

/-- The reading of an infinity crashes behind more than one sign. -/
theorem infinity?_eq_error_iff {text : List Char} {c : Crash} :
    infinity? text = some (.error c) ↔
      ∃ marks : List Char, (∀ m ∈ marks, m = '+' ∨ m = '-') ∧ 2 ≤ marks.length ∧
        text = marks ++ "Infinity".toList ∧
        c = .notANumber (String.ofList (marks ++ "inf".toList)) := by
  constructor
  · intro h
    obtain ⟨marks, hMarks, rfl⟩ := eq_append_of_infinity? h
    rw [infinity?, signs_append hMarks] at h
    -- no sign and one sign are read; from two signs on reading crashes
    match marks, h with
    | m :: m' :: more, h =>
      refine ⟨m :: m' :: more, hMarks, ?_, rfl, ?_⟩
      · exact Nat.le_add_left 2 more.length
      · exact (Except.error.inj (Option.some.inj h)).symm
  · rintro ⟨marks, hMarks, hMany, rfl, rfl⟩
    rw [infinity?, signs_append hMarks]
    match marks, hMany with
    | m :: m' :: more, _ => rfl

/-- **The numeric reading of a text crashes** for these texts and no others. -/
theorem readNumber_eq_error_iff {t : Text} {c : Crash} :
    readNumber t = .error c ↔ Unreadable (trimBlank t.shown.toList) c := by
  unfold readNumber
  generalize trimBlank t.shown.toList = text
  constructor
  · intro h
    -- the readings are tried in turn, and only two of them can crash
    simp only [] at h
    split at h
    · cases h
    split at h
    · cases h
    split at h
    · next n hRadix =>
      obtain ⟨rfl, i, hi, hLarge⟩ := Number.toBinary64_eq_error_iff.mp (map_eq_error_iff.mp h)
      cases hi
      exact .radix hRadix hLarge
    split at h
    · next reading hInfinity =>
      rw [map_eq_error_iff.mp h, infinity?_eq_error_iff] at hInfinity
      obtain ⟨marks, hMarks, hMany, rfl, rfl⟩ := hInfinity
      exact .signs hMarks hMany
    · cases h
  · intro h
    cases h with
    | @radix text n hRadix hLarge =>
      obtain ⟨mark, rest, rfl, -⟩ := mark_of_radix? hRadix
      have hError : (Number.int n).toBinary64 = .error .integerTooLarge :=
        Number.toBinary64_eq_error_iff.mpr ⟨rfl, n, rfl, hLarge⟩
      simp only [decimal?_of_radix? hRadix, hRadix, hError]
      rfl
    | @signs marks hMarks hMany =>
      have hInfinity := infinity?_eq_error_iff.mpr ⟨marks, hMarks, hMany, rfl, rfl⟩
      match marks, hMarks, hMany, hInfinity with
      | m :: m' :: more, hMarks, _, hInfinity =>
        -- two signs are no decimal and mark no base, so the infinity is reached
        obtain ⟨hDecimal, hRadix⟩ := decimal?_of_signs (hMarks m (by simp))
          (hMarks m' (by simp)) (more ++ "Infinity".toList)
        simp only [List.cons_append] at hInfinity ⊢
        simp only [hDecimal, hRadix, hInfinity]
        rfl

end Loose

/-! ## Values that cannot be compared -/

namespace Value

open Binary64 (overflow)

/-- The values whose numeric reading crashes. -/
inductive Unreadable : Value → Crash → Prop
  | integer {i : Int} (hLarge : overflow ≤ i.natAbs) : Unreadable (.int i) .integerTooLarge
  | text {t : Text} {c : Crash} (h : Loose.Unreadable (trimBlank t.shown.toList) c) :
      Unreadable (.text t) c

/-- The pairs of values whose comparison crashes: neither is null, one of them is a number
or a truth value, and the first of them without a numeric reading crashes it. -/
structure Incomparable (left right : Value) (c : Crash) : Prop where
  left_not_null : left.isNull = false
  right_not_null : right.isNull = false
  numeric : left.isNumeric = true ∨ right.isNumeric = true
  crashes : left.Unreadable c ∨ (∀ d, ¬ left.Unreadable d) ∧ right.Unreadable c

/-- **The numeric reading of a value crashes** for these values and no others. -/
theorem toNumber?_eq_error_iff {v : Value} {c : Crash} :
    v.toNumber? = .error c ↔ v.Unreadable c := by
  constructor
  · intro h
    unfold toNumber? at h
    split at h
    · next b =>
      obtain ⟨-, i, hi, hLarge⟩ := Number.toBinary64_eq_error_iff.mp (map_eq_error_iff.mp h)
      -- a truth value counts as zero or one
      have hSmall : i.natAbs ≤ 1 := by cases b <;> cases hi <;> decide
      exact absurd hLarge (Nat.not_le.mpr (Nat.lt_of_le_of_lt hSmall Binary64.one_lt_overflow))
    · next n =>
      obtain ⟨rfl, i, rfl, hLarge⟩ :=
        Number.toBinary64_eq_error_iff.mp (map_eq_error_iff.mp h)
      exact .integer hLarge
    · next s => exact .text (Loose.readNumber_eq_error_iff.mp h)
    · cases h
  · intro h
    cases h with
    | integer hLarge =>
      exact map_eq_error_iff.mpr (Number.toBinary64_eq_error_iff.mpr ⟨rfl, _, rfl, hLarge⟩)
    | text h => exact Loose.readNumber_eq_error_iff.mpr h

/-- The first side without a numeric reading crashes the comparison by numbers. -/
theorem numericallyEquals_eq_error_iff {left right : Value} {c : Crash} :
    numericallyEquals left right = .error c ↔
      left.Unreadable c ∨ (∀ d, ¬ left.Unreadable d) ∧ right.Unreadable c := by
  simp only [← toNumber?_eq_error_iff]
  unfold numericallyEquals
  cases left.toNumber? with
  | error d =>
    simp only [bind, Except.bind, Except.error.injEq]
    refine ⟨Or.inl, fun h => h.elim id fun ⟨hNot, _⟩ => absurd rfl (hNot d)⟩
  | ok a =>
    cases right.toNumber? with
    | error d =>
      simp only [bind, Except.bind, Except.error.injEq, reduceCtorEq, not_false_eq_true,
        implies_true, true_and, false_or]
    | ok b =>
      -- both sides were read, so there is a result
      refine iff_of_false (fun h => ?_) (fun h => h.elim nofun fun h => nomatch h.2)
      cases a <;> cases b <;> cases h

/-- **A comparison crashes** for these pairs of values and no others. -/
theorem looselyEquals_eq_error_iff {left right : Value} {c : Crash} :
    left.looselyEquals right = .error c ↔ Incomparable left right c := by
  unfold looselyEquals
  -- null is compared first, then texts, and only numbers can crash
  by_cases hNull : (left.isNull || right.isNull) = true
  · rw [if_pos hNull]
    refine iff_of_false nofun fun h => ?_
    rw [h.left_not_null, h.right_not_null] at hNull
    cases hNull
  rw [if_neg hNull]
  obtain ⟨hLeft, hRight⟩ : left.isNull = false ∧ right.isNull = false := by simpa using hNull
  split
  · -- two texts are compared as texts
    exact iff_of_false nofun fun h => h.numeric.elim nofun nofun
  · by_cases hNumeric : (left.isNumeric || right.isNumeric) = true
    · rw [if_pos hNumeric, numericallyEquals_eq_error_iff]
      exact ⟨fun h => ⟨hLeft, hRight, Bool.or_eq_true_iff.mp hNumeric, h⟩, fun h => h.crashes⟩
    · rw [if_neg hNumeric]
      exact iff_of_false nofun fun h => hNumeric (Bool.or_eq_true_iff.mpr h.numeric)

end Value

/-! ## Searching an event layer -/

/-- The entry and the expected value cannot be compared. -/
def EntryCrashes (key : Text) (expected entry : Value) (c : Crash) : Prop :=
  ∃ data, entry.entries? = some data ∧ (Value.field data key).Incomparable expected c

/-- Comparing with an entry crashes exactly where a number in it cannot be read. -/
theorem entryEquals_eq_error_iff {key : Text} {expected entry : Value} {c : Crash} :
    entryEquals key expected entry = .error c ↔ EntryCrashes key expected entry c := by
  unfold entryEquals EntryCrashes
  cases entry.entries? with
  | none => simp only [reduceCtorEq, false_and, exists_false]
  | some data =>
    simp only [Option.some.injEq, exists_eq_left', Value.looselyEquals_eq_error_iff]

/-- Entries without the value are passed over. -/
theorem anyEntryEquals_append {key : Text} {expected : Value} {before : List Value}
    (h : ∀ e ∈ before, entryEquals key expected e = .ok false) (rest : List Value) :
    anyEntryEquals key expected (before ++ rest) = anyEntryEquals key expected rest := by
  induction before with
  | nil => rfl
  | cons first before ih =>
    rw [List.cons_append, anyEntryEquals, h first List.mem_cons_self]
    exact ih fun e he => h e (List.mem_cons_of_mem _ he)

/-- Searching a list of entries crashes at the first that is not passed over. -/
theorem anyEntryEquals_eq_error_iff {key : Text} {expected : Value} {entries : List Value}
    {c : Crash} :
    anyEntryEquals key expected entries = .error c ↔
      ∃ before entry after, entries = before ++ entry :: after ∧
        (∀ e ∈ before, entryEquals key expected e = .ok false) ∧
        EntryCrashes key expected entry c := by
  constructor
  · intro h
    -- by induction on the entries, which are compared one after the other up to the one that
    -- crashes
    induction entries with
    | nil => cases h
    | cons first rest ih =>
      rw [anyEntryEquals] at h
      cases hFirst : entryEquals key expected first with
      | error d =>
        rw [hFirst] at h
        obtain rfl : d = c := Except.error.inj h
        exact ⟨[], first, rest, rfl, nofun, entryEquals_eq_error_iff.mp hFirst⟩
      | ok found =>
        rw [hFirst] at h
        cases found with
        | true => cases h
        | false =>
          obtain ⟨before, entry, after, rfl, hBefore, hCrash⟩ := ih h
          refine ⟨first :: before, entry, after, rfl, ?_, hCrash⟩
          exact List.forall_mem_cons.mpr ⟨hFirst, hBefore⟩
  · rintro ⟨before, entry, after, rfl, hBefore, hCrash⟩
    rw [anyEntryEquals_append hBefore, anyEntryEquals, entryEquals_eq_error_iff.mpr hCrash]
    rfl

/-- **Searching an event layer crashes** exactly at the first entry that cannot be compared,
if no entry in front of it is the one that is looked for. -/
theorem layerContains_eq_crash_iff {layer : Value} {key : Text} {expected : Value}
    {name : Text} {c : Crash} :
    layerContains layer key expected name = .error (.crash c) ↔
      ∃ before entry after, layer.items? = some (before ++ entry :: after) ∧
        (∀ e ∈ before, entryEquals key expected e = .ok false) ∧
        EntryCrashes key expected entry c := by
  unfold layerContains
  cases layer.items? with
  | none => exact iff_of_false nofun nofun
  | some entries =>
    -- a crash of comparing is handed on as it is
    have hMap : (anyEntryEquals key expected entries).mapError Failure.crash = .error (.crash c) ↔
        anyEntryEquals key expected entries = .error c := by
      cases anyEntryEquals key expected entries with
      | ok found => exact iff_of_false nofun nofun
      | error d => simp only [Except.mapError, Except.error.injEq, Failure.crash.injEq]
    simp only [hMap, anyEntryEquals_eq_error_iff, Option.some.injEq]

end BeaconCheck
