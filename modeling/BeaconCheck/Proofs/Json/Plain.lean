import BeaconCheck.Json.Reader
import BeaconCheck.Json.Writer
import BeaconCheck.Proofs.Entries
import BeaconCheck.Proofs.Value.Showing

/-!
# Plain values

What is read from JSON is plain: it has only the kinds of value that JSON has, its objects
have names as keys, and its integers are short enough to be written. A plain value can always
be shown, and written again unless the style is strict and a number in it is not finite.

* `Value.Plain`                  — the values that JSON gives.
* `Value.HoldsNonFinite`         — an infinity or not-a-number is somewhere in the value.
* `Json.plain_of_ofBody?`        — the value of a body is plain.
* `Value.Plain.failsIff_writeAt` — when it cannot be written.
* `Value.Plain.not_holdsLong`    — a plain value can be shown.
-/

namespace BeaconCheck

namespace Value

/-- The value is one that JSON has a text for, apart from numbers that are not finite. -/
inductive Plain : Value → Prop
  | null : Plain .null
  | bool (b : Bool) : Plain (.bool b)
  | int {i : Int} (hShort : i.natAbs < digitBound) : Plain (.int i)
  | float (x : Binary64) : Plain (.float x)
  | text (t : Text) : Plain (.text t)
  | list {items : List Value} (hItems : ∀ x ∈ items, Plain x) : Plain (.list items)
  | object {entries : List (Scalar × Value)} (hNames : ∀ e ∈ entries, ∃ s, e.1 = .text s)
      (hValues : ∀ e ∈ entries, Plain e.2) : Plain (.object entries)

/-- Somewhere in the value is a number that is not finite. -/
inductive HoldsNonFinite : Value → Prop
  | number {x : Binary64} (h : x.toRat? = none) : HoldsNonFinite (.float x)
  | item {items : List Value} {x : Value} (hItem : x ∈ items) (h : HoldsNonFinite x) :
      HoldsNonFinite (.list items)
  | entry {entries : List (Scalar × Value)} {e : Scalar × Value} (hEntry : e ∈ entries)
      (h : HoldsNonFinite e.2) : HoldsNonFinite (.object entries)
  | target {target : Value} (h : HoldsNonFinite target) : HoldsNonFinite (.enclosing target)

/-- A float is itself what is looked for, or nothing is. -/
theorem holdsNonFinite_float {x : Binary64} :
    (Value.float x).HoldsNonFinite ↔ x.toRat? = none := by
  refine ⟨fun h => ?_, .number⟩
  cases h with
  | number h => exact h

theorem not_holdsNonFinite_text (t : Text) : ¬ (Value.text t).HoldsNonFinite := by
  intro h
  cases h

theorem not_holdsNonFinite_int (i : Int) : ¬ (Value.int i).HoldsNonFinite := by
  intro h
  cases h

/-- A list holds such a number in one of its items. -/
theorem holdsNonFinite_list {items : List Value} :
    (Value.list items).HoldsNonFinite ↔ ∃ x ∈ items, x.HoldsNonFinite := by
  constructor
  · intro h
    cases h with
    | item hItem h => exact ⟨_, hItem, h⟩
  · rintro ⟨x, hItem, h⟩
    exact .item hItem h

/-- An object holds such a number in one of its values; keys are not looked at. -/
theorem holdsNonFinite_object {entries : List (Scalar × Value)} :
    (Value.object entries).HoldsNonFinite ↔ ∃ e ∈ entries, e.2.HoldsNonFinite := by
  constructor
  · intro h
    cases h with
    | entry hEntry h => exact ⟨_, hEntry, h⟩
  · rintro ⟨e, hEntry, h⟩
    exact .entry hEntry h

/-! ### Objects with given fields -/

/-- An object with given fields is plain if these are. -/
theorem plain_ofFields {fields : List (String × Value)} (h : ∀ p ∈ fields, p.2.Plain) :
    (ofFields fields).Plain := by
  refine .object (fun e he => ?_) fun e he => ?_
  · obtain ⟨p, -, rfl⟩ := List.mem_map.mp he
    exact ⟨p.1, rfl⟩
  · obtain ⟨p, hMem, rfl⟩ := List.mem_map.mp he
    exact h p hMem

/-- An object with given fields holds such a number in one of them. -/
theorem holdsNonFinite_ofFields {fields : List (String × Value)} :
    (ofFields fields).HoldsNonFinite ↔ ∃ p ∈ fields, p.2.HoldsNonFinite := by
  rw [ofFields, holdsNonFinite_object]
  constructor
  · rintro ⟨e, hEntry, h⟩
    obtain ⟨p, hMem, rfl⟩ := List.mem_map.mp hEntry
    exact ⟨p, hMem, h⟩
  · rintro ⟨p, hMem, h⟩
    exact ⟨_, List.mem_map_of_mem hMem, h⟩

end Value

/-! ## Numerals -/

namespace Numeral

/-- A number is less than the power of the base that has one more digit. -/
theorem ofDigits_lt {base : Nat} {ds : List Nat} (h : ∀ d ∈ ds, d < base) :
    ofDigits base ds < base ^ ds.length := by
  -- the digits that were read before count as one more
  have hFold (n : Nat) :
      ds.foldl (fun n d => base * n + d) n < (n + 1) * base ^ ds.length := by
    induction ds generalizing n with
    | nil => simp only [List.foldl_nil, List.length_nil, pow_zero, mul_one, Nat.lt_succ_self]
    | cons d ds ih =>
      have hDigit : d < base := h d List.mem_cons_self
      calc (d :: ds).foldl (fun n d => base * n + d) n
          < (base * n + d + 1) * base ^ ds.length :=
            ih (fun d hd => h d (List.mem_cons_of_mem _ hd)) (base * n + d)
        _ ≤ (base * (n + 1)) * base ^ ds.length :=
            Nat.mul_le_mul_right _ (by rw [Nat.mul_succ]; omega)
        _ = (n + 1) * base ^ (d :: ds).length := by
            rw [List.length_cons, pow_succ]
            ring
  simpa only [ofDigits, zero_add, one_mul] using hFold 0

end Numeral

namespace Json

/-- The digits that are read are decimal. -/
theorem digits_lt (text : List Letter) : ∀ d ∈ (digits text).1, d < 10 := by
  -- by induction on the text, as far as there are digits
  induction text with
  | nil => nofun
  | cons c rest ih =>
    unfold digits
    split
    · next d hDigit =>
      intro e hMem
      rcases List.mem_cons.mp hMem with rfl | hRest
      · have hSmall := (Option.filter_eq_some_iff.mp hDigit).2
        exact of_decide_eq_true hSmall
      · exact ih e hRest
    · nofun

/-- The digits of a number in front of its point, of which a zero has none behind it. -/
def whole? (text : List Letter) : Option (List Nat × List Letter) :=
  match text with
  | .char '0' :: rest => some ([0], rest)
  | _ =>
    match digits text with
    | ([], _) => none
    | found => some found

/-- The number that goes on with the text behind the digits in front of its point. -/
def numberOf (negative : Bool) (whole : List Nat) (text : List Letter) :
    Option (Value × List Letter) :=
  let (part, rest) := fraction text
  let power := exponent? rest
  if part.isEmpty && power.isNone then
    if 4300 < whole.length then none
    else
      let n : Int := Numeral.ofDigits 10 whole
      some (.int (if negative then -n else n), rest)
  else
    let (e, rest) := power.getD (0, rest)
    some (.float (.ofDecimal negative (Numeral.ofDigits 10 (whole ++ part))
      (e - part.length)), rest)

/-- A number is read in two parts: the digits before the point, and all the rest. -/
theorem number_eq (negative : Bool) (text : List Letter) :
    number negative text = (whole? text).bind fun p => numberOf negative p.1 p.2 := by
  -- the integer part is read by itself, whatever is read behind it
  have hWhole (next : List Nat × List Letter → Option (Value × List Letter)) :
      (match text with
        | .char '0' :: rest => some ([0], rest) >>= next
        | _ =>
          match digits text with
          | ([], _) => none >>= next
          | found => some found >>= next) = (whole? text).bind next := by
    unfold whole?
    split
    · rfl
    · split <;> rfl
  exact hWhole fun p => numberOf negative p.1 p.2

/-- The digits before the point are decimal. -/
theorem whole?_lt {text rest : List Letter} {whole : List Nat}
    (h : whole? text = some (whole, rest)) : ∀ d ∈ whole, d < 10 := by
  unfold whole? at h
  split at h
  · obtain ⟨rfl, -⟩ := Prod.mk.inj (Option.some.inj h)
    decide
  · split at h
    · cases h
    · have hDigits := digits_lt text
      rw [Option.some.inj h] at hDigits
      exact hDigits

/-- A number of at most 4300 digits is below the bound. -/
theorem pow_le_digitBound {n : Nat} (h : n ≤ 4300) : 10 ^ n ≤ digitBound := by
  unfold digitBound
  -- the power itself is never computed
  generalize 4300 = bound at h ⊢
  exact Nat.pow_le_pow_right (Nat.succ_pos 9) h

/-- An integer that is read has few enough digits to be written. -/
theorem plain_of_number {negative : Bool} {text rest : List Letter} {v : Value}
    (h : number negative text = some (v, rest)) : v.Plain := by
  rw [number_eq] at h
  obtain ⟨⟨whole, behind⟩, hWhole, h⟩ := Option.bind_eq_some_iff.mp h
  unfold numberOf at h
  simp only [] at h
  split at h
  · split at h
    · cases h
    · next hLength =>
      obtain ⟨rfl, -⟩ := Prod.mk.inj (Option.some.inj h)
      -- what has no more digits than can be read is below the bound
      have hShort : Numeral.ofDigits 10 whole < digitBound :=
        Nat.lt_of_lt_of_le (Numeral.ofDigits_lt (whole?_lt hWhole))
          (pow_le_digitBound (Nat.not_lt.mp hLength))
      refine .int ?_
      split
      · rwa [Int.natAbs_neg, Int.natAbs_natCast]
      · rwa [Int.natAbs_natCast]
  · obtain ⟨rfl, -⟩ := Prod.mk.inj (Option.some.inj h)
    exact .float _

end Json

/-! ## Reading -/

namespace Json

/-- The name is a text and the value is plain. -/
def PlainEntry (e : Scalar × Value) : Prop :=
  (∃ s, e.1 = .text s) ∧ e.2.Plain

/-- An object is plain if its entries are. -/
theorem plain_object {entries : List (Scalar × Value)} (h : ∀ e ∈ entries, PlainEntry e) :
    (Value.object entries).Plain :=
  .object (fun e he => (h e he).1) fun e he => (h e he).2

/-- A word of three or four letters stands for one plain value. -/
theorem plain_of_literal {v found : Value} {rest : List Letter} {read : Option (List Letter)}
    (hPlain : v.Plain) (h : read.map (fun behind => (v, behind)) = some (found, rest)) :
    found.Plain := by
  obtain ⟨_, -, hFound⟩ := Option.map_eq_some_iff.mp h
  obtain ⟨rfl, -⟩ := Prod.mk.inj hFound
  exact hPlain

section Reading

variable {fuel : Nat} {text rest : List Letter}

/-- A value is plain if what is read inside of it is. -/
theorem plain_of_value {v : Value}
    (ihItems : ∀ {text rest vs}, items fuel text = some (vs, rest) → ∀ v ∈ vs, v.Plain)
    (ihEntries : ∀ {text rest es}, entries fuel text = some (es, rest) → ∀ e ∈ es, PlainEntry e)
    (h : value (fuel + 1) text = some (v, rest)) : v.Plain := by
  cases text with
  | nil => cases h
  | cons c behind =>
    unfold value at h
    split at h
    · -- a string
      obtain ⟨p, -, hFound⟩ := Option.map_eq_some_iff.mp h
      obtain ⟨rfl, -⟩ := Prod.mk.inj hFound
      exact .text _
    · -- a list
      split at h
      · obtain ⟨rfl, -⟩ := Prod.mk.inj (Option.some.inj h)
        exact .list nofun
      · obtain ⟨p, hItems, hFound⟩ := Option.map_eq_some_iff.mp h
        obtain ⟨rfl, -⟩ := Prod.mk.inj hFound
        exact .list (ihItems hItems)
    · -- an object
      split at h
      · obtain ⟨rfl, -⟩ := Prod.mk.inj (Option.some.inj h)
        exact .object nofun nofun
      · obtain ⟨p, hEntries, hFound⟩ := Option.map_eq_some_iff.mp h
        obtain ⟨rfl, -⟩ := Prod.mk.inj hFound
        exact plain_object (Entries.forall_ofPairs (K := fun name => ∃ s, name = Scalar.text s)
          (V := Value.Plain) (ihEntries hEntries))
    · exact plain_of_literal .null h
    · exact plain_of_literal (.bool true) h
    · exact plain_of_literal (.bool false) h
    · exact plain_of_literal (.float .nan) h
    · exact plain_of_literal (.float (.infinite false)) h
    · -- a minus sign
      split at h
      · obtain ⟨rfl, -⟩ := Prod.mk.inj (Option.some.inj h)
        exact .float _
      · exact plain_of_number h
    · exact plain_of_number h

/-- The items of a list are plain, one after the other. -/
theorem plain_of_items {vs : List Value}
    (ihValue : ∀ {text rest v}, value fuel text = some (v, rest) → v.Plain)
    (ihItems : ∀ {text rest vs}, items fuel text = some (vs, rest) → ∀ v ∈ vs, v.Plain)
    (h : items (fuel + 1) text = some (vs, rest)) : ∀ v ∈ vs, v.Plain := by
  unfold items at h
  obtain ⟨⟨first, behind⟩, hFirst, h⟩ := Option.bind_eq_some_iff.mp h
  simp only [] at h
  -- behind the first item the list ends, or another one follows
  split at h
  · obtain ⟨rfl, -⟩ := Prod.mk.inj (Option.some.inj h)
    exact List.forall_mem_singleton.mpr (ihValue hFirst)
  · obtain ⟨⟨more, behind⟩, hMore, h⟩ := Option.bind_eq_some_iff.mp h
    obtain ⟨rfl, -⟩ := Prod.mk.inj (Option.some.inj h)
    exact List.forall_mem_cons.mpr ⟨ihValue hFirst, ihItems hMore⟩
  · cases h

/-- The entries of an object are plain, one after the other. -/
theorem plain_of_entries {es : List (Scalar × Value)}
    (ihValue : ∀ {text rest v}, value fuel text = some (v, rest) → v.Plain)
    (ihEntries : ∀ {text rest es}, entries fuel text = some (es, rest) → ∀ e ∈ es, PlainEntry e)
    (h : entries (fuel + 1) text = some (es, rest)) : ∀ e ∈ es, PlainEntry e := by
  unfold entries at h
  split at h
  · obtain ⟨⟨name, behind⟩, -, h⟩ := Option.bind_eq_some_iff.mp h
    obtain ⟨behind, -, h⟩ := Option.bind_eq_some_iff.mp h
    obtain ⟨⟨first, behind⟩, hFirst, h⟩ := Option.bind_eq_some_iff.mp h
    -- the name is a text, whatever its letters are, and the value is plain
    have hEntry : PlainEntry (.text (.ofLetters name), first) := ⟨⟨_, rfl⟩, ihValue hFirst⟩
    simp only [] at h
    split at h
    · obtain ⟨rfl, -⟩ := Prod.mk.inj (Option.some.inj h)
      exact List.forall_mem_singleton.mpr hEntry
    · obtain ⟨⟨more, behind⟩, hMore, h⟩ := Option.bind_eq_some_iff.mp h
      obtain ⟨rfl, -⟩ := Prod.mk.inj (Option.some.inj h)
      exact List.forall_mem_cons.mpr ⟨hEntry, ihEntries hMore⟩
    · cases h
  · cases h

end Reading

/-- Values, items and entries that are read are plain, however deep the reading goes. -/
theorem plain_of_reading (fuel : Nat) :
    (∀ {text rest v}, value fuel text = some (v, rest) → v.Plain) ∧
      (∀ {text rest vs}, items fuel text = some (vs, rest) → ∀ v ∈ vs, v.Plain) ∧
      ∀ {text rest es}, entries fuel text = some (es, rest) → ∀ e ∈ es, PlainEntry e := by
  -- the three readers call one another with less fuel, so one induction carries all three
  induction fuel with
  | zero => exact ⟨nofun, nofun, nofun⟩
  | succ fuel ih =>
    obtain ⟨ihValue, ihItems, ihEntries⟩ := ih
    exact ⟨plain_of_value ihItems ihEntries, plain_of_items ihValue ihItems,
      plain_of_entries ihValue ihEntries⟩

/-- **Reading JSON gives plain values.** -/
theorem plain_of_ofBody? {body : List UInt8} {v : Value} (h : ofBody? body = some v) :
    v.Plain := by
  obtain ⟨text, -, h⟩ := Option.bind_eq_some_iff.mp h
  obtain ⟨⟨found, rest⟩, hFound, h⟩ := Option.bind_eq_some_iff.mp h
  simp only [] at h
  split at h
  · obtain rfl := Option.some.inj h
    exact (plain_of_reading _).1 hFound
  · cases h

end Json

/-! ## Writing -/

namespace Json

variable {style : Style} {level : Nat}

/-- Writing items fails exactly for a number that is not finite in one of them. -/
theorem failsIff_writeItems {items : List Value}
    (h : ∀ x ∈ items, FailsIff .notFinite (writeAt style level x)
      (style.strict = true ∧ x.HoldsNonFinite)) :
    FailsIff .notFinite (writeItems style level items)
      (style.strict = true ∧ ∃ x ∈ items, x.HoldsNonFinite) := by
  -- by induction on the items: the first that cannot be written fails them all
  induction items with
  | nil => exact (FailsIff.ok []).congr (iff_of_false id fun ⟨_, x, hx, _⟩ => nomatch hx)
  | cons x items ih =>
    have hRest := ih fun y hy => h y (List.mem_cons_of_mem x hy)
    rw [writeItems]
    refine ((h x List.mem_cons_self).bind fun first => hRest.map _).congr ?_
    rw [List.exists_mem_cons_iff, and_or_left]

/-- Writing entries with texts as keys fails exactly for such a number in one of the values. -/
theorem failsIff_writeEntries {entries : List (Scalar × Value)}
    (hNames : ∀ e ∈ entries, ∃ s, e.1 = .text s)
    (h : ∀ e ∈ entries, FailsIff .notFinite (writeAt style level e.2)
      (style.strict = true ∧ e.2.HoldsNonFinite)) :
    FailsIff .notFinite (writeEntries style level entries)
      (style.strict = true ∧ ∃ e ∈ entries, e.2.HoldsNonFinite) := by
  -- by induction on the entries; a key that is a text cannot fail to be written
  induction entries with
  | nil => exact (FailsIff.ok []).congr (iff_of_false id fun ⟨_, e, he, _⟩ => nomatch he)
  | cons e entries ih =>
    obtain ⟨name, x⟩ := e
    obtain ⟨s, rfl⟩ := hNames _ List.mem_cons_self
    have hRest := ih (fun f hf => hNames f (List.mem_cons_of_mem _ hf))
      fun f hf => h f (List.mem_cons_of_mem _ hf)
    rw [writeEntries]
    refine ((h _ List.mem_cons_self).bind fun first => hRest.map _).congr ?_
    rw [List.exists_mem_cons_iff, and_or_left]

/-- Writing a float fails exactly if it is not finite and the style is strict. -/
theorem failsIff_writeNumber (x : Binary64) :
    FailsIff .notFinite (writeNumber style (.float x))
      (style.strict = true ∧ x.toRat? = none) := by
  -- a number that is not finite is written by its name, unless the style is strict
  have hRefused (text : String) : FailsIff .notFinite
      (if style.strict = true then .error .notFinite else .ok text)
      (style.strict = true ∧ (none : Option Rat) = none) := by
    intro c
    split
    · next hStrict =>
      exact ⟨fun h => ⟨(Except.error.inj h).symm, hStrict, rfl⟩, fun h => by rw [h.1]⟩
    · next hLoose => exact iff_of_false nofun fun h => hLoose h.2.1
  cases x with
  | finite => exact (FailsIff.ok _).congr (iff_of_false id fun h => nomatch h.2)
  | nan => exact hRefused _
  | infinite negative => exact hRefused _

end Json

namespace Value.Plain

variable {v : Value}

/-- **A plain value is written** unless the style is strict and the value holds a number that is
not finite. -/
theorem failsIff_writeAt (h : v.Plain) (style : Json.Style) (level : Nat) :
    FailsIff .notFinite (Json.writeAt style level v)
      (style.strict = true ∧ v.HoldsNonFinite) := by
  -- only a number can be not finite, so that all others are written
  induction h generalizing level with
  | null => exact (FailsIff.ok _).congr (iff_of_false id fun h => nomatch h.2)
  | bool b => exact (FailsIff.ok _).congr (iff_of_false id fun h => nomatch h.2)
  | text s => exact (FailsIff.ok _).congr (iff_of_false id fun h => nomatch h.2)
  | int hShort =>
    rw [Json.writeAt, Json.writeScalar, Json.writeNumber, integerText_of_lt hShort]
    exact (FailsIff.ok _).congr (iff_of_false id fun h => nomatch h.2)
  | float x =>
    rw [Json.writeAt, Json.writeScalar, holdsNonFinite_float]
    exact (Json.failsIff_writeNumber x).map _
  | list _ ih =>
    rw [Json.writeAt, holdsNonFinite_list]
    exact (Json.failsIff_writeItems fun x hx => ih x hx (level + 1)).map _
  | object hNames _ ih =>
    rw [Json.writeAt, holdsNonFinite_object]
    exact (Json.failsIff_writeEntries hNames fun e he => ih e he (level + 1)).map _

/-! ## Numbers in plain values -/

/-- Every number in a plain value can be written. -/
theorem not_isLong (h : v.Plain) {through : Bool} {n : Number} (hContains : v.Contains through n) :
    ¬ n.IsLong := by
  -- an integer of a plain value is short, and keys are texts
  induction h with
  | null | bool | text => cases hContains
  | int hShort =>
    cases hContains
    exact Nat.not_le.mpr hShort
  | float x =>
    cases hContains
    exact id
  | list _ ih =>
    obtain ⟨x, hItem, hContains⟩ := contains_list.mp hContains
    exact ih x hItem hContains
  | object hNames _ ih =>
    obtain ⟨e, hEntry, hKey | hContains⟩ := contains_object.mp hContains
    · obtain ⟨s, hName⟩ := hNames e hEntry
      rw [hName] at hKey
      cases hKey
    · exact ih e hEntry hContains

/-- A plain value can be shown. -/
theorem not_holdsLong (h : v.Plain) : ¬ v.HoldsLong :=
  fun ⟨_, hContains, hLong⟩ => h.not_isLong hContains hLong

/-- The numbers in a plain value that are not finite are those that it holds. -/
theorem holdsNonFinite_of_contains (h : v.Plain) {x : Binary64}
    {through : Bool} (hContains : v.Contains through (.float x)) (hValue : x.toRat? = none) : v.HoldsNonFinite := by
  -- the number is the value itself, or it is in an item or an entry
  induction h with
  | null | bool | int | text => cases hContains
  | float y =>
    cases hContains
    exact .number hValue
  | list _ ih =>
    obtain ⟨y, hItem, hContains⟩ := contains_list.mp hContains
    exact .item hItem (ih y hItem hContains)
  | object hNames _ ih =>
    obtain ⟨e, hEntry, hKey | hContains⟩ := contains_object.mp hContains
    · obtain ⟨s, hName⟩ := hNames e hEntry
      rw [hName] at hKey
      cases hKey
    · exact .entry hEntry (ih e hEntry hContains)

end Value.Plain

end BeaconCheck
