import BeaconCheck.Proofs.Computation
import BeaconCheck.Proofs.Json.Plain

/-!
# Halves of surrogate pairs in what is written

A text of a value can hold a half of a surrogate pair, and writing the value takes it over as
it is. What is written has no bytes then.

* `Value.HoldsHalf`           — a text of the value, also a name, holds a half.
* `Json.holdsHalf_write`      — what is written holds a half exactly if the value does.
-/

namespace BeaconCheck

/-- The text holds a half of a surrogate pair. -/
def Text.HoldsHalf (t : Text) : Prop :=
  t.isWhole = false

instance (t : Text) : Decidable t.HoldsHalf :=
  inferInstanceAs (Decidable (t.isWhole = false))

theorem Text.not_holdsHalf_whole (s : String) : ¬ (Text.whole s).HoldsHalf := nofun

/-- No half comes up or gets lost when texts are put together. -/
theorem Text.holdsHalf_append {s t : Text} :
    (s ++ t).HoldsHalf ↔ s.HoldsHalf ∨ t.HoldsHalf := by
  rw [HoldsHalf, isWhole_append, Bool.and_eq_false_iff]
  exact Iff.rfl

theorem Text.not_holdsHalf_iff {t : Text} : ¬ t.HoldsHalf ↔ ∃ s, t = .whole s := by
  rw [← isWhole_iff, HoldsHalf, Bool.not_eq_false]

/-- The text can be encoded exactly if it holds no half. -/
theorem Utf8.writable_eq_ok_iff {t : Text} {s : String} : writable t = .ok s ↔ t = .whole s := by
  cases t with
  | whole s' => simp [writable]
  | broken => exact iff_of_false nofun nofun

/-- Encoding fails exactly for texts that hold a half. -/
theorem Utf8.writable_eq_error_iff {t : Text} :
    (∃ halves, writable t = .error halves) ↔ t.HoldsHalf := by
  cases t with
  | whole s => exact iff_of_false nofun (Text.not_holdsHalf_whole s)
  | broken => exact iff_of_true ⟨_, rfl⟩ rfl

/-- A scalar is a text that holds a half. -/
def Scalar.HoldsHalf : Scalar → Prop
  | .text t => t.HoldsHalf
  | _ => False

namespace Value

/-- A text in the value, be it the name of an entry, holds a half. Sets are left out: they are
not written. -/
inductive HoldsHalf : Value → Prop
  | scalar {s : Scalar} (h : s.HoldsHalf) : HoldsHalf (.scalar s)
  | item {items : List Value} {x : Value} (hItem : x ∈ items) (h : HoldsHalf x) :
      HoldsHalf (.list items)
  | key {entries : List (Scalar × Value)} {e : Scalar × Value} (hEntry : e ∈ entries)
      (h : e.1.HoldsHalf) : HoldsHalf (.object entries)
  | entry {entries : List (Scalar × Value)} {e : Scalar × Value} (hEntry : e ∈ entries)
      (h : HoldsHalf e.2) : HoldsHalf (.object entries)
  | first {a b : Value} (h : HoldsHalf a) : HoldsHalf (.pair a b)
  | second {a b : Value} (h : HoldsHalf b) : HoldsHalf (.pair a b)

theorem holdsHalf_scalar {s : Scalar} : (Value.scalar s).HoldsHalf ↔ s.HoldsHalf := by
  refine ⟨fun h => ?_, .scalar⟩
  cases h with
  | scalar h => exact h

theorem holdsHalf_text {t : Text} : (Value.text t).HoldsHalf ↔ t.HoldsHalf :=
  holdsHalf_scalar

/-- A list holds a half if one of its items does. -/
theorem holdsHalf_list {items : List Value} :
    (Value.list items).HoldsHalf ↔ ∃ x ∈ items, x.HoldsHalf := by
  constructor
  · intro h
    cases h with
    | item hItem h => exact ⟨_, hItem, h⟩
  · rintro ⟨x, hItem, h⟩
    exact .item hItem h

/-- An object holds a half in a key or in a value. -/
theorem holdsHalf_object {entries : List (Scalar × Value)} :
    (Value.object entries).HoldsHalf ↔ ∃ e ∈ entries, e.1.HoldsHalf ∨ e.2.HoldsHalf := by
  constructor
  · intro h
    cases h with
    | key hEntry h => exact ⟨_, hEntry, .inl h⟩
    | entry hEntry h => exact ⟨_, hEntry, .inr h⟩
  · rintro ⟨e, hEntry, h | h⟩
    · exact .key hEntry h
    · exact .entry hEntry h

/-- A pair holds a half in one of its two parts. -/
theorem holdsHalf_pair {a b : Value} :
    (Value.pair a b).HoldsHalf ↔ a.HoldsHalf ∨ b.HoldsHalf := by
  constructor
  · intro h
    cases h with
    | first h => exact .inl h
    | second h => exact .inr h
  · rintro (h | h)
    · exact .first h
    · exact .second h

/-- Given names hold no half. -/
theorem holdsHalf_ofFields {fields : List (String × Value)} :
    (ofFields fields).HoldsHalf ↔ ∃ p ∈ fields, p.2.HoldsHalf := by
  rw [ofFields, holdsHalf_object]
  constructor
  · rintro ⟨e, hEntry, h⟩
    obtain ⟨p, hMem, rfl⟩ := List.mem_map.mp hEntry
    exact ⟨p, hMem, h.resolve_left (Text.not_holdsHalf_whole p.1)⟩
  · rintro ⟨p, hMem, h⟩
    exact ⟨_, List.mem_map_of_mem hMem, .inr h⟩

end Value

/-! ## Writing -/

namespace Json

variable {style : Style} {level : Nat}

theorem holdsHalf_writeText {t : Text} : (writeText t).HoldsHalf ↔ t.HoldsHalf := by
  simp [writeText, Text.HoldsHalf]

/-- What is written of a scalar holds a half if the scalar does. -/
theorem holdsHalf_writeScalar {s : Scalar} {text : Text} (h : writeScalar style s = .ok text) :
    text.HoldsHalf ↔ s.HoldsHalf := by
  cases s with
  | text t =>
    cases h
    exact holdsHalf_writeText
  | null =>
    cases h
    exact iff_of_false nofun id
  | bool b =>
    cases h
    exact iff_of_false nofun id
  | number n =>
    -- what a number is written as is a string
    obtain ⟨s, -, rfl⟩ := map_eq_ok_iff.mp h
    exact iff_of_false nofun id
  | bytes bs => cases h
  | stamp t => cases h

/-- What is written of a key holds a half if the key does; a key that is no text is quoted, and
holds none. -/
theorem holdsHalf_writeKey {s : Scalar} {text : Text} (h : writeKey style s = .ok text) :
    text.HoldsHalf ↔ s.HoldsHalf := by
  -- a key that is no text is written as its text is
  have hOther (h : (writeScalar style s).map writeText = .ok text) :
      text.HoldsHalf ↔ s.HoldsHalf := by
    obtain ⟨inner, hInner, rfl⟩ := map_eq_ok_iff.mp h
    exact holdsHalf_writeText.trans (holdsHalf_writeScalar hInner)
  cases s with
  | text t =>
    cases h
    exact holdsHalf_writeText
  | null => exact hOther h
  | bool b => exact hOther h
  | number n => exact hOther h
  | bytes bs => cases h
  | stamp t => cases h

/-- Brackets, separators and line ends add no half. -/
theorem isWhole_enclose (style : Style) (level : Nat) (opening closing : String)
    (parts : List Text) :
    (enclose style level opening closing parts).isWhole = parts.all Text.isWhole := by
  unfold enclose
  split
  · next hEmpty =>
    rw [List.isEmpty_iff.mp hEmpty]
    rfl
  · simp [Text.isWhole_intercalate]

/-- Parts in brackets hold a half exactly if one of them does. -/
theorem holdsHalf_enclose {opening closing : String} {parts : List Text} :
    (enclose style level opening closing parts).HoldsHalf ↔ ∃ part ∈ parts, part.HoldsHalf := by
  rw [Text.HoldsHalf, isWhole_enclose, List.all_eq_false]
  simp only [Text.HoldsHalf, Bool.not_eq_true]

mutual

/-- At every level of indentation, what is written of a value holds a half if the value does. -/
theorem holdsHalf_writeAt : ∀ {level : Nat} {v : Value} {text : Text},
    writeAt style level v = .ok text → (text.HoldsHalf ↔ v.HoldsHalf)
  -- by recursion on the value, along with its items and its entries
  | level, .scalar s, text, h => by
    rw [writeAt] at h
    rw [Value.holdsHalf_scalar]
    exact holdsHalf_writeScalar h
  | level, .list items, text, h => by
    rw [writeAt] at h
    obtain ⟨parts, hParts, hText⟩ := bind_eq_ok.mp h
    cases hText
    rw [holdsHalf_enclose, Value.holdsHalf_list]
    exact holdsHalf_writeItems hParts
  | level, .object entries, text, h => by
    rw [writeAt] at h
    obtain ⟨parts, hParts, hText⟩ := bind_eq_ok.mp h
    cases hText
    rw [holdsHalf_enclose, Value.holdsHalf_object]
    exact holdsHalf_writeEntries hParts
  | level, .pair a b, text, h => by
    rw [writeAt] at h
    obtain ⟨first, hFirst, h⟩ := bind_eq_ok.mp h
    obtain ⟨second, hSecond, hText⟩ := bind_eq_ok.mp h
    cases hText
    rw [holdsHalf_enclose, Value.holdsHalf_pair, ← holdsHalf_writeAt hFirst,
      ← holdsHalf_writeAt hSecond]
    simp only [List.mem_cons, List.not_mem_nil, or_false, exists_eq_or_imp, exists_eq_left]
  | level, .set members, text, h => by
    rw [writeAt] at h
    cases h
  | level, .enclosing target, text, h => by
    rw [writeAt] at h
    cases h

/-- The same for the items of a list, each written by itself. -/
theorem holdsHalf_writeItems : ∀ {level : Nat} {items : List Value} {parts : List Text},
    writeItems style level items = .ok parts →
      ((∃ part ∈ parts, part.HoldsHalf) ↔ ∃ x ∈ items, x.HoldsHalf)
  | level, [], parts, h => by
    cases h
    exact iff_of_false nofun nofun
  | level, x :: rest, parts, h => by
    -- the first item and the rest of them, each with what is written of it
    rw [writeItems] at h
    obtain ⟨first, hFirst, h⟩ := bind_eq_ok.mp h
    obtain ⟨others, hOthers, hParts⟩ := bind_eq_ok.mp h
    cases hParts
    rw [List.exists_mem_cons_iff, List.exists_mem_cons_iff, holdsHalf_writeAt hFirst,
      holdsHalf_writeItems hOthers]

/-- The same for the entries of an object, each written with its key. -/
theorem holdsHalf_writeEntries :
    ∀ {level : Nat} {entries : List (Scalar × Value)} {parts : List Text},
    writeEntries style level entries = .ok parts →
      ((∃ part ∈ parts, part.HoldsHalf) ↔
        ∃ e ∈ entries, e.1.HoldsHalf ∨ e.2.HoldsHalf)
  | level, [], parts, h => by
    cases h
    exact iff_of_false nofun nofun
  | level, (key, x) :: rest, parts, h => by
    -- the key, the value and the rest of the entries, in the order in which they are written
    rw [writeEntries] at h
    obtain ⟨name, hName, h⟩ := bind_eq_ok.mp h
    obtain ⟨value, hValue, h⟩ := bind_eq_ok.mp h
    obtain ⟨others, hOthers, hParts⟩ := bind_eq_ok.mp h
    cases hParts
    rw [List.exists_mem_cons_iff, List.exists_mem_cons_iff, Text.holdsHalf_append,
      Text.holdsHalf_append, holdsHalf_writeKey hName, holdsHalf_writeAt hValue,
      holdsHalf_writeEntries hOthers, or_iff_left (Text.not_holdsHalf_whole _)]

end

/-- **What is written of a value holds a half** exactly if a text of the value does. -/
theorem holdsHalf_write {v : Value} {text : Text} (h : write style v = .ok text) :
    text.HoldsHalf ↔ v.HoldsHalf :=
  holdsHalf_writeAt h

end Json

end BeaconCheck
