import Mathlib.Data.List.Permutation
import BeaconCheck.Proofs.Definition.Reading
import BeaconCheck.Proofs.Value.Comparison

/-!
# The tolerant comparison is symmetric

The comparison looks at the kinds of both sides in a fixed order, and reads both as numbers if
one of them is a number or a truth value. None of this tells the sides apart: which comparisons
crash and what the others give stays the same when the sides change places. Where no number is
involved, values are compared by content, and an object is found in another if each of its
entries is. That is symmetric because names are distinct: as many names that are all found are
all the names that there are.

* `Value.IsJson`             — the values that a JSON text can write.
* `Number.equals_comm`, `Scalar.same_comm` — equality of numbers and of scalars is symmetric.
* `Value.sameEntries_swap`   — the entries of two objects of one size.
* `Value.IsJson.same_comm`   — equality by content is symmetric.
* `Value.looselyEquals_comm` — the comparison is symmetric, and null equals null only.
-/

namespace BeaconCheck

/-! ## Numbers and scalars -/

theorem Binary64.equals_comm (x y : Binary64) : x.equals y = y.equals x := by
  cases x <;> cases y <;> simp only [equals, toRat?, Bool.beq_comm]

theorem Number.equals_comm (x y : Number) : x.equals y = y.equals x := by
  cases x <;> cases y <;> simp only [equals, BEq.comm, Binary64.equals_comm]

theorem Scalar.same_comm (s t : Scalar) : s.same t = t.same s := by
  cases s <;> cases t <;> simp only [same, BEq.comm, Number.equals_comm]

/-- No other key is the same as a name. -/
theorem Scalar.eq_text_of_same {k : Scalar} {s : Text} (h : (k == .text s) = true) :
    k = .text s := by
  cases k with
  | text t => exact congrArg Scalar.text (eq_of_beq h)
  | _ => cases h

namespace Value

/-! ## The values of JSON -/

/-- The value is one that a JSON text can write: integers may have any size, floats may be
infinities or not-a-number, and the names of an object are distinct. -/
inductive IsJson : Value → Prop
  | null : IsJson .null
  | bool (b : Bool) : IsJson (.bool b)
  | number (n : Number) : IsJson (.number n)
  | text (s : Text) : IsJson (.text s)
  | list {items : List Value} (hItems : ∀ x ∈ items, IsJson x) : IsJson (.list items)
  | object {entries : List (Scalar × Value)} (hNames : ∀ e ∈ entries, ∃ s, e.1 = .text s)
      (hDistinct : (entries.map Prod.fst).Nodup) (hValues : ∀ e ∈ entries, IsJson e.2) :
      IsJson (.object entries)

/-- An object with given fields is one of JSON if these are and have distinct names. -/
theorem isJson_ofFields {fields : List (String × Value)}
    (hDistinct : (fields.map Prod.fst).Nodup) (h : ∀ p ∈ fields, p.2.IsJson) :
    (ofFields fields).IsJson := by
  refine .object (fun e he => ?_) ?_ fun e he => ?_
  · obtain ⟨p, -, rfl⟩ := List.mem_map.mp he
    exact ⟨p.1, rfl⟩
  -- names differ as keys where they differ as texts
  · have hKeys : (fields.map fun p => ((.text p.1, p.2) : Scalar × Value)).map Prod.fst =
        (fields.map Prod.fst).map fun name => .text name := by
      simp
    rw [hKeys]
    exact hDistinct.map fun _ _ same => Text.whole.inj (Scalar.text.inj same)
  · obtain ⟨p, hMem, rfl⟩ := List.mem_map.mp he
    exact h p hMem

section Names

variable {entries : List (Scalar × Value)} {s : Text} {v : Value}

/-- What is found under a name is an entry of that name. -/
theorem mem_of_get?_text (h : Entries.get? entries (.text s) = some v) :
    (.text s, v) ∈ entries := by
  -- by induction on the entries, of which the first with the name is the one found
  induction entries with
  | nil => cases h
  | cons e rest ih =>
    obtain ⟨k, w⟩ := e
    rw [Entries.get?] at h
    split at h
    · next hKey =>
      rw [Scalar.eq_text_of_same hKey, Option.some.inj h]
      exact List.mem_cons_self
    · exact List.mem_cons_of_mem _ (ih h)

/-- Where names are distinct, an entry is found under its name. -/
theorem get?_text_of_mem (hDistinct : (entries.map Prod.fst).Nodup) (h : (.text s, v) ∈ entries) :
    Entries.get? entries (.text s) = some v := by
  -- by induction on the entries, of which the look-up takes the first with the name
  induction entries with
  | nil => cases h
  | cons e rest ih =>
    obtain ⟨k, w⟩ := e
    obtain ⟨hNew, hRest⟩ := List.nodup_cons.mp hDistinct
    rw [Entries.get?]
    rcases List.mem_cons.mp h with hFirst | hLater
    · cases hFirst
      exact if_pos (beq_self_eq_true s)
    · -- the first entry has another name
      have hOther : ¬ (k == Scalar.text s) = true := by
        intro hKey
        have hMem : k ∈ rest.map Prod.fst := by
          rw [Scalar.eq_text_of_same hKey]
          exact List.mem_map_of_mem hLater
        exact hNew hMem
      rw [if_neg hOther]
      exact ih hRest hLater

end Names

/-! ## Equality by content -/

/-- Entries are found in others if each is found there with the same value. -/
theorem sameEntries_iff {es fs : List (Scalar × Value)} :
    sameEntries es fs = true ↔
      ∀ e ∈ es, ∃ y, Entries.get? fs e.1 = some y ∧ e.2.same y = true := by
  induction es with
  | nil => simp [sameEntries]
  | cons e es ih =>
    obtain ⟨k, x⟩ := e
    have hFirst : sameUnder x (Entries.get? fs k) = true ↔
        ∃ y, Entries.get? fs k = some y ∧ x.same y = true := by
      cases Entries.get? fs k <;> simp [sameUnder]
    rw [sameEntries, Bool.and_eq_true, hFirst, ih, List.forall_mem_cons]

/-- **Objects of one size.** If each entry of the first is found in the second, then each entry
of the second is found in the first, as long as the values are the same the other way round. -/
theorem sameEntries_swap {es fs : List (Scalar × Value)}
    (hNames : ∀ e ∈ es, ∃ s, e.1 = .text s) (hEs : (es.map Prod.fst).Nodup)
    (hFs : (fs.map Prod.fst).Nodup) (hSize : fs.length ≤ es.length)
    (hSwap : ∀ e ∈ es, ∀ f ∈ fs, e.2.same f.2 = true → f.2.same e.2 = true)
    (h : sameEntries es fs = true) : sameEntries fs es = true := by
  rw [sameEntries_iff] at h ⊢
  -- what is found under the name of an entry is an entry of the other object
  have hFound : ∀ e ∈ es, ∃ f ∈ fs, f.1 = e.1 ∧ e.2.same f.2 = true := by
    intro e he
    obtain ⟨y, hGet, hSame⟩ := h e he
    obtain ⟨s, hName⟩ := hNames e he
    rw [hName] at hGet ⊢
    exact ⟨_, mem_of_get?_text hGet, rfl, hSame⟩
  -- so the names of the one are the names of the other
  have hSub : es.map Prod.fst ⊆ fs.map Prod.fst := by
    intro k hk
    obtain ⟨e, he, rfl⟩ := List.mem_map.mp hk
    obtain ⟨f, hf, hName, -⟩ := hFound e he
    exact List.mem_map.mpr ⟨f, hf, hName⟩
  have hPerm : (es.map Prod.fst).Perm (fs.map Prod.fst) :=
    (hEs.subperm hSub).perm_of_length_le (by simpa using hSize)
  intro f hf
  have hMem : f.1 ∈ es.map Prod.fst := hPerm.mem_iff.mpr (List.mem_map_of_mem hf)
  obtain ⟨e, he, hName⟩ := List.mem_map.mp hMem
  obtain ⟨g, hg, hNameG, hSame⟩ := hFound e he
  -- the entry that is found has the name of `f`, and so it is `f`
  obtain rfl : g = f := List.inj_on_of_nodup_map hFs hg hf (hNameG.trans hName)
  obtain ⟨s, hText⟩ := hNames e he
  have hEntry : (Scalar.text s, e.2) ∈ es := by
    rw [← hText]
    exact he
  refine ⟨e.2, ?_, hSwap e he g hg hSame⟩
  rw [← hName, hText]
  exact get?_text_of_mem hEs hEntry

/-- **Equality by content is symmetric.** -/
theorem IsJson.same_comm {v w : Value} (hv : v.IsJson) (hw : w.IsJson) : v.same w = w.same v := by
  induction hv generalizing w with
  | null | bool | number | text =>
    cases hw with
    | list | object => simp only [same]
    | _ => simp only [same, Scalar.same_comm]
  | @list items hItems ih =>
    cases hw with
    | @list others hOthers =>
      simp only [same]
      -- item by item, with what is known of each of them
      induction items generalizing others with
      | nil => cases others <;> simp only [sameItems]
      | cons x xs ihItems =>
        cases others with
        | nil => simp only [sameItems]
        | cons y ys =>
          simp only [sameItems]
          rw [ih x List.mem_cons_self (hOthers y List.mem_cons_self),
            ihItems (fun z hz => hItems z (List.mem_cons_of_mem _ hz))
              (fun z hz => ih z (List.mem_cons_of_mem _ hz))
              (fun z hz => hOthers z (List.mem_cons_of_mem _ hz))]
    | _ => simp only [same]
  | @object es hNames hDistinct hValues ih =>
    cases hw with
    | @object fs hNames' hDistinct' hValues' =>
      simp only [same]
      rw [Bool.eq_iff_iff, Bool.and_eq_true, Bool.and_eq_true, beq_iff_eq, beq_iff_eq]
      -- entries are looked up by name, one way and the other
      have hComm : ∀ e ∈ es, ∀ f ∈ fs, e.2.same f.2 = f.2.same e.2 := fun e he f hf =>
        ih e he (hValues' f hf)
      constructor
      · rintro ⟨hSize, hFound⟩
        refine ⟨hSize.symm, sameEntries_swap hNames hDistinct hDistinct' hSize.ge ?_ hFound⟩
        intro e he f hf hSame
        rwa [← hComm e he f hf]
      · rintro ⟨hSize, hFound⟩
        refine ⟨hSize.symm, sameEntries_swap hNames' hDistinct' hDistinct hSize.ge ?_ hFound⟩
        intro f hf e he hSame
        rwa [hComm e he f hf]
    | _ => simp only [same]

/-! ## The tolerant comparison -/

/-- Comparing by numbers gives the same the other way round. -/
theorem numericallyEquals_swap {left right : Value} {b : Bool}
    (h : numericallyEquals left right = .ok b) : numericallyEquals right left = .ok b := by
  obtain ⟨x, hLeft, h⟩ := bind_eq_ok.mp h
  obtain ⟨y, hRight, h⟩ := bind_eq_ok.mp h
  refine bind_eq_ok.mpr ⟨y, hRight, bind_eq_ok.mpr ⟨x, hLeft, ?_⟩⟩
  -- what cannot be read as a number equals nothing, on either side
  cases x with
  | none => cases y <;> exact h
  | some x =>
    cases y with
    | none => exact h
    | some y =>
      rw [← h]
      exact congrArg Except.ok (Binary64.equals_comm y x)

/-- Where the comparison gives a result, it gives the same the other way round. -/
theorem looselyEquals_swap {left right : Value} (hLeft : left.IsJson) (hRight : right.IsJson)
    {b : Bool} (h : left.looselyEquals right = .ok b) : right.looselyEquals left = .ok b := by
  unfold looselyEquals at h ⊢
  rw [Bool.or_comm right.isNull, Bool.and_comm right.isNull]
  by_cases hNull : (left.isNull || right.isNull) = true
  · rwa [if_pos hNull] at h ⊢
  rw [if_neg hNull] at h ⊢
  rw [Bool.or_comm right.isNumeric]
  split at h
  · next s t =>
    -- two texts
    have hComm : (t == s) = (s == t) := BEq.comm
    rw [← h]
    exact congrArg Except.ok hComm
  · next hTexts =>
    have hOther : ∀ s t, right = .text s → left = .text t → False := fun s t hs ht =>
      hTexts t s ht hs
    split
    · next s t => exact (hOther s t rfl rfl).elim
    · by_cases hNumeric : (left.isNumeric || right.isNumeric) = true
      · rw [if_pos hNumeric] at h ⊢
        exact numericallyEquals_swap h
      · rw [if_neg hNumeric] at h ⊢
        rwa [← hLeft.same_comm hRight]

/-- The comparison crashes if a number is involved, no side is null, and one of the sides has no
numeric reading. -/
theorem exists_looselyEquals_eq_error_iff {left right : Value} :
    (∃ c, left.looselyEquals right = .error c) ↔
      left.isNull = false ∧ right.isNull = false ∧
        (left.isNumeric = true ∨ right.isNumeric = true) ∧
        ((∃ c, left.Unreadable c) ∨ ∃ c, right.Unreadable c) := by
  simp only [looselyEquals_eq_error_iff]
  constructor
  · rintro ⟨c, h⟩
    refine ⟨h.left_not_null, h.right_not_null, h.numeric, ?_⟩
    exact h.crashes.imp (fun hl => ⟨c, hl⟩) fun hr => ⟨c, hr.2⟩
  · rintro ⟨hLeft, hRight, hNumeric, hUnreadable⟩
    -- the left side is read first, so its crash hides one of the right side
    by_cases hFirst : ∃ c, left.Unreadable c
    · obtain ⟨c, hc⟩ := hFirst
      exact ⟨c, hLeft, hRight, hNumeric, .inl hc⟩
    · obtain ⟨c, hc⟩ := hUnreadable.resolve_left hFirst
      exact ⟨c, hLeft, hRight, hNumeric, .inr ⟨fun d hd => hFirst ⟨d, hd⟩, hc⟩⟩

/-- **The tolerant comparison is symmetric.** For any two values of JSON, one order of the sides
crashes exactly if the other does, and otherwise both give the same. A comparison with null never
crashes, and it holds of null only. -/
theorem looselyEquals_comm {left right : Value} (hLeft : left.IsJson) (hRight : right.IsJson) :
    ((∃ c, left.looselyEquals right = .error c) ↔ ∃ c, right.looselyEquals left = .error c) ∧
      (∀ b, left.looselyEquals right = .ok b ↔ right.looselyEquals left = .ok b) ∧
      ∀ b, left.looselyEquals .null = .ok b ↔ (b = true ↔ left = .null) := by
  refine ⟨?_, fun b => ⟨looselyEquals_swap hLeft hRight, looselyEquals_swap hRight hLeft⟩, ?_⟩
  -- whether comparing crashes is a condition on both values that does not tell them apart
  · rw [exists_looselyEquals_eq_error_iff, exists_looselyEquals_eq_error_iff,
      or_comm (a := left.isNumeric = true), or_comm (a := ∃ c, left.Unreadable c), and_left_comm]
  · intro b
    -- null equals nothing but null
    have hNull : left.isNull = true ↔ left = .null := by
      refine ⟨eq_null_of_isNull, fun h => ?_⟩
      rw [h]
      rfl
    have hGives : left.looselyEquals .null = .ok left.isNull := by
      simp [looselyEquals, isNull]
    rw [hGives, Except.ok.injEq, ← hNull]
    cases b <;> cases left.isNull <;> simp

/-- Two objects with their entries in different orders, a list in one of them and a truth value
in the place of a number, are equal both ways. -/
theorem looselyEquals_comm_object :
    let left : Value := .ofFields [("a", .int 1), ("b", .list [.bool true])]
    let right : Value := .ofFields [("b", .list [.int 1]), ("a", .bool true)]
    left.looselyEquals right = .ok true ∧ right.looselyEquals left = .ok true := by
  intro left right
  have hLeft : left.IsJson := by
    refine isJson_ofFields (by decide) ?_
    refine List.forall_mem_cons.mpr ⟨.number _, List.forall_mem_singleton.mpr ?_⟩
    exact .list (List.forall_mem_singleton.mpr (.bool true))
  have hRight : right.IsJson := by
    refine isJson_ofFields (by decide) ?_
    refine List.forall_mem_cons.mpr ⟨?_, List.forall_mem_singleton.mpr (.bool true)⟩
    exact .list (List.forall_mem_singleton.mpr (.number _))
  -- one side is evaluated, and the other follows from the theorem
  have hEqual : left.looselyEquals right = .ok true := by cbv
  exact ⟨hEqual, ((looselyEquals_comm hLeft hRight).2.1 true).mp hEqual⟩

end Value

end BeaconCheck
