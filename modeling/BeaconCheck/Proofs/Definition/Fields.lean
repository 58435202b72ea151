import BeaconCheck.Proofs.Value.Symmetry

/-!
# Fields of changed objects

An object is read through its fields. What becomes of them when an entry gets another value is said
here by name.

* `Value.text_beq_text_iff` — which entry a name finds.
* `Value.field?_insert`     — an entry gets a value.
-/

namespace BeaconCheck.Value

variable (entries : List (Scalar × Value)) {name other : Text}

/-- A name is found under no other name. -/
theorem text_beq_text_iff : ((Scalar.text other == Scalar.text name) = true) ↔ other = name :=
  ⟨fun h => Scalar.text.inj (Scalar.eq_text_of_same h), fun h => h ▸ beq_self_eq_true other⟩

/-- An entry that is inserted is found, and the other fields stay. -/
theorem field?_insert (value : Value) :
    field? (Entries.insert entries (.text name) value) other =
      if other = name then some value else field? entries other := by
  unfold field?
  induction entries with
  | nil => exact if_congr (text_beq_text_iff.trans eq_comm) rfl rfl
  | cons e rest ih =>
    obtain ⟨key, v⟩ := e
    rw [Entries.insert]
    split
    · next hKey =>
      -- the entry keeps its place
      rw [Scalar.eq_text_of_same hKey]
      simp only [Entries.get?, text_beq_text_iff]
      split
      · next hSame => rw [if_pos hSame.symm]
      · next hOther => rw [if_neg (Ne.symm hOther)]
    · next hKey =>
      rw [Entries.get?, Entries.get?, ih]
      split
      · next hFound =>
        have hOther : other ≠ name := by
          rintro rfl
          exact hKey hFound
        rw [if_neg hOther]
      · rfl

/-- The same for a field that may be missing. -/
theorem field_insert (value : Value) :
    field (Entries.insert entries (.text name) value) other =
      if other = name then value else field entries other := by
  rw [field, field?_insert]
  split <;> rfl

end BeaconCheck.Value
