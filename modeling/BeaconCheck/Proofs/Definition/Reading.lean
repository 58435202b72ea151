import BeaconCheck.Proofs.Definition.Grammar

/-!
# What reading a definition comes to

A definition is read, or it is refused, or reading it crashes. What is read and when reading
crashes is said for a single field here, with rules that put readings together.

* `FieldReading.Reads`         — exactly what reading gives, and exactly when it crashes.
* `FieldReading.reads_text`, `reads_flag`, `reads_duration` — what single fields are read as.
* `FieldReading.reads_unknown` — the refusal of a name that is not known.
-/

namespace BeaconCheck

namespace FieldReading

/-- Reading gives exactly what has a property, and crashes exactly with some crashes. In every
other case the definition is refused. -/
structure Reads {α : Type} (r : ReadResult α) (P : α → Prop) (C : Crash → Prop) : Prop where
  ok : ∀ a, r = .ok a ↔ P a
  crash : ∀ c, r = .error (.crash c) ↔ C c

/-- No crash at all. -/
abbrev Never (_ : Crash) : Prop := False

namespace Reads

variable {α β : Type} {P P' : α → Prop} {Q : α → β → Prop} {C C' : Crash → Prop}
  {D : α → Crash → Prop}

/-- A value that is given back is the one that is described. -/
theorem of_ok {a : α} (ha : P a) (hOnly : ∀ b, P b → b = a) (hSafe : ∀ c, ¬ C c) :
    Reads (.ok a) P C where
  ok b := by
    rw [Except.ok.injEq]
    exact ⟨fun h => h ▸ ha, fun h => (hOnly b h).symm⟩
  crash c := iff_of_false nofun (hSafe c)

/-- What is refused is not described, and nothing crashes. -/
theorem of_refused {e : InputError} (hNone : ∀ a, ¬ P a) (hSafe : ∀ c, ¬ C c) :
    Reads (.error (.refused e)) P C where
  ok a := iff_of_false nofun (hNone a)
  crash c := iff_of_false nofun (hSafe c)

/-- A crash is the only one, and then nothing is described. -/
theorem of_crash {c : Crash} (hNone : ∀ a, ¬ P a) (hc : C c) (hOnly : ∀ d, C d → d = c) :
    Reads (.error (.crash c)) P C where
  ok a := iff_of_false nofun (hNone a)
  crash d := by
    rw [Except.error.injEq, InputFailure.crash.injEq]
    exact ⟨fun h => h ▸ hc, fun h => (hOnly d h).symm⟩

/-- What a reading finds can be put in other words. -/
theorem congr {r : ReadResult α} (h : Reads r P C) (hP : ∀ a, P a ↔ P' a)
    (hC : ∀ c, C c ↔ C' c) : Reads r P' C' where
  ok a := (h.ok a).trans (hP a)
  crash c := (h.crash c).trans (hC c)

/-- What is read behind a part matters only if the part gives something. -/
theorem bind {r : ReadResult α} {next : α → ReadResult β} (hFirst : Reads r P C)
    (hNext : ∀ a, P a → Reads (next a) (Q a) (D a)) :
    Reads (r >>= next) (fun b => ∃ a, P a ∧ Q a b) (fun c => C c ∨ ∃ a, P a ∧ D a c) where
  ok b := by
    -- what the first reader gives is described by the first relation, and the rest by the second
    rw [bind_eq_ok]
    constructor
    · rintro ⟨a, hRead, hRest⟩
      have hP := (hFirst.ok a).mp hRead
      exact ⟨a, hP, ((hNext a hP).ok b).mp hRest⟩
    · rintro ⟨a, hP, hQ⟩
      exact ⟨a, (hFirst.ok a).mpr hP, ((hNext a hP).ok b).mpr hQ⟩
  crash c := by
    -- a crash is one of the first reader, or of the next one behind a value that was read
    rw [bind_eq_error, hFirst.crash c]
    refine or_congr_right ⟨?_, ?_⟩
    · rintro ⟨a, hRead, hRest⟩
      have hP := (hFirst.ok a).mp hRead
      exact ⟨a, hP, ((hNext a hP).crash c).mp hRest⟩
    · rintro ⟨a, hP, hD⟩
      exact ⟨a, (hFirst.ok a).mpr hP, ((hNext a hP).crash c).mpr hD⟩

/-- Parts that never crash do not crash together. -/
theorem bind_never {r : ReadResult α} {next : α → ReadResult β} (hFirst : Reads r P Never)
    (hNext : ∀ a, P a → Reads (next a) (Q a) Never) :
    Reads (r >>= next) (fun b => ∃ a, P a ∧ Q a b) Never :=
  (hFirst.bind hNext).congr (fun _ => Iff.rfl) fun _ => by simp only [and_false, exists_false, or_false]

theorem pure (a : α) : Reads (Pure.pure a) (fun b => b = a) Never :=
  of_ok rfl (fun _ h => h) fun _ => id

end Reads

/-- The first of the values behind which nothing matters is the head, or it is in the tail. -/
theorem exists_first_cons {α : Type} {P Q : α → Prop} (a : α) (as : List α) :
    (∃ before x behind, a :: as = before ++ x :: behind ∧ (∀ b ∈ before, P b) ∧ Q x) ↔
      Q a ∨ P a ∧ ∃ before x behind, as = before ++ x :: behind ∧ (∀ b ∈ before, P b) ∧ Q x := by
  constructor
  -- nothing is before `x`, which is then the head, or the head is the first that is
  · rintro ⟨_ | ⟨b, before⟩, x, behind, hEq, hBefore, hx⟩
    · cases hEq
      exact .inl hx
    · cases hEq
      obtain ⟨hb, hBefore⟩ := List.forall_mem_cons.mp hBefore
      exact .inr ⟨hb, before, x, behind, rfl, hBefore, hx⟩
  · rintro (ha | ⟨ha, before, x, behind, rfl, hBefore, hx⟩)
    · exact ⟨[], a, as, rfl, nofun, ha⟩
    · exact ⟨a :: before, x, behind, rfl, List.forall_mem_cons.mpr ⟨ha, hBefore⟩, hx⟩

/-- A step that can only crash. -/
theorem reads_safely {α : Type} (r : Except Crash α) :
    Reads (safely r) (fun a => r = .ok a) (fun c => r = .error c) := by
  cases r with
  | ok a => exact .of_ok rfl (fun b h => (Except.ok.inj h).symm) nofun
  | error c => exact .of_crash nofun rfl fun d h => (Except.error.inj h).symm

/-! ## Fields -/

section Fields

variable (data : Object) (field : String) (place : Place)

/-- A text has to be there and must not be empty. -/
theorem reads_text : Reads (text data field place) (HasText data field) Never := by
  unfold text HasText
  split
  · next s hField =>
    rw [hField]
    split
    · next hEmpty =>
      refine .of_refused (fun a h => ?_) fun _ => id
      obtain rfl : s = a := by simpa using h.1
      exact h.2 hEmpty
    · next hSome =>
      refine .of_ok ⟨rfl, hSome⟩ (fun a h => ?_) fun _ => id
      simpa using h.1.symm
  · next hField => exact .of_refused (fun a h => hField a h.1) fun _ => id

/-- A flag may be missing; it is the default then. -/
theorem reads_flag (default : Bool) :
    Reads (flag data field place default) (HasFlag data field default) Never := by
  unfold flag
  split
  · next hField =>
    refine .of_ok (.missing hField) (fun a h => ?_) fun _ => id
    cases h with
    | missing => rfl
    | given h => rw [hField] at h; cases h
  · next b hField =>
    refine .of_ok (.given hField) (fun a h => ?_) fun _ => id
    cases h with
    | missing h => rw [hField] at h; cases h
    | given h => rw [hField] at h; cases h; rfl
  · next hNull hBool =>
    -- neither null nor a truth value
    refine .of_refused (fun a h => ?_) fun _ => id
    cases h with
    | missing h => exact hNull h
    | given h => exact hBool _ h

/-- A number as a duration: below zero it is refused, and of what is left only a finite number
has an integer part. -/
theorem reads_length {n : Number} {default : Nat} (hField : Value.field data field = .number n) :
    Reads (if isBelowZero n then refuse (.noDuration place field)
        else (safely n.truncate).map Int.toNat)
      (HasDuration data field default) (HasUnmeasurable data field) := by
  -- no other number is in the field
  have hOnly {m : Number} (h : Value.field data field = .number m) : m = n := by
    rw [hField] at h
    cases h
    rfl
  -- so a duration can only be its integer part: the default is for null
  have hDuration {d : Nat} (h : HasDuration data field default d) :
      ∃ r, n.toRat? = some r ∧ 0 ≤ r ∧ d = ⌊r⌋₊ := by
    cases h with
    | missing h => rw [hField] at h; cases h
    | given h hValue hAtLeast =>
      obtain rfl := hOnly h
      exact ⟨_, hValue, hAtLeast, rfl⟩
  split
  · next hBelow =>
    refine .of_refused (fun d h => ?_) fun c ⟨m, h, hUnmeasurable⟩ => ?_
    · obtain ⟨r, hValue, hAtLeast, -⟩ := hDuration h
      rw [(Number.isBelowZero_of_toRat? hValue).mpr hAtLeast] at hBelow
      cases hBelow
    · obtain rfl := hOnly h
      cases hUnmeasurable <;> cases hBelow
  · next hPassed =>
    rcases Number.truncate_of_passed (Bool.eq_false_iff.mpr hPassed) with
      ⟨r, hValue, hAtLeast, hWhole⟩ | ⟨c, hUnmeasurable, hWhole⟩
    · -- the number is finite, so it has an integer part
      rw [hWhole]
      refine .of_ok (.given hField hValue hAtLeast) (fun d h => ?_)
        fun c ⟨m, h, hUnmeasurable⟩ => ?_
      · obtain ⟨r', hValue', -, rfl⟩ := hDuration h
        rw [hValue] at hValue'
        obtain rfl := Option.some.inj hValue'
        rfl
      · obtain rfl := hOnly h
        cases hUnmeasurable <;> cases hValue
    · -- the number passed the check without being finite
      rw [hWhole]
      refine .of_crash (fun d h => ?_) ⟨n, hField, hUnmeasurable⟩ fun c' ⟨m, h, hOther⟩ => ?_
      · obtain ⟨r, hValue, -⟩ := hDuration h
        cases hUnmeasurable <;> cases hValue
      · obtain rfl := hOnly h
        cases hUnmeasurable <;> cases hOther <;> rfl

/-- A duration may be missing; a number that has no integer part crashes. -/
theorem reads_duration (default : Nat) :
    Reads (duration data field place default) (HasDuration data field default)
      (HasUnmeasurable data field) := by
  unfold duration
  -- a field that is missing or null, a number, and everything else
  split
  · next hField =>
    refine .of_ok (.missing hField) (fun d h => ?_) fun c ⟨n, h, _⟩ => ?_
    · cases h with
      | missing => rfl
      | given h => rw [hField] at h; cases h
    · rw [hField] at h
      cases h
  · next n hField => exact reads_length data field place hField
  · next hNull hNumber =>
    refine .of_refused (fun d h => ?_) fun c ⟨n, h, _⟩ => hNumber n h
    cases h with
    | missing h => exact hNull h
    | given h => exact hNumber _ h

end Fields

end FieldReading

open FieldReading

/-! ## Values -/

namespace Value

/-- Two texts that a value is are the same. -/
theorem text_inj {v : Value} {s t : Text} (hs : v = .text s) (ht : v = .text t) : s = t := by
  rw [hs] at ht
  cases ht
  rfl

/-- What is under a name is the field of this name. -/
theorem field_of_field? {data : Object} {name : Text} {v : Value}
    (h : field? data name = some v) : field data name = v := by
  rw [field, h]
  rfl

/-- A field is null or in the entries. -/
theorem field_mem_or_null (data : List (Scalar × Value)) (name : Text) :
    field data name = .null ∨ ∃ e ∈ data, e.2 = field data name := by
  unfold field field?
  -- by induction on the entries, of which the look-up takes the first that fits
  induction data with
  | nil => exact .inl rfl
  | cons e data ih =>
    obtain ⟨key, v⟩ := e
    unfold Entries.get?
    split
    · exact .inr ⟨_, List.mem_cons_self, rfl⟩
    · rcases ih with hNull | ⟨e, hMem, hEq⟩
      · exact .inl hNull
      · exact .inr ⟨e, List.mem_cons_of_mem _ hMem, hEq⟩

/-- The entries of a value are those of an object, which the value is or stands for. -/
theorem entries?_eq_some_iff {v : Value} {data : Object} :
    v.entries? = some data ↔ v = .object data ∨ v = .enclosing (.object data) := by
  constructor
  · intro h
    unfold entries? at h
    split at h
    · exact .inl (by rw [Option.some.inj h])
    · exact .inr (by rw [Option.some.inj h])
    · cases h
  · rintro (rfl | rfl) <;> rfl

/-- The items of a value are those of a list, which the value is or stands for. -/
theorem items?_eq_some_iff {v : Value} {items : List Value} :
    v.items? = some items ↔ v = .list items ∨ v = .enclosing (.list items) := by
  constructor
  · intro h
    unfold items? at h
    split at h
    · exact .inl (by rw [Option.some.inj h])
    · exact .inr (by rw [Option.some.inj h])
    · cases h
  · rintro (rfl | rfl) <;> rfl

theorem eq_null_of_isNull {v : Value} (h : v.isNull = true) : v = .null := by
  unfold isNull at h
  split at h
  · rfl
  · cases h

end Value

/-- The refusal of an unknown name, which it shows. -/
theorem FieldReading.reads_unknown {α : Type} {P : α → Prop} {v : Value} {known : List Text}
    {next : String → InputError} (hUnknown : ∀ name ∈ known, v ≠ .text name)
    (hNone : ∀ a, ¬ P a) :
    Reads (safely v.quoted >>= fun shown => refuse (next shown)) P
      (fun c => c = .tooLongToWrite ∧ v.IsLongName known) := by
  -- nothing is read, but the refusal itself crashes where the name cannot be shown
  refine ((reads_safely v.quoted).bind fun shown _ =>
    .of_refused (P := P) (C := Never) hNone fun _ => id).congr (fun a => ?_) fun c => ?_
  · exact iff_of_false (fun ⟨_, _, h⟩ => hNone a h) (hNone a)
  · rw [v.failsIff_quoted c]
    simp only [and_false, exists_false, or_false, Value.IsLongName]
    exact and_congr_right fun _ => (and_iff_right hUnknown).symm

/-- A known name is shown nowhere. -/
theorem Value.not_isLongName {v : Value} {known : List Text} {name : Text}
    (h : v = .text name) (hKnown : name ∈ known) : ¬ v.IsLongName known :=
  fun hLong => hLong.1 name hKnown h

end BeaconCheck
