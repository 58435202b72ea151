import Mathlib.Data.List.Basic
import BeaconCheck.Json.Writer
import BeaconCheck.Proofs.Computation
import BeaconCheck.Proofs.Json.Plain

/-!
# What keeps a value from being written

A document can hold what JSON has no form for. Writing a value fails exactly if such a thing is
somewhere in it: dates, times, bytes, sets, a value that contains itself, an integer that is too
long, and for a strict style a number that is not finite. Keys are no exception.

* `FailsAt`               — a computation fails exactly if there is an obstacle, and at one.
* `Value.Obstacle`        — the obstacles in a value, and how writing fails at each.
* `Json.failsAt_write`    — writing fails at them and at nothing else.
-/

namespace BeaconCheck

/-! ## Computations that fail at obstacles -/

/-- The computation fails if some crash is possible, and then with a possible one. -/
structure FailsAt {α : Type} (r : Except Crash α) (possible : Crash → Prop) : Prop where
  only : ∀ c, r = .error c → possible c
  fails : (∃ c, possible c) → ∃ c, r = .error c

namespace FailsAt

variable {α β : Type} {P Q : Crash → Prop} {r : Except Crash α}

theorem ok {a : α} (h : ∀ c, ¬ P c) : FailsAt (.ok a) P :=
  ⟨nofun, fun ⟨c, hc⟩ => absurd hc (h c)⟩

/-- What fails with one crash fails at just that. -/
theorem error {c : Crash} (h : ∀ d, P d ↔ d = c) : FailsAt (.error c : Except Crash α) P := by
  refine ⟨fun d hd => (h d).mpr ?_, fun _ => ⟨c, rfl⟩⟩
  exact (Except.error.inj hd).symm

theorem congr (h : FailsAt r P) (hIff : ∀ c, P c ↔ Q c) : FailsAt r Q :=
  ⟨fun c hc => (hIff c).mp (h.only c hc), fun ⟨c, hc⟩ => h.fails ⟨c, (hIff c).mpr hc⟩⟩

/-- Of two parts, one after the other, the obstacles of both count. -/
theorem bind {next : α → Except Crash β} (hFirst : FailsAt r P)
    (hNext : ∀ a, FailsAt (next a) Q) : FailsAt (r >>= next) (fun c => P c ∨ Q c) := by
  cases r with
  | error d =>
    refine ⟨fun c hc => ?_, fun _ => ⟨d, rfl⟩⟩
    obtain rfl : d = c := Except.error.inj hc
    exact .inl (hFirst.only d rfl)
  | ok a =>
    -- what succeeds has had nothing to fail at
    have hNone (c : Crash) : ¬ P c := fun hc => by
      obtain ⟨d, hd⟩ := hFirst.fails ⟨c, hc⟩
      cases hd
    exact (hNext a).congr fun c => (or_iff_right (hNone c)).symm

/-- What is made of a part does not matter. -/
theorem map (h : FailsAt r P) (f : α → β) : FailsAt (r >>= fun a => pure (f a)) P := by
  refine (h.bind (Q := fun _ => False) fun a => ok fun _ => id).congr fun c => ?_
  exact or_iff_left id

/-- Without an obstacle there is a result. -/
theorem exists_ok_iff (h : FailsAt r P) : (∃ a, r = .ok a) ↔ ∀ c, ¬ P c := by
  cases r with
  | error c => exact iff_of_false nofun fun hNone => hNone c (h.only c rfl)
  | ok a =>
    refine iff_of_true ⟨a, rfl⟩ fun c hc => ?_
    obtain ⟨d, hd⟩ := h.fails ⟨c, hc⟩
    cases hd

end FailsAt

/-! ## Obstacles -/

/-- What keeps a number from being written. -/
inductive Number.Obstacle (strict : Bool) : Number → Crash → Prop
  | long {i : Int} (hLong : digitBound ≤ i.natAbs) : Obstacle strict (.int i) .tooLongToWrite
  | nonFinite {x : Binary64} (hStrict : strict = true) (hValue : x.toRat? = none) :
      Obstacle strict (.float x) .notFinite

/-- What keeps a scalar from being written. -/
inductive Scalar.Obstacle (strict : Bool) : Scalar → Crash → Prop
  | number {n : Number} {c : Crash} (h : n.Obstacle strict c) : Obstacle strict (.number n) c
  | bytes (bs : List UInt8) : Obstacle strict (.bytes bs) (.notWritable "bytes")
  | stamp (t : Stamp) : Obstacle strict (.stamp t) (.notWritable (Json.stampType t))

/-- What keeps a scalar from being written as a key. -/
inductive Scalar.KeyObstacle (strict : Bool) : Scalar → Crash → Prop
  | number {n : Number} {c : Crash} (h : n.Obstacle strict c) : KeyObstacle strict (.number n) c
  | bytes (bs : List UInt8) : KeyObstacle strict (.bytes bs) (.notWritableKey "bytes")
  | stamp (t : Stamp) : KeyObstacle strict (.stamp t) (.notWritableKey (Json.stampType t))

namespace Scalar

variable {strict : Bool} {c : Crash}

/-- Bytes cannot be written. -/
theorem obstacle_bytes {bs : List UInt8} :
    (bytes bs).Obstacle strict c ↔ c = .notWritable "bytes" := by
  refine ⟨fun h => ?_, fun h => h ▸ .bytes bs⟩
  cases h with
  | bytes => rfl

/-- Neither can a date or a time. -/
theorem obstacle_stamp {t : Stamp} :
    (stamp t).Obstacle strict c ↔ c = .notWritable (Json.stampType t) := by
  refine ⟨fun h => ?_, fun h => h ▸ .stamp t⟩
  cases h with
  | stamp => rfl

/-- Bytes are no key. -/
theorem keyObstacle_bytes {bs : List UInt8} :
    (bytes bs).KeyObstacle strict c ↔ c = .notWritableKey "bytes" := by
  refine ⟨fun h => ?_, fun h => h ▸ .bytes bs⟩
  cases h with
  | bytes => rfl

/-- Nor is a date or a time one. -/
theorem keyObstacle_stamp {t : Stamp} :
    (stamp t).KeyObstacle strict c ↔ c = .notWritableKey (Json.stampType t) := by
  refine ⟨fun h => ?_, fun h => h ▸ .stamp t⟩
  cases h with
  | stamp => rfl

end Scalar

namespace Value

/-- What keeps a value from being written, wherever it is in the value, and how writing fails at
it. -/
inductive Obstacle (strict : Bool) : Value → Crash → Prop
  | scalar {s : Scalar} {c : Crash} (h : s.Obstacle strict c) : Obstacle strict (.scalar s) c
  | item {items : List Value} {x : Value} {c : Crash} (hItem : x ∈ items)
      (h : Obstacle strict x c) : Obstacle strict (.list items) c
  | key {entries : List (Scalar × Value)} {e : Scalar × Value} {c : Crash} (hEntry : e ∈ entries)
      (h : e.1.KeyObstacle strict c) : Obstacle strict (.object entries) c
  | entry {entries : List (Scalar × Value)} {e : Scalar × Value} {c : Crash}
      (hEntry : e ∈ entries) (h : Obstacle strict e.2 c) : Obstacle strict (.object entries) c
  | first {a b : Value} {c : Crash} (h : Obstacle strict a c) : Obstacle strict (.pair a b) c
  | second {a b : Value} {c : Crash} (h : Obstacle strict b c) : Obstacle strict (.pair a b) c
  | set (members : List Scalar) : Obstacle strict (.set members) (.notWritable "set")
  | enclosing (target : Value) : Obstacle strict (.enclosing target) .circular

variable {strict : Bool} {c : Crash}

theorem obstacle_scalar {s : Scalar} :
    (Value.scalar s).Obstacle strict c ↔ s.Obstacle strict c := by
  refine ⟨fun h => ?_, .scalar⟩
  cases h with
  | scalar h => exact h

/-- A list has the obstacles of its items. -/
theorem obstacle_list {items : List Value} :
    (Value.list items).Obstacle strict c ↔ ∃ x ∈ items, x.Obstacle strict c := by
  constructor
  · intro h
    cases h with
    | item hItem h => exact ⟨_, hItem, h⟩
  · rintro ⟨x, hItem, h⟩
    exact .item hItem h

/-- An object has the obstacles of its keys and of its values. -/
theorem obstacle_object {entries : List (Scalar × Value)} :
    (Value.object entries).Obstacle strict c ↔
      ∃ e ∈ entries, e.1.KeyObstacle strict c ∨ e.2.Obstacle strict c := by
  constructor
  · intro h
    cases h with
    | key hEntry h => exact ⟨_, hEntry, .inl h⟩
    | entry hEntry h => exact ⟨_, hEntry, .inr h⟩
  · rintro ⟨e, hEntry, h | h⟩
    · exact .key hEntry h
    · exact .entry hEntry h

/-- A pair has the obstacles of its parts. -/
theorem obstacle_pair {a b : Value} :
    (Value.pair a b).Obstacle strict c ↔ a.Obstacle strict c ∨ b.Obstacle strict c := by
  constructor
  · intro h
    cases h with
    | first h => exact .inl h
    | second h => exact .inr h
  · rintro (h | h)
    · exact .first h
    · exact .second h

/-- A set cannot be written, whatever is in it. -/
theorem obstacle_set {members : List Scalar} :
    (Value.set members).Obstacle strict c ↔ c = .notWritable "set" := by
  constructor
  · intro h
    cases h with
    | set => rfl
  · rintro rfl
    exact .set members

/-- An alias inside of the collection that it names cannot be written: it has no end. -/
theorem obstacle_enclosing {target : Value} :
    (Value.enclosing target).Obstacle strict c ↔ c = .circular := by
  constructor
  · intro h
    cases h with
    | enclosing => rfl
  · rintro rfl
    exact .enclosing target

/-- Names are always written, so only the values of an object with names count. -/
theorem obstacle_ofFields {fields : List (String × Value)} :
    (ofFields fields).Obstacle strict c ↔ ∃ p ∈ fields, p.2.Obstacle strict c := by
  rw [ofFields, obstacle_object]
  constructor
  · rintro ⟨e, hEntry, h⟩
    obtain ⟨p, hMem, rfl⟩ := List.mem_map.mp hEntry
    rcases h with h | h
    · cases h
    · exact ⟨p, hMem, h⟩
  · rintro ⟨p, hMem, h⟩
    exact ⟨_, List.mem_map_of_mem hMem, .inr h⟩

end Value

/-! ## Writing -/

namespace Json

/-- A number fails to be written if it has too many digits, or if it is not finite and the style is
strict. -/
theorem failsAt_writeNumber (style : Style) (n : Number) :
    FailsAt (writeNumber style n) (n.Obstacle style.strict) := by
  -- a number that is not finite is written or not as the style has it
  have hNonFinite {x : Binary64} (hValue : x.toRat? = none) (text : String) :
      FailsAt (if style.strict then .error .notFinite else .ok text)
        ((Number.float x).Obstacle style.strict) := by
    split
    · next hStrict =>
      refine .error fun c => ⟨fun h => ?_, ?_⟩
      · cases h with
        | nonFinite => rfl
      · rintro rfl
        exact .nonFinite hStrict hValue
    · next hLoose =>
      refine .ok fun c h => ?_
      cases h with
      | nonFinite hStrict => exact hLoose hStrict
  cases n with
  | int i =>
    rw [writeNumber, integerText]
    split
    · next hShort =>
      refine .ok fun c h => ?_
      cases h with
      | long hLong => exact Nat.not_le.mpr hShort hLong
    · next hLong =>
      refine .error fun c => ⟨fun h => ?_, ?_⟩
      · cases h with
        | long => rfl
      · rintro rfl
        exact .long (Nat.not_lt.mp hLong)
  | float x =>
    cases x with
    | nan => exact hNonFinite rfl _
    | infinite negative => exact hNonFinite rfl _
    | finite negative mantissa exponent =>
      refine .ok fun c h => ?_
      cases h with
      | nonFinite _ hValue => cases hValue

/-- Writing a scalar fails at what is in it. -/
theorem failsAt_writeScalar (style : Style) (s : Scalar) :
    FailsAt (writeScalar style s) (s.Obstacle style.strict) := by
  -- only a number can be written in some styles and fail in others
  cases s with
  | null => exact .ok nofun
  | bool b => exact .ok nofun
  | text t => exact .ok nofun
  | number n =>
    refine ((failsAt_writeNumber style n).map _).congr fun c => ⟨.number, fun h => ?_⟩
    cases h with
    | number h => exact h
  | bytes bs => exact .error fun c => Scalar.obstacle_bytes
  | stamp t => exact .error fun c => Scalar.obstacle_stamp

/-- Writing a key fails at what keeps it from being one. -/
theorem failsAt_writeKey (style : Style) (s : Scalar) :
    FailsAt (writeKey style s) (s.KeyObstacle style.strict) := by
  cases s with
  | null => exact .ok nofun
  | bool b => exact .ok nofun
  | text t => exact .ok nofun
  | number n =>
    refine (((failsAt_writeNumber style n).map _).map writeText).congr fun c => ⟨.number, fun h => ?_⟩
    cases h with
    | number h => exact h
  | bytes bs => exact .error fun c => Scalar.keyObstacle_bytes
  | stamp t => exact .error fun c => Scalar.keyObstacle_stamp

mutual

/-- At every level of indentation, writing fails at the obstacles in the value. -/
theorem failsAt_writeAt (style : Style) : ∀ (level : Nat) (v : Value),
    FailsAt (writeAt style level v) (v.Obstacle style.strict)
  -- by recursion on the value; a set and an alias have no written form at all
  | level, .scalar s => by
    rw [writeAt]
    exact (failsAt_writeScalar style s).congr fun c => Value.obstacle_scalar.symm
  | level, .list items => by
    rw [writeAt]
    exact ((failsAt_writeItems style (level + 1) items).map _).congr fun c =>
      Value.obstacle_list.symm
  | level, .object entries => by
    rw [writeAt]
    exact ((failsAt_writeEntries style (level + 1) entries).map _).congr fun c =>
      Value.obstacle_object.symm
  | level, .pair a b => by
    rw [writeAt]
    exact ((failsAt_writeAt style (level + 1) a).bind fun _ =>
      (failsAt_writeAt style (level + 1) b).map _).congr fun c => Value.obstacle_pair.symm
  | level, .set members => by
    rw [writeAt]
    exact .error fun c => Value.obstacle_set
  | level, .enclosing target => by
    rw [writeAt]
    exact .error fun c => Value.obstacle_enclosing

/-- Writing items fails at the first one that has an obstacle. -/
theorem failsAt_writeItems (style : Style) : ∀ (level : Nat) (items : List Value),
    FailsAt (writeItems style level items) (fun c => ∃ x ∈ items, x.Obstacle style.strict c)
  | level, [] => by
    rw [writeItems]
    exact .ok nofun
  | level, x :: rest => by
    rw [writeItems]
    refine ((failsAt_writeAt style level x).bind fun _ =>
      (failsAt_writeItems style level rest).map _).congr fun c => ?_
    rw [List.exists_mem_cons_iff]

/-- Writing entries fails at the first key or value that has one. -/
theorem failsAt_writeEntries (style : Style) : ∀ (level : Nat) (entries : List (Scalar × Value)),
    FailsAt (writeEntries style level entries)
      (fun c => ∃ e ∈ entries, e.1.KeyObstacle style.strict c ∨ e.2.Obstacle style.strict c)
  | level, [] => by
    rw [writeEntries]
    exact .ok nofun
  | level, (key, x) :: rest => by
    rw [writeEntries]
    refine ((failsAt_writeKey style key).bind fun _ => (failsAt_writeAt style level x).bind fun _ =>
      (failsAt_writeEntries style level rest).map _).congr fun c => ?_
    rw [List.exists_mem_cons_iff, or_assoc]

end

/-- **Writing fails at an obstacle** if there is one in the value, and otherwise there is a text. -/
theorem failsAt_write (style : Style) (v : Value) :
    FailsAt (write style v) (v.Obstacle style.strict) :=
  failsAt_writeAt style 0 v

end Json

end BeaconCheck
