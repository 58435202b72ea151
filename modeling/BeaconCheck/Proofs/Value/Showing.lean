import BeaconCheck.Proofs.Computation
import BeaconCheck.Proofs.Number.Range
import BeaconCheck.Value.Text

/-!
# Which values can be shown

A message shows a value unless an integer with more than 4300 digits is somewhere in it, be it
in the key of an object. Nothing else keeps a value from being shown, and a value that counts as
false never holds such an integer.

* `FailsIff`               — a computation crashes exactly under a condition, in one way.
* `Value.Contains`         — a number occurs in a value.
* `Value.failsIff_quoted`  — which values cannot be shown inside a message.
* `Value.failsIff_display` — and which cannot be shown on their own.
-/

namespace BeaconCheck

/-! ## Computations that crash in one way -/

/-- The computation fails exactly under the condition, and then with the crash. -/
def FailsIff {α : Type} (crash : Crash) (r : Except Crash α) (condition : Prop) : Prop :=
  ∀ c, r = .error c ↔ c = crash ∧ condition

namespace FailsIff

variable {α β : Type} {crash : Crash} {p q : Prop}

theorem ok (a : α) : FailsIff crash (.ok a) False :=
  fun _ => iff_of_false nofun And.right

/-- When something fails can be put in other words. -/
theorem congr {r : Except Crash α} (h : FailsIff crash r p) (hIff : p ↔ q) :
    FailsIff crash r q :=
  fun c => (h c).trans (and_congr_right fun _ => hIff)

/-- Of two parts, one after the other, either can crash. -/
theorem bind {r : Except Crash α} {next : α → Except Crash β} (hFirst : FailsIff crash r p)
    (hNext : ∀ a, FailsIff crash (next a) q) : FailsIff crash (r >>= next) (p ∨ q) := by
  cases r with
  | error d =>
    obtain ⟨rfl, hp⟩ := (hFirst d).mp rfl
    exact fun c => ⟨fun h => ⟨(Except.error.inj h).symm, .inl hp⟩, fun h => by rw [h.1]; rfl⟩
  | ok a =>
    -- the first part has not crashed, so it is up to the second
    have hNot : ¬ p := fun hp => nomatch (hFirst crash).mpr ⟨rfl, hp⟩
    exact (hNext a).congr (or_iff_right hNot).symm

/-- What is made of a part does not matter. -/
theorem map {r : Except Crash α} (h : FailsIff crash r p) (f : α → β) :
    FailsIff crash (r >>= fun a => pure (f a)) p :=
  (h.bind fun a => ok (f a)).congr (or_iff_left id)

/-- What fails for one reason alone succeeds without it. -/
theorem exists_ok_iff {r : Except Crash α} (h : FailsIff crash r p) : (∃ a, r = .ok a) ↔ ¬ p := by
  cases r with
  | error c => exact iff_of_false nofun (not_not_intro ((h c).mp rfl).2)
  | ok a => exact iff_of_true ⟨a, rfl⟩ fun hp => nomatch (h crash).mpr ⟨rfl, hp⟩

theorem exists_ok {r : Except Crash α} (h : FailsIff crash r p) (hNot : ¬ p) :
    ∃ a, r = .ok a :=
  h.exists_ok_iff.mpr hNot

/-- Each member of a list is a part. -/
theorem mapM {f : α → Except Crash β} {P : α → Prop} (as : List α)
    (h : ∀ a ∈ as, FailsIff crash (f a) (P a)) :
    FailsIff crash (as.mapM f) (∃ a ∈ as, P a) := by
  induction as with
  | nil => exact (ok []).congr (by simp only [List.not_mem_nil, false_and, exists_false])
  | cons a rest ih =>
    have hRest := ih fun b hb => h b (List.mem_cons_of_mem a hb)
    rw [List.mapM_cons]
    refine ((h a List.mem_cons_self).bind fun first => hRest.map _).congr ?_
    rw [List.exists_mem_cons_iff]

end FailsIff

/-! ## Numbers in values -/

/-- The number is an integer with more digits than are written. -/
def Number.IsLong : Number → Prop
  | .int i => digitBound ≤ i.natAbs
  | .float _ => False

theorem digitBound_pos : 0 < digitBound := by
  unfold digitBound
  -- the power itself is never computed
  generalize 4300 = bound
  exact Nat.pow_pos (Nat.succ_pos 9)

namespace Value

/-- The number occurs in the value: as a part of it, as a key or as a member of a set. Who reads
a value goes `through` the references to enclosing values in it, who shows it does not. -/
inductive Contains (through : Bool) (n : Number) : Value → Prop
  | here : Contains through n (.number n)
  | item {items : List Value} {x : Value} (hItem : x ∈ items) (h : Contains through n x) :
      Contains through n (.list items)
  | key {entries : List (Scalar × Value)} {e : Scalar × Value} (hEntry : e ∈ entries)
      (h : e.1 = .number n) : Contains through n (.object entries)
  | entry {entries : List (Scalar × Value)} {e : Scalar × Value} (hEntry : e ∈ entries)
      (h : Contains through n e.2) : Contains through n (.object entries)
  | first {a b : Value} (h : Contains through n a) : Contains through n (.pair a b)
  | second {a b : Value} (h : Contains through n b) : Contains through n (.pair a b)
  | member {members : List Scalar} (h : .number n ∈ members) : Contains through n (.set members)
  | target {target : Value} (hThrough : through = true) (h : Contains through n target) :
      Contains through n (.enclosing target)

variable {through : Bool} {n : Number}

/-- What a value shows can be read in it. -/
theorem Contains.of_shown {v : Value} (h : v.Contains false n) : v.Contains true n := by
  induction h with
  | here => exact .here
  | item hItem _ ih => exact .item hItem ih
  | key hEntry h => exact .key hEntry h
  | entry hEntry _ ih => exact .entry hEntry ih
  | first _ ih => exact .first ih
  | second _ ih => exact .second ih
  | member h => exact .member h
  | target hThrough => cases hThrough

theorem contains_scalar {s : Scalar} : (Value.scalar s).Contains through n ↔ s = .number n := by
  constructor
  · intro h
    cases h with
    | here => rfl
  · rintro rfl
    exact .here

/-- A list contains the numbers of its items. -/
theorem contains_list {items : List Value} :
    (Value.list items).Contains through n ↔ ∃ x ∈ items, x.Contains through n := by
  constructor
  · intro h
    cases h with
    | item hItem h => exact ⟨_, hItem, h⟩
  · rintro ⟨x, hItem, h⟩
    exact .item hItem h

/-- An object contains numbers as keys and in its values. -/
theorem contains_object {entries : List (Scalar × Value)} :
    (Value.object entries).Contains through n ↔
      ∃ e ∈ entries, e.1 = .number n ∨ e.2.Contains through n := by
  constructor
  · intro h
    cases h with
    | key hEntry h => exact ⟨_, hEntry, .inl h⟩
    | entry hEntry h => exact ⟨_, hEntry, .inr h⟩
  · rintro ⟨e, hEntry, h | h⟩
    · exact .key hEntry h
    · exact .entry hEntry h

/-- A pair contains the numbers of both parts. -/
theorem contains_pair {a b : Value} :
    (Value.pair a b).Contains through n ↔ a.Contains through n ∨ b.Contains through n := by
  constructor
  · intro h
    cases h with
    | first h => exact .inl h
    | second h => exact .inr h
  · rintro (h | h)
    · exact .first h
    · exact .second h

/-- A set contains its members. -/
theorem contains_set {members : List Scalar} :
    (Value.set members).Contains through n ↔ .number n ∈ members := by
  constructor
  · intro h
    cases h with
    | member h => exact h
  · exact .member

/-- An integer with more digits than are written occurs in the value as it is shown. -/
def HoldsLong (v : Value) : Prop :=
  ∃ n, v.Contains false n ∧ n.IsLong

end Value

/-! ## Showing -/

/-- The scalar is an integer with more digits than are written. -/
def Scalar.IsLong (s : Scalar) : Prop :=
  ∃ n, s = .number n ∧ n.IsLong

/-- A number can be shown unless it has too many digits. -/
theorem Number.failsIff_text (n : Number) : FailsIff .tooLongToWrite n.text n.IsLong := by
  cases n with
  | int i => exact fun c => integerText_eq_error_iff
  | float x => exact .ok _

/-- So can a scalar. -/
theorem Scalar.failsIff_quoted (s : Scalar) : FailsIff .tooLongToWrite s.quoted s.IsLong := by
  cases s with
  | number n =>
    refine n.failsIff_text.congr ⟨fun h => ⟨n, rfl, h⟩, ?_⟩
    rintro ⟨m, hSame, h⟩
    obtain rfl := Scalar.number.inj hSame
    exact h
  | null | bool | text | bytes | stamp =>
    refine (FailsIff.ok _).congr (iff_of_false id ?_)
    rintro ⟨n, hSame, -⟩
    cases hSame

namespace Value

theorem holdsLong_scalar {s : Scalar} : (Value.scalar s).HoldsLong ↔ s.IsLong := by
  simp only [HoldsLong, contains_scalar, Scalar.IsLong]

/-- A list cannot be shown if one of its items cannot. -/
theorem holdsLong_list {items : List Value} :
    (Value.list items).HoldsLong ↔ ∃ x ∈ items, x.HoldsLong := by
  simp only [HoldsLong, contains_list]
  constructor
  · rintro ⟨n, ⟨x, hItem, h⟩, hLong⟩
    exact ⟨x, hItem, n, h, hLong⟩
  · rintro ⟨x, hItem, n, h, hLong⟩
    exact ⟨n, ⟨x, hItem, h⟩, hLong⟩

/-- An object cannot be shown if a key or a value cannot. -/
theorem holdsLong_object {entries : List (Scalar × Value)} :
    (Value.object entries).HoldsLong ↔ ∃ e ∈ entries, e.1.IsLong ∨ e.2.HoldsLong := by
  simp only [HoldsLong, contains_object, Scalar.IsLong]
  constructor
  · rintro ⟨n, ⟨e, hEntry, h | h⟩, hLong⟩
    · exact ⟨e, hEntry, .inl ⟨n, h, hLong⟩⟩
    · exact ⟨e, hEntry, .inr ⟨n, h, hLong⟩⟩
  · rintro ⟨e, hEntry, ⟨n, h, hLong⟩ | ⟨n, h, hLong⟩⟩
    · exact ⟨n, ⟨e, hEntry, .inl h⟩, hLong⟩
    · exact ⟨n, ⟨e, hEntry, .inr h⟩, hLong⟩

/-- A pair cannot be shown if one of its parts cannot. -/
theorem holdsLong_pair {a b : Value} :
    (Value.pair a b).HoldsLong ↔ a.HoldsLong ∨ b.HoldsLong := by
  simp only [HoldsLong, contains_pair, or_and_right, exists_or]

/-- A set cannot be shown if a member cannot. -/
theorem holdsLong_set {members : List Scalar} :
    (Value.set members).HoldsLong ↔ ∃ s ∈ members, s.IsLong := by
  simp only [HoldsLong, contains_set, Scalar.IsLong]
  constructor
  · rintro ⟨n, hMember, hLong⟩
    exact ⟨.number n, hMember, n, rfl, hLong⟩
  · rintro ⟨_, hMember, n, rfl, hLong⟩
    exact ⟨n, hMember, hLong⟩

/-- An alias inside of its own collection is shown as dots. -/
theorem not_holdsLong_enclosing (target : Value) : ¬ (Value.enclosing target).HoldsLong := by
  rintro ⟨n, h, -⟩
  cases h with
  | target hThrough => cases hThrough

mutual

/-- **Which values cannot be shown** inside a message: those that hold too long an integer. -/
theorem failsIff_quoted : ∀ v : Value, FailsIff .tooLongToWrite v.quoted v.HoldsLong
  -- by recursion on the value: what is shown is put together from what is shown of its parts
  | .scalar s => by
    rw [quoted]
    exact s.failsIff_quoted.congr holdsLong_scalar.symm
  | .list items => by
    rw [quoted]
    exact ((failsIff_quotedItems items).map _).congr holdsLong_list.symm
  | .object entries => by
    rw [quoted]
    exact ((failsIff_quotedEntries entries).map _).congr holdsLong_object.symm
  | .pair a b => by
    rw [quoted]
    exact ((failsIff_quoted a).bind fun _ => (failsIff_quoted b).map _).congr
      holdsLong_pair.symm
  | .set members => by
    rw [quoted]
    exact ((FailsIff.mapM members fun s _ => s.failsIff_quoted).map _).congr
      holdsLong_set.symm
  | .enclosing target => by
    rw [quoted]
    exact (FailsIff.ok _).congr (iff_of_false id (not_holdsLong_enclosing target))

/-- Items are shown one after the other. -/
theorem failsIff_quotedItems : ∀ items : List Value,
    FailsIff .tooLongToWrite (quotedItems items) (∃ x ∈ items, x.HoldsLong)
  | [] => (FailsIff.ok []).congr (by simp only [List.not_mem_nil, false_and, exists_false])
  | x :: rest => by
    rw [quotedItems]
    refine ((failsIff_quoted x).bind fun _ => (failsIff_quotedItems rest).map _).congr ?_
    rw [List.exists_mem_cons_iff]

/-- Entries are shown one after the other. -/
theorem failsIff_quotedEntries : ∀ entries : List (Scalar × Value),
    FailsIff .tooLongToWrite (quotedEntries entries)
      (∃ e ∈ entries, e.1.IsLong ∨ e.2.HoldsLong)
  | [] => (FailsIff.ok []).congr (by simp only [List.not_mem_nil, false_and, exists_false])
  | (key, x) :: rest => by
    rw [quotedEntries]
    refine (key.failsIff_quoted.bind fun _ => (failsIff_quoted x).bind fun _ =>
      (failsIff_quotedEntries rest).map _).congr ?_
    rw [List.exists_mem_cons_iff, or_assoc]

end

/-- What counts as false is empty or zero, so no integer in it is too long. -/
theorem not_holdsLong_of_falsy {v : Value} (h : v.isTruthy = false) : ¬ v.HoldsLong := by
  cases v with
  | scalar s =>
    rw [holdsLong_scalar]
    rintro ⟨n, rfl, hLong⟩
    cases n with
    | float x => exact hLong
    | int i =>
      -- the only integer that counts as false is zero
      have hZero : i = 0 := by
        simpa [isTruthy, Scalar.isTruthy, Number.isZero] using h
      subst hZero
      exact Nat.not_le_of_lt digitBound_pos hLong
  | list items =>
    obtain rfl : items = [] := by simpa [isTruthy] using h
    intro hLong
    obtain ⟨x, hMem, -⟩ := holdsLong_list.mp hLong
    cases hMem
  | object entries =>
    obtain rfl : entries = [] := by simpa [isTruthy] using h
    intro hLong
    obtain ⟨e, hMem, -⟩ := holdsLong_object.mp hLong
    cases hMem
  | set members =>
    obtain rfl : members = [] := by simpa [isTruthy] using h
    intro hLong
    obtain ⟨s, hMem, -⟩ := holdsLong_set.mp hLong
    cases hMem
  | pair a b => cases h
  | enclosing target => exact not_holdsLong_enclosing target

/-- **Which values cannot be shown on their own**: the same as inside a message. -/
theorem failsIff_display (v : Value) : FailsIff .tooLongToWrite v.display v.HoldsLong := by
  -- text and stamps are shown otherwise than quoted, and neither holds a number
  have hNumberless {s : Scalar} (h : ∀ n, s ≠ .number n) :
      ¬ (Value.scalar s).HoldsLong := fun hLong => by
    obtain ⟨n, hSame, -⟩ := holdsLong_scalar.mp hLong
    exact h n hSame
  unfold display
  split
  · exact (FailsIff.ok _).congr (iff_of_false id (hNumberless nofun))
  · exact (FailsIff.ok _).congr (iff_of_false id (hNumberless nofun))
  · exact v.failsIff_quoted.map _

end Value

end BeaconCheck
