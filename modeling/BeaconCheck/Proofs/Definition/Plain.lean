import BeaconCheck.Proofs.Definition.Acceptance

/-!
# Reading plain definitions

A plain definition is read or refused, with one exception: a duration that is an infinity or
not-a-number passes the check that it is not negative and has no integer part. Everything that
a message shows of the definition can be shown, and the ids and names of its assertions are
plain again.

* `Value.CrashesTest.isUnmeasurable` — reading a plain test crashes at a duration only.
* `Value.PassesDown.test`            — what is known of the assertions of a test.
* `Value.Plain.isOrdinary`           — a plain value without such numbers is an ordinary one.
-/

namespace BeaconCheck

/-- The crash of a duration without an integer part. -/
def Crash.IsUnmeasurable (c : Crash) : Prop :=
  c = .nanToInteger ∨ c = .infinityToInteger

open FieldReading

/-- The assertion is reported under a plain id and a plain name. -/
def Assertion.IsPlain (a : Assertion) : Prop :=
  a.id.Plain ∧ a.name.Plain

namespace Value

variable {v : Value} {data : Object}

namespace Plain

/-- A plain value with entries is an object. -/
theorem eq_object (h : v.Plain) (hEntries : v.entries? = some data) : v = .object data := by
  cases h with
  | object => exact congrArg Value.object (Option.some.inj hEntries)
  | _ => cases hEntries

/-- The fields of a plain object are plain. -/
theorem field (h : v.Plain) (hEntries : v.entries? = some data) (name : Text) :
    (Value.field data name).Plain := by
  obtain rfl := h.eq_object hEntries
  cases h with
  | object _ hValues =>
    rcases field_mem_or_null data name with hNull | ⟨e, hMem, hEq⟩
    · rw [hNull]
      exact .null
    · rw [← hEq]
      exact hValues e hMem

theorem items {items : List Value} (h : v.Plain) (hItems : v.items? = some items) :
    ∀ x ∈ items, x.Plain := by
  cases h with
  | list h =>
    obtain rfl := Option.some.inj hItems
    exact h
  | _ => cases hItems

/-- Only infinities and not-a-number keep a plain value from being an ordinary one. -/
theorem isOrdinary (h : v.Plain) (hFinite : ¬ v.HoldsNonFinite) : v.IsOrdinary := by
  intro n hContains
  cases n with
  | int i => exact Nat.not_le.mp (h.not_isLong hContains)
  | float x => exact fun hValue => hFinite (h.holdsNonFinite_of_contains hContains hValue)

end Plain

/-! ## Crashes -/

variable {c : Crash}

/-- What crashes as a duration is an infinity or not-a-number. -/
theorem isUnmeasurable_of_hasUnmeasurable {field : String} (h : HasUnmeasurable data field c) :
    c.IsUnmeasurable := by
  obtain ⟨n, -, hUnmeasurable⟩ := h
  cases hUnmeasurable with
  | nan => exact .inl rfl
  | infinite => exact .inr rfl

/-- A plain step crashes for nothing else. -/
theorem CrashesStep.isUnmeasurable (h : v.CrashesStep c) (hPlain : v.Plain) :
    c.IsUnmeasurable := by
  cases h with
  | action hData hLong => exact absurd hLong.2 (hPlain.field hData "action").not_holdsLong
  | assertion hData _ hAssertion =>
    cases hAssertion with
    | type hTestData hLong =>
      exact absurd hLong.2 ((hPlain.field hData "test").field hTestData "type").not_holdsLong
  | timeout _ _ _ _ hTimeout => exact isUnmeasurable_of_hasUnmeasurable hTimeout

/-- **Reading a plain test crashes at a duration only.** -/
theorem CrashesTest.isUnmeasurable (h : v.CrashesTest c) (hPlain : v.Plain) :
    c.IsUnmeasurable := by
  cases h with
  | name hData _ hLong => exact absurd hLong (hPlain.field hData "name").not_holdsLong
  | step hData hSteps _ _ hStep =>
    have hRaw := (hPlain.field hData "steps").items hSteps
    exact hStep.isUnmeasurable (hRaw _ (List.mem_append_right _ List.mem_cons_self))

/-- Reading options crashes at a duration only, whether or not they are plain. -/
theorem CrashesOptions.isUnmeasurable (h : v.CrashesOptions c) : c.IsUnmeasurable := by
  cases h with
  | duration _ _ _ _ _ _ hDuration => exact isUnmeasurable_of_hasUnmeasurable hDuration

/-! ## What is read -/

/-- The parts of a value that has the property have it too, and so has what stands in for a
missing name. -/
structure PassesDown (P : Value → Prop) : Prop where
  field : ∀ {v : Value} {data : Object}, P v → v.entries? = some data →
    ∀ name, P (Value.field data name)
  items : ∀ {v : Value} {items : List Value}, P v → v.items? = some items → ∀ x ∈ items, P x
  empty : P (.text "")

theorem Plain.passesDown : PassesDown Plain :=
  ⟨Plain.field, Plain.items, .text ""⟩

theorem IsOrdinary.passesDown : PassesDown IsOrdinary :=
  ⟨IsOrdinary.field, IsOrdinary.items, fun _ hContains => nomatch hContains⟩

namespace PassesDown

variable {P : Value → Prop}

/-- What passes from a value to its parts passes to a field that stands for the empty text. -/
theorem orEmpty (hP : PassesDown P) (h : P v) : P (FieldReading.orEmpty v) := by
  unfold FieldReading.orEmpty
  split
  · exact h
  · exact hP.empty

/-- What an assertion is reported under has the property if its description has it. -/
theorem assertion (hP : PassesDown P) (h : P v) {a : Assertion} (ha : v.DescribesAssertion a) :
    P a.id ∧ P a.name := by
  obtain ⟨data, hData, -, hId, hName, -⟩ := ha
  rw [hId, hName]
  exact ⟨hP.field h hData "id", hP.orEmpty (hP.field h hData "name")⟩

/-- It passes to the id and the name of the assertion of a step. -/
theorem step (hP : PassesDown P) (h : P v) {s : Step} (hStep : v.BecomesStep s) {a : Assertion}
    (ha : s.assertion? = some a) : P a.id ∧ P a.name := by
  rcases hStep with ⟨data, hData, hAction⟩ | hPause
  · -- only one kind of step has an assertion
    cases hAction with
    | check _ hAssertion =>
      obtain rfl := Option.some.inj ha
      exact hP.assertion (hP.field h hData "test") hAssertion
    | goto | click | pause | awaitElement | type | awaitRequests => cases ha
  · obtain ⟨_, _, _, _, rfl⟩ := hPause
    cases ha

/-- **What the assertions of a test are reported under** has the property if the value that the
test is read from has it. -/
theorem test (hP : PassesDown P) (h : P v) {t : TestDefinition} (hTest : v.BecomesTest t) :
    ∀ a ∈ t.assertions, P a.id ∧ P a.name := by
  obtain ⟨data, steps, hData, hSteps, -, hEach⟩ := hTest
  have hRaw := hP.items (hP.field h hData "steps") hSteps
  have hRead := (List.forall₂_and_left _ _).mpr ⟨hRaw, hEach⟩
  intro a ha
  -- the assertion is that of a step, which was read from the part of the value in its place
  obtain ⟨s, hMem, hAssertion⟩ := List.mem_filterMap.mp ha
  obtain ⟨i, hi, rfl⟩ := List.getElem_of_mem hMem
  obtain ⟨hPart, hStep⟩ := hRead.get (hRead.length_eq ▸ hi) hi
  exact hP.step hPart hStep hAssertion

end PassesDown

/-- Every assertion of a plain test is reported plainly. -/
theorem BecomesTest.isPlain {t : TestDefinition} (h : v.BecomesTest t) (hPlain : v.Plain) :
    ∀ a ∈ t.assertions, a.IsPlain :=
  Plain.passesDown.test hPlain h

/-- An ordinary value holds finite numbers only. -/
theorem IsOrdinary.not_holdsNonFinite (h : v.IsOrdinary) : ¬ v.HoldsNonFinite := by
  intro hHolds
  induction hHolds with
  | number hValue => exact h _ .here hValue
  | item hItem _ ih => exact ih fun n hContains => h n (.item hItem hContains)
  | entry hEntry _ ih => exact ih fun n hContains => h n (.entry hEntry hContains)
  | target _ ih => exact ih fun n hContains => h n (.target rfl hContains)

end Value

end BeaconCheck
