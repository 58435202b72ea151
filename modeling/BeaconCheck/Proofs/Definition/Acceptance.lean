import BeaconCheck.Proofs.Definition.Options
import BeaconCheck.Proofs.Definition.Steps
import BeaconCheck.Proofs.Json.Plain

/-!
# Which tests are accepted

Most values hold no number that reading could trip over: their floats are finite and their
integers can be written. Of such values, the accepted tests are exactly those that the grammar
describes, and nothing crashes.

* `Value.IsOrdinary`                 — every number in the value is of this kind.
* `Value.IsOrdinary.becomesStep_iff` — a step is read as the one that is described.
* `TestDefinition.ofValue_accepts`   — which tests are accepted, and as what.
-/

namespace BeaconCheck

open FieldReading

/-- The number is a finite float, or an integer that can be written. -/
def Number.IsOrdinary : Number → Prop
  | .int i => i.natAbs < digitBound
  | .float x => x.toRat? ≠ none

namespace Number.IsOrdinary

variable {n : Number}

/-- An ordinary number can be shown. -/
theorem not_isLong (h : n.IsOrdinary) : ¬ n.IsLong := by
  intro hLong
  cases n with
  | int i => exact absurd hLong (Nat.not_le.mpr h)
  | float x => exact hLong

/-- An ordinary number is a duration or none, without a crash. -/
theorem not_unmeasurable (h : n.IsOrdinary) (c : Crash) : ¬ n.Unmeasurable c := by
  intro hUnmeasurable
  cases hUnmeasurable with
  | nan => exact h rfl
  | infinite => exact h rfl

end Number.IsOrdinary

namespace Value

/-- Every number in the value is a finite float, or an integer that can be written. -/
def IsOrdinary (v : Value) : Prop :=
  ∀ n, v.Contains true n → n.IsOrdinary

namespace IsOrdinary

variable {v : Value} {data : Object}

theorem not_holdsLong (h : v.IsOrdinary) : ¬ v.HoldsLong :=
  fun ⟨n, hContains, hLong⟩ => (h n hContains.of_shown).not_isLong hLong

/-- The fields of an ordinary value are ordinary. -/
theorem field (h : v.IsOrdinary) (hData : v.entries? = some data) (name : Text) :
    (Value.field data name).IsOrdinary := by
  intro n hContains
  refine h n ?_
  rcases field_mem_or_null data name with hNull | ⟨e, hMem, hValue⟩
  · -- a missing field is null, and there is no number in it
    rw [hNull] at hContains
    cases hContains
  · rw [← hValue] at hContains
    have hObject : (Value.object data).Contains true n := .entry hMem hContains
    rcases entries?_eq_some_iff.mp hData with rfl | rfl
    · exact hObject
    · exact .target rfl hObject

/-- So are its items. -/
theorem items {items : List Value} (h : v.IsOrdinary) (hItems : v.items? = some items) :
    ∀ x ∈ items, x.IsOrdinary := by
  intro x hx n hContains
  have hList : (Value.list items).Contains true n := .item hx hContains
  refine h n ?_
  rcases items?_eq_some_iff.mp hItems with rfl | rfl
  · exact hList
  · exact .target rfl hList

/-- No field of an ordinary value is a duration that crashes. -/
theorem not_hasUnmeasurable (h : v.IsOrdinary) (hData : v.entries? = some data)
    (name : String) (c : Crash) : ¬ HasUnmeasurable data name c := by
  rintro ⟨n, hField, hUnmeasurable⟩
  refine (h.field hData name n ?_).not_unmeasurable c hUnmeasurable
  rw [hField]
  exact .here

/-! ## Nothing crashes -/

variable {c : Crash}

/-- An ordinary value is an assertion or is refused. -/
theorem not_crashesAssertion (h : v.IsOrdinary) : ¬ v.CrashesAssertion c := by
  intro hCrash
  cases hCrash with
  | type hData hLong => exact (h.field hData "type").not_holdsLong hLong.2

/-- It is a step or is refused. -/
theorem not_crashesStep (h : v.IsOrdinary) : ¬ v.CrashesStep c := by
  intro hCrash
  cases hCrash with
  | action hData hLong => exact (h.field hData "action").not_holdsLong hLong.2
  | assertion hData _ hAssertion => exact (h.field hData "test").not_crashesAssertion hAssertion
  | timeout hData _ _ _ hTimeout => exact h.not_hasUnmeasurable hData "timeout" c hTimeout

/-- It is a test or is refused. -/
theorem not_crashesTest (h : v.IsOrdinary) : ¬ v.CrashesTest c := by
  intro hCrash
  cases hCrash with
  | name hData _ hLong => exact (h.field hData "name").not_holdsLong hLong
  | step hData hSteps _ _ hStep =>
    have hRaw := (h.field hData "steps").items hSteps _ (List.mem_append_right _ List.mem_cons_self)
    exact hRaw.not_crashesStep hStep

/-- It is a set of options or is refused. -/
theorem not_crashesOptions (h : v.IsOrdinary) : ¬ v.CrashesOptions c := by
  intro hCrash
  cases hCrash with
  | duration hData _ _ _ _ _ hDuration => exact h.not_hasUnmeasurable hData _ c hDuration

/-! ## What is read is described -/

/-- Only not-a-number makes a pause that is not described. -/
theorem becomesStep_iff (h : v.IsOrdinary) (s : Step) : v.BecomesStep s ↔ v.DescribesStep s := by
  refine or_iff_left ?_
  rintro ⟨data, hData, -, hValue, -⟩
  refine h.field hData "value" (.float .nan) ?_ rfl
  rw [hValue]
  exact .here

/-- An ordinary value becomes the test that it describes. -/
theorem becomesTest_iff (h : v.IsOrdinary) (t : TestDefinition) :
    v.BecomesTest t ↔ v.DescribesTest t := by
  refine exists_congr fun data => exists_congr fun steps => and_congr_right fun hData =>
    and_congr_right fun hSteps => and_congr_right fun _ => ?_
  have hEach := (h.field hData "steps").items hSteps
  -- the relations agree on ordinary values only, so that the steps are ordinary goes into both
  have hOrdinary (each : Value → Step → Prop) : List.Forall₂ each steps t.steps ↔
      List.Forall₂ (fun raw s => raw.IsOrdinary ∧ each raw s) steps t.steps := by
    rw [List.forall₂_and_left, and_iff_right hEach]
  rw [hOrdinary BecomesStep, hOrdinary DescribesStep]
  constructor
  · exact List.Forall₂.imp fun raw s hStep => ⟨hStep.1, (hStep.1.becomesStep_iff s).mp hStep.2⟩
  · exact List.Forall₂.imp fun raw s hStep => ⟨hStep.1, (hStep.1.becomesStep_iff s).mpr hStep.2⟩

end IsOrdinary

/-- A list is related to some list if each of its members is related to something. -/
theorem exists_forall₂ {α β : Type} {R : α → β → Prop} (as : List α) :
    (∃ bs, List.Forall₂ R as bs) ↔ ∀ a ∈ as, ∃ b, R a b := by
  -- by induction on the list: a witness for each element makes a list of them
  induction as with
  | nil => exact iff_of_true ⟨[], .nil⟩ nofun
  | cons a as ih =>
    rw [List.forall_mem_cons, ← ih]
    simp only [List.forall₂_cons_left_iff]
    constructor
    · rintro ⟨_, b, bs, hb, hRest, -⟩
      exact ⟨⟨b, hb⟩, bs, hRest⟩
    · rintro ⟨⟨b, hb⟩, bs, hRest⟩
      exact ⟨b :: bs, b, bs, hb, hRest, rfl⟩

end Value

/-! ## Acceptance -/

/-- **The accepted tests are those of the grammar.** A test is read from a value exactly if it is
an object with a list of steps each of which is described, and what is read has the step that is
described, by itself, in each place. -/
theorem TestDefinition.ofValue_accepts {v : Value} (h : v.IsOrdinary) :
    ((∃ t, ofValue v = .ok t) ↔ ∃ data steps, v.entries? = some data ∧
      (Value.field data "steps").items? = some steps ∧ ∀ raw ∈ steps, ∃ s, raw.DescribesStep s) ∧
    ∀ t, ofValue v = .ok t ↔ v.DescribesTest t := by
  have hDescribed (t : TestDefinition) : ofValue v = .ok t ↔ v.DescribesTest t :=
    ((reads_ofValue v).ok t).trans (h.becomesTest_iff t)
  refine ⟨?_, hDescribed⟩
  constructor
  · rintro ⟨t, hRead⟩
    obtain ⟨data, steps, hData, hSteps, -, hEach⟩ := (hDescribed t).mp hRead
    exact ⟨data, steps, hData, hSteps, (Value.exists_forall₂ steps).mp ⟨t.steps, hEach⟩⟩
  · rintro ⟨data, steps, hData, hSteps, hEach⟩
    obtain ⟨read, hRead⟩ := (Value.exists_forall₂ steps).mpr hEach
    -- there is nothing in the name that cannot be shown
    have hName : ¬ (orEmpty (Value.field data "name")).HoldsLong := by
      rw [Value.holdsLong_orEmpty]
      exact (h.field hData "name").not_holdsLong
    obtain ⟨name, hName⟩ := (Value.failsIff_display _).exists_ok hName
    exact ⟨⟨name, read⟩, (hDescribed _).mpr ⟨data, steps, hData, hSteps, hName, hRead⟩⟩

/-- A test that opens a shop, waits for two requests and looks at the event layer. -/
def Value.shopTest : Value :=
  ofFields [
    ("name", .text "shop"),
    ("steps", .list [
      ofFields [("action", .text "goto"), ("value", .text "https://shop.test/")],
      ofFields [("action", .text "waitForRequest"), ("for", .text "ga"), ("count", .int 2)],
      ofFields [("action", .text "test"), ("test", ofFields [
        ("id", .int 1), ("name", .text "cart"), ("type", .text "matchDataLayerKeyValue"),
        ("key", .text "total"), ("value", .float (.finite false 3 (-1)))])]])]

theorem Value.isOrdinary_shopTest : shopTest.IsOrdinary := by
  have hTen : 10 ≤ digitBound := Json.pow_le_digitBound (n := 1) (by decide)
  intro n h
  simp [shopTest, ofFields, contains_object, contains_list, contains_scalar] at h
  rcases h with rfl | rfl | rfl
  · exact lt_of_lt_of_le (by decide) hTen
  · exact lt_of_lt_of_le (by decide) hTen
  · exact Option.some_ne_none _

/-- It is accepted, with the defaults where fields are missing. -/
theorem TestDefinition.ofValue_accepts_shop :
    Value.shopTest.IsOrdinary ∧ Value.shopTest.DescribesTest {
      name := "shop"
      steps := [.goto "https://shop.test/", .awaitRequests "ga" 2 Default.requestTimeout,
        .check {
          id := .int 1, name := .text "cart", description := .null
          check := .event "total" (.float (.finite false 3 (-1))) }] } :=
  ⟨Value.isOrdinary_shopTest, ((ofValue_accepts Value.isOrdinary_shopTest).2 _).mp rfl⟩

end BeaconCheck
