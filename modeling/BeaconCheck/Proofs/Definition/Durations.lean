import BeaconCheck.Proofs.Definition.Options
import BeaconCheck.Proofs.Definition.Steps

/-!
# Durations that are read

The durations of a test or of options are checked when they are read. Not-a-number passes, as it
is not below zero: a pause keeps it, and every other duration loses its fraction, for which a
number must be finite. So what is read has durations of zero or above, apart from pauses of this
length, and reading crashes where a duration is not finite, or where something has to be shown
that cannot be.

* `Step.DurationsFrom`, `RunOptions.DurationsFrom` — durations as the fields give them.
* `durations_of_read`                              — all of the above, for every value.
* `durations_unchecked`                            — the values that pass, on examples.
-/

namespace BeaconCheck

open FieldReading

/-- The durations of a step are those that the value gives: a pause is zero or longer, unless it
is the one without end, and a timeout is the integer part of a number that is zero or above. -/
def Step.DurationsFrom (raw : Value) : Step → Prop
  | .pause n => n.AtLeastZero ∨ raw.IsEndlessPause (.pause n)
  | .awaitRequests _ _ timeout => ∃ data, raw.entries? = some data ∧
      HasDuration data "timeout" Default.requestTimeout timeout
  | _ => True

/-- The durations of options are those that the value gives: the integer parts of numbers that
are zero or above. -/
def RunOptions.DurationsFrom (v : Value) (o : RunOptions) : Prop :=
  (v = .null ∧ o = {}) ∨ ∃ data, v.entries? = some data ∧
    HasDuration data "settleDelay" Default.settleDelay o.settleDelay ∧
    HasDuration data "typeDelay" Default.typeDelay o.typeDelay ∧
    HasDuration data "timeout" Default.timeout o.timeout

namespace Value

variable {v : Value}

/-- A pause without end lasts for not-a-number. -/
theorem IsEndlessPause.eq_pause {s : Step} (h : v.IsEndlessPause s) : s = .pause (.float .nan) := by
  obtain ⟨_, _, _, _, hPause⟩ := h
  exact hPause

/-- The durations of a step are those that its value has. -/
theorem BecomesStep.durations {s : Step} (h : v.BecomesStep s) : s.DurationsFrom v := by
  rcases h with ⟨data, hData, hAction⟩ | hPause
  · -- the other steps have no duration
    cases hAction with
    | pause _ _ hAtLeast => exact .inl hAtLeast
    | awaitRequests _ _ _ hTimeout => exact ⟨data, hData, hTimeout⟩
    | goto | click | awaitElement | type | check => trivial
  · obtain rfl := hPause.eq_pause
    exact .inr hPause

/-- So are the durations of the options. -/
theorem DescribesOptions.durations {o : RunOptions} (h : v.DescribesOptions o) :
    o.DurationsFrom v := by
  cases h with
  | missing h => exact .inl ⟨h, rfl⟩
  | given hData hSettings =>
    exact .inr ⟨_, hData, hSettings.settleDelay, hSettings.typeDelay, hSettings.timeout⟩

end Value

/-- **What reading comes to, and which durations it lets through.** Reading a test crashes exactly
where an unknown name, or the name of the test, cannot be shown, and at a timeout that has no
integer part; reading options exactly at durations of this kind. Every duration in what is read
is zero or above, but for pauses that are not-a-number. -/
theorem durations_of_read (v : Value) :
    (∀ c, TestDefinition.ofValue v = .error (.crash c) ↔ v.CrashesTest c) ∧
    (∀ c, RunOptions.ofValue v = .error (.crash c) ↔ v.CrashesOptions c) ∧
    (∀ t, TestDefinition.ofValue v = .ok t → ∃ data steps, v.entries? = some data ∧
      (Value.field data "steps").items? = some steps ∧
      List.Forall₂ (fun raw s => s.DurationsFrom raw) steps t.steps) ∧
    ∀ o, RunOptions.ofValue v = .ok o → o.DurationsFrom v := by
  have hTest := TestDefinition.reads_ofValue v
  have hOptions := RunOptions.reads_ofValue v
  refine ⟨hTest.crash, hOptions.crash, fun t hRead => ?_, fun o hRead => ?_⟩
  · obtain ⟨data, steps, hData, hSteps, -, hEach⟩ := (hTest.ok t).mp hRead
    exact ⟨data, steps, hData, hSteps, hEach.imp fun raw s hStep => hStep.durations⟩
  · exact ((hOptions.ok o).mp hRead).durations

/-- A timeout of 1500.5 milliseconds is read as one of 1500. -/
theorem durations_of_read_timeout :
    let v := Value.ofFields [("timeout", .float (.finite false 3001 (-1)))]
    RunOptions.ofValue v = .ok { timeout := 1500 } ∧
      RunOptions.DurationsFrom v { timeout := 1500 } := by
  intro v
  have hRead : RunOptions.ofValue v = .ok { timeout := 1500 } := rfl
  exact ⟨hRead, (durations_of_read v).2.2.2 _ hRead⟩

/-- Not every value is read or refused, and not every duration that is read is zero or above. -/
theorem durations_unchecked :
    RunOptions.ofValue (.ofFields [("timeout", .float .nan)]) =
      .error (.crash .nanToInteger) ∧
    RunOptions.ofValue (.ofFields [("timeout", .float (.infinite false))]) =
      .error (.crash .infinityToInteger) ∧
    TestDefinition.ofValue (.ofFields [("steps", .list [
      .ofFields [("action", .text "wait"), ("value", .float .nan)]])]) =
      .ok { name := "", steps := [.pause (.float .nan)] } ∧
    ¬ (Number.float .nan).AtLeastZero ∧
    TestDefinition.ofValue (.ofFields [("name", .int digitBound), ("steps", .list [])]) =
      .error (.crash .tooLongToWrite) := by
  -- the first three are read through; not-a-number is neither an integer nor a finite number
  refine ⟨rfl, rfl, rfl, ?_, ?_⟩
  · rintro (h | ⟨r, h, -⟩)
    · cases h
    · cases h
  · -- the integer is never computed: that it is long decides
    have hLong : (Value.int digitBound).HoldsLong := ⟨_, .here, (Int.natAbs_natCast _).ge⟩
    exact ((TestDefinition.reads_ofValue _).crash _).mpr (.name rfl rfl hLong)

end BeaconCheck
