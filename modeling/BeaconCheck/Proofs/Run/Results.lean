import BeaconCheck.Proofs.Session.Trace

/-!
# Results and assertions

The results of a test line up with its assertions: there is one for each, in order, and it is
reported under the id and the name of its assertion.

* `RunM.Returns`           — what a computation returns if it does not fail.
* `Executor.execute_heads` — a step returns the result of its own assertion, if it has one.
* `heads_of_runTest`       — the results of a test are those of its assertions.
* `TestResult.spreads_toValue`, `TestResult.spreads_report` — what is somewhere in a report is in
  one of its results.
-/

namespace BeaconCheck

/-- What a result is reported under. -/
def TestResult.head (r : TestResult) : Value × Value :=
  (r.id, r.name)

/-- What the result of the assertion is reported under. -/
def Assertion.head (a : Assertion) : Value × Value :=
  (a.id, a.name)

namespace RunM

variable {α β : Type}

/-- Whatever the world, the computation fails or returns something with the property. -/
def Returns (m : RunM α) (P : α → Prop) : Prop :=
  ∀ w a, (m.run w).1 = .ok a → P a

theorem Returns.pure {P : α → Prop} {a : α} (h : P a) : Returns (pure a) P := by
  intro w b hRun
  obtain rfl := Except.ok.inj hRun
  exact h

/-- What computations in turn return goes by what the first one does. -/
theorem Returns.bind {P : α → Prop} {Q : β → Prop} {m : RunM α} {f : α → RunM β}
    (hm : Returns m P) (hf : ∀ a, P a → Returns (f a) Q) : Returns (m >>= f) Q := by
  intro w b hRun
  rw [run_bind_fst] at hRun
  cases hFirst : (m.run w).1 with
  | error e =>
    rw [hFirst] at hRun
    cases hRun
  | ok a =>
    rw [hFirst] at hRun
    exact hf a (hm w a hFirst) _ b hRun

/-- What is done before does not matter. -/
theorem Returns.after {Q : β → Prop} {m : RunM α} {f : α → RunM β}
    (hf : ∀ a, Returns (f a) Q) : Returns (m >>= f) Q :=
  Returns.bind (P := fun _ => True) (fun _ _ _ => trivial) fun a _ => hf a

end RunM

namespace Executor

variable (x : Executor)

/-- A result stands under the id and the name of its assertion. -/
theorem evaluate_head (a : Assertion) : (x.evaluate a).Returns fun r => r.head = a.head := by
  unfold evaluate
  refine .after fun shown => .after fun _ => .after fun p => ?_
  exact .after fun _ => .pure rfl

/-- A step returns a result exactly if it checks an assertion. -/
theorem execute_heads (index : Int) (step : Step) :
    (x.execute index step).Returns fun r =>
      r.map TestResult.head = step.assertion?.map Assertion.head := by
  -- only a check gives a result, which is its own
  cases step with
  | goto url => exact .after fun _ => .after fun _ => .after fun _ => .pure rfl
  | click selector => exact .after fun _ => .after fun _ => .after fun _ => .pure rfl
  | pause length => exact .after fun _ => .after fun _ => .after fun _ => .pure rfl
  | awaitElement selector => exact .after fun _ => .after fun _ => .pure rfl
  | type selector text clear => exact .after fun _ => .after fun _ => .pure rfl
  | awaitRequests tracker count timeout => exact .after fun _ => .pure rfl
  | check a =>
    exact (x.evaluate_head a).bind fun r hr => .pure (congrArg some hr)
  | unknown kind => exact .after fun _ => .pure rfl

/-- There is one result for each assertion, in order. -/
theorem executeAll_heads (index : Nat) (steps : List Step) :
    (x.executeAll index steps).Returns fun rs =>
      rs.map TestResult.head = (steps.filterMap Step.assertion?).map Assertion.head := by
  induction steps generalizing index with
  | nil => exact .pure rfl
  | cons step rest ih =>
    refine (x.execute_heads index step).bind fun r hr => (ih (index + 1)).bind fun rs hrs => ?_
    refine .pure ?_
    rw [List.map_append, hrs]
    -- a step without an assertion adds to neither list
    cases hStep : step.assertion? with
    | none =>
      rw [hStep, Option.map_none, Option.map_eq_none_iff] at hr
      rw [hr, List.filterMap_cons_none hStep]
      rfl
    | some a =>
      rw [hStep, Option.map_some, Option.map_eq_some_iff] at hr
      obtain ⟨result, rfl, hHead⟩ := hr
      rw [List.filterMap_cons_some hStep, Option.toList_some, List.map_singleton, hHead]
      rfl

end Executor

/-- A test that returns has entered its session. -/
theorem Session.enter_of_runTest {o : RunOptions} {t : TestDefinition} {w : World}
    {results : List TestResult} (h : ((runTest o t).run w).1 = .ok results) :
    ((Session.enter o).run w).1 = .ok () := by
  rw [run_runTest] at h
  rcases hEnter : (Session.enter o).run w with ⟨f | _, v⟩
  · rw [hEnter] at h
    cases h
  · rfl

/-- **The results of a test line up with its assertions.** -/
theorem heads_of_runTest {o : RunOptions} {t : TestDefinition} {w : World}
    {results : List TestResult} (h : ((runTest o t).run w).1 = .ok results) :
    results.map TestResult.head = t.assertions.map Assertion.head := by
  rw [runTest_result t (Session.enter_of_runTest h), bind_eq_ok] at h
  obtain ⟨found, hFound, hReported⟩ := h
  obtain rfl := Session.eq_of_reported hReported
  exact Executor.executeAll_heads _ 0 t.steps _ _ hFound

/-! ## What is somewhere in a report -/

namespace TestResult

/-- What is under one of the results is under one of their assertions. -/
theorem exists_head_iff {results : List TestResult} {as : List Assertion}
    (hHeads : results.map head = as.map Assertion.head) (P : Value × Value → Prop) :
    (∃ r ∈ results, P r.head) ↔ ∃ a ∈ as, P a.head :=
  calc (∃ r ∈ results, P r.head)
      ↔ ∃ h ∈ results.map head, P h := by simp only [List.mem_map, exists_exists_and_eq_and]
    _ ↔ ∃ h ∈ as.map Assertion.head, P h := by rw [hHeads]
    _ ↔ ∃ a ∈ as, P a.head := by simp only [List.mem_map, exists_exists_and_eq_and]

/-- A property that an object has if one of its fields does, the entry of a result has if its id,
its name, the text of its outcome or its message does. -/
theorem spreads_toValue {P : Value → Prop}
    (hFields : ∀ fields, P (.ofFields fields) ↔ ∃ p ∈ fields, P p.2) {r : TestResult} :
    P r.toValue ↔ P r.id ∨ P r.name ∨ P (.text r.outcome.text) ∨
      ∃ m, r.message = some m ∧ (Value.text m).isTruthy ∧ P (.text m) := by
  -- the message is left out where there is none and where it is empty
  have hMessage : (∃ p ∈ (if ((r.message.map Value.text).getD .null).isTruthy then
        [("message", (r.message.map Value.text).getD .null)] else []), P p.2) ↔
      ∃ m, r.message = some m ∧ (Value.text m).isTruthy ∧ P (.text m) := by
    cases r.message with
    | none => exact iff_of_false nofun nofun
    | some m =>
      simp only [Option.map_some, Option.getD_some, Option.some.injEq, exists_eq_left']
      split
      · next hTruthy => simp [hTruthy]
      · next hEmpty => simp [hEmpty]
  rw [toValue, entry, hFields]
  simp only [List.mem_singleton, exists_eq_left]
  rw [hFields, ← hMessage]
  simp only [List.cons_append, List.nil_append, List.exists_mem_cons_iff]

/-- A property that a list has if one of its items does, a report has if one of its results
does. -/
theorem spreads_report {P : Value → Prop}
    (hItems : ∀ items, P (.list items) ↔ ∃ x ∈ items, P x) {results : List TestResult} :
    P (report results) ↔ ∃ r ∈ results, P r.toValue := by
  rw [report, hItems]
  simp only [List.mem_map, exists_exists_and_eq_and]

end TestResult

end BeaconCheck
