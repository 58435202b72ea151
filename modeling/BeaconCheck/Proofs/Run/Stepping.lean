import BeaconCheck.Proofs.Run.Results
import BeaconCheck.Run.Stepper

/-!
# Results of single steps

Whoever executes steps one by one gets a result for each assertion that was evaluated, behind
the earlier ones, and keeps these whatever becomes of a step. Running a test is stepping through
it without a break.

* `Stepper.execute_spec`      — what one step does to the results.
* `Stepper.play_results`      — what any number of steps does to them.
* `Stepper.play_turnsOf`      — the results of a test are those of stepping through it.
* `results_line_up`           — results and assertions, for runs and for single steps.
-/

namespace BeaconCheck

/-- What a step is to add to the results, by what it came to: a step that checks an assertion
and completes adds one, under the id and name of the assertion, and every other step none. -/
def Step.added (step : Step) (outcome : Except Failure Unit) : List (Value × Value) :=
  match outcome with
  | .ok _ => (step.assertion?.map Assertion.head).toList
  | .error _ => []

namespace Stepper

variable (s : Stepper)

/-- A step that completes adds its own result, if it has one. -/
theorem execute_of_ok {index : Int} {step : Step} {w v : World} {result : Option TestResult}
    (h : (s.executor.execute index step).run w = (.ok result, v)) :
    s.execute index step w = (.ok (), { s with results := s.results ++ result.toList }, v) ∧
      result.map TestResult.head = step.assertion?.map Assertion.head := by
  refine ⟨?_, s.executor.execute_heads index step w result (congrArg Prod.fst h)⟩
  rw [execute, h]

/-- A step that fails leaves the results alone. -/
theorem execute_of_error {index : Int} {step : Step} {w v : World} {f : Failure}
    (h : (s.executor.execute index step).run w = (.error f, v)) :
    s.execute index step w = (.error f, s, v) := by
  rw [execute, h]

/-- **One step** leaves the earlier results as they are, and adds what it is to add. -/
theorem execute_spec (index : Int) (step : Step) (w : World) :
    (s.execute index step w).2.1.executor = s.executor ∧
      ∃ added, (s.execute index step w).2.1.results = s.results ++ added ∧
        added.map TestResult.head = step.added (s.execute index step w).1 := by
  -- the step failed, or it completed with a result or without one
  rcases hStep : (s.executor.execute index step).run w with ⟨f | result, v⟩
  · rw [s.execute_of_error hStep]
    exact ⟨rfl, [], (List.append_nil _).symm, rfl⟩
  · obtain ⟨hExecute, hHead⟩ := s.execute_of_ok hStep
    rw [hExecute]
    refine ⟨rfl, result.toList, rfl, ?_⟩
    rw [Step.added, ← hHead]
    cases result <;> rfl

/-- A step that is executed, and what happens to the world before. -/
structure Turn where
  index : Int
  step : Step
  before : World → World := id

/-- Steps are executed one after the other, whatever each comes to. -/
def play (s : Stepper) : List Turn → World → List (Except Failure Unit) × Stepper × World
  | [], w => ([], s, w)
  | turn :: rest, w =>
    let (outcome, s, w) := s.execute turn.index turn.step (turn.before w)
    let (outcomes, s, w) := play s rest w
    (outcome :: outcomes, s, w)

/-- What steps are to add to the results, by what they came to. -/
def addedBy (turns : List Turn) (outcomes : List (Except Failure Unit)) : List (Value × Value) :=
  (turns.zipWith (fun turn => turn.step.added) outcomes).flatten

/-- **Any number of steps** leaves the earlier results as they are, and each adds what it is to
add, in order. -/
theorem play_results (turns : List Turn) (w : World) :
    (s.play turns w).1.length = turns.length ∧
      ∃ added, (s.play turns w).2.1.results = s.results ++ added ∧
        added.map TestResult.head = addedBy turns (s.play turns w).1 := by
  induction turns generalizing s w with
  | nil => exact ⟨rfl, [], (List.append_nil _).symm, rfl⟩
  | cons turn rest ih =>
    obtain ⟨-, first, hFirst, hFirstHeads⟩ := s.execute_spec turn.index turn.step (turn.before w)
    rw [play]
    rcases hExecute : s.execute turn.index turn.step (turn.before w) with ⟨outcome, s', w'⟩
    rw [hExecute] at hFirst hFirstHeads
    -- the rest starts with the results that the first step left, whatever it came to
    obtain ⟨hLength, others, hOthers, hOtherHeads⟩ := ih s' w'
    simp only []
    refine ⟨congrArg (· + 1) hLength, first ++ others, ?_, ?_⟩
    · rw [hOthers, hFirst, List.append_assoc]
    · rw [List.map_append, hFirstHeads, hOtherHeads]
      rfl

/-! ## Runs -/

/-- The steps of a test in turn, the first of which has an index; nothing happens between them. -/
def turnsOf (index : Nat) : List Step → List Turn
  | [] => []
  | step :: rest => { index, step } :: turnsOf (index + 1) rest

/-- **A run is stepping**: if the steps of a test return results, each step completes when they
are executed one by one, and the same results come behind the earlier ones. -/
theorem play_turnsOf {steps : List Step} {index : Nat} {w v : World} {results : List TestResult}
    (h : (s.executor.executeAll index steps).run w = (.ok results, v)) :
    s.play (turnsOf index steps) w =
      (List.replicate steps.length (.ok ()), { s with results := s.results ++ results }, v) := by
  induction steps generalizing s index w results with
  | nil =>
    rw [Executor.executeAll, RunM.run_pure] at h
    cases h
    rw [turnsOf, play, List.append_nil]
    rfl
  | cons step rest ih =>
    rw [Executor.executeAll, RunM.run_bind] at h
    rcases hStep : (s.executor.execute index step).run w with ⟨f | result, u⟩
    · rw [hStep] at h
      cases h
    · rw [hStep] at h
      simp only [RunM.run_bind] at h
      rcases hRest : (s.executor.executeAll (index + 1) rest).run u with ⟨f | others, u'⟩
      · rw [hRest] at h
        cases h
      · rw [hRest] at h
        cases h
        -- the results of the rest come behind those that the first step left
        have hPlayed := ih { s with results := s.results ++ result.toList } hRest
        rw [turnsOf, play, show s.execute index step (id w) = _ from (s.execute_of_ok hStep).1]
        simp only []
        rw [hPlayed, List.append_assoc]
        rfl

end Stepper

/-! ## Results and assertions -/

/-- **Results line up with assertions.** A run that returns has one result for each assertion of
the test, in order, under the id and name of the assertion. When steps are executed one by one, a
step leaves the earlier results as they are; it adds exactly one if it checks an assertion and
completes, and none otherwise. So any number of steps adds the results of the assertions that
were evaluated, in order. -/
theorem results_line_up :
    (∀ page t o results, ((runTest o t).run (.before page o)).1 = .ok results →
      results.map TestResult.head = t.assertions.map Assertion.head) ∧
    (∀ (s : Stepper) (index : Int) (step : Step) (w : World),
      let (outcome, s', _) := s.execute index step w
      ∃ added, s'.results = s.results ++ added ∧
        ((∃ a r, step = .check a ∧ outcome = .ok () ∧ added = [r] ∧ r.head = a.head) ∨
          ((∀ a, step ≠ .check a) ∨ ∃ f, outcome = .error f) ∧ added = [])) ∧
    ∀ (s : Stepper) (turns : List Stepper.Turn) (w : World),
      let (outcomes, s', _) := s.play turns w
      outcomes.length = turns.length ∧ ∃ added, s'.results = s.results ++ added ∧
        added.map TestResult.head = Stepper.addedBy turns outcomes := by
  refine ⟨fun page t o results h => heads_of_runTest h, fun s index step w => ?_,
    fun s turns w => s.play_results turns w⟩
  obtain ⟨-, added, hResults, hHeads⟩ := s.execute_spec index step w
  rcases hExecute : s.execute index step w with ⟨outcome, s', v⟩
  rw [hExecute] at hResults hHeads
  refine ⟨added, hResults, ?_⟩
  -- as many results are added as heads are, and of these there is one at most
  cases outcome with
  | error f => exact .inr ⟨.inr ⟨f, rfl⟩, List.map_eq_nil_iff.mp hHeads⟩
  | ok _ =>
    cases hStep : step.assertion? with
    | none =>
      refine .inr ⟨.inl fun a hCheck => ?_, ?_⟩
      · rw [hCheck] at hStep
        cases hStep
      · rw [Step.added, hStep] at hHeads
        exact List.map_eq_nil_iff.mp hHeads
    | some a =>
      have hCheck : step = .check a := by
        cases step with
        | check b => exact congrArg Step.check (Option.some.inj hStep)
        | _ => cases hStep
      rw [Step.added, hStep] at hHeads
      obtain ⟨r, rfl, hHead⟩ := List.map_eq_singleton_iff.mp hHeads
      exact .inl ⟨a, r, hCheck, rfl, rfl, hHead⟩

/-- A test with two assertions returns on a page, and has a result for each of them. -/
theorem results_line_up_shop :
    let page : Page := { layers := [("dataLayer", .list [.ofFields [("v", .int 1)]])] }
    let cart : Assertion := { id := .int 1, name := .text "cart", check := .event "v" (.int 1) }
    let total : Assertion := { id := .int 2, name := .text "total", check := .event "v" (.int 2) }
    let t : TestDefinition :=
      { name := "shop", steps := [.check cart, .pause (.int 5), .check total] }
    ∃ results, ((runTest {} t).run (.before page {})).1 = .ok results ∧
      results.map TestResult.head = [(.int 1, .text "cart"), (.int 2, .text "total")] := by
  intro page cart total t
  have hReturns : ((runTest {} t).run (.before page {})).1.isOk = true := by decide +kernel
  cases hRun : ((runTest {} t).run (.before page {})).1 with
  | error f =>
    rw [hRun] at hReturns
    cases hReturns
  | ok results => exact ⟨results, rfl, results_line_up.1 page t {} results hRun⟩

end BeaconCheck
