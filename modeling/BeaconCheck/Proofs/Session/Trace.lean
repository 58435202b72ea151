import BeaconCheck.Proofs.Run.Calls
import BeaconCheck.Proofs.Session.Stage

/-!
# The calls of a test

Running a test starts a session, makes the calls of its steps one after the other, and closes
the session. Of the calls of the steps a prefix is made: all of them if the test returns, and
otherwise those up to the call whose failure ended a step.

* `run_runTest`       — a test is run between the start and the end of a session.
* `Session.run_ends`  — which calls of its steps were made when a test has ended.
* `runTest_result`    — a test gives what its steps give.
* `calls_of_runTest`  — all calls of a test, from the start of its session to the end.
-/

namespace BeaconCheck

namespace World

/-- The world in which the steps of a test begin: the log says which test is run. -/
def announcing (t : TestDefinition) (w : World) : World :=
  w.addLog [⟨.info, "Running test '" ++ t.name ++ s!"' ({t.steps.length} steps)"⟩]

end World

theorem Executor.run_executeTest (x : Executor) (t : TestDefinition) (w : World) :
    (x.executeTest t).run w = (x.executeAll 0 t.steps).run (w.announcing t) := rfl

namespace Session

/-- Results must be such that the log can show them. -/
def reported (results : List TestResult) : Except Failure (List TestResult) :=
  ((Json.write .line (TestResult.report results)).mapError Failure.crash).map fun _ => results

/-- What is reported are the results themselves. -/
theorem eq_of_reported {results shown : List TestResult} (h : reported results = .ok shown) :
    shown = results := by
  unfold reported at h
  cases hWritten : Json.write .line (TestResult.report results) with
  | error c =>
    rw [hWritten] at h
    cases h
  | ok text =>
    rw [hWritten] at h
    cases h
    rfl

/-- A test fails as its steps do, and otherwise its results are shown in the log. -/
theorem run_run (o : RunOptions) (t : TestDefinition) (w : World) :
    (run o t).run w =
      match (Executor.executeAll ⟨o, w.held.contains .page⟩ 0 t.steps).run (w.announcing t) with
      | (.error f, v) => (.error f, v.addLog [⟨.error, "Test '" ++ t.name ++ "' aborted: " ++ f.message⟩])
      | (.ok results, v) =>
        match Json.write .line (TestResult.report results) with
        | .error c => (.error (.crash c), v)
        | .ok shown => (.ok results, v.addLog [⟨.info, "Results for '" ++ t.name ++ "': " ++ shown⟩]) := by
  rw [run, executor, RunM.run_bind, RunM.run_bind, RunM.run_get]
  simp only [RunM.run_pure]
  -- the steps are logged and run; whatever they fail with is logged and raised again
  rw [RunM.run_bind, RunM.run_tryCatch, Executor.run_executeTest]
  rcases (Executor.executeAll ⟨o, w.held.contains .page⟩ 0 t.steps).run (w.announcing t) with
    ⟨f | results, v⟩
  · rfl
  · simp only []
    rw [RunM.run_bind, RunM.run_safely]
    cases Json.write .line (TestResult.report results) <;> rfl

/-- **Which calls were made when a test has ended.** The test ends as its steps do, unless
its results cannot be shown. -/
theorem run_ends (o : RunOptions) (t : TestDefinition) (w : World) :
    let x : Executor := ⟨o, w.held.contains .page⟩
    let ended := (x.executeAll 0 t.steps).run (w.announcing t)
    ∃ made, World.Course w made ((run o t).run w).2 ∧
      RunEnds x 0 t.steps (w.announcing t) ended.1 made ∧
      ((run o t).run w).1 = ended.1 >>= reported := by
  intro x ended
  obtain ⟨made, hCourse, hEnds⟩ := x.executeAll_ends 0 t.steps (w.announcing t)
  have hAnnounced : World.Course w made ended.2 :=
    World.Course.after (.one (.logged w _)) hCourse
  refine ⟨made, ?_⟩
  rw [run_run]
  -- behind the steps only the log grows
  rcases hRun : (x.executeAll 0 t.steps).run (w.announcing t) with ⟨f | results, v⟩
  · rw [hRun] at hEnds
    rw [show ended = (.error f, v) from hRun] at hAnnounced ⊢
    exact ⟨hAnnounced.andThen (.one (.logged v _)), hEnds, rfl⟩
  · rw [hRun] at hEnds
    rw [show ended = (.ok results, v) from hRun] at hAnnounced ⊢
    simp only [reported, bind, Except.bind]
    cases Json.write .line (TestResult.report results) with
    | error c => exact ⟨hAnnounced, hEnds, rfl⟩
    | ok shown => exact ⟨hAnnounced.andThen (.one (.logged v _)), hEnds, rfl⟩

end Session

/-- **A test is run between the start and the end of a session**, which is closed in any
case. -/
theorem run_runTest (o : RunOptions) (t : TestDefinition) (w : World) :
    (runTest o t).run w =
      match (Session.enter o).run w with
      | (.error f, v) => (.error f, v)
      | (.ok _, v) =>
        (((Session.run o t).run v).1, (Session.close.run ((Session.run o t).run v).2).2) := by
  rw [runTest, RunM.run_bind]
  rcases (Session.enter o).run w with ⟨f | _, v⟩
  · rfl
  · simp only []
    rw [RunM.run_bind, RunM.run_tryCatch]
    -- the session is closed behind the run, whichever way that has ended
    rcases (Session.run o t).run v with ⟨f | results, u⟩
    · simp only [Session.run_close_bind]
      rfl
    · simp only [Session.run_close_bind]
      rfl

/-- A test whose session can be entered gives what its steps give on the page, unless the
results cannot be shown. -/
theorem runTest_result {o : RunOptions} {w : World} (t : TestDefinition)
    (hSetup : ((Session.enter o).run w).1 = .ok ()) :
    ((runTest o t).run w).1 =
      ((Executor.executeAll ⟨o, true⟩ 0 t.steps).run
        (((Session.enter o).run w).2.announcing t)).1 >>= Session.reported := by
  obtain ⟨-, -, hHeld⟩ := Session.enter_ok hSetup
  rcases hEnter : (Session.enter o).run w with ⟨entered, w₁⟩
  rw [hEnter] at hSetup hHeld
  obtain rfl : entered = .ok () := hSetup
  -- a session that was entered holds a page
  have hPage : w₁.held.contains .page = true := List.contains_iff_mem.mpr (hHeld .page)
  obtain ⟨-, -, -, hResult⟩ := Session.run_ends o t w₁
  rw [run_runTest, hEnter]
  simp only [hResult, hPage]

/-- **The calls of a test whose session can be started.** They are those that start the
session, a prefix of the calls of the steps, and those that close it. The prefix is whole if
the test returns. If it fails, either the results cannot be shown, and the prefix is whole as
well; or a step fails with that failure, after all calls of the steps before it, none of which
failed fatally, and those of its own that were made up to the failure. -/
theorem calls_of_runTest (o : RunOptions) (t : TestDefinition) (page : Page)
    (hSetup : ((Session.enter o).run (.before page o)).1 = .ok ()) :
    let x : Executor := ⟨o, true⟩
    let start := ((Session.enter o).run (.before page o)).2.announcing t
    let ended : Except Failure (List TestResult) × World := (runTest o t).run (.before page o)
    ∃ made : List AnsweredCall,
      ended.2.calls =
        [.start, .launch o.headless, .newContext, .newPage] ++
          (if o.trackers.isEmpty then [] else [.route]) ++
          made.map AnsweredCall.call ++ [.closePage, .closeContext, .closeBrowser, .stop] ∧
      Page.answersTo start.page.failures (made.map AnsweredCall.call) = made ∧
      made.map AnsweredCall.call <+: t.steps.flatMap (Step.calls o) ∧
      match ended.1 with
      | .ok results =>
        made.map AnsweredCall.call = t.steps.flatMap (Step.calls o) ∧
          (∀ p ∈ made, p.isFatal = false) ∧
          ((x.executeAll 0 t.steps).run start).1 = .ok results
      | .error f =>
        (made.map AnsweredCall.call = t.steps.flatMap (Step.calls o) ∧
          (∀ p ∈ made, p.isFatal = false) ∧
          ∃ results c, ((x.executeAll 0 t.steps).run start).1 = .ok results ∧
            Json.write .line (TestResult.report results) = .error c ∧ f = .crash c) ∨
        ∃ before step after earlier w done mine,
          t.steps = before ++ step :: after ∧ made = done ++ mine ∧
          (x.executeAll 0 before).run start = (.ok earlier, w) ∧
          ((x.execute before.length step).run w).1 = .error f ∧
          done.map AnsweredCall.call = before.flatMap (Step.calls o) ∧
          (∀ p ∈ done, p.isFatal = false) ∧ StepFailed x step f mine := by
  intro x start ended
  have hResult : ended.1 = ((x.executeAll 0 t.steps).run start).1 >>= Session.reported :=
    runTest_result t hSetup
  obtain ⟨hStage, hClosed, hHeld⟩ := Session.enter_ok hSetup
  rcases hEnter : (Session.enter o).run (.before page o) with ⟨entered, w₁⟩
  rw [hEnter] at hSetup hStage hClosed hHeld
  obtain rfl : entered = .ok () := hSetup
  have hStart : start = w₁.announcing t := by
    show ((Session.enter o).run (.before page o)).2.announcing t = _
    rw [hEnter]
  have hPage : w₁.held.contains .page = true := List.contains_iff_mem.mpr (hHeld .page)
  -- the session is open, its steps are run on the page, and it is closed
  obtain ⟨made, hCourse, hEnds, -⟩ := Session.run_ends o t w₁
  rw [hPage, ← hStart] at hEnds
  have hOpen : ((Session.run o t).run w₁).2.closed = false := by
    rw [hCourse.frame.closed]
    exact hClosed
  obtain ⟨closings, hCloseStage, -, hClosings, -⟩ := Session.close_of_open hOpen
  have hClosingCalls : closings.map AnsweredCall.call =
      [.closePage, .closeContext, .closeBrowser, .stop] := by
    rw [hClosings, hCourse.frame.held]
    exact Session.closingsOf_all hHeld
  have hEnded : ended.2 = (Session.close.run ((Session.run o t).run w₁).2).2 := by
    show ((runTest o t).run _).2 = _
    rw [run_runTest, hEnter]
  refine ⟨made, ?_, ?_, hEnds.calls_prefix, ?_⟩
  · rw [hEnded, hCloseStage.calls_eq, hCourse.calls_eq, hStage.calls_eq, hClosingCalls,
      Session.calls_answered]
    rfl
  · have hSame : start.page.failures = w₁.page.failures := by
      rw [hStart]
      rfl
    rw [hSame]
    exact hCourse.answered_eq.1
  · rw [hResult]
    rcases hSteps : ((x.executeAll 0 t.steps).run start).1 with f | results
    -- the steps failed, at one of them
    · rw [hSteps] at hEnds
      refine .inr ?_
      cases hEnds with
      | raised before step after hSplit hBefore hRaised hCalls hGood hLast hWhole =>
        rw [Nat.zero_add] at hRaised
        exact ⟨_, _, _, _, _, _, _, hSplit, rfl, hBefore, hRaised, hCalls, hGood,
          hLast.failed rfl hWhole⟩
    -- the steps gave results, which the log can show or not
    · rw [hSteps] at hEnds
      cases hEnds with
      | returned hCalls hGood =>
        simp only [bind, Except.bind, Session.reported]
        cases hShown : Json.write .line (TestResult.report results) with
        | error c => exact .inl ⟨hCalls, hGood, results, c, rfl, hShown, rfl⟩
        | ok shown => exact ⟨hCalls, hGood, rfl⟩

/-- A click that fails ends the test: the typing behind it is left out. -/
theorem calls_of_runTest_failing_click :
    let o : RunOptions := { trackers := [⟨"ga", "collect", false⟩], settleDelay := 5 }
    let t : TestDefinition := ⟨"shop", [.goto "https://shop/", .click "#buy", .type "#q" "a" true]⟩
    let page : Page := { failures := [⟨{ name := "click" }, 1, ⟨.timeout, "late"⟩⟩] }
    ((Session.enter o).run (.before page o)).1 = .ok () ∧
      ∃ made : List AnsweredCall,
        ((runTest o t).run (.before page o)).2.calls =
          [.start, .launch true, .newContext, .newPage, .route] ++ made.map AnsweredCall.call ++
            [.closePage, .closeContext, .closeBrowser, .stop] ∧
        made.map AnsweredCall.call =
          [.goto "https://shop/" o.timeout, .waitForTimeout (.int 5),
            .waitForSelector "#buy" o.timeout, .click "#buy"] := by
  intro o t page
  have hSetup : ((Session.enter o).run (.before page o)).1 = .ok () :=
    RunM.eq_ok_of_isOk (by decide +kernel)
  obtain ⟨made, hCalls, -⟩ := calls_of_runTest o t page hSetup
  refine ⟨hSetup, made, hCalls, ?_⟩
  -- the calls are evaluated once, and what the theorem says of their two ends leaves those in
  -- between
  have hAll : ((runTest o t).run (.before page o)).2.calls =
      [.start, .launch true, .newContext, .newPage, .route] ++
        [.goto "https://shop/" o.timeout, .waitForTimeout (.int 5),
          .waitForSelector "#buy" o.timeout, .click "#buy"] ++
        [.closePage, .closeContext, .closeBrowser, .stop] := by
    decide +kernel
  have hSame := List.append_cancel_right (hCalls.symm.trans hAll)
  exact List.append_cancel_left hSame

end BeaconCheck
