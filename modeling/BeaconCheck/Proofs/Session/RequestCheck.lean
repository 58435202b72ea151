import BeaconCheck.Proofs.Capture.Matching
import BeaconCheck.Proofs.Definition.Options
import BeaconCheck.Proofs.Session.Trace

/-!
# What a request assertion comes to

In any state that a test can reach, a request assertion is decided by the requests on record:
those that were handled and that are for its tracker. The store of the capture does not show
in the verdict, because it is the history of these requests.

* `RequestVerdict`            — the outcome and the message that the requests on record ask for.
* `Capture.told_of_faithful`  — matching the captured requests gives this verdict.
* `run_request_check`         — an assertion that is reached has one result, with this verdict.
-/

namespace BeaconCheck

/-- The outcome and the message of a request assertion, given the requests that were handled:
an error if no tracker has the name, a failure if no request is for the tracker, an error if
the pattern cannot be compiled, and otherwise whether the pattern is found in the value that
one of the requests, or the last of them, has for the key. -/
def RequestVerdict (trackers : List Tracker) (handled : List String)
    (tracker key pattern : Text) (any : Bool) (outcome : Outcome) (message : Option Text) :
    Prop :=
  match trackers.find? fun t => t.name == tracker with
  | none => outcome = .error ∧ message.isSome
  | some t =>
    let seen := handled.filter t.isFor
    if seen = [] then outcome = .fail ∧ message.isSome
    else
      match Pattern.compile pattern with
      | .error _ => outcome = .error ∧ message.isSome
      | .ok p =>
        message = none ∧ (outcome = .pass ∨ outcome = .fail) ∧
          (outcome = .pass ↔ ∃ url ∈ if any then seen else seen.getLast?.toList,
            ∃ params value, Query.params url = .ok params ∧
              params.get? key = some value ∧ p.occursIn value = true)

/-- How an evaluation is told: a decision as an outcome, an error of the assertion as its
outcome and message. -/
def Told (r : Evaluated Bool) (outcome : Outcome) (message : Option Text) : Prop :=
  match r with
  | .ok b => outcome = .ofBool b ∧ message = none
  | .error (.assertion e) => outcome = e.outcome ∧ message = some e.message
  | .error _ => False

namespace Capture

theorem ofBool_eq_pass {b : Bool} : Outcome.ofBool b = .pass ↔ b = true := by
  cases b <;> simp [Outcome.ofBool]

theorem ofBool_cases (b : Bool) : Outcome.ofBool b = .pass ∨ Outcome.ofBool b = .fail := by
  cases b
  · exact .inr rfl
  · exact .inl rfl

/-- **Matching the captured requests gives the verdict** of the requests on record. -/
theorem told_of_faithful {w : World} {trackers : List Tracker} (hw : w.Faithful)
    (hTrackers : w.capture.trackers = trackers)
    (hNodup : (trackers.map Tracker.name).Nodup) (tracker key pattern : Text) (any : Bool)
    (hCompiles : ∀ c, Pattern.compile pattern ≠ .error (.crash c)) :
    ∃ outcome message, Told (w.capture.matchesRequest tracker key pattern any) outcome message ∧
      RequestVerdict trackers w.handled tracker key pattern any outcome message := by
  unfold RequestVerdict
  cases hFind : trackers.find? fun t => t.name == tracker with
  | none =>
    -- no tracker has the name
    have hUnknown : tracker ∉ w.capture.trackers.map Tracker.name := by
      intro hMem
      obtain ⟨t, ht, hName⟩ := List.mem_map.mp hMem
      rw [hTrackers] at ht
      exact List.find?_eq_none.mp hFind t ht (beq_iff_eq.mpr hName)
    rw [matchesRequest_of_unknown (hw.requests_of_not_mem hUnknown)]
    exact ⟨_, _, ⟨rfl, rfl⟩, rfl, rfl⟩
  | some t =>
    have ht : t ∈ trackers := List.mem_of_find?_eq_some hFind
    have hName : t.name = tracker := by simpa using List.find?_some hFind
    subst hName
    -- the list of the tracker is what the requests that are for it say
    have hRequests : w.capture.requests t.name =
        .ok ((w.handled.filter t.isFor).map recordOf) := by
      have hKnown : t.name ∈ w.capture.trackers.map Tracker.name := by
        rw [hTrackers]
        exact List.mem_map_of_mem ht
      rw [hw.requests_eq hKnown, hTrackers, historyOf_of_nodup hNodup ht]
    simp only []
    rw [matchesRequest_of_requests hRequests]
    generalize w.handled.filter t.isFor = seen
    rw [List.getLast?_map]
    cases hLast : seen.getLast? with
    | none =>
      simp only [if_pos (List.getLast?_eq_none_iff.mp hLast), Option.map_none]
      exact ⟨_, _, ⟨rfl, rfl⟩, rfl, rfl⟩
    | some latest =>
      have hSeen : seen ≠ [] := by
        rintro rfl
        cases hLast
      simp only [if_neg hSeen, Option.map_some, requestMatches, compilePattern]
      cases hPattern : Pattern.compile pattern with
      | error e =>
        cases e with
        | refused e => exact ⟨_, _, ⟨rfl, rfl⟩, rfl, rfl⟩
        | crash c => exact absurd hPattern (hCompiles c)
      | ok p =>
        refine ⟨_, _, ⟨rfl, rfl⟩, rfl, ?_, ?_⟩
        · exact ofBool_cases _
        · -- the requests that are looked at are records of the URLs that are
          have hChosen : (if any = true then seen.map recordOf else [recordOf latest]) =
              (if any = true then seen else [latest]).map recordOf := by
            cases any <;> rfl
          rw [ofBool_eq_pass, hChosen, List.any_map, List.any_eq_true]
          simp only [Function.comp_apply, matches_recordOf, Option.toList_some]

end Capture

namespace Executor

variable {x : Executor} {w : World} {outcome : Outcome} {message : Option Text}

/-! ## Executing the assertion -/

/-- What a check of requests asks for is looked up in the capture, and told in the log. -/
theorem run_holds_request (tracker key pattern : Text) (any : Bool) (w : World) :
    (x.holds (.request tracker key pattern any)).run w =
      (w.capture.matchesRequest tracker key pattern any,
        w.addLog (w.capture.requestsLine tracker)) := by
  rw [holds, RunM.run_bind, RunM.run_get]
  simp only []
  rw [RunM.run_bind, RunM.run_modify]
  simp only [RunM.run_result]

/-- How a test step ends: its assertion has an outcome, unless its name cannot be written. -/
theorem execute_check_fst (index : Int) (a : Assertion) (w : World) :
    ((x.execute index (.check a)).run w).1 =
      match a.name.display with
      | .error c => .error (.crash c)
      | .ok shown =>
        ((x.outcome shown a.check).run (w.addLog [⟨.info, "Testing: " ++ shown⟩])).1.map fun p =>
          some { id := a.id, name := a.name, outcome := p.1, message := p.2 } := by
  rw [execute, RunM.run_bind_fst, evaluate, RunM.run_bind_fst, RunM.run_safely]
  -- the name is shown for the log before the check is made
  cases a.name.display with
  | error c => rfl
  | ok shown =>
    simp only [RunM.mapError_ok]
    rw [RunM.run_bind_fst, RunM.run_log]
    simp only []
    rw [RunM.run_bind_fst]
    cases ((x.outcome shown a.check).run (w.addLog [⟨.info, "Testing: " ++ shown⟩])).1 <;> rfl

/-- The outcome of a request assertion is how matching the captured requests is told. -/
theorem outcome_request {tracker key pattern : Text} {any : Bool} (shown : Text)
    (h : Told (w.capture.matchesRequest tracker key pattern any) outcome message) :
    ((x.outcome shown (.request tracker key pattern any)).run w).1 = .ok (outcome, message) := by
  rw [Executor.outcome, RunM.run_tryCatch, RunM.run_bind, run_holds_request]
  -- a match is told as it is, and an error of the assertion as a failure with its message
  cases hMatch : w.capture.matchesRequest tracker key pattern any with
  | ok b =>
    rw [hMatch] at h
    obtain ⟨rfl, rfl⟩ := h
    rfl
  | error f =>
    rw [hMatch] at h
    cases f with
    | assertion e =>
      obtain ⟨rfl, rfl⟩ := h
      rfl
    | _ => cases h

/-- **A request assertion has one result**, unless its name cannot be written. -/
theorem execute_request {a : Assertion} {tracker key pattern : Text} {any : Bool}
    (hCheck : a.check = .request tracker key pattern any)
    (h : Told (w.capture.matchesRequest tracker key pattern any) outcome message)
    (index : Int) :
    ((x.execute index (.check a)).run w).1 =
      match a.name.display with
      | .error c => .error (.crash c)
      | .ok _ => .ok (some { id := a.id, name := a.name, outcome, message }) := by
  rw [execute_check_fst]
  cases a.name.display with
  | error c => rfl
  | ok shown =>
    -- the log is not looked at
    have hOutcome : ((x.outcome shown (.request tracker key pattern any)).run
        (w.addLog [⟨.info, "Testing: " ++ shown⟩])).1 = .ok (outcome, message) :=
      outcome_request shown h
    simp only [hCheck, hOutcome]
    rfl

end Executor

/-! ## Assertions of a test -/

/-- **What a request assertion comes to.** Take a test with accepted options whose session can
be entered, and a request assertion that its run reaches. Then executing it adds exactly one
result to those before it, with the verdict of the requests that were handled up to then, and
this result stays in its place if the test returns. The one exception is an assertion whose
name cannot be written: executing it crashes, and so does the test. -/
theorem run_request_check {data : Value} {o : RunOptions}
    (hOptions : RunOptions.ofValue data = .ok o) {page : Page} {entered : World}
    (hEnter : (Session.enter o).run (.before page o) = (.ok (), entered))
    {t : TestDefinition} {before after : List Step} {a : Assertion}
    (hSteps : t.steps = before ++ .check a :: after)
    {tracker key pattern : Text} {any : Bool}
    (hCheck : a.check = .request tracker key pattern any)
    (hCompiles : ∀ c, Pattern.compile pattern ≠ .error (.crash c))
    {earlier : List TestResult} {reached : World}
    (hReached : (Executor.executeAll ⟨o, true⟩ 0 before).run (entered.announcing t) =
      (.ok earlier, reached)) :
    match a.name.display with
    | .error c =>
      ((Executor.execute ⟨o, true⟩ before.length (.check a)).run reached).1 =
          .error (.crash c) ∧
        ((runTest o t).run (.before page o)).1 = .error (.crash c)
    | .ok _ => ∃ outcome message,
      RequestVerdict o.trackers reached.handled tracker key pattern any outcome message ∧
        ((Executor.executeAll ⟨o, true⟩ 0 (before ++ [.check a])).run
            (entered.announcing t)).1 =
          .ok (earlier ++ [{ id := a.id, name := a.name, outcome, message }]) ∧
        ∀ results, ((runTest o t).run (.before page o)).1 = .ok results →
          ∃ later, results =
            earlier ++ { id := a.id, name := a.name, outcome, message } :: later := by
  have hSetup : ((Session.enter o).run (.before page o)).1 = .ok () := by rw [hEnter]
  have hEntered := (Session.enter_ok hSetup).1
  rw [hEnter] at hEntered
  -- the store is the history in the world in which the assertion is reached
  obtain ⟨made, hCourse, -⟩ :=
    Executor.executeAll_ends ⟨o, true⟩ 0 before (entered.announcing t)
  rw [hReached] at hCourse
  have hStage : World.Stage (.before page o) _ reached :=
    (hEntered.andThen (.course (.one (.logged entered _)))).trans (.course hCourse)
  have hFaithful : reached.Faithful := hStage.faithful (.of_empty rfl rfl)
  have hTrackers : reached.capture.trackers = o.trackers := hStage.trackers_eq
  obtain ⟨outcome, message, hTold, hVerdict⟩ := Capture.told_of_faithful hFaithful hTrackers
    (RunOptions.nodup_of_ofValue hOptions) tracker key pattern any hCompiles
  have hExecute := Executor.execute_request (x := ⟨o, true⟩) hCheck hTold before.length
  rcases hRun : (Executor.execute ⟨o, true⟩ before.length (.check a)).run reached with ⟨r, v⟩
  rw [hRun] at hExecute
  -- the run up to the assertion, the assertion, and the steps behind it
  have hAll := Executor.run_executeAll_reached hReached (.check a)
  simp only [Nat.zero_add, hRun] at hAll
  have hTest : ((runTest o t).run (.before page o)).1 =
      ((Executor.executeAll ⟨o, true⟩ 0 (before ++ .check a :: after)).run
        (entered.announcing t)).1 >>= Session.reported := by
    rw [runTest_result t hSetup, hEnter, hSteps]
  cases hName : a.name.display with
  | error c =>
    rw [hName] at hExecute
    obtain rfl : r = .error (.crash c) := hExecute
    exact ⟨rfl, by rw [hTest, hAll]; rfl⟩
  | ok shown =>
    rw [hName] at hExecute
    obtain rfl : r = .ok (some { id := a.id, name := a.name, outcome, message }) := hExecute
    refine ⟨outcome, message, hVerdict, by rw [hAll]; rfl, fun results hResults => ?_⟩
    rw [hTest, hAll] at hResults
    rcases hRest : (Executor.executeAll ⟨o, true⟩ (before.length + 1) after).run v with
      ⟨f | later, u⟩
    · simp only [hRest] at hResults
      cases hResults
    · simp only [hRest] at hResults
      exact ⟨later, Session.eq_of_reported hResults⟩

/-- An assertion that is reached behind a navigation, which sends a request. -/
theorem run_request_check_behind_goto :
    let data : Value := .ofFields [("trackRequests",
      .list [.ofFields [("name", .text "ga"), ("url", .text "collect")]])]
    let o : RunOptions := { trackers := [⟨"ga", "collect", false⟩] }
    let page : Page :=
      { reactions := [⟨{ name := "goto" }, none, { urls := ["https://x/collect?ev=buy"] }⟩] }
    let a : Assertion := ⟨.int 1, .text "bought", .null, .request "ga" "ev" "^buy$" false⟩
    let t : TestDefinition := ⟨"shop", [.goto "https://shop/", .check a]⟩
    RunOptions.ofValue data = .ok o ∧ (∀ c, Pattern.compile "^buy$" ≠ .error (.crash c)) ∧
      ∃ entered earlier reached outcome message,
        (Session.enter o).run (.before page o) = (.ok (), entered) ∧
        (Executor.executeAll ⟨o, true⟩ 0 [.goto "https://shop/"]).run (entered.announcing t) =
          (.ok earlier, reached) ∧
        RequestVerdict o.trackers reached.handled "ga" "ev" "^buy$" false outcome message ∧
        ((Executor.executeAll ⟨o, true⟩ 0 t.steps).run (entered.announcing t)).1 =
          .ok (earlier ++ [{ id := a.id, name := a.name, outcome, message }]) := by
  intro data o page a t
  have hOptions : RunOptions.ofValue data = .ok o := by rfl
  -- the pattern compiles, so that it cannot crash
  have hCompiles : ∀ c, Pattern.compile "^buy$" ≠ .error (.crash c) := by
    have hOk : (Pattern.compile "^buy$").isOk = true := by decide +kernel
    intro c hCrash
    rw [hCrash] at hOk
    cases hOk
  -- the navigation ends well, by evaluation; the world it leaves stays abstract
  have hReachedOk : ((Executor.executeAll ⟨o, true⟩ 0 [.goto "https://shop/"]).run
      (((Session.enter o).run (.before page o)).2.announcing t)).1.isOk = true := by
    decide +kernel
  have hSetup : ((Session.enter o).run (.before page o)).1 = .ok () :=
    RunM.eq_ok_of_isOk (by decide +kernel)
  rcases hEnter : (Session.enter o).run (.before page o) with ⟨r, entered⟩
  rw [hEnter] at hSetup hReachedOk
  obtain rfl : r = .ok () := hSetup
  rcases hReached : (Executor.executeAll ⟨o, true⟩ 0 [.goto "https://shop/"]).run
    (entered.announcing t) with ⟨f | earlier, reached⟩
  · rw [hReached] at hReachedOk
    cases hReachedOk
  · have hName : a.name.display = .ok "bought" := rfl
    have hSteps : t.steps = [.goto "https://shop/"] ++ .check a :: [] := rfl
    have hMain := run_request_check hOptions hEnter hSteps rfl hCompiles hReached
    rw [hName] at hMain
    obtain ⟨outcome, message, hVerdict, hResult, -⟩ := hMain
    exact ⟨hOptions, hCompiles, entered, earlier, reached, outcome, message, rfl, hReached,
      hVerdict, hResult⟩

/-- An assertion whose name is a number of more than 4300 digits has no result, although its
session can be entered and its pattern can be compiled. -/
theorem no_result_for_long_name :
    let a : Assertion := ⟨.int 1, .int digitBound, .null, .request "ga" "ev" "buy" false⟩
    let entered := (Session.enter {}).run (.before {} {})
    entered.1 = .ok () ∧ (Pattern.compile "buy").isOk = true ∧
      ∀ result, ((Executor.executeAll ⟨{}, true⟩ 0 [.check a]).run
        (entered.2.announcing ⟨"shop", [.check a]⟩)).1 ≠ .ok [result] := by
  intro a entered
  have hRun : ((Executor.executeAll ⟨{}, true⟩ 0 [.check a]).run
      (entered.2.announcing ⟨"shop", [.check a]⟩)).1.isOk = false := by
    decide +kernel
  refine ⟨RunM.eq_ok_of_isOk (by decide +kernel), by decide +kernel, fun result hResult => ?_⟩
  rw [hResult] at hRun
  cases hRun

end BeaconCheck
