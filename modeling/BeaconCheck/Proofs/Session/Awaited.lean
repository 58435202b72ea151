import BeaconCheck.Proofs.Capture.Deadline
import BeaconCheck.Proofs.Run.Record

/-!
# Behind a wait for requests

A wait that ends well has seen enough requests of its tracker, and no step takes a request off
the record again. So from then on the tracker has as many, and a request assertion for it finds
requests to match: it is never for want of requests or of the tracker that it is not decided. A
wait for a tracker that is not watched ends the run on the spot.

* `World.Course.recorded_le` — what a tracker has only grows.
* `Executor.enough_behind_wait` — what a wait that has ended well is worth.
* `Executor.execute_awaitRequests_unknown` — how a wait for an unknown tracker ends.
* `Assertion.Matched`        — what an assertion leaves that finds requests to match.
* `runTest_reached`          — what a test gives whose run has come to a step.
* `run_behind_wait`          — the rest of a run behind a wait.
-/

namespace BeaconCheck

namespace World

/-- A watched tracker has as many requests as are counted for it. -/
theorem Faithful.count_eq {w : World} (hw : w.Faithful) {tracker : Text}
    (h : tracker ∈ w.capture.trackers.map Tracker.name) :
    w.capture.count tracker = .ok (w.recorded tracker) := by
  rw [Capture.count, World.recorded_eq, hw.requests_eq h]
  rfl

/-- **What a tracker has only grows**, whatever happens. -/
theorem Course.recorded_le {w w' : World} {made : List AnsweredCall} (h : Course w made w')
    (hw : w.Faithful) {tracker : Text} (hTracker : tracker ∈ w.capture.trackers.map Tracker.name) :
    w.recorded tracker ≤ w'.recorded tracker := by
  obtain ⟨new, hNew, -⟩ := h.capture_eq
  rw [hw.recorded_eq rfl hTracker, (h.faithful hw).recorded_eq h.frame.trackers hTracker, hNew,
    Capture.historyOf_append, List.length_append]
  exact Nat.le_add_right _ _

end World

namespace Executor

variable {x : Executor} {index : Int} {tracker : Text} {count timeout : Nat} {w v : World}

/-! ## What a wait tells -/

/-- A wait that ends well is for a tracker that is watched, and leaves it with enough
requests. -/
theorem execute_awaitRequests_ok {result : Option TestResult} (hw : w.Faithful)
    (h : (x.execute index (.awaitRequests tracker count timeout)).run w = (.ok result, v)) :
    tracker ∈ w.capture.trackers.map Tracker.name ∧ count ≤ v.recorded tracker := by
  rw [execute, RunM.run_bind, run_awaitRequests] at h
  -- what completes has passed the guard of the count and found the tracker
  by_cases hLong : digitBound ≤ count
  · rw [if_pos hLong] at h
    cases h
  rw [if_neg hLong] at h
  by_cases hTracker : tracker ∈ w.capture.trackers.map Tracker.name
  · refine ⟨hTracker, ?_⟩
    rw [hw.requests_eq hTracker] at h
    -- the line that is logged first has no part in the waiting
    generalize w.addLog _ = logged at h
    simp only [] at h
    rcases hWait : (RunM.awaitCount tracker (.int count) (.int timeout)).run logged with ⟨f | n, u⟩
    · rw [hWait] at h
      cases h
    · rw [hWait] at h
      cases h
      obtain ⟨rfl, hEnough⟩ := RunM.enough_of_awaitCount_int hWait
      exact_mod_cast hEnough
  · rw [hw.requests_of_not_mem hTracker] at h
    cases h

/-- How a wait ends for a tracker that is not watched: with an error of the step, unless its
count cannot be written into the log. -/
def unknownTracker (tracker : Text) (count : Nat) : Failure :=
  if count < digitBound then .step (.unknownTracker tracker) else .crash .tooLongToWrite

/-- **A wait for a tracker that is not watched** fails at once: but for the log, the world stays
what it was. -/
theorem execute_awaitRequests_unknown (hw : w.Faithful)
    (h : tracker ∉ w.capture.trackers.map Tracker.name) :
    ∃ records, (x.execute index (.awaitRequests tracker count timeout)).run w =
      (.error (unknownTracker tracker count), w.addLog records) := by
  rw [execute, RunM.run_bind, run_awaitRequests, unknownTracker]
  by_cases hLong : digitBound ≤ count
  · refine ⟨[], ?_⟩
    rw [if_pos hLong, if_neg (Nat.not_lt.mpr hLong), World.addLog, List.append_nil]
  · rw [if_neg hLong, if_pos (Nat.lt_of_not_le hLong), hw.requests_of_not_mem h]
    exact ⟨_, rfl⟩

/-- **Behind a wait that has ended well** the tracker has enough requests, wherever the run goes
on to. -/
theorem enough_behind_wait {result : Option TestResult} (hw : w.Faithful)
    (h : (x.execute index (.awaitRequests tracker count timeout)).run w = (.ok result, v))
    (next : Nat) (between : List Step) :
    let later := ((x.executeAll next between).run v).2
    later.Faithful ∧ tracker ∈ later.capture.trackers.map Tracker.name ∧
      count ≤ later.recorded tracker := by
  intro later
  obtain ⟨hTracker, hEnough⟩ := execute_awaitRequests_ok hw h
  -- from the wait on the record only grows
  obtain ⟨waiting, hWaiting, -⟩ :=
    execute_ends (x := x) index (.awaitRequests tracker count timeout) w
  obtain ⟨made, hCourse, -⟩ := executeAll_ends x next between v
  rw [h] at hWaiting
  have hv : v.Faithful := hWaiting.faithful hw
  have hKnown : tracker ∈ v.capture.trackers.map Tracker.name := by
    rwa [hWaiting.frame.trackers]
  refine ⟨hCourse.faithful hv, ?_, hEnough.trans (hCourse.recorded_le hv hKnown)⟩
  rwa [hCourse.frame.trackers]

end Executor

/-! ## Assertions with requests to match -/

/-- What a request assertion leaves that finds requests to match. It crashes if its name cannot
be written or compiling its pattern does; otherwise it has a result, and a message only if the
pattern is refused. -/
inductive Assertion.Matched (a : Assertion) (pattern : Text) : Except Failure TestResult → Prop
  | nameless {c : Crash} (hName : a.name.display = .error c) : Matched a pattern (.error (.crash c))
  | crashed {shown : Text} {c : Crash} (hName : a.name.display = .ok shown)
      (hPattern : Pattern.compile pattern = .error (.crash c)) :
      Matched a pattern (.error (.crash c))
  | refused {shown : Text} {e : PatternError} (hName : a.name.display = .ok shown)
      (hPattern : Pattern.compile pattern = .error (.refused e)) :
      Matched a pattern (.ok
        { id := a.id, name := a.name, outcome := .error,
          message := some (AssertionError.invalidPattern pattern (e.message pattern)).message })
  | decided {shown : Text} {p : Pattern} (hName : a.name.display = .ok shown)
      (hPattern : Pattern.compile pattern = .ok p) (found : Bool) :
      Matched a pattern (.ok
        { id := a.id, name := a.name, outcome := .ofBool found, message := none })

namespace Assertion

variable {a : Assertion} {tracker key pattern : Text} {any : Bool}

/-- **An assertion that finds requests to match** leaves no more than that. -/
theorem matched_of_requests {o : RunOptions} {w : World}
    (hCheck : a.check = .request tracker key pattern any) {captured : List Params}
    (hRequests : w.capture.requests tracker = .ok captured) (hSome : captured ≠ []) :
    a.Matched pattern (a.record o w) := by
  rw [record, hCheck]
  -- with something recorded, only the name and the pattern are left to decide
  cases hName : a.name.display with
  | error c => exact .nameless hName
  | ok shown =>
    rw [Check.verdict, Capture.matchesRequest_of_requests hRequests,
      List.getLast?_eq_some_getLast hSome]
    simp only [requestMatches, compilePattern]
    cases hPattern : Pattern.compile pattern with
    | error e =>
      cases e with
      | refused e => exact .refused hName hPattern
      | crash c => exact .crashed hName hPattern
    | ok p => exact .decided hName hPattern _

end Assertion

/-! The texts of these errors differ in their first letters. -/

/-- The message about missing requests begins with its own letter. -/
theorem ErrorText.head?_noRequests (tracker : Text) :
    (noRequests tracker).letters.head? = some (.char 'N') := by
  unfold noRequests
  rw [Text.letters_append, Text.letters_append]
  rfl

/-- So does the one about an unknown tracker, -/
theorem ErrorText.head?_unknownTracker (tracker : Text) :
    (unknownTracker tracker).letters.head? = some (.char 'T') := by
  unfold unknownTracker
  rw [Text.letters_append, Text.letters_append]
  rfl

/-- and the one about a pattern; so the three are told apart. -/
theorem ErrorText.head?_invalidPattern (shown : String) (reason : Text) :
    (invalidPattern shown reason).letters.head? = some (.char 'I') := by
  unfold invalidPattern
  rw [Text.letters_append, Text.letters_whole, String.toList_append, String.toList_append]
  rfl

/-- An assertion that finds requests to match complains neither about missing requests nor
about a tracker. -/
theorem Assertion.Matched.message_ne {a : Assertion} {pattern : Text} {result : TestResult}
    (h : a.Matched pattern (.ok result)) (tracker : Text) :
    result.message ≠ some (AssertionError.noRequests tracker).message ∧
      result.message ≠ some (AssertionError.unknownTracker tracker).message := by
  -- the messages differ in their first letters already
  have hFirst {s t : Text} (h : s.letters.head? ≠ t.letters.head?) : some s ≠ some t :=
    fun hSame => h (by rw [Option.some.inj hSame])
  cases h with
  | decided => exact ⟨(Option.some_ne_none _).symm, (Option.some_ne_none _).symm⟩
  | refused =>
    constructor
    · show some (ErrorText.invalidPattern _ _) ≠ some (ErrorText.noRequests _)
      refine hFirst ?_
      rw [ErrorText.head?_invalidPattern, ErrorText.head?_noRequests]
      decide
    · show some (ErrorText.invalidPattern _ _) ≠ some (ErrorText.unknownTracker _)
      refine hFirst ?_
      rw [ErrorText.head?_invalidPattern, ErrorText.head?_unknownTracker]
      decide

/-! ## The rest of a test -/

section Reached

variable {o : RunOptions} {page : Page} {entered : World}
  (hEnter : (Session.enter o).run (.before page o) = (.ok (), entered)) {t : TestDefinition}
  {before after : List Step} {earlier : List TestResult} {reached : World}
  (hReached : (Executor.executeAll ⟨o, true⟩ 0 before).run (entered.announcing t) =
    (.ok earlier, reached))

include hEnter hReached

/-- What has been done where the run of a test has come to is a stage of its session. -/
theorem stage_reached : ∃ made, World.Stage (.before page o) made reached := by
  have hSetup : ((Session.enter o).run (.before page o)).1 = .ok () := by rw [hEnter]
  have hEntered := (Session.enter_ok hSetup).1
  rw [hEnter] at hEntered
  obtain ⟨made, hCourse, -⟩ :=
    Executor.executeAll_ends ⟨o, true⟩ 0 before (entered.announcing t)
  rw [hReached] at hCourse
  exact ⟨_, (hEntered.andThen (.course (.one (.logged entered _)))).trans (.course hCourse)⟩

/-- Where the run of a test has come to, the store is the history, for the trackers of the
test. -/
theorem faithful_reached : reached.Faithful ∧ reached.capture.trackers = o.trackers := by
  obtain ⟨made, hStage⟩ := stage_reached hEnter hReached
  exact ⟨hStage.faithful (.of_empty rfl rfl), hStage.trackers_eq⟩

/-- **What a test gives whose run has come to a step**: the failure of the step, or what the
others behind it give. -/
theorem runTest_reached {step : Step} (hSteps : t.steps = before ++ step :: after) :
    ((runTest o t).run (.before page o)).1 =
      match (Executor.execute ⟨o, true⟩ before.length step).run reached with
      | (.error f, _) => .error f
      | (.ok result, v) =>
        match (Executor.executeAll ⟨o, true⟩ (before.length + 1) after).run v with
        | (.error f, _) => .error f
        | (.ok later, _) => Session.reported (earlier ++ (result.toList ++ later)) := by
  have hSetup : ((Session.enter o).run (.before page o)).1 = .ok () := by rw [hEnter]
  -- the steps in front are those of the run reached, so that the step in question comes next
  have hAll := Executor.run_executeAll_reached hReached step after
  rw [Nat.zero_add] at hAll
  rw [runTest_result t hSetup, hEnter, hSteps, hAll]
  rcases (Executor.execute ⟨o, true⟩ before.length step).run reached with ⟨f | result, v⟩
  · rfl
  · simp only []
    rcases (Executor.executeAll ⟨o, true⟩ (before.length + 1) after).run v with ⟨f | later, u⟩ <;>
      rfl

/-- A test whose run has come to an assertion ends with its failure, or has its result in this
place. -/
theorem runTest_check_reached {a : Assertion} (hSteps : t.steps = before ++ .check a :: after) :
    ((Executor.executeAll ⟨o, true⟩ 0 (before ++ [.check a])).run (entered.announcing t)).1 =
        (a.record o reached).map (fun result => earlier ++ [result]) ∧
      (∀ f, a.record o reached = .error f →
        ((runTest o t).run (.before page o)).1 = .error f) ∧
      ∀ result, a.record o reached = .ok result →
        ∀ results, ((runTest o t).run (.before page o)).1 = .ok results →
          ∃ later, results = earlier ++ result :: later := by
  have hStep := Executor.execute_check o (before.length : Nat) reached a
  have hAll := Executor.run_executeAll_reached hReached (.check a) []
  have hTest := runTest_reached hEnter hReached hSteps
  rw [Nat.zero_add] at hAll
  rcases hRun : (Executor.execute ⟨o, true⟩ (before.length : Nat) (.check a)).run reached with
    ⟨r, v⟩
  rw [hRun] at hStep hAll hTest
  obtain rfl : r = (a.record o reached).map some := hStep
  -- the run up to the step and the whole test both go by the record of the assertion
  cases hRecord : a.record o reached with
  | error f =>
    rw [hRecord] at hAll hTest
    refine ⟨by rw [hAll]; rfl, fun g hg => ?_, nofun⟩
    obtain rfl := Except.error.inj hg
    exact hTest
  | ok result =>
    rw [hRecord] at hAll hTest
    refine ⟨by rw [hAll]; rfl, nofun, fun found hFound results hResults => ?_⟩
    obtain rfl := Except.ok.inj hFound
    rw [hTest] at hResults
    simp only [Except.map] at hResults
    rcases hRest : (Executor.executeAll ⟨o, true⟩ (before.length + 1) after).run v with
      ⟨f | later, u⟩
    · rw [hRest] at hResults
      cases hResults
    · rw [hRest] at hResults
      exact ⟨later, Session.eq_of_reported hResults⟩

end Reached

/-- **The rest of a run behind a wait for requests.** Take a test whose session can be entered,
and a wait for requests that its run reaches.

If the wait completes, then wherever the run goes on to, the tracker has at least as many
requests as were waited for. A request assertion for the tracker that is reached there finds
requests to match, if at least one was waited for: it has a result, which complains neither
about missing requests nor about the tracker and which is in its place if the test returns.
Only a name that cannot be written or a pattern that crashes the compiler ends the test instead.

If the tracker is not watched, the wait fails at once, with nothing but the log changed, and so
does the test. The failure is an error of the step, unless the number of requests that is waited
for has too many digits to be written into the log. -/
theorem run_behind_wait {o : RunOptions} {page : Page} {entered : World}
    (hEnter : (Session.enter o).run (.before page o) = (.ok (), entered))
    {t : TestDefinition} {before after : List Step} {tracker : Text} {count timeout : Nat}
    (hSteps : t.steps = before ++ .awaitRequests tracker count timeout :: after)
    {earlier : List TestResult} {reached : World}
    (hReached : (Executor.executeAll ⟨o, true⟩ 0 before).run (entered.announcing t) =
      (.ok earlier, reached)) :
    let x : Executor := ⟨o, true⟩
    let wait : Step := .awaitRequests tracker count timeout
    let waited : Except Failure (Option TestResult) × World :=
      (x.execute before.length wait).run reached
    let ended : Except Failure (List TestResult) := ((runTest o t).run (.before page o)).1
    (waited.1 = .ok none → ∀ between rest, after = between ++ rest →
      let later : Except Failure (List TestResult) × World :=
        (x.executeAll (before.length + 1) between).run waited.2
      (∃ k, later.2.capture.count tracker = .ok k ∧ count ≤ k) ∧
      ∀ found a others key pattern any, 0 < count → later.1 = .ok found →
        rest = .check a :: others → a.check = .request tracker key pattern any →
        ∃ left, a.Matched pattern left ∧
          ((x.executeAll 0 (before ++ wait :: between ++ [.check a])).run
              (entered.announcing t)).1 =
            left.map (fun result => earlier ++ found ++ [result]) ∧
          (∀ f, left = .error f → ended = .error f) ∧
          ∀ result, left = .ok result →
            result.message ≠ some (AssertionError.noRequests tracker).message ∧
            result.message ≠ some (AssertionError.unknownTracker tracker).message ∧
            ∀ results, ended = .ok results →
              ∃ behind, results = earlier ++ found ++ result :: behind) ∧
    (tracker ∉ o.trackers.map Tracker.name →
      (∃ records, waited =
        (.error (Executor.unknownTracker tracker count), reached.addLog records)) ∧
      ended = .error (Executor.unknownTracker tracker count)) := by
  intro x wait waited ended
  obtain ⟨hFaithful, hTrackers⟩ := faithful_reached hEnter hReached
  constructor
  · intro hWaited between rest hAfter later
    rcases hWait : (x.execute before.length wait).run reached with ⟨r, v⟩
    obtain rfl : r = .ok none := by rw [← hWaited, show waited = (r, v) from hWait]
    have hLater : later = (x.executeAll (before.length + 1) between).run v := by
      show (x.executeAll _ between).run waited.2 = _
      rw [show waited = (.ok none, v) from hWait]
    obtain ⟨hThere, hKnown, hEnough⟩ :=
      Executor.enough_behind_wait hFaithful hWait (before.length + 1) between
    rw [← hLater] at hThere hKnown hEnough
    refine ⟨⟨_, hThere.count_eq hKnown, hEnough⟩, ?_⟩
    intro found a others key pattern any hPositive hFound hRest hCheck
    have hSome : Capture.historyOf later.2.capture.trackers tracker later.2.handled ≠ [] := by
      rw [hThere.recorded_eq rfl hKnown] at hEnough
      exact List.ne_nil_of_length_pos (hPositive.trans_le hEnough)
    have hMatched := Assertion.matched_of_requests (o := o) hCheck (hThere.requests_eq hKnown) hSome
    -- the run has come to the assertion, behind all that is in front of it
    have hAll : (x.executeAll 0 (before ++ wait :: between)).run (entered.announcing t) =
        (.ok (earlier ++ found), later.2) := by
      have hFront := Executor.run_executeAll_reached hReached wait between
      rw [Nat.zero_add] at hFront
      rw [hFront, hWait]
      simp only []
      rw [← hLater, ← Prod.mk.eta (p := later), hFound]
      rfl
    have hSplit : t.steps = (before ++ wait :: between) ++ .check a :: others := by
      rw [hSteps, hAfter, hRest, List.append_assoc, List.cons_append]
    obtain ⟨hRun, hError, hOk⟩ := runTest_check_reached hEnter hAll hSplit
    refine ⟨_, hMatched, hRun, hError, fun result hResult => ?_⟩
    rw [hResult] at hMatched
    obtain ⟨hRequests, hTracker⟩ := hMatched.message_ne tracker
    exact ⟨hRequests, hTracker, hOk result hResult⟩
  · intro hUnknown
    rw [← hTrackers] at hUnknown
    obtain ⟨records, hWait⟩ : ∃ records, (x.execute before.length wait).run reached =
        (.error (Executor.unknownTracker tracker count), reached.addLog records) :=
      Executor.execute_awaitRequests_unknown hFaithful hUnknown
    refine ⟨⟨records, hWait⟩, ?_⟩
    show ((runTest o t).run _).1 = _
    rw [runTest_reached hEnter hReached hSteps, hWait]

/-- A wait behind a navigation that sends a request: the assertion behind a further click finds
it. -/
theorem run_behind_wait_after_goto :
    let o : RunOptions := { trackers := [⟨"ga", "collect", false⟩], settleDelay := 0 }
    let page : Page :=
      { reactions := [⟨{ name := "goto" }, none, { urls := ["https://x/collect?ev=buy"] }⟩] }
    let a : Assertion := ⟨.int 1, .text "bought", .null, .request "ga" "ev" "^buy$" false⟩
    let before : List Step := [.goto "https://shop/"]
    let wait : Step := .awaitRequests "ga" 1 5
    let t : TestDefinition := ⟨"shop", before ++ wait :: [.click "#more", .check a]⟩
    ∃ entered earlier reached found v,
      (Session.enter o).run (.before page o) = (.ok (), entered) ∧
      (Executor.executeAll ⟨o, true⟩ 0 before).run (entered.announcing t) =
        (.ok earlier, reached) ∧
      (Executor.executeAll ⟨o, true⟩ (before.length + 1) [.click "#more"]).run
        ((Executor.execute ⟨o, true⟩ before.length wait).run reached).2 = (.ok found, v) ∧
      (∃ k, v.capture.count "ga" = .ok k ∧ 1 ≤ k) ∧
      ∃ left, a.Matched "^buy$" left ∧
        ((Executor.executeAll ⟨o, true⟩ 0 t.steps).run (entered.announcing t)).1 =
          left.map (fun result => earlier ++ found ++ [result]) := by
  intro o page a before wait t
  -- that each part ends well is evaluated; the worlds in between are only named
  have hEnterOk : ((Session.enter o).run (.before page o)).1.isOk = true := by decide +kernel
  have hGoneOk : ((Executor.executeAll ⟨o, true⟩ 0 before).run
      (((Session.enter o).run (.before page o)).2.announcing t)).1.isOk = true := by
    decide +kernel
  have hWaitedNone : ((Executor.execute ⟨o, true⟩ before.length wait).run
      ((Executor.executeAll ⟨o, true⟩ 0 before).run
        (((Session.enter o).run (.before page o)).2.announcing t)).2).1.map Option.isNone =
      .ok true := by
    decide +kernel
  have hClickedOk : ((Executor.executeAll ⟨o, true⟩ (before.length + 1) [.click "#more"]).run
      ((Executor.execute ⟨o, true⟩ before.length wait).run
        ((Executor.executeAll ⟨o, true⟩ 0 before).run
          (((Session.enter o).run (.before page o)).2.announcing t)).2).2).1.isOk = true := by
    decide +kernel
  obtain ⟨_, entered, hEnter⟩ := RunM.exists_run_eq hEnterOk
  rw [hEnter] at hGoneOk hWaitedNone hClickedOk
  obtain ⟨earlier, reached, hReached⟩ := RunM.exists_run_eq hGoneOk
  rw [hReached] at hWaitedNone hClickedOk
  obtain ⟨found, v, hClicked⟩ := RunM.exists_run_eq hClickedOk
  have hSteps : t.steps = before ++ wait :: [.click "#more", .check a] := rfl
  have hMain := (run_behind_wait hEnter hSteps hReached).1
  -- the wait has completed without a result, which excludes the two other ends
  rcases hWait : (Executor.execute ⟨o, true⟩ before.length wait).run reached with
    ⟨f | _ | result, waited⟩
  · rw [hWait] at hWaitedNone
    cases hWaitedNone
  · rw [hWait] at hMain hClicked
    obtain ⟨hEnough, hCheck⟩ := hMain rfl [.click "#more"] [.check a] rfl
    rw [hClicked] at hEnough hCheck
    obtain ⟨left, hMatched, hRun, -⟩ :=
      hCheck found a [] "ev" "^buy$" false Nat.one_pos rfl rfl rfl
    refine ⟨entered, earlier, reached, found, v, hEnter, hReached, ?_, hEnough, left, hMatched,
      hRun⟩
    rw [hWait]
    exact hClicked
  · rw [hWait] at hWaitedNone
    cases hWaitedNone

/-- A wait for a tracker that is not watched, for more requests than can be written: the test
crashes, and it is no error of the step that it ends with. -/
theorem no_step_error_for_long_count :
    let o : RunOptions := {}
    let t : TestDefinition := ⟨"shop", [.awaitRequests "ga" digitBound 5]⟩
    let ended : Except Failure (List TestResult) := ((runTest o t).run (.before {} o)).1
    ((Session.enter o).run (.before {} o)).1 = .ok () ∧ Text.whole "ga" ∉ o.trackers.map Tracker.name ∧
      ended = .error (.crash .tooLongToWrite) ∧ ∀ e, ended ≠ .error (.step e) := by
  intro o t ended
  have hCrash : ended.map (fun _ => ()) = .error (.crash .tooLongToWrite) := by decide +kernel
  have hEnded : ended = .error (.crash .tooLongToWrite) := map_eq_error_iff.mp hCrash
  refine ⟨RunM.eq_ok_of_isOk (by decide +kernel), by decide, hEnded, fun e h => ?_⟩
  rw [hEnded] at h
  cases h

end BeaconCheck
