import BeaconCheck.Proofs.Capture.Matching
import BeaconCheck.Proofs.Session.Alike
import BeaconCheck.Proofs.Session.Awaited
import BeaconCheck.Proofs.World.Schedule

/-!
# Behind a navigation or a click

A navigation and a click end with a pause, so that requests which a page sends late are on
record before the next step. What the page puts off in reaction to the step is due among what
was due before, and the pause lets all of it happen that is due by its end, in the order of
time. Without a pause nothing that is put off happens before the next step.

* `Step.settles`                   — the steps that end with a pause.
* `Executor.execute_settles`       — such a step has done nothing but make its calls.
* `Executor.execute_lapse`, `execute_instant` — what it does to the clock and to what is due.
* `World.inOrder_similarity`       — what is due stays in the order of time in a session.
* `requests_behind_settling`       — what is on record behind such a step of a test.
-/

namespace BeaconCheck

/-! ## Steps that settle -/

/-- The step is a navigation or a click. -/
def Step.settles : Step → Bool
  | .goto _ | .click _ => true
  | _ => false

/-- The calls of a step that settles take no time, but for the pause at the end. -/
theorem Step.calls_of_settles (o : RunOptions) {step : Step} (h : step.settles = true) :
    ∃ acts, step.calls o = acts ++ o.settleCalls ∧ ∀ c ∈ acts, c.isPause = false := by
  cases step with
  | goto url => exact ⟨[.goto url o.timeout], rfl, by simp [Call.isPause]⟩
  | click selector =>
    exact ⟨[.waitForSelector selector o.timeout, .click selector], rfl, by simp [Call.isPause]⟩
  | _ => cases h

namespace Executor

variable {x : Executor} {c : Call} {w v : World}

/-! A call that did not fail was answered, whatever is made of its failures. -/

/-- A call that succeeds leaves the world as the page answers it. -/
theorem respond_of_call (h : (x.call c).run w = (.ok (), v)) : v = w.respond c := by
  unfold call at h
  split at h
  · rw [RunM.run_call] at h
    -- a call that succeeds is answered, and there is a page to answer it
    cases hAnswer : Page.failAt c w.page.failures with
    | none =>
      rw [hAnswer] at h
      exact (congrArg Prod.snd h).symm
    | some p =>
      rw [hAnswer] at h
      cases h
  · cases h

/-- So it does where its failure would be handled by another one. -/
theorem respond_of_tryCall {handler : Failure → RunM Unit}
    (hHandler : ∀ f u, ((handler f).run u).1 ≠ .ok ())
    (h : (tryCatch (x.call c) handler).run w = (.ok (), v)) : v = w.respond c := by
  rw [RunM.run_tryCatch] at h
  rcases hCall : (x.call c).run w with ⟨f | _, u⟩
  · rw [hCall] at h
    exact absurd (congrArg Prod.fst h) (hHandler f u)
  · rw [hCall] at h
    cases h
    exact respond_of_call hCall

/-- So it does where its failure would be explained. -/
theorem respond_of_explaining {f : BrowserError → StepError}
    (h : (RunM.explaining (x.call c) f).run w = (.ok (), v)) : v = w.respond c := by
  refine respond_of_tryCall (fun failure u hOk => ?_) h
  cases failure with
  | browser e =>
    simp only [] at hOk
    split at hOk <;> cases hOk
  | _ => cases hOk

/-- Waiting for an element is one call. -/
theorem respond_of_awaitElement {selector : Text}
    (h : (x.awaitElement selector).run w = (.ok (), v)) :
    v = w.respond (.waitForSelector selector x.options.timeout) := by
  refine respond_of_tryCall (fun failure u hOk => ?_) h
  cases failure with
  | browser e =>
    simp only [notAttached] at hOk
    split at hOk
    · split at hOk
      · -- the text of a timeout names its length, which may be too long to write
        rw [RunM.run_bind, RunM.run_safely] at hOk
        cases hText : integerText x.options.timeout <;> rw [hText] at hOk <;> cases hOk
      · cases hOk
    · cases hOk
  | _ => cases hOk

/-- Settling is at most one call. -/
theorem respond_of_settle (h : x.settle.run w = (.ok (), v)) :
    v = x.options.settleCalls.foldl World.respond w := by
  unfold settle at h
  unfold RunOptions.settleCalls
  by_cases hDelay : 0 < x.options.settleDelay
  · rw [if_pos hDelay] at h ⊢
    exact respond_of_call h
  · rw [if_neg hDelay] at h ⊢
    exact (congrArg Prod.snd h).symm

/-- **A step that settles** has written to the log and made its calls, which were answered, and
that is all. -/
theorem execute_settles {step : Step} (hStep : step.settles = true) {index : Int}
    {result : Option TestResult} (h : (x.execute index step).run w = (.ok result, v)) :
    ∃ records, v = (step.calls x.options).foldl World.respond (w.addLog records) := by
  cases step with
  | goto url =>
    rw [execute] at h
    obtain ⟨_, logged, hLog, hThen⟩ := RunM.of_run_bind_ok h
    obtain ⟨_, gone, hGoto, hLast⟩ := RunM.of_run_bind_ok hThen
    obtain ⟨_, settled, hSettle, hEnd⟩ := RunM.of_run_bind_ok hLast
    -- each part succeeded, so its calls were answered
    cases hLog
    cases hEnd
    rw [respond_of_settle hSettle, respond_of_explaining hGoto]
    exact ⟨_, rfl⟩
  | click selector =>
    rw [execute] at h
    obtain ⟨_, logged, hLog, hThen⟩ := RunM.of_run_bind_ok h
    obtain ⟨_, clicked, hClick, hLast⟩ := RunM.of_run_bind_ok hThen
    obtain ⟨_, settled, hSettle, hEnd⟩ := RunM.of_run_bind_ok hLast
    obtain ⟨_, there, hAwait, hOnIt⟩ := RunM.of_run_bind_ok hClick
    cases hLog
    cases hEnd
    rw [respond_of_settle hSettle, respond_of_explaining hOnIt, respond_of_awaitElement hAwait]
    exact ⟨_, rfl⟩
  | _ => cases hStep

section Settled

variable {step : Step} (hStep : step.settles = true) (hw : w.handlers = 1) {index : Int}
  {result : Option TestResult} (h : (x.execute index step).run w = (.ok result, v))

include hStep hw h

/-- **With a pause behind it** a step that settles lets its time pass. -/
theorem execute_lapse (hOrdered : w.Ordered) (hPositive : 0 < x.options.settleDelay)
    (hShort : x.options.settleDelay ≤ 3600000) :
    ∃ happened, w.Lapse ((step.calls x.options).flatMap w.page.sentAtOnce)
      ((step.calls x.options).flatMap (w.page.putOff w.now)) x.options.settleDelay happened v := by
  obtain ⟨acts, hCalls, hActs⟩ := Step.calls_of_settles x.options hStep
  obtain ⟨records, hMade⟩ := execute_settles hStep h
  have hSettle : x.options.settleCalls = [.waitForTimeout (.int x.options.settleDelay)] :=
    if_pos hPositive
  have hLength : (Number.int x.options.settleDelay).toRat? = some (x.options.settleDelay : Rat) :=
    congrArg some (Int.cast_natCast _)
  -- but for the log, the calls are made in the world in which the step begins
  let logged : World := w.addLog records
  have hWatched : logged.handlers = 1 := hw
  have hThere : logged.Ordered := hOrdered
  obtain ⟨happened, hLapse⟩ := World.respondAll_lapse hWatched hThere hActs hLength
    (Nat.cast_pos.mpr hPositive) (by exact_mod_cast hShort)
  rw [← hSettle, ← hCalls, ← hMade] at hLapse
  exact ⟨happened, hLapse.now, hLapse.sorted, hLapse.happened_perm, hLapse.handled,
    hLapse.pending_perm⟩

/-- **Without a pause behind it** a step that settles takes no time. -/
theorem execute_instant (hNone : x.options.settleDelay = 0) :
    w.Instant ((step.calls x.options).flatMap w.page.sentAtOnce)
      ((step.calls x.options).flatMap (w.page.putOff w.now)) v := by
  obtain ⟨acts, hCalls, hActs⟩ := Step.calls_of_settles x.options hStep
  obtain ⟨records, hMade⟩ := execute_settles hStep h
  -- without a delay nothing is called but what the step itself asks for
  have hSettle : x.options.settleCalls = [] := if_neg (by simp [hNone])
  rw [hSettle, List.append_nil] at hCalls
  let logged : World := w.addLog records
  have hWatched : logged.handlers = 1 := hw
  have hInstant := World.respondAll_instant hWatched hActs
  rw [← hCalls, ← hMade] at hInstant
  exact (World.addLog_instant w records).trans hInstant

end Settled

end Executor

/-! ## The order of time in a session -/

namespace World

/-- The order of what is due is something that a session keeps: what is due next is in order
if what was due before is. -/
theorem inOrder_similarity : SessionSimilarity (fun _ => True) (fun _ => True)
    (fun w v => w = v ∧ w.Ordered) where
  layers hR := by rw [hR.1]
  reactions hR := by rw [hR.1]
  now hR := by rw [hR.1]
  pending hR := by rw [hR.1]
  requests hR _ _ := by rw [hR.1]
  held hR := by rw [hR.1]
  logged hR _ := ⟨by rw [hR.1], hR.2⟩
  pushed hR _ := ⟨by rw [hR.1], hR.2⟩
  holding hR _ := ⟨by rw [hR.1], hR.2⟩
  watching hR := ⟨by rw [hR.1], hR.2⟩
  fired {w v} hR url := by
    refine ⟨by rw [hR.1], ?_⟩
    rw [Ordered, (fire_clock w url).2]
    exact hR.2
  timed {w v} hR now pending hDue := by
    refine ⟨by rw [hR.1], ?_⟩
    -- a batch was put in its place, or some at the front are over
    rcases hDue with ⟨d, rfl⟩ | hSuffix
    · exact pairwise_insertDue hR.2
    · exact List.Pairwise.sublist hSuffix.sublist hR.2
  called {w v} hR {c} _ := by
    obtain ⟨rfl, hOrdered⟩ := hR
    -- the answer to a call leaves alone what is due
    cases hAnswer : Page.failAt c w.page.failures with
    | none => exact .answered hAnswer hAnswer ⟨rfl, hOrdered⟩
    | some p => exact .failed hAnswer hAnswer ⟨rfl, hOrdered⟩

/-- What the page reacts with stays the same. -/
theorem Stage.reactions_eq {w w' : World} {made : List AnsweredCall} (h : Stage w made w') :
    w'.page.reactions = w.page.reactions := by
  induction h with
  | course h => exact h.reactions_eq
  | trans _ _ ih ih' => rw [ih', ih]
  | _ => rfl

end World

/-- A session with trackers that was entered watches the page once more. -/
theorem Session.enter_handlers {o : RunOptions} (hTrackers : o.trackers ≠ []) {w entered : World}
    (h : (enter o).run w = (.ok (), entered)) : entered.handlers = w.handlers + 1 := by
  obtain ⟨opened, made, -, -, hHandlers, -⟩ := openAll_ends o parts w
  have hStart := start_of_enter h
  have hSome : o.trackers.isEmpty = false := by simpa using hTrackers
  rw [start_eq, RunM.run_bind] at hStart
  rcases hOpen : (openAll o parts).run w with ⟨f | _, v⟩
  · rw [hOpen] at hStart
    cases hStart
  · rw [hOpen] at hStart hHandlers
    -- the parts are open, and the page is watched unless that call fails
    simp only [hSome, Bool.not_false, if_true, run_attach] at hStart
    cases hAnswer : Page.failAt .route v.page.failures with
    | some p =>
      rw [hAnswer] at hStart
      cases hStart
    | none =>
      rw [hAnswer] at hStart
      cases hStart
      show (v.respond .route).handlers + 1 = w.handlers + 1
      rw [(World.respond_course hAnswer).frame.handlers, hHandlers]

/-! ## Where the run of a test has come to -/

section Reached

variable {o : RunOptions} {page : Page} {entered : World}
  (hEnter : (Session.enter o).run (.before page o) = (.ok (), entered)) {t : TestDefinition}
  {before : List Step} {earlier : List TestResult} {reached : World}
  (hReached : (Executor.executeAll ⟨o, true⟩ 0 before).run (entered.announcing t) =
    (.ok earlier, reached))

include hEnter hReached

/-- The page reacts as its script says. -/
theorem reactions_reached : reached.page.reactions = page.reactions := by
  obtain ⟨made, hStage⟩ := stage_reached hEnter hReached
  exact hStage.reactions_eq

/-- The page is watched once if there are trackers. -/
theorem watched_reached (hTrackers : o.trackers ≠ []) : reached.handlers = 1 := by
  obtain ⟨made, hCourse, -⟩ :=
    Executor.executeAll_ends ⟨o, true⟩ 0 before (entered.announcing t)
  rw [hReached] at hCourse
  exact hCourse.frame.handlers.trans (Session.enter_handlers hTrackers hEnter)

/-- What is due is in the order of time. -/
theorem ordered_reached : reached.Ordered := by
  -- nothing is due at first, and neither starting the session nor its steps upset the order
  have hBefore : World.Ordered (.before page o) := List.Pairwise.nil
  have hStarted := World.inOrder_similarity.start (o := o) (fun _ _ => trivial) ⟨rfl, hBefore⟩
  rw [Session.start_of_enter hEnter] at hStarted
  have hAnnounced : (entered.announcing t).Ordered := hStarted.2.2
  have hKept : RunM.Respects (fun w v => w = v ∧ w.Ordered)
      (Executor.executeAll ⟨o, true⟩ 0 before) :=
    World.inOrder_similarity.executeAll (fun _ _ => trivial) 0 fun _ _ _ _ => trivial
  obtain ⟨-, -, hOrdered⟩ := hKept ⟨rfl, hAnnounced⟩
  rw [hReached] at hOrdered
  exact hOrdered

end Reached

/-- **What is on record behind a navigation or a click.** Take a test with trackers whose session
can be entered, and a navigation or a click that its run reaches and that completes. The rest of
the test begins in the world that the step leaves, and there each tracker has what the requests
that were handled so far make of it.

With a pause behind the step, up to an hour, exactly that time has passed, and what was due by
its end has happened in the order of time: what was put off in reaction to the step, and what was
due before. So whatever the page has put off for less than the pause has happened, and each of
its requests is recorded for every tracker that it is for.

Without a pause no time has passed, and all that was put off is due still. -/
theorem requests_behind_settling {o : RunOptions} {page : Page} {entered : World}
    (hEnter : (Session.enter o).run (.before page o) = (.ok (), entered))
    (hTrackers : o.trackers ≠ []) {t : TestDefinition} {before after : List Step} {step : Step}
    (hSteps : t.steps = before ++ step :: after) (hStep : step.settles = true)
    {earlier : List TestResult} {reached : World}
    (hReached : (Executor.executeAll ⟨o, true⟩ 0 before).run (entered.announcing t) =
      (.ok earlier, reached))
    {result : Option TestResult} {left : World}
    (hLeft : (Executor.execute ⟨o, true⟩ before.length step).run reached = (.ok result, left)) :
    let sent : List String := (step.calls o).flatMap page.sentAtOnce
    let due : List Due := (step.calls o).flatMap (page.putOff reached.now)
    ((runTest o t).run (.before page o)).1 =
      (match (Executor.executeAll ⟨o, true⟩ (before.length + 1) after).run left with
        | (.error f, _) => .error f
        | (.ok later, _) => Session.reported (earlier ++ (result.toList ++ later))) ∧
    (∀ name ∈ o.trackers.map Tracker.name, left.capture.requests name =
      .ok (Capture.historyOf o.trackers name left.handled)) ∧
    (0 < o.settleDelay → o.settleDelay ≤ 3600000 →
      ∃ happened, reached.Lapse sent due o.settleDelay happened left ∧
        ∀ c ∈ step.calls o, ∀ r ∈ page.reactionsTo c, ∀ delay,
          r.delay = some delay → delay < o.settleDelay →
          ⟨reached.now + delay, r.happening⟩ ∈ happened ∧
          ∀ url ∈ r.happening.urls, ∀ tracker ∈ o.trackers, tracker.isFor url = true →
            Capture.recordOf url ∈ Capture.historyOf o.trackers tracker.name
              (happened.flatMap fun d => d.happening.urls)) ∧
    (o.settleDelay = 0 → reached.Instant sent due left) := by
  intro sent due
  obtain ⟨hFaithful, hSame⟩ := faithful_reached hEnter hReached
  have hWatched := watched_reached hEnter hReached hTrackers
  have hOrdered := ordered_reached hEnter hReached
  -- the page that the run has come to reacts as the page of the test does
  obtain ⟨hSent, hPutOff⟩ := Page.reacts_alike (reactions_reached hEnter hReached)
  have hBehind := runTest_reached hEnter hReached hSteps
  rw [hLeft] at hBehind
  refine ⟨hBehind, fun name hName => ?_, fun hPositive hShort => ?_, fun hNone => ?_⟩
  · -- the step keeps the store what the history makes of it
    obtain ⟨made, hCourse, -⟩ :=
      Executor.execute_ends (x := ⟨o, true⟩) before.length step reached
    rw [hLeft] at hCourse
    have hNames : left.capture.trackers = o.trackers := hCourse.frame.trackers.trans hSame
    have hRequests := (hCourse.faithful hFaithful).requests_eq (hNames ▸ hName)
    rwa [hNames] at hRequests
  · obtain ⟨happened, hLapse⟩ :=
      Executor.execute_lapse hStep hWatched hLeft hOrdered hPositive hShort
    rw [hSent, hPutOff] at hLapse
    refine ⟨happened, hLapse, fun c hc r hr delay hDelay hSoon => ?_⟩
    -- what is put off for less than the pause is due by its end
    have hHappened : ⟨reached.now + delay, r.happening⟩ ∈ happened :=
      hLapse.mem_happened hc hr hDelay hSoon
    refine ⟨hHappened, fun url hUrl tracker hTracker hFor => ?_⟩
    have hTakes : Capture.Takes o.trackers tracker.name url :=
      ⟨tracker, hTracker, rfl, (Tracker.isFor_iff tracker url).mp hFor⟩
    exact Capture.recordOf_mem_historyOf (List.mem_flatMap.mpr ⟨_, hHappened, hUrl⟩) hTakes
  · have hInstant := Executor.execute_instant hStep hWatched hLeft hNone
    rwa [hSent, hPutOff] at hInstant

/-- A click behind a navigation: what the click has put off for less than the pause is recorded,
whatever the navigation has left due. -/
theorem requests_behind_settling_click :
    let o : RunOptions := { trackers := [⟨"ga", "collect", false⟩], settleDelay := 300 }
    let late : Reaction :=
      ⟨{ name := "click" }, some 200, { urls := ["https://x/collect?ev=buy"] }⟩
    let page : Page := {
      reactions := [⟨{ name := "goto" }, some 400, { urls := ["https://x/collect?ev=view"] }⟩,
        late] }
    let before : List Step := [.goto "https://shop/"]
    let step : Step := .click "#buy"
    let t : TestDefinition := ⟨"shop", before ++ [step]⟩
    ∃ entered earlier reached result left, ∃ happened : List Due,
      (Session.enter o).run (.before page o) = (.ok (), entered) ∧ o.trackers ≠ [] ∧
      step.settles = true ∧
      (Executor.executeAll ⟨o, true⟩ 0 before).run (entered.announcing t) =
        (.ok earlier, reached) ∧
      (Executor.execute ⟨o, true⟩ before.length step).run reached = (.ok result, left) ∧
      left.now = reached.now + o.settleDelay ∧
      ⟨reached.now + 200, late.happening⟩ ∈ happened ∧
      left.capture.requests "ga" = .ok (Capture.historyOf o.trackers "ga" left.handled) ∧
      Capture.recordOf "https://x/collect?ev=buy" ∈ Capture.historyOf o.trackers "ga"
        (happened.flatMap fun d => d.happening.urls) := by
  intro o late page before step t
  -- again only the ends are evaluated, and the worlds are named
  have hEnterOk : ((Session.enter o).run (.before page o)).1.isOk = true := by decide +kernel
  have hGoneOk : ((Executor.executeAll ⟨o, true⟩ 0 before).run
      (((Session.enter o).run (.before page o)).2.announcing t)).1.isOk = true := by
    decide +kernel
  have hClickedOk : ((Executor.execute ⟨o, true⟩ before.length step).run
      ((Executor.executeAll ⟨o, true⟩ 0 before).run
        (((Session.enter o).run (.before page o)).2.announcing t)).2).1.isOk = true := by
    decide +kernel
  obtain ⟨_, entered, hEnter⟩ := RunM.exists_run_eq hEnterOk
  rw [hEnter] at hGoneOk hClickedOk
  obtain ⟨earlier, reached, hReached⟩ := RunM.exists_run_eq hGoneOk
  rw [hReached] at hClickedOk
  obtain ⟨result, left, hLeft⟩ := RunM.exists_run_eq hClickedOk
  have hTrackers : o.trackers ≠ [] := by decide
  have hCall : Call.click "#buy" ∈ step.calls o := by decide
  have hReaction : late ∈ page.reactionsTo (.click "#buy") :=
    List.mem_filter.mpr ⟨List.mem_cons_of_mem _ List.mem_cons_self, by decide +kernel⟩
  have hSteps : t.steps = before ++ step :: [] := rfl
  -- what the click sets off is due 200 milliseconds into the pause of 300
  obtain ⟨-, hRequests, hSettled, -⟩ :=
    requests_behind_settling hEnter hTrackers hSteps rfl hReached hLeft
  obtain ⟨happened, hLapse, hHappened⟩ := hSettled (by decide) (by decide)
  obtain ⟨hThere, hRecorded⟩ :=
    hHappened _ hCall late hReaction 200 rfl (by decide +kernel)
  have hFor := hRecorded "https://x/collect?ev=buy" List.mem_cons_self ⟨"ga", "collect", false⟩
    List.mem_cons_self (by decide +kernel)
  exact ⟨entered, earlier, reached, result, left, happened, hEnter, hTrackers, rfl, hReached,
    hLeft, hLapse.now, hThere, hRequests "ga" (by decide), hFor⟩

end BeaconCheck
