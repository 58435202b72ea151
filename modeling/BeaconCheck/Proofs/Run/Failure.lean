import BeaconCheck.Proofs.Run.Record
import BeaconCheck.Proofs.Run.Timeout
import BeaconCheck.Proofs.Session.Teardown

/-!
# Which failures end a run of steps

On a page whose calls fail with the browser's own errors only, a run of steps that fails should
fail with an error of a step. Three kinds of failure are not turned into one: that of a pause,
which nothing explains; that of an element that is late, if the timeout is too long to be
written into the error; and the crash of a step that shows, counts or compares a value.

* `Step.Crashes`              — the steps that crash for a reason of their own.
* `Untranslated`              — the failures of a run that are no errors of a step.
* `execute_translates`        — how a single step fails.
* `failure_of_executeAll`     — a run fails with an error of a step, or with one of these.
-/

namespace BeaconCheck

/-! ## Calls between two worlds -/

/-- The calls that were made between two worlds, with the failures that the script has for
them. -/
def World.answeredUpTo (w v : World) : List AnsweredCall :=
  Page.answersTo w.page.failures (v.calls.drop w.calls.length)

/-- The calls of a course can be told from the worlds at its ends. -/
theorem World.Course.answeredUpTo_eq {w v : World} {made : List AnsweredCall}
    (h : World.Course w made v) : w.answeredUpTo v = made := by
  rw [World.answeredUpTo, h.calls_eq, List.drop_left]
  exact h.answered_eq.1

/-- All failures are the browser's own. -/
def OwnFailures (made : List AnsweredCall) : Prop :=
  ∀ p ∈ made, ∀ e, p.failure = some e → e.kind.isOwn = true

/-- The failures of calls in turn are known ones if those of both parts are. -/
theorem ownFailures_append {made more : List AnsweredCall} :
    OwnFailures (made ++ more) ↔ OwnFailures made ∧ OwnFailures more :=
  List.forall_mem_append

/-! ## Failures that are not translated -/

/-- A step crashes in a world for a reason of its own. -/
inductive Step.Crashes (o : RunOptions) (w : World) : Step → Crash → Prop
  /-- The length of a pause cannot be written into the log. -/
  | pause {length : Number} {c : Crash} (hText : length.text = .error c) :
      Crashes o w (.pause length) c
  /-- The number of requests cannot be written into the log. -/
  | count {tracker : Text} {count timeout : Nat} (hLong : digitBound ≤ count) :
      Crashes o w (.awaitRequests tracker count timeout) .tooLongToWrite
  /-- The thousandth of the timeout is beyond the finite numbers. -/
  | timeout {tracker : Text} {count timeout : Nat} {captured : List Params}
      (hShort : count < digitBound) (hRequests : w.capture.requests tracker = .ok captured)
      (hLarge : 1000 * Binary64.overflow ≤ timeout) :
      Crashes o w (.awaitRequests tracker count timeout) .quotientTooLarge
  /-- The assertion crashes. -/
  | check {a : Assertion} {c : Crash} (hEscapes : a.Escapes o w (.crash c)) :
      Crashes o w (.check a) c

/-- A failure of a run of steps, from a world and with the calls made in it, that is no error
of a step. -/
inductive Untranslated (o : RunOptions) (index : Nat) (steps : List Step) (w : World)
    (made : List AnsweredCall) : Failure → Prop
  /-- The last call was a pause, and it failed. -/
  | pause {length : Number} {e : BrowserError}
      (hLast : made.getLast? = some ⟨.waitForTimeout length, some e⟩) :
      Untranslated o index steps w made (.browser e)
  /-- The last call waited for an element that was late, and the error that says so cannot be
  written. -/
  | element {selector : Text} {timeout : Nat} {e : BrowserError}
      (hLast : made.getLast? = some ⟨.waitForSelector selector timeout, some e⟩)
      (hLate : e.kind = .timeout) (hLong : digitBound ≤ o.timeout) :
      Untranslated o index steps w made (.crash .tooLongToWrite)
  /-- A step was reached that crashes. -/
  | crash {before after : List Step} {step : Step} {earlier : List TestResult} {reached : World}
      {c : Crash} (hSteps : steps = before ++ step :: after)
      (hReached : (Executor.executeAll ⟨o, true⟩ index before).run w = (.ok earlier, reached))
      (hCrashes : step.Crashes o reached c) : Untranslated o index steps w made (.crash c)

namespace Executor

variable {o : RunOptions}

/-- What an own failure of a call on the page is turned into: an error of a step, except for a
pause and for a late element whose timeout cannot be written. -/
theorem raised_of_own {c : Call} {e : BrowserError} (hCall : c.isOnPage = true)
    (hOwn : e.kind.isOwn = true) :
    (∃ s, (⟨o, true⟩ : Executor).raised c e = .step s) ∨
      (∃ length, c = .waitForTimeout length ∧ (⟨o, true⟩ : Executor).raised c e = .browser e) ∨
      ∃ selector timeout, c = .waitForSelector selector timeout ∧ e.kind = .timeout ∧
        digitBound ≤ o.timeout ∧
        (⟨o, true⟩ : Executor).raised c e = .crash .tooLongToWrite := by
  unfold raised
  rw [if_pos hOwn]
  -- two calls of a page do not become an error of the step: the pause, whose failure is raised as
  -- it is, and the look for an element, whose timeout is shown in the message
  cases c with
  | waitForTimeout length => exact .inr (.inl ⟨length, rfl, rfl⟩)
  | waitForSelector selector timeout =>
    simp only []
    split
    · next hLate =>
      cases hText : integerText o.timeout with
      | ok shown => exact .inl ⟨_, rfl⟩
      | error crash =>
        obtain ⟨rfl, hLong⟩ := integerText_eq_error_iff.mp hText
        exact .inr (.inr ⟨selector, timeout, rfl, hLate, hLong, rfl⟩)
    · exact .inl ⟨_, rfl⟩
  | goto | click | clear | type | readLayer => exact .inl ⟨_, rfl⟩
  | _ => cases hCall

/-- A step that crashes is a run that does. -/
theorem untranslated_of_crashes {index : Nat} {step : Step} {w : World}
    {made : List AnsweredCall} {c : Crash} (h : step.Crashes o w c) :
    Untranslated o index [step] w made (.crash c) := by
  have hFirst : [step] = [] ++ step :: [] := rfl
  exact .crash hFirst rfl h

/-- A performance on a page fails with an error of a step, unless its last call was a pause or
waited for an element that was late. -/
theorem performed_translates {α : Type} {index : Nat} {step : Step} {w : World}
    {mine : List AnsweredCall} {f : Failure} (hOwn : OwnFailures mine)
    (h : Performed (α := α) ⟨o, true⟩ (step.calls o) (.error f) mine) :
    (∃ e, f = .step e) ∨ Untranslated o index [step] w mine f := by
  cases h with
  | pageless hPage => cases hPage
  | @stopped done c e hPrefix hGood hFatal =>
    -- of the calls made only the last one has failed fatally, and it is one of the step's own
    have hCall : c.isOnPage = true :=
      Step.calls_isOnPage o step c (hPrefix.subset (by simp))
    have hKind : e.kind.isOwn = true := hOwn (AnsweredCall.mk c (some e)) (by simp) e rfl
    have hLast : (done ++ [AnsweredCall.mk c (some e)]).getLast? = some ⟨c, some e⟩ :=
      List.getLast?_concat
    rcases raised_of_own (o := o) hCall hKind with hStep | ⟨length, rfl, hRaised⟩ |
      ⟨selector, timeout, rfl, hLate, hLong, hRaised⟩
    · exact .inl hStep
    · rw [hRaised]
      exact .inr (.pause hLast)
    · rw [hRaised]
      exact .inr (.element hLast hLate hLong)

/-! ## Steps with values of their own -/

/-- A pause performs its call, unless its length cannot be shown. -/
theorem execute_pause_does (index : Int) (length : Number) :
    RunM.Does ((⟨o, true⟩ : Executor).execute index (.pause length)) fun r made =>
      Performed ⟨o, true⟩ [.waitForTimeout length] r made ∨
        ∃ c, length.text = .error c ∧ r = .error (.crash c) := by
  intro w
  -- the length is shown before anything is waited for, so that one that cannot be shown costs no
  -- call
  cases hText : length.text with
  | error c =>
    have hRun : ((⟨o, true⟩ : Executor).execute index (.pause length)).run w =
        (.error (.crash c), w) := by
      rw [execute, RunM.run_bind, RunM.run_safely, hText]
      rfl
    rw [hRun]
    exact ⟨[], .done w, .inr ⟨c, rfl, rfl⟩⟩
  | ok shown =>
    have hPerformed : RunM.Does (do
        RunM.log .info s!"Waiting for: {shown}"
        (⟨o, true⟩ : Executor).pause length
        return (none : Option TestResult)) (Performed ⟨o, true⟩ [.waitForTimeout length]) :=
      Performed.afterLog (Performed.finish (pause_performed length) none)
    obtain ⟨made, hCourse, hDone⟩ := hPerformed w
    rw [execute, RunM.run_bind, RunM.run_safely, hText]
    exact ⟨made, hCourse, .inl hDone⟩

/-- A wait for requests fails with an error of a step, unless its count cannot be shown or its
timeout is too large. -/
theorem awaitRequests_translates (index : Nat) {tracker : Text} {count timeout : Nat}
    {w : World} {made : List AnsweredCall} {f : Failure}
    (h : ((awaitRequests tracker count timeout).run w).1 = .error f) :
    (∃ e, f = .step e) ∨
      Untranslated o index [.awaitRequests tracker count timeout] w made f := by
  rw [run_awaitRequests] at h
  by_cases hLong : digitBound ≤ count
  · rw [if_pos hLong] at h
    obtain rfl : .crash .tooLongToWrite = f := Except.error.inj h
    exact .inr (untranslated_of_crashes (.count hLong))
  · rw [if_neg hLong] at h
    simp only [] at h
    cases hRequests : w.capture.requests tracker with
    | error e =>
      -- a name that is not watched becomes an error of the step
      rw [hRequests] at h
      exact .inl ⟨_, (Except.error.inj h).symm⟩
    | ok captured =>
      rw [hRequests] at h
      simp only [map_eq_error_iff] at h
      rcases RunM.failure_of_awaitCount_int h with ⟨hLarge, rfl⟩ | ⟨captured', hMissed⟩
      · rw [Int.natAbs_natCast] at hLarge
        have hShort : count < digitBound := Nat.lt_of_not_le hLong
        exact .inr (untranslated_of_crashes (.timeout hShort hRequests hLarge))
      · rw [RunM.missed_of_lt (by rw [Int.natAbs_natCast]; exact Nat.lt_of_not_le hLong)]
          at hMissed
        exact .inl ⟨_, hMissed⟩

/-- What the browser raised is passed on only if it is not the browser's own. -/
def PassesForeign {α : Type} (r : Except Failure α) (made : List AnsweredCall) : Prop :=
  ∀ e, r = .error (.browser e) → e.kind.isOwn = false ∧ ∃ call, ⟨call, some e⟩ ∈ made

theorem PassesForeign.pure {α : Type} (a : α) : RunM.Does (Pure.pure a) PassesForeign :=
  .pure fun _ h => nomatch h

/-- Computations in turn pass unknown failures on if each of them does. -/
theorem PassesForeign.bind {α β : Type} {m : RunM α} {f : α → RunM β}
    (hm : RunM.Does m PassesForeign) (hf : ∀ a, RunM.Does (f a) PassesForeign) :
    RunM.Does (m >>= f) PassesForeign := by
  refine hm.bind hf (fun a made r more _ h e hBrowser => ?_) fun g made h e hBrowser => ?_
  · obtain ⟨hForeign, call, hMem⟩ := h e hBrowser
    exact ⟨hForeign, call, List.mem_append_right made hMem⟩
  · exact h e (congrArg Except.error (Except.error.inj hBrowser))

/-- A failure of the browser is not one of an assertion. -/
theorem browser_ne_assertion (e : BrowserError) (a : AssertionError) :
    Failure.browser e ≠ .assertion a :=
  nofun

/-- A check passes on what the browser fails with, if it is unknown. -/
theorem holds_passesForeign (c : Check) :
    RunM.Does ((⟨o, true⟩ : Executor).holds c) PassesForeign := by
  cases c with
  | request tracker key pattern any =>
    intro w
    rw [run_holds_request]
    refine ⟨[], .one (.logged w _), fun e h => ?_⟩
    obtain ⟨_, _, -, -, -, hCrash⟩ :=
      (Capture.matchesRequest_eq_error_iff (browser_ne_assertion e)).mp h
    cases hCrash
  | unknown kind => exact .throw nofun
  | event key expected =>
    refine readLayer_does.bind (fun v => RunM.Does.of_run (RunM.run_result _)
      (P := fun r made => r = layerContains v key expected o.layerName) fun _ => rfl)
      (fun v made r more h hMore e hBrowser => ?_) fun f made h e hBrowser => ?_
    · -- comparing with what was read is no matter of the browser
      rw [hMore] at hBrowser
      obtain ⟨_, -, hCrash⟩ := (layerContains_eq_error_iff (browser_ne_assertion e)).mp hBrowser
      cases hCrash
    · obtain rfl : f = .browser e := Except.error.inj hBrowser
      -- an own error of the browser becomes one of the step or of the assertion
      rcases h with ⟨_, hOk, _⟩ | ⟨e', hError, rfl⟩ | ⟨hPage, _⟩
      · cases hOk
      · cases hOwn : e'.kind.isOwn with
        | true =>
          rw [hOwn, if_pos rfl, unreadable] at hError
          split at hError <;> cases hError
        | false =>
          rw [hOwn, if_neg Bool.false_ne_true] at hError
          cases hError
          exact ⟨hOwn, _, List.mem_singleton_self _⟩
      · cases hPage

/-- So does an assertion. -/
theorem evaluate_passesForeign (a : Assertion) :
    RunM.Does ((⟨o, true⟩ : Executor).evaluate a) PassesForeign := by
  have hLog (level : LogLevel) (message : Text) :
      RunM.Does (RunM.log level message) PassesForeign := .log nofun
  have hSafely : RunM.Does (RunM.safely a.name.display) PassesForeign := by
    refine .of_run (RunM.run_safely _) fun w e h => ?_
    cases hName : a.name.display <;> rw [hName] at h <;> cases h
  have hOutcome (shown : Text) :
      RunM.Does ((⟨o, true⟩ : Executor).outcome shown a.check) PassesForeign := by
    have hTried : RunM.Does (do
        return (Outcome.ofBool (← (⟨o, true⟩ : Executor).holds a.check), (none : Option Text)))
        PassesForeign :=
      PassesForeign.bind (holds_passesForeign a.check) fun _ => PassesForeign.pure _
    -- the handler passes on what it does not make an outcome of
    refine hTried.tryCatch (S := fun f r made => made = [] ∧ (r = .error f ∨ ∃ b, r = .ok b))
      (fun f => ?_) (fun _ _ _ => nofun) fun f made r more h hMore e hBrowser => ?_
    · cases f with
      | assertion e => exact fun w => ⟨[], .one (.logged w _), rfl, .inr ⟨_, rfl⟩⟩
      | _ => exact .throw ⟨rfl, .inl rfl⟩
    · obtain ⟨rfl, rfl | ⟨b, rfl⟩⟩ := hMore
      · rw [List.append_nil]
        exact h e (congrArg Except.error (Except.error.inj hBrowser))
      · cases hBrowser
  exact PassesForeign.bind hSafely fun shown => PassesForeign.bind (hLog _ _) fun _ =>
    PassesForeign.bind (hOutcome shown) fun _ => PassesForeign.bind (hLog _ _) fun _ =>
      PassesForeign.pure _

/-- A test step ends with an error of the step if the page is gone, and crashes otherwise. -/
theorem execute_check_translates (index : Nat) (a : Assertion) (w : World) :
    ∃ mine, World.Course w mine (((⟨o, true⟩ : Executor).execute index (.check a)).run w).2 ∧
      ∀ f, (((⟨o, true⟩ : Executor).execute index (.check a)).run w).1 = .error f →
        OwnFailures mine → (∃ e, f = .step e) ∨ Untranslated o index [.check a] w mine f := by
  have hStep : RunM.Does ((⟨o, true⟩ : Executor).execute index (.check a)) PassesForeign :=
    PassesForeign.bind (evaluate_passesForeign a) fun _ => PassesForeign.pure _
  obtain ⟨mine, hCourse, hForeign⟩ := hStep w
  refine ⟨mine, hCourse, fun f hFailed hOwn => ?_⟩
  -- a failure that is not the browser's own is excluded
  have hNotBrowser : ∀ e, f ≠ .browser e := by
    rintro e rfl
    obtain ⟨hKind, call, hMem⟩ := hForeign e hFailed
    rw [hOwn _ hMem e rfl] at hKind
    cases hKind
  rw [execute_check, map_eq_error_iff, Assertion.record_eq_error_iff] at hFailed
  cases f with
  | step e => exact .inl ⟨e, rfl⟩
  | crash c => exact .inr (untranslated_of_crashes (.check hFailed))
  | browser e => exact absurd rfl (hNotBrowser e)
  | input | query | assertion =>
    cases hFailed with
    | check _ hCheck =>
      generalize a.check = check at hCheck
      cases hCheck

/-- **How a single step fails** on a page whose failures are the browser's own. -/
theorem execute_translates (index : Nat) (step : Step) (w : World) :
    ∃ mine, World.Course w mine (((⟨o, true⟩ : Executor).execute index step).run w).2 ∧
      ∀ f, (((⟨o, true⟩ : Executor).execute index step).run w).1 = .error f →
        OwnFailures mine → (∃ e, f = .step e) ∨ Untranslated o index [step] w mine f := by
  by_cases hCan : step.canGiveUp = false
  · obtain ⟨mine, hCourse, hDone⟩ := execute_performed (x := ⟨o, true⟩) hCan index w
    refine ⟨mine, hCourse, fun f hFailed hOwn => ?_⟩
    rw [hFailed] at hDone
    exact performed_translates hOwn hDone
  -- the other steps show, count or compare a value
  cases step with
  | pause length =>
    obtain ⟨mine, hCourse, hDone⟩ := execute_pause_does (o := o) index length w
    refine ⟨mine, hCourse, fun f hFailed hOwn => ?_⟩
    rw [hFailed] at hDone
    rcases hDone with hPerformed | ⟨c, hText, hCrash⟩
    · exact performed_translates hOwn hPerformed
    · obtain rfl : f = .crash c := Except.error.inj hCrash
      exact .inr (untranslated_of_crashes (.pause hText))
  | awaitRequests tracker count timeout =>
    have hSilent : RunM.Silent ((⟨o, true⟩ : Executor).execute index
        (.awaitRequests tracker count timeout)) :=
      .bind (awaitRequests_silent tracker count timeout) fun _ => .pure rfl
    obtain ⟨mine, hCourse, hNone⟩ := hSilent w
    refine ⟨mine, hCourse, fun f hFailed _ => awaitRequests_translates index ?_⟩
    rw [execute, RunM.run_bind_fst] at hFailed
    cases hRun : ((awaitRequests tracker count timeout).run w).1 with
    | error g =>
      rw [hRun] at hFailed
      exact congrArg Except.error (Except.error.inj hFailed)
    | ok =>
      rw [hRun] at hFailed
      cases hFailed
  | check a => exact execute_check_translates index a w
  | goto | click | awaitElement | type | unknown => exact absurd rfl hCan

/-! ## Runs of steps -/

/-- The failure of a single step is that of a run that begins with it. -/
theorem untranslated_first {index : Nat} {step : Step} {w : World} {mine : List AnsweredCall}
    {f : Failure} (h : Untranslated o index [step] w mine f) (rest : List Step) :
    Untranslated o index (step :: rest) w mine f := by
  cases h with
  | pause hLast => exact .pause hLast
  | element hLast hLate hLong => exact .element hLast hLate hLong
  -- the step that crashes stays where it is, with the further steps behind it
  | @crash before after last earlier reached c hSteps hReached hCrashes =>
    cases before with
    | nil =>
      cases hSteps
      have hFirst : step :: rest = [] ++ step :: rest := rfl
      exact .crash hFirst hReached hCrashes
    | cons s before =>
      -- a list of one step has none behind the first
      obtain ⟨-, hNil⟩ := List.cons.inj hSteps
      simp at hNil

/-- The failure of a run is that of the run with a step in front that succeeds. -/
theorem untranslated_behind {index : Nat} {step : Step} {rest : List Step} {w w' : World}
    {result : Option TestResult} {mine more : List AnsweredCall} {f : Failure}
    (hStep : ((⟨o, true⟩ : Executor).execute index step).run w = (.ok result, w'))
    (h : Untranslated o (index + 1) rest w' more f) :
    Untranslated o index (step :: rest) w (mine ++ more) f := by
  cases h with
  | pause hLast => exact .pause (by rw [List.getLast?_append, hLast]; rfl)
  | element hLast hLate hLong =>
    exact .element (by rw [List.getLast?_append, hLast]; rfl) hLate hLong
  -- the step that has completed comes before those in front of the one that crashes
  | @crash before after last earlier reached c hSteps hReached hCrashes =>
    have hBefore : ((⟨o, true⟩ : Executor).executeAll index (step :: before)).run w =
        (.ok (result.toList ++ earlier), reached) := by
      rw [run_executeAll_cons, hStep]
      simp only [hReached]
    have hSplit : step :: rest = (step :: before) ++ last :: after := by
      rw [hSteps, List.cons_append]
    exact .crash hSplit hBefore hCrashes

/-- **How a run of steps fails** on a page whose failures are the browser's own. -/
theorem executeAll_translates (index : Nat) (steps : List Step) (w : World) :
    ∃ made, World.Course w made (((⟨o, true⟩ : Executor).executeAll index steps).run w).2 ∧
      ∀ f, (((⟨o, true⟩ : Executor).executeAll index steps).run w).1 = .error f →
        OwnFailures made → (∃ e, f = .step e) ∨ Untranslated o index steps w made f := by
  -- by induction on the steps, each from the world that the one before it has left
  induction steps generalizing index w with
  | nil => exact ⟨[], .done w, nofun⟩
  | cons step rest ih =>
    obtain ⟨mine, hCourse, hFirst⟩ := execute_translates (o := o) index step w
    rw [run_executeAll_cons]
    rcases hStep : ((⟨o, true⟩ : Executor).execute index step).run w with ⟨g | result, w'⟩
    · -- the first step fails
      rw [hStep] at hCourse hFirst
      refine ⟨mine, hCourse, fun f hFailed hOwn => ?_⟩
      obtain rfl : g = f := Except.error.inj hFailed
      exact (hFirst g rfl hOwn).imp_right fun h => untranslated_first h rest
    · rw [hStep] at hCourse
      obtain ⟨more, hCourse', hRest⟩ := ih (index + 1) w'
      simp only []
      rcases hAll : ((⟨o, true⟩ : Executor).executeAll (index + 1) rest).run w' with
        ⟨g | results, w''⟩
      · -- a later step fails, behind the calls of the first
        rw [hAll] at hCourse' hRest
        refine ⟨mine ++ more, hCourse.trans hCourse', fun f hFailed hOwn => ?_⟩
        obtain rfl : g = f := Except.error.inj hFailed
        have hMore := (ownFailures_append.mp hOwn).2
        exact (hRest g rfl hMore).imp_right fun h => untranslated_behind hStep h
      · rw [hAll] at hCourse'
        exact ⟨mine ++ more, hCourse.trans hCourse', nofun⟩

/-! ## The untranslated failures are real -/

/-- A step that crashes in a world fails with that crash there. -/
theorem execute_of_crashes (index : Int) {step : Step} {w : World} {c : Crash}
    (h : step.Crashes o w c) :
    (((⟨o, true⟩ : Executor).execute index step).run w).1 = .error (.crash c) := by
  -- one case for each place where a number has to be shown, or a check lets an error out
  cases h with
  | pause hText =>
    rw [execute, RunM.run_bind, RunM.run_safely, hText]
    rfl
  | @count tracker count timeout hLong =>
    rw [execute, RunM.run_bind, run_awaitRequests, if_pos hLong]
  | @timeout tracker count timeout captured hShort hRequests hLarge =>
    rw [execute, RunM.run_bind, run_awaitRequests, if_neg (Nat.not_le.mpr hShort), hRequests]
    simp only [RunM.run_awaitCount_int]
    rw [if_pos (by rwa [Int.natAbs_natCast])]
    rfl
  | check hEscapes =>
    rw [execute_check, Assertion.record_eq_error_iff.mpr hEscapes]
    rfl

/-- A run whose last call has failed fatally fails with what that is turned into. -/
theorem eq_raised_of_last {index : Nat} {steps : List Step} {w after : World} {f : Failure}
    (hRun : ((⟨o, true⟩ : Executor).executeAll index steps).run w = (.error f, after))
    {p : AnsweredCall} (hLast : (w.answeredUpTo after).getLast? = some p)
    {e : BrowserError} (hFailure : p.failure = some e) (hFatal : p.isFatal = true) :
    f = (⟨o, true⟩ : Executor).raised p.call e := by
  obtain ⟨made, hCourse, hEnds⟩ := executeAll_ends ⟨o, true⟩ index steps w
  rw [hRun] at hCourse hEnds
  rw [hCourse.answeredUpTo_eq] at hLast
  cases hEnds with
  | @raised before step after' earlier v f done mine hSteps hBefore hRaised hCalls hGood hEnds
      hWhole =>
    -- the step that failed has failed with its last call, or with all of its calls answered
    rcases hEnds.failed rfl hWhole with ⟨good, c, e', rfl, rfl, -⟩ | ⟨-, -, hMine⟩
    · rw [← List.append_assoc, List.getLast?_concat] at hLast
      obtain rfl := Option.some.inj hLast
      cases hFailure
      rfl
    · -- otherwise no call has failed fatally
      have hMem := List.mem_of_getLast? hLast
      rw [List.forall_mem_append.mpr ⟨hGood, hMine⟩ p hMem] at hFatal
      cases hFatal

/-- There is at most one failure that a run can pass on as it is. -/
theorem eq_of_untranslated {index : Nat} {steps : List Step} {w after : World} {f g : Failure}
    (hRun : ((⟨o, true⟩ : Executor).executeAll index steps).run w = (.error f, after))
    (h : Untranslated o index steps w (w.answeredUpTo after) g) : f = g := by
  -- what the last call failed with, or the crash of the step reached, determines the failure
  cases h with
  | @pause length e hLast =>
    rw [eq_raised_of_last hRun hLast rfl rfl]
    unfold raised
    split <;> rfl
  | @element selector timeout e hLast hLate hLong =>
    have hText : integerText o.timeout = .error .tooLongToWrite :=
      integerText_eq_error_iff.mpr ⟨rfl, by rwa [Int.natAbs_natCast]⟩
    rw [eq_raised_of_last hRun hLast rfl rfl]
    simp only [raised, hLate, hText]
    rfl
  | @crash before after' step earlier reached c hSteps hReached hCrashes =>
    -- the run up to the step that crashes is the given one, which therefore ends with it
    have hAll := run_executeAll_reached hReached step after'
    rw [← hSteps, hRun] at hAll
    have hStep := execute_of_crashes (index + before.length : Nat) hCrashes
    rcases hExecute : ((⟨o, true⟩ : Executor).execute (index + before.length : Nat) step).run
      reached with ⟨r, v⟩
    rw [hExecute] at hStep hAll
    obtain rfl : r = .error (.crash c) := hStep
    exact Except.error.inj (congrArg Prod.fst hAll)

end Executor

/-- **Which failures a run of steps ends with.** Let a run of steps on a page fail, and let all
calls that failed in it have failed with the browser's own errors. Then it fails with an error
of a step, except in three cases: its last call was a pause that failed, which is raised as
the browser raised it; its last call waited for an element that was late, with a timeout that
has too many digits for the error's text; or it reached a step that crashes, for a length or a
count that cannot be shown, a timeout that is too large or an assertion that crashes. In these
cases that is the failure. -/
theorem failure_of_executeAll {o : RunOptions} {steps : List Step} {w after : World} {f : Failure}
    (hRun : (Executor.executeAll ⟨o, true⟩ 0 steps).run w = (.error f, after))
    (hOwn : OwnFailures (w.answeredUpTo after)) :
    ((∃ e, f = .step e) ↔ ∀ g, ¬ Untranslated o 0 steps w (w.answeredUpTo after) g) ∧
      ∀ g, Untranslated o 0 steps w (w.answeredUpTo after) g → f = g := by
  -- there is at most one such failure, and if the run ends with none of them it ends with an error
  -- of a step
  have hSame : ∀ g, Untranslated o 0 steps w (w.answeredUpTo after) g → f = g :=
    fun g => Executor.eq_of_untranslated hRun
  obtain ⟨made, hCourse, hFails⟩ := Executor.executeAll_translates (o := o) 0 steps w
  rw [hRun] at hCourse hFails
  obtain rfl := hCourse.answeredUpTo_eq
  refine ⟨⟨?_, fun hNone => ?_⟩, hSame⟩
  · -- none of the untranslated failures is an error of a step
    rintro ⟨e, rfl⟩ g hUntranslated
    have hStep : .step e = g := hSame g hUntranslated
    cases hUntranslated <;> cases hStep
  · exact (hFails f rfl hOwn).resolve_right (hNone f)

/-- A click that fails behind a navigation: the failure is an error of the step, so none of the
three cases is there. -/
theorem failure_of_executeAll_failing_click :
    let o : RunOptions := { settleDelay := 5 }
    let steps : List Step := [.goto "https://shop/", .click "#buy"]
    let w : World := { page := { failures := [⟨{ name := "click" }, 1, ⟨.error, "gone"⟩⟩] } }
    let ended := (Executor.executeAll ⟨o, true⟩ 0 steps).run w
    let f : Failure := .step (.missingElement "#buy" "click failed: gone")
    ended = (.error f, ended.2) ∧ OwnFailures (w.answeredUpTo ended.2) ∧
      ∀ g, ¬ Untranslated o 0 steps w (w.answeredUpTo ended.2) g := by
  intro o steps w ended f
  have hFailed : ended.1.map (fun _ => ()) = .error f := by decide +kernel
  have hRun : ended = (.error f, ended.2) := Prod.ext (map_eq_error_iff.mp hFailed) rfl
  -- the calls that were made, with the one that failed at the end
  have hMade : w.answeredUpTo ended.2 =
      [⟨.goto "https://shop/" o.timeout, none⟩, ⟨.waitForTimeout (.int 5), none⟩,
        ⟨.waitForSelector "#buy" o.timeout, none⟩, ⟨.click "#buy", some ⟨.error, "gone"⟩⟩] := by
    decide +kernel
  have hOwn : OwnFailures (w.answeredUpTo ended.2) := by
    rw [hMade]
    intro p hp e he
    simp only [List.mem_cons, List.not_mem_nil, or_false] at hp
    rcases hp with rfl | rfl | rfl | rfl <;> cases he
    rfl
  exact ⟨hRun, hOwn, (failure_of_executeAll hRun hOwn).1.mp ⟨_, rfl⟩⟩

/-- A pause that fails, as a step and behind a navigation: the failure is raised as the browser
raised it, although it is one of the browser's own. -/
theorem pause_failure_is_raw :
    let e : BrowserError := ⟨.error, "gone"⟩
    let page : Page := { failures := [⟨{ name := "wait_for_timeout" }, 1, e⟩] }
    let o : RunOptions := { settleDelay := 5 }
    let entered := ((Session.enter o).run (.before page o)).2
    e.kind.isOwn = true ∧
      ((Executor.executeAll ⟨o, true⟩ 0 [.pause (.int 5)]).run entered).1 = .error (.browser e) ∧
      ((Executor.executeAll ⟨o, true⟩ 0 [.goto "https://shop/"]).run entered).1 =
        .error (.browser e) := by
  intro e page o entered
  -- the same call fails on behalf of a step and behind a navigation
  have hPause : ((Executor.executeAll ⟨o, true⟩ 0 [.pause (.int 5)]).run entered).1.map
      (fun _ => ()) = .error (.browser e) := by
    decide +kernel
  have hGoto : ((Executor.executeAll ⟨o, true⟩ 0 [.goto "https://shop/"]).run entered).1.map
      (fun _ => ()) = .error (.browser e) := by
    decide +kernel
  exact ⟨rfl, map_eq_error_iff.mp hPause, map_eq_error_iff.mp hGoto⟩

end BeaconCheck
