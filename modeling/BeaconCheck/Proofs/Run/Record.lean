import BeaconCheck.Proofs.Session.RequestCheck
import BeaconCheck.Proofs.Value.Comparison
import BeaconCheck.Proofs.World.Unlogged

/-!
# What a test step records

A test step shows the name of its assertion in the log and then evaluates the check. Errors
of the assertion become its result. Four things do not: a name that cannot be written, a
pattern that crashes the compiler, an entry of the event layer whose comparison with the
expected value crashes, and a failure to read the layer that says that the page is gone or is
none of the browser's own. These end the step, and everything else leaves exactly one result.

* `Check.verdict`           — what a check comes to in a world.
* `Assertion.record`        — what its assertion leaves: a result, or the end of the run.
* `execute_check`           — a test step on a page leaves just that.
* `Check.Escapes`, `Assertion.Escapes` — what ends the step, told by the data.
* `executeAll_check`        — one result for each test step that nothing ends.
-/

namespace BeaconCheck

/-! ## The verdict of a check -/

/-- What a check comes to in a world: the verdict, or why there is none. -/
def Check.verdict (o : RunOptions) (w : World) : Check → Evaluated Bool
  | .request tracker key pattern any => w.capture.matchesRequest tracker key pattern any
  | .event key expected =>
    match Page.failAt (.readLayer o.layerName) w.page.failures with
    | some (e, _) =>
      .error (if e.kind.isOwn then Executor.unreadable o.layerName e else .browser e)
    | none =>
      layerContains ((w.respond (.readLayer o.layerName)).page.layer o.layerName) key expected
        o.layerName
  | .unknown kind => .error (.assertion (.unsupported kind))

/-- What is left of a verdict: an outcome, unless the failure is none of the assertion. -/
def Outcome.ofVerdict (verdict : Evaluated Bool) : Except Failure (Outcome × Option Text) :=
  match verdict with
  | .ok b => .ok (.ofBool b, none)
  | .error (.assertion e) => .ok (e.outcome, some e.message)
  | .error f => .error f

/-- What an assertion leaves in a world: its result, or the failure that ends the run. -/
def Assertion.record (o : RunOptions) (w : World) (a : Assertion) : Except Failure TestResult :=
  match a.name.display with
  | .error c => .error (.crash c)
  | .ok _ =>
    (Outcome.ofVerdict (a.check.verdict o w)).map fun p =>
      { id := a.id, name := a.name, outcome := p.1, message := p.2 }

namespace Executor

variable (o : RunOptions)

/-- Reading the event layer of a page. -/
theorem run_readLayer (w : World) :
    ((⟨o, true⟩ : Executor).readLayer.run w).1 =
      match Page.failAt (.readLayer o.layerName) w.page.failures with
      | some (e, _) => .error (if e.kind.isOwn then unreadable o.layerName e else .browser e)
      | none => .ok ((w.respond (.readLayer o.layerName)).page.layer o.layerName) := by
  have hCall : (⟨o, true⟩ : Executor).call (.readLayer o.layerName) =
      RunM.call (.readLayer o.layerName) := rfl
  unfold readLayer
  rw [RunM.run_bind, RunM.run_tryCatch]
  simp only [hCall, RunM.run_call]
  -- the layer is that of the page behind the reaction to its being read
  cases Page.failAt (.readLayer o.layerName) w.page.failures with
  | some p => rfl
  | none => rfl

/-- The log does not change what a check comes to. -/
theorem verdict_addLog (w : World) (records : List LogRecord) (c : Check) :
    c.verdict o (w.addLog records) = c.verdict o w := by
  cases c with
  | request => rfl
  | unknown => rfl
  | event key expected =>
    simp only [Check.verdict, World.layer_respond_addLog]
    rfl

/-- What a check asks for is its verdict. -/
theorem run_holds (w : World) (c : Check) :
    (((⟨o, true⟩ : Executor).holds c).run w).1 = c.verdict o w := by
  cases c with
  | request tracker key pattern any => rw [run_holds_request]; rfl
  | unknown kind => rfl
  | event key expected =>
    rw [holds, RunM.run_bind_fst, run_readLayer]
    simp only [Check.verdict]
    cases Page.failAt (.readLayer o.layerName) w.page.failures with
    | some p => rfl
    | none => simp only [RunM.run_result]

/-- The outcome of a check is made of its verdict. -/
theorem run_outcome (shown : Text) (w : World) (c : Check) :
    (((⟨o, true⟩ : Executor).outcome shown c).run w).1 =
      Outcome.ofVerdict (c.verdict o w) := by
  rw [outcome, RunM.run_tryCatch_fst, RunM.run_bind_fst, run_holds]
  cases c.verdict o w with
  | ok b => rfl
  | error f => cases f <;> rfl

/-- **A test step on a page** leaves what its assertion leaves. -/
theorem execute_check (index : Int) (w : World) (a : Assertion) :
    (((⟨o, true⟩ : Executor).execute index (.check a)).run w).1 = (a.record o w).map some := by
  rw [execute_check_fst, Assertion.record]
  cases a.name.display with
  | error c => rfl
  | ok shown =>
    simp only [run_outcome, verdict_addLog]
    cases Outcome.ofVerdict (a.check.verdict o w) <;> rfl

end Executor

/-! ## What ends a test step -/

/-- A check ends its step in a world: its failure is none that becomes a result. -/
inductive Check.Escapes (o : RunOptions) (w : World) : Check → Failure → Prop
  /-- There are requests to match, and compiling the pattern crashes. -/
  | pattern {tracker key pattern : Text} {any : Bool} {captured : List Params} {c : Crash}
      (hRequests : w.capture.requests tracker = .ok captured) (hSome : captured ≠ [])
      (hCrash : Pattern.compile pattern = .error (.crash c)) :
      Escapes o w (.request tracker key pattern any) (.crash c)
  /-- The layer was read, and an entry cannot be compared with the expected value. -/
  | comparison {key : Text} {expected entry : Value} {before after : List Value} {c : Crash}
      (hRead : Page.failAt (.readLayer o.layerName) w.page.failures = none)
      (hLayer : ((w.respond (.readLayer o.layerName)).page.layer o.layerName).items? =
        some (before ++ entry :: after))
      (hBefore : ∀ e ∈ before, entryEquals key expected e = .ok false)
      (hCrash : EntryCrashes key expected entry c) : Escapes o w (.event key expected) (.crash c)
  /-- Reading the layer fails because the page is gone. -/
  | closed {key : Text} {expected : Value} {e : BrowserError} {left : List ScriptedFailure}
      (hRead : Page.failAt (.readLayer o.layerName) w.page.failures = some (e, left))
      (hOwn : e.kind.isOwn = true) (hClosed : Executor.saysClosed e = true) :
      Escapes o w (.event key expected) (.step (.pageClosed o.layerName e.message))
  /-- Reading the layer fails with an error that is none of the browser's own. -/
  | foreign {key : Text} {expected : Value} {e : BrowserError} {left : List ScriptedFailure}
      (hRead : Page.failAt (.readLayer o.layerName) w.page.failures = some (e, left))
      (hOwn : e.kind.isOwn = false) : Escapes o w (.event key expected) (.browser e)

/-- An assertion ends its step in a world: its name cannot be written, or its check ends it. -/
inductive Assertion.Escapes (o : RunOptions) (w : World) (a : Assertion) : Failure → Prop
  | name {c : Crash} (hName : a.name.display = .error c) : Escapes o w a (.crash c)
  | check {shown : Text} {f : Failure} (hName : a.name.display = .ok shown)
      (hCheck : a.check.Escapes o w f) : Escapes o w a f

/-- Matching requests fails with nothing but errors of the assertion, unless compiling the
pattern crashes. -/
theorem Capture.matchesRequest_eq_error_iff {capture : Capture} {tracker key pattern : Text}
    {any : Bool} {f : Failure} (hNot : ∀ e, f ≠ .assertion e) :
    capture.matchesRequest tracker key pattern any = .error f ↔
      ∃ captured c, capture.requests tracker = .ok captured ∧ captured ≠ [] ∧
        Pattern.compile pattern = .error (.crash c) ∧ f = .crash c := by
  -- an error of the assertion is not the failure that is asked about
  have hOther (e : AssertionError) : (.error (.assertion e) : Evaluated Bool) ≠ .error f :=
    fun h => hNot e (Except.error.inj h).symm
  cases hRequests : capture.requests tracker with
  | error e =>
    rw [matchesRequest_of_unknown hRequests]
    exact iff_of_false (hOther e) (by rintro ⟨_, _, h, -⟩; cases h)
  | ok captured =>
    rw [matchesRequest_of_requests hRequests]
    cases hLast : captured.getLast? with
    | none =>
      obtain rfl : captured = [] := List.getLast?_eq_none_iff.mp hLast
      refine iff_of_false (hOther _) ?_
      rintro ⟨_, _, h, hSome, -⟩
      exact hSome (Except.ok.inj h).symm
    | some latest =>
      have hSome : captured ≠ [] := by
        rintro rfl
        cases hLast
      simp only [requestMatches, compilePattern]
      cases hCompile : Pattern.compile pattern with
      | ok p =>
        refine iff_of_false (fun h => ?_) ?_
        · cases h
        · rintro ⟨_, _, -, -, h, -⟩
          cases h
      | error failure =>
        cases failure with
        | refused e =>
          refine iff_of_false (hOther _) ?_
          rintro ⟨_, _, -, -, h, -⟩
          cases h
        | crash c =>
          constructor
          · intro h
            exact ⟨captured, c, rfl, hSome, rfl, (Except.error.inj h).symm⟩
          · rintro ⟨_, _, -, -, h, rfl⟩
            obtain rfl : c = _ := by simpa using h
            rfl

/-- Searching the event layer fails with nothing but errors of the assertion, unless a
comparison crashes. -/
theorem layerContains_eq_error_iff {layer expected : Value} {key name : Text} {f : Failure}
    (hNot : ∀ e, f ≠ .assertion e) :
    layerContains layer key expected name = .error f ↔
      ∃ c, layerContains layer key expected name = .error (.crash c) ∧ f = .crash c := by
  refine ⟨fun h => ?_, fun ⟨c, h, hf⟩ => hf ▸ h⟩
  unfold layerContains at h ⊢
  -- a layer that is no list is an error of the assertion, which is excluded, so that the crash is
  -- one of comparing
  cases hItems : layer.items? with
  | none =>
    rw [hItems] at h
    exact absurd (Except.error.inj h).symm (hNot _)
  | some entries =>
    rw [hItems] at h
    simp only [] at h ⊢
    cases hAny : anyEntryEquals key expected entries with
    | ok found =>
      rw [hAny] at h
      cases h
    | error c =>
      rw [hAny] at h
      exact ⟨c, rfl, (Except.error.inj h).symm⟩

/-- Where the event layer is read, only a comparison can end the step. -/
theorem Check.event_eq_error_iff_of_read {o : RunOptions} {w : World} {key : Text}
    {expected : Value} {f : Failure} (hNot : ∀ e, f ≠ .assertion e)
    (hRead : Page.failAt (.readLayer o.layerName) w.page.failures = none) :
    (event key expected).verdict o w = .error f ↔ (event key expected).Escapes o w f := by
  simp only [verdict, hRead]
  rw [layerContains_eq_error_iff hNot]
  simp only [layerContains_eq_crash_iff]
  constructor
  · rintro ⟨c, ⟨before, entry, after, hLayer, hBefore, hCrash⟩, rfl⟩
    exact .comparison hRead hLayer hBefore hCrash
  · intro h
    -- the layer could be read, so that only the comparing can crash
    cases h with
    | comparison _ hLayer hBefore hCrash => exact ⟨_, ⟨_, _, _, hLayer, hBefore, hCrash⟩, rfl⟩
    | closed h => rw [hRead] at h; cases h
    | foreign h => rw [hRead] at h; cases h

/-- Where it cannot be read, the page is closed or the error is none of the browser's own; any
other error is one of the assertion. -/
theorem Check.event_eq_error_iff_of_failed {o : RunOptions} {w : World} {key : Text}
    {expected : Value} {f : Failure} (hNot : ∀ e, f ≠ .assertion e) {e : BrowserError}
    {left : List ScriptedFailure}
    (hRead : Page.failAt (.readLayer o.layerName) w.page.failures = some (e, left)) :
    (event key expected).verdict o w = .error f ↔ (event key expected).Escapes o w f := by
  simp only [verdict, hRead, Except.error.injEq]
  constructor
  · rintro rfl
    cases hOwn : e.kind.isOwn with
    | false => exact .foreign hRead hOwn
    | true =>
      simp only [hOwn, if_true, Executor.unreadable] at hNot ⊢
      cases hClosed : Executor.saysClosed e with
      | true => exact .closed hRead hOwn hClosed
      | false =>
        -- the error is one of the assertion, which is not asked about
        simp only [hClosed, Bool.false_eq_true, if_false] at hNot
        exact absurd rfl (hNot _)
  · intro h
    cases h with
    | comparison h => rw [hRead] at h; cases h
    | closed h hOwn hClosed =>
      rw [hRead] at h
      cases h
      simp only [hOwn, if_true, Executor.unreadable, hClosed]
    | foreign h hOwn =>
      rw [hRead] at h
      cases h
      simp only [hOwn, Bool.false_eq_true, if_false]

/-- **A check fails with something that is no error of the assertion** exactly if it ends its
step. -/
theorem Check.verdict_eq_error_iff {o : RunOptions} {w : World} {check : Check} {f : Failure}
    (hNot : ∀ e, f ≠ .assertion e) : check.verdict o w = .error f ↔ check.Escapes o w f := by
  -- a check of requests fails for its pattern, one of the layer for the reading or the comparing
  cases check with
  | request tracker key pattern any =>
    simp only [verdict, Capture.matchesRequest_eq_error_iff hNot]
    constructor
    · rintro ⟨captured, c, hRequests, hSome, hCrash, rfl⟩
      exact .pattern hRequests hSome hCrash
    · intro h
      cases h with
      | pattern hRequests hSome hCrash => exact ⟨_, _, hRequests, hSome, hCrash, rfl⟩
  | event key expected =>
    cases hRead : Page.failAt (.readLayer o.layerName) w.page.failures with
    | none => exact event_eq_error_iff_of_read hNot hRead
    | some p => exact event_eq_error_iff_of_failed hNot hRead
  | unknown kind => exact iff_of_false (fun h => hNot _ (Except.error.inj h).symm) nofun

/-- What ends a test step is no error of its assertion. -/
theorem Check.Escapes.ne_assertion {o : RunOptions} {w : World} {check : Check} {f : Failure}
    (h : check.Escapes o w f) (e : AssertionError) : f ≠ .assertion e := by
  cases h <;> exact nofun

/-- Of the failures of a check only its own ones become outcomes. -/
theorem Outcome.ofVerdict_eq_error_iff {verdict : Evaluated Bool} {f : Failure} :
    Outcome.ofVerdict verdict = .error f ↔ verdict = .error f ∧ ∀ e, f ≠ .assertion e := by
  cases verdict with
  | ok b => exact iff_of_false nofun fun h => nomatch h.1
  | error g =>
    -- an error of the assertion becomes an outcome, and everything else is handed on
    cases g with
    | assertion e =>
      refine iff_of_false nofun fun ⟨h, hNot⟩ => ?_
      exact hNot e (Except.error.inj h).symm
    | _ =>
      refine ⟨fun h => ?_, fun h => congrArg Except.error (Except.error.inj h.1)⟩
      cases h
      exact ⟨rfl, nofun⟩

/-- **An assertion leaves no result** exactly if it ends its step. -/
theorem Assertion.record_eq_error_iff {o : RunOptions} {w : World} {a : Assertion}
    {f : Failure} : a.record o w = .error f ↔ a.Escapes o w f := by
  unfold record
  -- the name is shown before the check is made
  cases hName : a.name.display with
  | error c =>
    constructor
    · intro h
      obtain rfl : .crash c = f := Except.error.inj h
      exact .name hName
    · intro h
      cases h with
      | name h => rw [hName] at h; cases h; rfl
      | check h => rw [hName] at h; cases h
  | ok shown =>
    simp only [map_eq_error_iff, Outcome.ofVerdict_eq_error_iff]
    constructor
    · rintro ⟨hVerdict, hNot⟩
      exact .check hName ((Check.verdict_eq_error_iff hNot).mp hVerdict)
    · intro h
      cases h with
      | name h => rw [hName] at h; cases h
      | check _ hCheck =>
        exact ⟨(Check.verdict_eq_error_iff hCheck.ne_assertion).mpr hCheck, hCheck.ne_assertion⟩

/-- The result that an assertion leaves is reported under its own id and name. -/
theorem Assertion.of_record_eq_ok {o : RunOptions} {w : World} {a : Assertion}
    {result : TestResult} (h : a.record o w = .ok result) :
    result.id = a.id ∧ result.name = a.name := by
  unfold record at h
  cases hName : a.name.display with
  | error c => rw [hName] at h; cases h
  | ok shown =>
    rw [hName] at h
    -- whatever the verdict is, the result takes its id and its name from the assertion
    cases hVerdict : Outcome.ofVerdict (a.check.verdict o w) with
    | error f => rw [hVerdict] at h; cases h
    | ok p =>
      rw [hVerdict] at h
      obtain rfl := Except.ok.inj h
      exact ⟨rfl, rfl⟩

/-! ## One result for each test step -/

/-- **What a test step adds to a run.** Take a run of steps on a page that has come to a test
step, whatever the world is by then. The step adds exactly one result, under the id and the
name of its assertion, unless the assertion ends it: its name cannot be written, its pattern
crashes the compiler, an entry of the layer cannot be compared with the expected value, or
reading the layer fails because the page is gone or with an error that is none of the
browser's own. In each of these cases the run ends with that failure. -/
theorem executeAll_check {o : RunOptions} {index : Nat} {before : List Step} {w reached : World}
    {earlier : List TestResult}
    (hReached : (Executor.executeAll ⟨o, true⟩ index before).run w = (.ok earlier, reached))
    (a : Assertion) :
    ((∃ result, ((Executor.executeAll ⟨o, true⟩ index (before ++ [.check a])).run w).1 =
          .ok (earlier ++ [result]) ∧ result.id = a.id ∧ result.name = a.name) ↔
        ∀ f, ¬ a.Escapes o reached f) ∧
      ∀ f, ((Executor.executeAll ⟨o, true⟩ index (before ++ [.check a])).run w).1 = .error f ↔
        a.Escapes o reached f := by
  have hStep := Executor.execute_check o (index + before.length : Nat) reached a
  have hRun := Executor.run_executeAll_reached hReached (.check a) []
  rcases hExecute : (Executor.execute ⟨o, true⟩ (index + before.length : Nat) (.check a)).run
    reached with ⟨r, v⟩
  rw [hExecute] at hStep hRun
  simp only [] at hStep
  simp only [← Assertion.record_eq_error_iff]
  cases hRecord : a.record o reached with
  | error f =>
    rw [hRecord] at hStep
    obtain rfl : r = .error f := hStep
    simp only [] at hRun
    rw [hRun]
    refine ⟨iff_of_false ?_ fun hNot => hNot f rfl, fun g => ?_⟩
    · rintro ⟨result, h, -⟩
      cases h
    · simp only [Except.error.injEq]
  | ok result =>
    rw [hRecord] at hStep
    obtain rfl : r = .ok (some result) := hStep
    -- nothing is left to execute behind the step
    have hAll : (Executor.executeAll ⟨o, true⟩ index (before ++ [.check a])).run w =
        (.ok (earlier ++ [result]), v) := hRun
    rw [hAll]
    refine ⟨iff_of_true ?_ nofun, fun g => iff_of_false nofun nofun⟩
    exact ⟨result, rfl, Assertion.of_record_eq_ok hRecord⟩

/-- A test step behind a click, for a tracker that is not watched: it has a result. -/
theorem executeAll_check_behind_click :
    let o : RunOptions := { settleDelay := 0 }
    let a : Assertion := ⟨.int 1, .text "bought", .null, .request "ga" "ev" "buy" false⟩
    let reached := ((Executor.executeAll ⟨o, true⟩ 0 [.click "#buy"]).run {}).2
    (Executor.executeAll ⟨o, true⟩ 0 [.click "#buy"]).run {} = (.ok [], reached) ∧
      ∃ result, ((Executor.executeAll ⟨o, true⟩ 0 [.click "#buy", .check a]).run {}).1 =
        .ok [result] ∧ result.id = a.id ∧ result.name = a.name := by
  intro o a reached
  have hReached : (Executor.executeAll ⟨o, true⟩ 0 [.click "#buy"]).run {} = (.ok [], reached) :=
    rfl
  -- the name is a text, and without a request there is none for the pattern to be tried on
  refine ⟨hReached, (executeAll_check hReached a).1.mpr fun f hEscapes => ?_⟩
  cases hEscapes with
  | name hName => cases hName
  | check _ hCheck =>
    cases hCheck with
    | pattern hRequests => cases hRequests

/-- An expected value can be a number that no entry can be compared with, and a pattern can
crash the compiler: such a test step has no result, although the layer can be read and the
requests are on record. -/
theorem no_result_for_large_numbers :
    let page : Page := { layers := [("dataLayer", .list [.ofFields [("v", .int 1)]])] }
    let o : RunOptions := { trackers := [⟨"ga", "collect", false⟩] }
    let entered := ((Session.enter o).run (.before page o)).2
    let value : Assertion := ⟨.int 1, .text "value", .null, .event "v" (.int (10 ^ 400))⟩
    let repeated : Assertion :=
      ⟨.int 1, .text "repeated", .null, .request "ga" "ev" "a\x7b4294967295\x7d" false⟩
    ((Executor.executeAll ⟨o, true⟩ 0 [.check value]).run entered).1 =
        .error (.crash .integerTooLarge) ∧
      ((Executor.executeAll ⟨o, true⟩ 0 [.check repeated]).run
        (entered.fire "https://x/collect?ev=buy")).1 = .error (.crash .repetitionTooLarge) := by
  intro page o entered value repeated
  -- only the ends of the two runs are evaluated, without the worlds they leave
  have hValue : ((Executor.executeAll ⟨o, true⟩ 0 [.check value]).run entered).1.map
      (fun _ => ()) = .error (.crash .integerTooLarge) := by
    decide +kernel
  have hRepeated : ((Executor.executeAll ⟨o, true⟩ 0 [.check repeated]).run
      (entered.fire "https://x/collect?ev=buy")).1.map (fun _ => ()) =
        .error (.crash .repetitionTooLarge) := by
    decide +kernel
  exact ⟨map_eq_error_iff.mp hValue, map_eq_error_iff.mp hRepeated⟩

end BeaconCheck
