import BeaconCheck.Proofs.Run.Await
import BeaconCheck.Proofs.Run.Performance
import BeaconCheck.Run.Steps

/-!
# The calls of steps

Each step has a list of calls that it asks of the page. Executing it makes all of them if it
succeeds, and otherwise those up to the one whose failure ended the step, or none or all of
them if the step failed for a reason of its own: a text that cannot be written, a value that
cannot be compared, requests that did not come. An assertion that cannot be evaluated does
not fail its step. A run of steps makes the calls of one step after the other.

* `Step.calls`           — the calls of a step.
* `StepEnds`             — which of them were made when the step has ended.
* `execute_ends`         — every step ends so.
* `StepFailed`           — how a step on a page fails.
* `RunEnds`              — which calls were made when a run of steps has ended.
* `executeAll_ends`      — every run of steps ends so.
-/

namespace BeaconCheck

/-! ## The calls of a step -/

/-- The pause behind a navigation or a click, if there is one. -/
def RunOptions.settleCalls (o : RunOptions) : List Call :=
  if 0 < o.settleDelay then [.waitForTimeout (.int o.settleDelay)] else []

/-- What a check asks of the page. -/
def Check.calls (o : RunOptions) : Check → List Call
  | .event .. => [.readLayer o.layerName]
  | .request .. | .unknown _ => []

/-- What a step asks of the page when nothing fails. -/
def Step.calls (o : RunOptions) : Step → List Call
  | .goto url => .goto url o.timeout :: o.settleCalls
  | .click selector =>
    [.waitForSelector selector o.timeout, .click selector] ++ o.settleCalls
  | .pause length => [.waitForTimeout length]
  | .awaitElement selector => [.waitForSelector selector o.timeout]
  | .type selector text clear =>
    .waitForSelector selector o.timeout :: (if clear then [.clear selector] else []) ++
      [.type selector text o.typeDelay o.timeout]
  | .awaitRequests .. => []
  | .check a => a.check.calls o
  | .unknown _ => []

/-- The step can fail for a reason of its own: a text that cannot be written, a value that
cannot be compared, requests that do not come. -/
def Step.canGiveUp : Step → Bool
  | .pause _ | .awaitRequests .. | .check _ => true
  | .goto _ | .click _ | .awaitElement _ | .type .. | .unknown _ => false

/-- Which calls of a step were made when it has ended: those that it performed, or none or
all of them where it failed for a reason of its own. -/
inductive StepEnds {α : Type} (x : Executor) (cs : List Call) :
    Except Failure α → List AnsweredCall → Prop
  | performed {r : Except Failure α} {made : List AnsweredCall} (h : Performed x cs r made) :
      StepEnds x cs r made
  | gaveUp {f : Failure} {made : List AnsweredCall}
      (hMade : made = [] ∨ made.map AnsweredCall.call = cs)
      (hGood : ∀ p ∈ made, p.isFatal = false) : StepEnds x cs (.error f) made

namespace StepEnds

variable {α β : Type} {x : Executor} {cs : List Call}

/-- A step that ends early has made the first of its calls. -/
theorem calls_prefix {r : Except Failure α} {made : List AnsweredCall}
    (h : StepEnds x cs r made) : made.map AnsweredCall.call <+: cs := by
  cases h with
  | performed h => exact h.calls_prefix
  | gaveUp hMade _ =>
    rcases hMade with rfl | h
    · exact List.nil_prefix
    · exact h ▸ List.prefix_rfl

/-- A step that succeeded has made all of its calls, and none of them failed fatally. -/
theorem of_ok {a : α} {made : List AnsweredCall} (h : StepEnds x cs (.ok a) made) :
    made.map AnsweredCall.call = cs ∧ ∀ p ∈ made, p.isFatal = false := by
  -- neither giving up nor a fatal failure gives a result
  cases h with
  | performed h =>
    cases h with
    | all hCalls hGood => exact ⟨hCalls, hGood⟩

/-- What makes no call and may fail, in front of the rest of a step. -/
theorem after {m : RunM α} {f : α → RunM β} (hm : RunM.Does m fun _ made => made = [])
    (hf : ∀ a, RunM.Does (f a) (StepEnds x cs)) : RunM.Does (m >>= f) (StepEnds x cs) := by
  refine hm.bind hf (fun _ made _ _ h h' => ?_) fun _ made h => ?_
  · subst h
    exact h'
  · subst h
    exact .gaveUp (.inl rfl) (by simp)

/-- What makes no call and does not fail, behind the rest of a step. -/
theorem before {m : RunM α} {f : α → RunM β} (hm : RunM.Does m (StepEnds x cs))
    (hf : ∀ a, RunM.Does (f a) fun r made => made = [] ∧ ∃ b, r = .ok b) :
    RunM.Does (m >>= f) (StepEnds x cs) := by
  refine hm.bind hf (fun _ made r more h h' => ?_) fun _ made h => ?_
  · obtain ⟨rfl, b, rfl⟩ := h'
    obtain ⟨hCalls, hGood⟩ := h.of_ok
    rw [List.append_nil]
    exact .performed (.all hCalls hGood)
  · cases h with
    | performed h => exact .performed (by simpa using h.extend (β := β) [])
    | gaveUp hMade hGood => exact .gaveUp hMade hGood

/-- What is performed ends as a step does. -/
theorem of_performed {m : RunM α} (h : RunM.Does m (Performed x cs)) :
    RunM.Does m (StepEnds x cs) :=
  h.mono fun _ _ h => .performed h

end StepEnds

namespace RunM

variable {α β : Type}

/-- The computation makes no call. -/
def Silent (m : RunM α) : Prop :=
  Does m fun _ made => made = []

theorem log_silent (level : LogLevel) (message : Text) : Silent (RunM.log level message) :=
  .log rfl

theorem safely_silent (result : Except Crash α) : Silent (safely result) :=
  .of_run (run_safely result) fun _ => rfl

theorem result_silent (known : Except Failure α) : Silent (result known) :=
  .of_run (run_result known) fun _ => rfl

/-- Computations in turn make no call if none of them does. -/
theorem Silent.bind {m : RunM α} {f : α → RunM β} (hm : Silent m) (hf : ∀ a, Silent (f a)) :
    Silent (m >>= f) := by
  refine Does.bind hm hf (fun a made r more h h' => ?_) fun _ _ h => h
  rw [h, h']
  rfl

/-- Nor does one that handles the failure of another. -/
theorem Silent.tryCatch {m : RunM α} {handler : Failure → RunM α} (hm : Silent m)
    (hHandler : ∀ e, Silent (handler e)) : Silent (tryCatch m handler) := by
  refine Does.tryCatch hm hHandler (fun _ _ h => h) fun e made r more h h' => ?_
  rw [h, h']
  rfl

theorem Silent.ends {m : RunM α} {x : Executor} (hm : Silent m) :
    Does m (StepEnds x []) := by
  refine Does.mono hm fun r made h => ?_
  subst h
  cases r with
  | ok a => exact .performed (.done a)
  | error f => exact .gaveUp (.inl rfl) (by simp)

end RunM

namespace Executor

variable {x : Executor}

/-! ## Assertions -/

/-- The failure of a call that a step raises is no error of an assertion. -/
theorem raised_ne_assertion (c : Call) (e : BrowserError) (a : AssertionError) :
    x.raised c e ≠ .assertion a := by
  unfold raised
  split
  -- a call fails with an error of the step, of the browser, or with a crash
  · cases c with
    | waitForSelector selector timeout =>
      simp only []
      split
      · split <;> simp
      · simp
    | _ => simp
  · simp

/-- A fatal failure to read the event layer is what the step raises. -/
theorem unreadable_eq_raised {name : Text} {e : BrowserError}
    (h : AnsweredCall.isFatal ⟨.readLayer name, some e⟩ = true) :
    (if e.kind.isOwn then unreadable name e else .browser e) = x.raised (.readLayer name) e := by
  unfold raised
  cases hOwn : e.kind.isOwn with
  | false => rfl
  | true =>
    have hClosed : saysClosed e = true := by simpa [AnsweredCall.isFatal, hOwn] using h
    simp [unreadable, hClosed]

/-- How looking at what a check is about ends: all calls were made and none failed fatally,
or the step ends with a failure that is no error of the assertion. -/
def Looked {α : Type} (x : Executor) (cs : List Call) (r : Except Failure α)
    (made : List AnsweredCall) : Prop :=
  (made.map AnsweredCall.call = cs ∧ ∀ p ∈ made, p.isFatal = false) ∨
    (Performed x cs r made ∧ ∀ e, r ≠ .error (.assertion e))

/-- A check looks at the event layer at most, which is one call. -/
theorem holds_looked (c : Check) :
    RunM.Does (x.holds c) (Looked x (c.calls x.options)) := by
  cases c with
  | request tracker key pattern any =>
    refine .get fun w v => ?_
    rw [RunM.run_bind, RunM.run_modify]
    simp only [RunM.run_result]
    exact ⟨[], .one (.logged v _), .inl ⟨rfl, by simp⟩⟩
  | unknown kind => exact .throw (.inl ⟨rfl, by simp⟩)
  | event key expected =>
    refine readLayer_does.bind (fun v => RunM.result_silent _) (fun v made r more h hMore => ?_)
      fun f made h => ?_
    · -- the layer was read, and comparing makes no call
      subst hMore
      rcases h with ⟨_, _, rfl⟩ | ⟨e, hError, _⟩ | ⟨_, _, crash, hError⟩
      · exact .inl ⟨rfl, by simp [AnsweredCall.isFatal]⟩
      · cases hError
      · cases hError
    · rcases h with ⟨_, hOk, _⟩ | ⟨e, hError, rfl⟩ | ⟨hPage, rfl, crash, hError⟩
      · cases hOk
      -- the read failed: the assertion may survive that, or the step ends here
      · cases hFatal : AnsweredCall.isFatal ⟨.readLayer x.options.layerName, some e⟩ with
        | false => exact .inl ⟨rfl, by simp [hFatal]⟩
        | true =>
          obtain rfl : f = _ := Except.error.inj hError
          rw [unreadable_eq_raised (x := x) hFatal]
          refine .inr ⟨.stoppedAt List.prefix_rfl hFatal, fun a h => ?_⟩
          exact raised_ne_assertion _ e a (Except.error.inj h)
      · cases hError
        exact .inr ⟨.pageless hPage List.nil_prefix (by simp), by simp⟩

/-- An error of the assertion is not one of the step. -/
theorem outcome_ends (shown : Text) (c : Check) :
    RunM.Does (x.outcome shown c) (StepEnds x (c.calls x.options)) := by
  have hTried : RunM.Does (do return (Outcome.ofBool (← x.holds c), (none : Option Text)))
      (Looked x (c.calls x.options)) := by
    refine (holds_looked c).bind (S := fun _ r made => made = [] ∧ ∃ b, r = .ok b)
      (fun b => .pure ⟨rfl, _, rfl⟩) (fun b made r more h h' => ?_) fun f made h => ?_
    · obtain ⟨rfl, _, rfl⟩ := h'
      rw [List.append_nil]
      rcases h with h | ⟨⟨hCalls, hGood⟩, _⟩
      · exact .inl h
      · exact .inl ⟨hCalls, hGood⟩
    · refine h.imp_right fun ⟨hPerformed, hNot⟩ => ⟨?_, fun e h => ?_⟩
      · simpa using hPerformed.extend (β := Outcome × Option Text) []
      · exact hNot e (congrArg _ (Except.error.inj h))
  -- the handler makes no call: it logs an error of the assertion, and passes on the others
  refine hTried.tryCatch
    (S := fun f r made => made = [] ∧
      ((∃ e b, f = .assertion e ∧ r = .ok b) ∨ ((∀ e, f ≠ .assertion e) ∧ r = .error f)))
    (fun f => ?_) (fun a made h => ?_) fun f made r more h h' => ?_
  · cases f with
    | assertion e =>
      exact fun w => ⟨[], .one (.logged w _), rfl, .inl ⟨e, _, rfl, rfl⟩⟩
    | _ => exact .throw ⟨rfl, .inr ⟨by simp, rfl⟩⟩
  · rcases h with ⟨hCalls, hGood⟩ | ⟨h, _⟩
    · exact .performed (.all hCalls hGood)
    · exact .performed h
  · obtain ⟨rfl, h'⟩ := h'
    rw [List.append_nil]
    -- a comparison can fail behind a layer that was read, without a call to blame
    rcases h with ⟨hCalls, hGood⟩ | ⟨h, hNot⟩
    · rcases h' with ⟨e, b, rfl, rfl⟩ | ⟨_, rfl⟩
      · exact .performed (.all hCalls hGood)
      · exact .gaveUp (.inr hCalls) hGood
    · rcases h' with ⟨e, b, rfl, rfl⟩ | ⟨_, rfl⟩
      · exact absurd rfl (hNot e)
      · exact .performed h

/-- An assertion ends like a step with the calls of its check. -/
theorem evaluate_ends (a : Assertion) :
    RunM.Does (x.evaluate a) (StepEnds x (a.check.calls x.options)) := by
  refine StepEnds.after (RunM.safely_silent _) fun shown => StepEnds.after (RunM.log_silent _ _) fun _ => ?_
  exact StepEnds.before (outcome_ends shown a.check) fun p w => ⟨[], .one (.logged w _), rfl, _, rfl⟩

/-! ## Steps -/

/-- Settling is performed by the call for it, if any. -/
theorem settle_performed : RunM.Does x.settle (Performed x x.options.settleCalls) := by
  unfold settle RunOptions.settleCalls
  split
  · exact pause_performed _
  · exact .pure (.done ())

/-- Waiting for requests asks nothing of the page. -/
theorem awaitRequests_silent (tracker : Text) (count timeout : Nat) :
    RunM.Silent (awaitRequests tracker count timeout) := by
  refine .bind (RunM.safely_silent _) fun shown => .bind (RunM.log_silent _ _) fun _ => ?_
  refine .tryCatch (fun w => ⟨[], ?_, rfl⟩) fun failure => ?_
  · rw [RunM.run_discard]
    exact RunM.awaitRequests_course tracker (.int count) (.int timeout) w
  · split <;> exact .throw rfl

/-- **The steps that act on the page** perform their calls. -/
theorem execute_performed {step : Step} (h : step.canGiveUp = false) (index : Int) :
    RunM.Does (x.execute index step) (Performed x (step.calls x.options)) := by
  -- every step is logged first, and then makes its calls one after the other
  cases step with
  | goto url =>
    refine Performed.afterLog ?_
    exact Performed.cons (goto_performed url) fun _ =>
      Performed.finish settle_performed none
  | click selector =>
    refine Performed.afterLog ?_
    exact Performed.bind (click_performed selector) fun _ =>
      Performed.finish settle_performed none
  | awaitElement selector =>
    refine Performed.afterLog ?_
    exact Performed.finish (awaitElement_performed selector) none
  | type selector text clear =>
    refine Performed.afterLog ?_
    exact Performed.finish (typeText_performed selector text clear) none
  | unknown kind => exact Performed.afterLog (.pure (.done none))
  | pause | awaitRequests | check => cases h

/-- **Every step ends so**: it has made all of its calls, or those up to the one whose
failure ended it, or it has failed for a reason of its own, if it can. -/
theorem execute_ends (index : Int) (step : Step) :
    RunM.Does (x.execute index step) fun r made =>
      StepEnds x (step.calls x.options) r made ∧
        (step.canGiveUp = false → Performed x (step.calls x.options) r made) := by
  cases h : step.canGiveUp with
  | false =>
    exact (execute_performed h index).mono fun _ _ hDone => ⟨.performed hDone, fun _ => hDone⟩
  | true =>
    refine RunM.Does.mono (P := StepEnds x (step.calls x.options)) ?_
      fun _ _ hEnds => ⟨hEnds, by simp⟩
    cases step with
    -- three steps can give up between their calls: what they show or compare may crash
    | pause length =>
      refine StepEnds.after (RunM.safely_silent _) fun shown =>
        StepEnds.after (RunM.log_silent _ _) fun _ => StepEnds.of_performed ?_
      exact Performed.finish (pause_performed length) none
    | awaitRequests tracker count timeout =>
      exact (RunM.Silent.bind (awaitRequests_silent tracker count timeout) fun _ =>
        .pure rfl).ends
    | check a => exact StepEnds.before (evaluate_ends a) fun result => .pure ⟨rfl, _, rfl⟩
    | goto | click | awaitElement | type | unknown => cases h

/-! ## Runs of steps -/

/-- A run of steps executes the first and then the others. -/
theorem run_executeAll_cons (index : Nat) (step : Step) (rest : List Step) (w : World) :
    (x.executeAll index (step :: rest)).run w =
      match (x.execute index step).run w with
      | (.error f, w') => (.error f, w')
      | (.ok result, w') =>
        match (x.executeAll (index + 1) rest).run w' with
        | (.error f, w'') => (.error f, w'')
        | (.ok results, w'') => (.ok (result.toList ++ results), w'') := by
  rw [executeAll, RunM.run_bind]
  -- a step that fails ends the run, and one that completes hands on the world
  rcases (x.execute index step).run w with ⟨f | result, w'⟩
  · rfl
  · simp only []
    rw [RunM.run_bind]
    rcases (x.executeAll (index + 1) rest).run w' with ⟨f | results, w''⟩ <;> rfl

/-- A run of steps in two parts. -/
theorem run_executeAll_append (index : Nat) (before rest : List Step) (w : World) :
    (x.executeAll index (before ++ rest)).run w =
      match (x.executeAll index before).run w with
      | (.error f, w') => (.error f, w')
      | (.ok earlier, w') =>
        match (x.executeAll (index + before.length) rest).run w' with
        | (.error f, w'') => (.error f, w'')
        | (.ok later, w'') => (.ok (earlier ++ later), w'') := by
  -- by induction on the steps in front, each of which moves the index on by one
  induction before generalizing index w with
  | nil =>
    simp only [List.nil_append, List.length_nil, Nat.add_zero, executeAll, RunM.run_pure]
    rcases (x.executeAll index rest).run w with ⟨f | later, w'⟩ <;> rfl
  | cons step before ih =>
    rw [List.cons_append, run_executeAll_cons, run_executeAll_cons]
    rcases (x.execute index step).run w with ⟨f | result, w'⟩
    · rfl
    · have hIndex : index + 1 + before.length = index + (step :: before).length := by
        rw [List.length_cons]
        omega
      simp only [ih, hIndex]
      rcases (x.executeAll (index + 1) before).run w' with ⟨f | earlier, v⟩
      · rfl
      · simp only []
        rcases (x.executeAll (index + (step :: before).length) rest).run v with ⟨f | later, u⟩
        · rfl
        · simp only [List.append_assoc]

/-- A run of steps from one that is reached on. -/
theorem run_executeAll_reached {index : Nat} {before : List Step} {w w' : World}
    {earlier : List TestResult} (h : (x.executeAll index before).run w = (.ok earlier, w'))
    (step : Step) (rest : List Step) :
    (x.executeAll index (before ++ step :: rest)).run w =
      match (x.execute ↑(index + before.length) step).run w' with
      | (.error f, v) => (.error f, v)
      | (.ok result, v) =>
        match (x.executeAll (index + before.length + 1) rest).run v with
        | (.error f, u) => (.error f, u)
        | (.ok later, u) => (.ok (earlier ++ (result.toList ++ later)), u) := by
  rw [run_executeAll_append, h]
  simp only []
  rw [run_executeAll_cons]
  rcases (x.execute ↑(index + before.length) step).run w' with ⟨f | result, v⟩
  · rfl
  · simp only []
    rcases (x.executeAll (index + before.length + 1) rest).run v with ⟨f | later, u⟩ <;> rfl

end Executor

/-- Which calls were made when a run of steps has ended: those of all steps, or those of the
steps before the one that failed and those that this one made. -/
inductive RunEnds (x : Executor) (index : Nat) (steps : List Step) (w : World) :
    Except Failure (List TestResult) → List AnsweredCall → Prop
  | returned {results : List TestResult} {made : List AnsweredCall}
      (hCalls : made.map AnsweredCall.call = steps.flatMap (Step.calls x.options))
      (hGood : ∀ p ∈ made, p.isFatal = false) : RunEnds x index steps w (.ok results) made
  | raised (before : List Step) (step : Step) (after : List Step) {earlier : List TestResult}
      {v : World} {f : Failure} {made mine : List AnsweredCall}
      (hSteps : steps = before ++ step :: after)
      (hBefore : (x.executeAll index before).run w = (.ok earlier, v))
      (hRaised : ((x.execute (index + before.length : Nat) step).run v).1 = .error f)
      (hCalls : made.map AnsweredCall.call = before.flatMap (Step.calls x.options))
      (hGood : ∀ p ∈ made, p.isFatal = false)
      (hEnds : StepEnds (α := Option TestResult) x (step.calls x.options) (.error f) mine)
      (hWhole : step.canGiveUp = false →
        Performed (α := Option TestResult) x (step.calls x.options) (.error f) mine) :
      RunEnds x index steps w (.error f) (made ++ mine)

namespace RunEnds

variable {x : Executor} {index : Nat} {steps : List Step} {w : World}

theorem calls_prefix {r : Except Failure (List TestResult)} {made : List AnsweredCall}
    (h : RunEnds x index steps w r made) :
    made.map AnsweredCall.call <+: steps.flatMap (Step.calls x.options) := by
  cases h with
  | returned hCalls => exact hCalls ▸ List.prefix_rfl
  | raised before step after hSteps hBefore hRaised hCalls hGood hEnds hWhole =>
    rw [hSteps, List.map_append, hCalls, List.flatMap_append, List.flatMap_cons]
    refine (List.prefix_append_right_inj _).mpr ?_
    exact hEnds.calls_prefix.trans (List.prefix_append _ _)

/-- A step that succeeded, in front of a run. -/
theorem cons {step : Step} {result : Option TestResult} {w' : World}
    {r : Except Failure (List TestResult)} {made more : List AnsweredCall}
    (hStep : (x.execute index step).run w = (.ok result, w'))
    (hEnds : StepEnds x (step.calls x.options) (.ok result) made)
    (hRest : RunEnds x (index + 1) steps w' r more) :
    RunEnds x index (step :: steps) w (r.map (result.toList ++ ·)) (made ++ more) := by
  obtain ⟨hCalls, hGood⟩ := hEnds.of_ok
  -- a run that failed behind the step failed at the same step, which is one further on now
  cases hRest with
  | returned hCalls' hGood' =>
    refine .returned ?_ (List.forall_mem_append.mpr ⟨hGood, hGood'⟩)
    rw [List.map_append, hCalls, hCalls', List.flatMap_cons]
  | @raised before last after earlier v f done mine hSteps hLeft hRaised hCalls' hGood' hEnds'
      hWhole' =>
    have hBefore : (x.executeAll index (step :: before)).run w =
        (.ok (result.toList ++ earlier), v) := by
      rw [Executor.run_executeAll_cons, hStep]
      simp only [hLeft]
    have hIndex : index + (step :: before).length = index + 1 + before.length := by
      rw [List.length_cons]
      omega
    rw [← hIndex] at hRaised
    have hBoth : ∀ p ∈ made ++ done, p.isFatal = false :=
      List.forall_mem_append.mpr ⟨hGood, hGood'⟩
    rw [← List.append_assoc]
    refine .raised (step :: before) last after ?_ hBefore hRaised ?_ hBoth hEnds' hWhole'
    · rw [hSteps, List.cons_append]
    · rw [List.map_append, hCalls, hCalls', List.flatMap_cons]

end RunEnds

/-- How a step on a page fails: with what the failure of its last call is turned into, or, if
it can, for a reason of its own, with none or all of its calls made and none of them failed
fatally. -/
def StepFailed (x : Executor) (step : Step) (f : Failure) (mine : List AnsweredCall) : Prop :=
  (∃ good c e, mine = good ++ [⟨c, some e⟩] ∧ f = x.raised c e ∧
    AnsweredCall.isFatal ⟨c, some e⟩ = true ∧
    good.map AnsweredCall.call ++ [c] <+: step.calls x.options ∧
    ∀ p ∈ good, p.isFatal = false) ∨
  step.canGiveUp = true ∧ (mine = [] ∨ mine.map AnsweredCall.call = step.calls x.options) ∧
    ∀ p ∈ mine, p.isFatal = false

/-- On a page a performance fails with its last call. -/
theorem Performed.failed {α : Type} {x : Executor} {step : Step} {f : Failure}
    {mine : List AnsweredCall} (hPage : x.hasPage = true)
    (h : Performed (α := α) x (step.calls x.options) (.error f) mine) :
    StepFailed x step f mine := by
  cases h with
  | stopped hPrefix hGood hFatal => exact .inl ⟨_, _, _, rfl, rfl, hFatal, hPrefix, hGood⟩
  | pageless hNoPage _ _ => simp [hPage] at hNoPage

/-- A step that fails ends the run there. -/
theorem StepEnds.failed {α : Type} {x : Executor} {step : Step} {f : Failure}
    {mine : List AnsweredCall} (hPage : x.hasPage = true)
    (h : StepEnds (α := α) x (step.calls x.options) (.error f) mine)
    (hWhole : step.canGiveUp = false →
      Performed (α := α) x (step.calls x.options) (.error f) mine) :
    StepFailed x step f mine := by
  -- a step that cannot give up has failed with a call
  cases hCan : step.canGiveUp with
  | false => exact (hWhole hCan).failed hPage
  | true =>
    cases h with
    | gaveUp hMade hGood => exact .inr ⟨hCan, hMade, hGood⟩
    | performed h => exact h.failed hPage

/-- **Every run of steps ends so**: it has made the calls of all steps, or those of the steps
before the one that failed and those that this one made. -/
theorem Executor.executeAll_ends (x : Executor) (index : Nat) (steps : List Step) (w : World) :
    ∃ made, World.Course w made ((x.executeAll index steps).run w).2 ∧
      RunEnds x index steps w ((x.executeAll index steps).run w).1 made := by
  induction steps generalizing index w with
  | nil => exact ⟨[], .done w, .returned rfl (by simp)⟩
  | cons step rest ih =>
    obtain ⟨made, hCourse, hEnds, hWhole⟩ := execute_ends (x := x) index step w
    rw [run_executeAll_cons]
    rcases hStep : (x.execute index step).run w with ⟨f | result, w'⟩
    · rw [hStep] at hCourse hEnds hWhole
      -- the first step fails, with no step before it
      have hRaised : ((x.execute (index + 0 : Nat) step).run w).1 = .error f :=
        congrArg Prod.fst hStep
      have hFailed : RunEnds x index (step :: rest) w (.error f) ([] ++ made) :=
        .raised [] step rest rfl rfl hRaised rfl (by simp) hEnds hWhole
      exact ⟨made, hCourse, hFailed⟩
    · rw [hStep] at hCourse hEnds
      -- the first step succeeds, and the others run in the world that it leaves
      obtain ⟨more, hCourse', hRest⟩ := ih (index + 1) w'
      have hAll := hRest.cons hStep hEnds
      refine ⟨made ++ more, ?_⟩
      simp only []
      rcases hTail : (x.executeAll (index + 1) rest).run w' with ⟨f | results, w''⟩
      · rw [hTail] at hCourse' hAll
        exact ⟨hCourse.trans hCourse', hAll⟩
      · rw [hTail] at hCourse' hAll
        exact ⟨hCourse.trans hCourse', hAll⟩

end BeaconCheck
