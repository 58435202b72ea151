import BeaconCheck.Proofs.World.Similar
import BeaconCheck.Run.Steps

/-!
# Steps in worlds that are alike

A run of steps reads the world in few places: the answers to the calls on the page, its
layers, and the requests under the names that the steps mention. In two worlds that a
similarity relates these are the same, so the steps end alike.

* `Call.isOnPage`        — the calls that steps make.
* `Step.looksAt`         — the name of a tracker that a step looks at.
* `Similarity.execute`   — a step ends alike in worlds that are alike.
* `Similarity.executeAll` — and so does a run of steps.
-/

namespace BeaconCheck

/-- The call is one that a step can make. -/
def Call.isOnPage : Call → Bool
  | .goto .. | .waitForSelector .. | .click _ | .clear _ | .readLayer _ | .type ..
  | .waitForTimeout _ => true
  | .start | .launch _ | .newContext | .newPage | .route | .closePage | .closeContext
  | .closeBrowser | .stop => false

/-- The name of the tracker that a check looks at. -/
def Check.looksAt : Check → Option Text
  | .request tracker .. => some tracker
  | .event .. | .unknown _ => none

/-- The name of the tracker that a step looks at. -/
def Step.looksAt : Step → Option Text
  | .awaitRequests tracker .. => some tracker
  | .check a => a.check.looksAt
  | _ => none

namespace World.Similarity

variable {C : Call → Prop} {T : Text → Prop} {R : World → World → Prop} {x : Executor}

/-! ## Actions on the page -/

section Actions

variable (h : Similarity C T R) (hC : ∀ c, c.isOnPage = true → C c)

include h hC

/-- A call on the page keeps worlds similar. -/
theorem call {c : Call} (hc : c.isOnPage = true) : RunM.Respects R (x.call c) := by
  unfold Executor.call
  split
  · exact h.call_respects (hC c hc)
  · exact .throw _

/-- A call with a handler for its failures that looks at nothing else. -/
theorem tryCall {c : Call} (hc : c.isOnPage = true) {handler : Failure → RunM Unit}
    (hHandler : ∀ e, RunM.Respects R (handler e)) :
    RunM.Respects R (tryCatch (x.call c) handler) :=
  .tryCatch (h.call hC hc) hHandler

/-- So does a call whose failure is explained. -/
theorem explaining {c : Call} (hc : c.isOnPage = true) (f : BrowserError → StepError) :
    RunM.Respects R (RunM.explaining (x.call c) f) := by
  refine h.tryCall hC hc fun failure => ?_
  split
  · split <;> exact .throw _
  · exact .throw _

theorem awaitElement (selector : Text) : RunM.Respects R (x.awaitElement selector) := by
  refine h.tryCall hC rfl fun failure => ?_
  split
  · split
    · unfold Executor.notAttached
      split
      · exact .bind (.safely _) fun _ => .throw _
      · exact .throw _
    · exact .throw _
  · exact .throw _

theorem click (selector : Text) : RunM.Respects R (x.click selector) :=
  .bind (h.awaitElement hC selector) fun _ => h.explaining hC rfl _

theorem typeText (selector text : Text) (empty : Bool) :
    RunM.Respects R (x.typeText selector text empty) := by
  refine .bind (h.awaitElement hC selector) fun _ => ?_
  cases empty with
  | true => exact .bind (h.explaining hC rfl _) fun _ => h.explaining hC rfl _
  | false => exact h.explaining hC rfl _

theorem settle : RunM.Respects R x.settle := by
  unfold Executor.settle
  split
  · exact h.call hC rfl
  · exact .pure ()

/-- To read the event layer keeps worlds similar. -/
theorem readLayer : RunM.Respects R x.readLayer := by
  refine .bind (h.tryCall hC rfl fun failure => ?_) fun _ => ?_
  · split <;> exact .throw _
  · intro w v hR
    rw [RunM.run_bind, RunM.run_bind, RunM.run_get, RunM.run_get]
    simp only [Page.layer, h.layers hR]
    exact ⟨rfl, hR⟩

/-! ## Assertions -/

/-- Whether a check holds is told alike by similar worlds, if both know the trackers that it looks
at. -/
theorem holds {c : Check} (hLooks : ∀ name ∈ c.looksAt, T name) :
    RunM.Respects R (x.holds c) := by
  cases c with
  | request tracker key pattern any =>
    intro w v hR
    -- the store is read through the requests under the name, once for the log and once more
    have hRequests : w.capture.requests tracker = v.capture.requests tracker :=
      h.requests hR (hLooks tracker rfl)
    have hLine : w.capture.requestsLine tracker = v.capture.requestsLine tracker := by
      unfold Capture.requestsLine
      rw [hRequests]
    have hMatches : w.capture.matchesRequest tracker key pattern any =
        v.capture.matchesRequest tracker key pattern any := by
      unfold Capture.matchesRequest
      rw [hRequests]
    simp only [Executor.holds]
    rw [RunM.run_bind, RunM.run_bind, RunM.run_get, RunM.run_get]
    simp only [hLine, hMatches]
    rw [RunM.run_bind, RunM.run_bind, RunM.run_modify, RunM.run_modify]
    simp only [RunM.run_result, true_and]
    exact h.logged hR _
  | event key expected => exact .bind (h.readLayer hC) fun _ => .result _
  | unknown kind => exact .throw _

/-- So is the outcome of a check. -/
theorem outcome (shown : Text) {c : Check} (hLooks : ∀ name ∈ c.looksAt, T name) :
    RunM.Respects R (x.outcome shown c) := by
  refine .tryCatch (.bind (h.holds hC hLooks) fun _ => .pure _) fun failure => ?_
  split
  · exact .bind (h.log_respects _ _) fun _ => .pure _
  · exact .throw _

/-- So is the result of an assertion. -/
theorem evaluate {a : Assertion} (hLooks : ∀ name ∈ a.check.looksAt, T name) :
    RunM.Respects R (x.evaluate a) :=
  .bind (.safely _) fun shown => .bind (h.log_respects _ _) fun _ =>
    .bind (h.outcome hC shown hLooks) fun _ => .bind (h.log_respects _ _) fun _ => .pure _

/-! ## Steps -/

/-- **A step ends alike** in worlds that are alike. -/
theorem execute (index : Int) {step : Step} (hLooks : ∀ name ∈ step.looksAt, T name) :
    RunM.Respects R (x.execute index step) := by
  -- each step is a sequence of parts that respect the relation; only a wait for requests looks at a
  -- tracker, and it is one of those the step looks at
  cases step with
  | goto url =>
    exact .bind (h.log_respects _ _) fun _ => .bind (h.explaining hC rfl _) fun _ =>
      .bind (h.settle hC) fun _ => .pure _
  | click selector =>
    exact .bind (h.log_respects _ _) fun _ => .bind (h.click hC selector) fun _ =>
      .bind (h.settle hC) fun _ => .pure _
  | pause length =>
    exact .bind (.safely _) fun _ => .bind (h.log_respects _ _) fun _ =>
      .bind (h.call hC rfl) fun _ => .pure _
  | awaitElement selector =>
    exact .bind (h.log_respects _ _) fun _ => .bind (h.awaitElement hC selector) fun _ =>
      .pure _
  | type selector text clear =>
    exact .bind (h.log_respects _ _) fun _ => .bind (h.typeText hC selector text clear) fun _ =>
      .pure _
  | awaitRequests tracker count timeout =>
    refine .bind (.bind (.safely _) fun _ => .bind (h.log_respects _ _) fun _ => ?_)
      fun _ => .pure _
    refine .tryCatch (.discard (h.awaitRequests_respects (hLooks tracker rfl) _ _)) fun _ => ?_
    split <;> exact .throw _
  | check a => exact .bind (h.evaluate hC hLooks) fun _ => .pure _
  | unknown kind => exact .bind (h.log_respects _ _) fun _ => .pure _

/-- **A run of steps ends alike** in worlds that are alike. -/
theorem executeAll (index : Nat) {steps : List Step}
    (hLooks : ∀ step ∈ steps, ∀ name ∈ step.looksAt, T name) :
    RunM.Respects R (x.executeAll index steps) := by
  induction steps generalizing index with
  | nil => exact .pure _
  | cons step rest ih =>
    have hFirst : RunM.Respects R (x.execute index step) :=
      h.execute hC index (hLooks step List.mem_cons_self)
    have hRest : RunM.Respects R (x.executeAll (index + 1) rest) :=
      ih (index + 1) fun s hs => hLooks s (List.mem_cons_of_mem step hs)
    exact .bind hFirst fun _ => .bind hRest fun _ => .pure _

end Actions

end World.Similarity

end BeaconCheck
