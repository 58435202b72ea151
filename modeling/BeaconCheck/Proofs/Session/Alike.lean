import BeaconCheck.Proofs.Run.Alike
import BeaconCheck.Proofs.Session.Trace

/-!
# Sessions in worlds that are alike

A session also holds parts of the browser and watches the page. Where a similarity allows for
that, a test gives the same in worlds that are alike: closing the session comes after its
result, so this needs nothing of the closing calls.

* `World.SessionSimilarity`     — a similarity that a session keeps.
* `SessionSimilarity.runTest`   — a test gives the same in worlds that are alike.
* `World.ClosingSimilarity`     — a similarity that closing a session keeps as well.
* `runTest_gently`              — it gives the same if no closing call fails.
-/

namespace BeaconCheck

namespace World

/-- The world in which the page is watched once more. -/
def watched (w : World) : World :=
  { w with handlers := w.handlers + 1 }.addLog [w.capture.attachedLine]

/-- A similarity that is kept when parts of the browser are held and the page is watched. -/
structure SessionSimilarity (C : Call → Prop) (T : Text → Prop) (R : World → World → Prop) :
    Prop extends Similarity C T R where
  held : ∀ {w v}, R w v → w.held = v.held
  holding : ∀ {w v}, R w v → ∀ held, R { w with held } { v with held }
  watching : ∀ {w v}, R w v → R w.watched v.watched

namespace SessionSimilarity

variable {C : Call → Prop} {T : Text → Prop} {R : World → World → Prop}

/-- To hold a resource keeps worlds similar. -/
theorem hold (h : SessionSimilarity C T R) (r : Resource) :
    RunM.Respects R (Session.hold r) := by
  intro w v hR
  rw [Session.hold, RunM.run_modify, RunM.run_modify]
  refine ⟨rfl, ?_⟩
  simp only [h.held hR]
  split
  · exact hR
  · exact h.holding hR _

/-- To open resources in turn keeps worlds similar if the calls for them do. -/
theorem openAll (h : SessionSimilarity C T R) {o : RunOptions}
    (hC : ∀ c ∈ Session.setupCalls o, C c) (rs : List Resource) :
    RunM.Respects R (Session.openAll o rs) := by
  induction rs with
  | nil => exact .pure _
  | cons r rest ih =>
    have hOpening : C (Session.opening o r) :=
      hC _ (List.mem_append_left _ (List.mem_map_of_mem (Session.mem_parts r)))
    exact .bind (h.call_respects hOpening) fun _ => .bind (h.hold r) fun _ => ih

/-- Starting a session ends alike in worlds that are alike. -/
theorem start (h : SessionSimilarity C T R) {o : RunOptions}
    (hC : ∀ c ∈ Session.setupCalls o, C c) : RunM.Respects R (Session.start o) := by
  rw [Session.start_eq]
  refine .bind (h.openAll hC _) fun _ => ?_
  cases hTrackers : o.trackers.isEmpty with
  | true => exact .pure _
  | false =>
    have hRoute : C .route := hC _ (by simp [Session.setupCalls, hTrackers])
    exact .bind (h.call_respects hRoute) fun _ _ _ hR => ⟨rfl, h.watching hR⟩

/-- Running a test in a session ends alike in worlds that are alike. -/
theorem run (h : SessionSimilarity C T R) (hC : ∀ c, c.isOnPage = true → C c) (o : RunOptions)
    {t : TestDefinition} (hLooks : ∀ step ∈ t.steps, ∀ name ∈ step.looksAt, T name) :
    RunM.Respects R (Session.run o t) := by
  intro w v hR
  -- the steps are the same on both sides; what is behind them depends on their results alone
  have hSteps : RunM.Respects R (Executor.executeAll ⟨o, v.held.contains .page⟩ 0 t.steps) :=
    h.executeAll hC 0 hLooks
  have hAnnounced : R (w.announcing t) (v.announcing t) := h.logged hR _
  obtain ⟨r, w', v', hw, hv, hLeft⟩ := hSteps.run_eq hAnnounced
  rw [Session.run_run, Session.run_run, h.held hR, hw, hv]
  cases r with
  | error f => exact ⟨rfl, h.logged hLeft _⟩
  | ok results =>
    simp only []
    cases Json.write .line (TestResult.report results) with
    | error c => exact ⟨rfl, hLeft⟩
    | ok shown => exact ⟨rfl, h.logged hLeft _⟩

/-- **A test gives the same in worlds that are alike**, whatever its closing calls do. -/
theorem runTest (h : SessionSimilarity C T R) {o : RunOptions}
    (hSetup : ∀ c ∈ Session.setupCalls o, C c) (hC : ∀ c, c.isOnPage = true → C c)
    {t : TestDefinition} (hLooks : ∀ step ∈ t.steps, ∀ name ∈ step.looksAt, T name)
    {w v : World} (hR : R w v) :
    ((runTest o t).run w).1 = ((runTest o t).run v).1 := by
  obtain ⟨r, w', v', hw, hv, hLeft⟩ := (h.start hSetup).run_eq hR
  rw [run_runTest, run_runTest, Session.run_enter, Session.run_enter, hw, hv]
  cases r with
  | error f => rfl
  | ok _ => exact (h.run hC o hLooks hLeft).1

end SessionSimilarity

/-- A similarity that is kept when a session is closed, and allows for the calls that close it. -/
structure ClosingSimilarity (C : Call → Prop) (T : Text → Prop) (R : World → World → Prop) :
    Prop extends SessionSimilarity C T R where
  closings : ∀ r, C (Session.closing r)
  closed : ∀ {w v}, R w v → w.closed = v.closed
  closing : ∀ {w v}, R w v → R { w with closed := true } { v with closed := true }

namespace ClosingSimilarity

variable {C : Call → Prop} {T : Text → Prop} {R : World → World → Prop}

/-- To close one resource keeps worlds similar. -/
theorem closeOne (h : ClosingSimilarity C T R) (r : Resource) :
    RunM.Respects R (Session.closeOne r) := by
  have hCall : RunM.Respects R (tryCatch (RunM.call (Session.closing r)) fun failure =>
      RunM.log .warning (s!"Failed to close {Session.nameOf r}: " ++ failure.message)) :=
    .tryCatch (h.call_respects (h.closings r)) fun _ => h.log_respects _ _
  intro w v hR
  rw [Session.closeOne, RunM.run_bind, RunM.run_bind, RunM.run_get, RunM.run_get]
  simp only [h.held hR]
  split
  · exact hCall hR
  · exact ⟨rfl, hR⟩

/-- So does closing them in turn. -/
theorem closeAll (h : ClosingSimilarity C T R) (rs : List Resource) :
    RunM.Respects R (Session.closeAll rs) := by
  induction rs with
  | nil => exact .pure _
  | cons r rest ih => exact .bind (h.closeOne r) fun _ => ih

/-- Closing a session ends alike in worlds that are alike. -/
theorem close (h : ClosingSimilarity C T R) : RunM.Respects R Session.close := by
  have hClosing : RunM.Respects R (Session.closeAll Session.parts.reverse >>= fun _ =>
      RunM.log .info "Browser session closed") :=
    .bind (h.closeAll _) fun _ => h.log_respects _ _
  intro w v hR
  rw [Session.run_close, Session.run_close, h.closed hR]
  split
  · exact ⟨rfl, hR⟩
  · exact hClosing (h.closing hR)

/-- **A test leaves worlds alike**, as it gives the same in them. -/
theorem runTest_respects (h : ClosingSimilarity C T R) {o : RunOptions}
    (hSetup : ∀ c ∈ Session.setupCalls o, C c) (hC : ∀ c, c.isOnPage = true → C c)
    {t : TestDefinition} (hLooks : ∀ step ∈ t.steps, ∀ name ∈ step.looksAt, T name) :
    RunM.Respects R (runTest o t) := by
  have hClosing {α : Type} (f : Failure) :
      RunM.Respects R (do Session.close; throw f : RunM α) :=
    .bind h.close fun _ => .throw f
  have hEnter : RunM.Respects R (Session.enter o) := .tryCatch (h.start hSetup) hClosing
  have hRun := RunM.Respects.tryCatch (h.run hC o hLooks) hClosing
  exact .bind hEnter fun _ => .bind hRun fun _ => .bind h.close fun _ => .pure _

end ClosingSimilarity

end World

/-! ## Closing calls that do not fail -/

/-- The call closes a part of the browser. -/
def Call.isClosing : Call → Bool
  | .closePage | .closeContext | .closeBrowser | .stop => true
  | _ => false

/-- The calls of steps close nothing. -/
theorem Call.isClosing_of_isOnPage {c : Call} (h : c.isOnPage = true) : c.isClosing = false := by
  cases c <;> first | rfl | cases h

/-- The calls that start a session close nothing. -/
theorem Call.isClosing_of_mem_setupCalls {o : RunOptions} {c : Call} (h : c ∈ Session.setupCalls o) :
    c.isClosing = false := by
  rw [Session.setupCalls, List.mem_append] at h
  rcases h with h | h
  · obtain ⟨r, -, rfl⟩ := List.mem_map.mp h
    cases r <;> rfl
  · split at h
    · cases h
    · rw [List.mem_singleton.mp h]
      rfl

/-- The script of a failure of closing calls. -/
def ScriptedFailure.isOfClosing (f : ScriptedFailure) : Bool :=
  (Session.parts.map fun r => (Session.closing r).name).contains f.trigger.name

/-- The page with the same script, except that no closing call fails. -/
def Page.gently (p : Page) : Page :=
  { p with failures := p.failures.filter fun f => !f.isOfClosing }

/-- A scripted failure of closing calls is about no other call. -/
theorem ScriptedFailure.not_covers {f : ScriptedFailure} (h : f.isOfClosing = true) {c : Call}
    (hc : c.isClosing = false) : f.trigger.covers c = false := by
  have hName : f.trigger.name ≠ c.name := by
    intro hSame
    rw [isOfClosing, hSame] at h
    cases c with
    | closePage | closeContext | closeBrowser | stop => cases hc
    | _ => simp [Session.parts, Session.closing, Call.name] at h
  simp [Trigger.covers, hName]

/-- Other calls are answered as if no closing call failed. -/
theorem Page.failAt_gently {c : Call} (hc : c.isClosing = false) (fs : List ScriptedFailure) :
    failAt c (fs.filter fun f => !f.isOfClosing) =
      (failAt c fs).map fun p => (p.1, p.2.filter fun f => !f.isOfClosing) := by
  induction fs with
  | nil => rfl
  | cons f rest ih =>
    cases hClosing : f.isOfClosing with
    | true =>
      -- it is left out on one side, and skipped on the other
      rw [List.filter_cons_of_neg (by simp [hClosing]), ih, failAt]
      simp [ScriptedFailure.not_covers hClosing hc, Option.map_map, Function.comp_def, hClosing]
    | false =>
      have hUsed : ∀ left, ScriptedFailure.isOfClosing { f with left } = false :=
        fun _ => hClosing
      rw [List.filter_cons_of_pos (by simp [hClosing]), failAt, failAt, ih]
      split
      · simp [hUsed]
      · simp [Option.map_map, Function.comp_def, hClosing]

namespace World

/-- The same world, except that no closing call is going to fail. -/
def gently (w : World) : World :=
  { w with page := w.page.gently }

/-- A page that never fails to close sends the same requests. -/
theorem gently_fire (w : World) (url : String) : w.gently.fire url = (w.fire url).gently := by
  have hHandled : ∀ n (u : World), handleTimes url n u.gently = (handleTimes url n u).gently := by
    intro n
    induction n with
    | zero => exact fun _ => rfl
    | succ n ih => exact fun u => ih (u.handle url)
  -- handling a request looks at the capture only
  unfold fire
  split
  · next h =>
    rw [if_pos (show w.handlers = 0 from h)]
    rfl
  · next h =>
    rw [if_neg (show w.handlers ≠ 0 from h)]
    exact hHandled w.handlers w

/-- Failures of closing calls make no difference for other calls. -/
theorem gently_similarity : SessionSimilarity (fun c => c.isClosing = false) (fun _ => True)
    (fun w v => v = w.gently) where
  layers hR := by rw [hR]; rfl
  reactions hR := by rw [hR]; rfl
  now hR := by rw [hR]; rfl
  pending hR := by rw [hR]; rfl
  requests hR _ _ := by rw [hR]; rfl
  logged hR _ := by rw [hR]; rfl
  fired hR url := by rw [hR, gently_fire]
  pushed hR _ := by rw [hR]; rfl
  timed hR _ _ _ := by rw [hR]; rfl
  held hR := by rw [hR]; rfl
  holding hR _ := by rw [hR]; rfl
  watching hR := by rw [hR]; rfl
  called {w v} hR {c} hc := by
    -- only closings are answered differently, and a session calls them at its end
    subst hR
    have hGently := Page.failAt_gently hc w.page.failures
    cases hw : Page.failAt c w.page.failures with
    | none =>
      rw [hw] at hGently
      exact .answered hw hGently rfl
    | some p =>
      rw [hw] at hGently
      exact .failed hw hGently rfl

end World

/-- **A test gives the same if no closing call fails.** -/
theorem runTest_gently (o : RunOptions) (t : TestDefinition) (page : Page) :
    ((runTest o t).run (.before page.gently o)).1 = ((runTest o t).run (.before page o)).1 := by
  have hBefore : World.before page.gently o = (World.before page o).gently := rfl
  rw [hBefore]
  exact (World.gently_similarity.runTest (fun _ => Call.isClosing_of_mem_setupCalls)
    (fun _ => Call.isClosing_of_isOnPage) (fun _ _ _ _ => trivial) rfl).symm

end BeaconCheck
