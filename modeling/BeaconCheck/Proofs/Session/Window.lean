import BeaconCheck.Proofs.Session.Alike

/-!
# A browser with a window

Whether the browser has a window is told to it once, when it is started, and nobody asks for it
again. A run with a window is therefore the run without one in every respect but for that call.

Two computations are compared here instead of one in two worlds, since the options of the two runs
are different. Only the call that starts the browser needs this; whatever is the same computation
on both sides is left to the similarity of worlds.

* `World.windowed`             — the world in whose trace the browser was started with a window.
* `RunM.Corresponds`           — two computations that give the same on related worlds.
* `World.windowed_similarity`  — no run can tell the two worlds apart.
* `runTest_windowed`           — a test with a window, told by the test without one.
-/

namespace BeaconCheck

/-! ## What a window changes -/

/-- The call, with a window for the browser if it starts one. -/
def Call.windowed : Call → Call
  | .launch _ => .launch false
  | c => c

/-- The entry of a trace, with a window for the browser where one is started. -/
def TraceEntry.windowed : TraceEntry → TraceEntry
  | .call c => .call c.windowed
  | entry => entry

/-- The same options, but the browser has a window. -/
def RunOptions.windowed (o : RunOptions) : RunOptions :=
  { o with headless := false }

/-- The same world, but whenever the browser was started it had a window. -/
def World.windowed (w : World) : World :=
  { w with trace := w.trace.map TraceEntry.windowed }

namespace Call

@[simp] theorem name_windowed (c : Call) : c.windowed.name = c.name := by
  cases c <;> rfl

@[simp] theorem arguments_windowed (c : Call) : c.windowed.arguments = c.arguments := by
  cases c <;> rfl

/-- A call is left as it is unless it starts the browser. -/
theorem windowed_or_launch (c : Call) : c.windowed = c ∨ ∃ headless, c = .launch headless := by
  cases c with
  | launch headless => exact .inr ⟨headless, rfl⟩
  | _ => exact .inl rfl

/-- A window makes no difference to what is done on the page. -/
theorem windowed_of_isOnPage {c : Call} (h : c.isOnPage = true) : c.windowed = c := by
  rcases c.windowed_or_launch with hSame | ⟨headless, rfl⟩
  · exact hSame
  · cases h

end Call

/-- A script looks at the name and the first argument of a call, and the window is neither. -/
theorem Trigger.covers_windowed (t : Trigger) (c : Call) : t.covers c.windowed = t.covers c := by
  simp only [covers, Call.name_windowed, Call.arguments_windowed]

/-- A page fails at the same calls with a window. -/
theorem Page.failAt_windowed (c : Call) (fs : List ScriptedFailure) :
    failAt c.windowed fs = failAt c fs := by
  induction fs with
  | nil => rfl
  | cons f rest ih => rw [failAt, failAt, Trigger.covers_windowed, ih]

/-- It reacts to the same calls. -/
theorem Page.reactionsTo_windowed (p : Page) (c : Call) :
    p.reactionsTo c.windowed = p.reactionsTo c := by
  simp only [reactionsTo, Trigger.covers_windowed]

/-! ## Two computations -/

namespace RunM

variable {α β : Type} {R : World → World → Prop}

/-- On related worlds the two computations give the same, and leave related worlds. -/
def Corresponds (R : World → World → Prop) (m m' : RunM α) : Prop :=
  ∀ ⦃w v⦄, R w v → (m.run w).1 = (m'.run v).1 ∧ R (m.run w).2 (m'.run v).2

theorem Respects.corresponds {m : RunM α} (h : Respects R m) : Corresponds R m m :=
  h

/-- What the two leave on related worlds, to go on with. -/
theorem Corresponds.run_eq {m m' : RunM α} (h : Corresponds R m m') {w v : World} (hR : R w v) :
    ∃ r w' v', m.run w = (r, w') ∧ m'.run v = (r, v') ∧ R w' v' := by
  obtain ⟨hResult, hLeft⟩ := h hR
  exact ⟨(m.run w).1, (m.run w).2, (m'.run v).2, rfl, Prod.ext hResult.symm rfl, hLeft⟩

/-- Computations in turn correspond if each of them does. -/
theorem Corresponds.bind {m m' : RunM α} {f f' : α → RunM β} (hm : Corresponds R m m')
    (hf : ∀ a, Corresponds R (f a) (f' a)) : Corresponds R (m >>= f) (m' >>= f') := by
  intro w v hR
  obtain ⟨r, w', v', hw, hv, hLeft⟩ := hm.run_eq hR
  rw [run_bind, run_bind, hw, hv]
  cases r with
  | error e => exact ⟨rfl, hLeft⟩
  | ok a => exact hf a hLeft

/-- So do computations whose failure is handled alike. -/
theorem Corresponds.tryCatch {m m' : RunM α} {handler : Failure → RunM α}
    (hm : Corresponds R m m') (hHandler : ∀ e, Respects R (handler e)) :
    Corresponds R (tryCatch m handler) (tryCatch m' handler) := by
  intro w v hR
  obtain ⟨r, w', v', hw, hv, hLeft⟩ := hm.run_eq hR
  rw [run_tryCatch, run_tryCatch, hw, hv]
  cases r with
  | error e => exact hHandler e hLeft
  | ok a => exact ⟨rfl, hLeft⟩

end RunM

/-! ## The two worlds -/

namespace World

/-- A request is handled the same with a window. -/
theorem windowed_handleTimes (url : String) (n : Nat) (w : World) :
    handleTimes url n w.windowed = (handleTimes url n w).windowed := by
  induction n generalizing w with
  | zero => rfl
  | succ n ih =>
    -- the entry of a request says nothing of the browser
    have hHandled : w.windowed.handle url = (w.handle url).windowed := by
      simp [handle, windowed, addTrace, addLog, TraceEntry.windowed]
    rw [handleTimes, handleTimes, hHandled, ih]

/-- A request of the page is sent the same with a window. -/
theorem windowed_fire (w : World) (url : String) :
    w.windowed.fire url = (w.fire url).windowed := by
  have hSame : w.windowed.handlers = w.handlers := rfl
  unfold fire
  rw [hSame]
  split
  · simp [addTrace, windowed, TraceEntry.windowed]
  · exact windowed_handleTimes url w.handlers w

/-- A call is recorded as the call with a window. -/
theorem windowed_addTrace_call (w : World) (c : Call) :
    (w.addTrace (.call c)).windowed = w.windowed.addTrace (.call c.windowed) := by
  simp [addTrace, windowed, TraceEntry.windowed]

/-- **Whether the browser was started with a window** makes no difference for the calls that do
not start it. -/
theorem windowed_similarity : ClosingSimilarity (fun c => c.windowed = c) (fun _ => True)
    (fun w v => v = w.windowed) where
  layers hR := by rw [hR]; rfl
  reactions hR := by rw [hR]; rfl
  now hR := by rw [hR]; rfl
  pending hR := by rw [hR]; rfl
  requests hR _ _ := by rw [hR]; rfl
  logged hR _ := by rw [hR]; rfl
  fired hR url := by rw [hR, windowed_fire]
  pushed hR _ := by rw [hR]; rfl
  timed hR _ _ _ := by rw [hR]; rfl
  held hR := by rw [hR]; rfl
  holding hR _ := by rw [hR]; rfl
  watching hR := by rw [hR]; rfl
  closings r := by cases r <;> rfl
  closed hR := by rw [hR]; rfl
  closing hR := by rw [hR]; rfl
  called {w v} hR {c} hc := by
    subst hR
    -- only the launch is recorded differently, and it is not among these calls
    have hCalled : w.windowed.addTrace (.call c) = (w.addTrace (.call c)).windowed := by
      rw [windowed_addTrace_call, hc]
    cases hAnswer : Page.failAt c w.page.failures with
    | none => exact .answered hAnswer hAnswer hCalled
    | some p => exact .failed hAnswer hAnswer (by rw [hCalled]; rfl)

end World

/-! ## Starting the browser -/

/-- **A call and the same call with a window** are answered alike. -/
theorem RunM.call_windowed (c : Call) :
    Corresponds (fun w v => v = w.windowed) (call c) (call c.windowed) := by
  rcases c.windowed_or_launch with hSame | ⟨headless, rfl⟩
  · rw [hSame]
    exact World.windowed_similarity.call_respects hSame
  · rintro w _ rfl
    have hFailures : w.windowed.page.failures = w.page.failures := rfl
    rw [run_call, run_call, Page.failAt_windowed, hFailures]
    have hCalled := w.windowed_addTrace_call (.launch headless)
    cases Page.failAt (.launch headless) w.page.failures with
    | some p => exact ⟨rfl, by rw [← hCalled]; rfl⟩
    | none =>
      refine ⟨rfl, ?_⟩
      -- the page reacts to both calls in the same way
      have hReacted := World.windowed_similarity.reactAll
        (w := w.addTrace (.call (.launch headless))) hCalled.symm
        (w.page.reactionsTo (.launch headless))
      show ((w.windowed.page.reactionsTo (Call.launch headless).windowed).foldl World.react
        (w.windowed.addTrace (.call (Call.launch headless).windowed))) = _
      rw [Page.reactionsTo_windowed]
      exact hReacted

namespace Session

/-- Resources are opened by the calls with a window. -/
theorem opening_windowed (o : RunOptions) (r : Resource) :
    opening o.windowed r = (opening o r).windowed := by
  cases r <;> rfl

/-- Opening with a window corresponds to opening without. -/
theorem openAll_windowed (o : RunOptions) (rs : List Resource) :
    RunM.Corresponds (fun w v => v = w.windowed) (openAll o rs) (openAll o.windowed rs) := by
  induction rs with
  | nil => exact (RunM.Respects.pure ()).corresponds
  | cons r rest ih =>
    rw [openAll, openAll, opening_windowed]
    exact (RunM.call_windowed _).bind fun _ =>
      (World.windowed_similarity.hold r).corresponds.bind fun _ => ih

/-- So does the start of a session. -/
theorem start_windowed (o : RunOptions) :
    RunM.Corresponds (fun w v => v = w.windowed) (start o) (start o.windowed) := by
  have hAttach : RunM.Respects (fun w v => v = w.windowed) attach :=
    .bind (World.windowed_similarity.call_respects rfl) fun _ _ _ hR =>
      ⟨rfl, World.windowed_similarity.watching hR⟩
  have hTrackers : o.windowed.trackers = o.trackers := rfl
  rw [start_eq, start_eq, hTrackers]
  refine (openAll_windowed o parts).bind fun _ => ?_
  split
  · exact hAttach.corresponds
  · exact (RunM.Respects.pure ()).corresponds

end Session

/-! ## Running a test -/

/-- Steps are executed without a look at whether the browser has a window. -/
theorem Executor.executeAll_windowed (o : RunOptions) (hasPage : Bool) (index : Nat)
    (steps : List Step) :
    (⟨o.windowed, hasPage⟩ : Executor).executeAll index steps =
      (⟨o, hasPage⟩ : Executor).executeAll index steps := by
  -- no step looks at the window
  have hStep (i : Int) (step : Step) :
      (⟨o.windowed, hasPage⟩ : Executor).execute i step =
        (⟨o, hasPage⟩ : Executor).execute i step := by
    cases step with
    | check a =>
      obtain ⟨id, name, check⟩ := a
      cases check <;> rfl
    | _ => rfl
  induction steps generalizing index with
  | nil => rfl
  | cons step rest ih => rw [executeAll, executeAll, hStep, ih]

/-- Nor is a test in a session that was started. -/
theorem Session.run_windowed (o : RunOptions) (t : TestDefinition) :
    Session.run o.windowed t = Session.run o t := by
  refine funext fun w => ?_
  show (Session.run o.windowed t).run w = (Session.run o t).run w
  rw [Session.run_run, Session.run_run, Executor.executeAll_windowed]

/-- **A test with a window** gives what it gives without one, and leaves the same world but for
the call that starts the browser. -/
theorem runTest_windowed (o : RunOptions) (t : TestDefinition) (w : World) :
    (runTest o.windowed t).run w.windowed =
      (((runTest o t).run w).1, ((runTest o t).run w).2.windowed) := by
  have hSimilar := World.windowed_similarity
  have hClosing {α : Type} (f : Failure) :
      RunM.Respects (fun w v => v = w.windowed) (do Session.close; throw f : RunM α) :=
    .bind hSimilar.close fun _ => .throw f
  have hEnter := (Session.start_windowed o).tryCatch fun f => hClosing f
  -- behind the start both sides run the same
  have hRun : RunM.Respects (fun w v => v = w.windowed) (Session.run o t) :=
    hSimilar.run (fun _ => Call.windowed_of_isOnPage) o fun _ _ _ _ => trivial
  have hTest : RunM.Corresponds (fun w v => v = w.windowed) (runTest o t)
      (runTest o.windowed t) := by
    unfold runTest
    rw [Session.run_windowed]
    exact hEnter.bind fun _ => (RunM.Respects.bind (hRun.tryCatch fun f => hClosing f) fun _ =>
      .bind hSimilar.close fun _ => .pure _).corresponds
  obtain ⟨hResult, hLeft⟩ := hTest (w := w) rfl
  exact Prod.ext hResult.symm hLeft

end BeaconCheck
