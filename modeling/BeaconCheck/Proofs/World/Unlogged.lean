import BeaconCheck.Proofs.Session.Alike

/-!
# The log makes no difference

Records are only added to the log and nothing ever reads them, so worlds that differ in their
log alone cannot be told apart: a record written in front of a computation changes neither
what it gives nor anything but the log of the world that it leaves.

* `World.withLog`            — the world with another log.
* `World.logless_similarity` — worlds that differ in their log alone are alike.
* `layer_respond_addLog`     — what a page returns does not depend on the log.
* `runTest_addLog`           — and neither do the results of a test, nor its trace.
-/

namespace BeaconCheck

namespace World

/-- The world with another log. -/
def withLog (w : World) (log : List LogRecord) : World :=
  { w with log }

/-- What is logged before a request is handled changes nothing but the log behind it. -/
theorem exists_handleTimes_withLog (url : String) (n : Nat) (w : World) (log : List LogRecord) :
    ∃ log', handleTimes url n (w.withLog log) = (handleTimes url n w).withLog log' := by
  induction n generalizing w log with
  | zero => exact ⟨log, rfl⟩
  | succ n ih =>
    -- handling one request adds the same records to both logs
    exact ih (w.handle url) _

/-- The same for a request of the page. -/
theorem exists_fire_withLog (w : World) (log : List LogRecord) (url : String) :
    ∃ log', (w.withLog log).fire url = (w.fire url).withLog log' := by
  unfold fire
  split
  · next h =>
    rw [if_pos (show w.handlers = 0 from h)]
    exact ⟨log, rfl⟩
  · next h =>
    rw [if_neg (show w.handlers ≠ 0 from h)]
    exact exists_handleTimes_withLog url w.handlers w log

/-- **Worlds that differ in their log alone** cannot be told apart. -/
theorem logless_similarity : ClosingSimilarity (fun _ => True) (fun _ => True)
    (fun w v => ∃ log, v = w.withLog log) where
  layers := by rintro w _ ⟨log, rfl⟩; rfl
  reactions := by rintro w _ ⟨log, rfl⟩; rfl
  now := by rintro w _ ⟨log, rfl⟩; rfl
  pending := by rintro w _ ⟨log, rfl⟩; rfl
  requests := by rintro w _ ⟨log, rfl⟩ name _; rfl
  logged := by rintro w _ ⟨log, rfl⟩ records; exact ⟨log ++ records, rfl⟩
  fired := by rintro w _ ⟨log, rfl⟩ url; exact exists_fire_withLog w log url
  pushed := by rintro w _ ⟨log, rfl⟩ pushes; exact ⟨log, rfl⟩
  timed := by rintro w _ ⟨log, rfl⟩ now pending _; exact ⟨log, rfl⟩
  held := by rintro w _ ⟨log, rfl⟩; rfl
  holding := by rintro w _ ⟨log, rfl⟩ held; exact ⟨log, rfl⟩
  watching := by rintro w _ ⟨log, rfl⟩; exact ⟨log ++ [w.capture.attachedLine], rfl⟩
  closings _ := trivial
  closed := by rintro w _ ⟨log, rfl⟩; rfl
  closing := by rintro w _ ⟨log, rfl⟩; exact ⟨log, rfl⟩
  called := by
    rintro w _ ⟨log, rfl⟩ c _
    -- whether a call fails does not depend on what has been logged
    cases h : Page.failAt c w.page.failures with
    | none => exact .answered h h ⟨log, rfl⟩
    | some p => exact .failed h h ⟨log, rfl⟩

/-- What a page returns in answer to a call does not depend on the log. -/
theorem layer_respond_addLog (w : World) (records : List LogRecord) (c : Call) (name : Text) :
    ((w.addLog records).respond c).page.layer name = (w.respond c).page.layer name := by
  have hAlike : ∃ log, (w.addLog records).respond c = (w.respond c).withLog log :=
    logless_similarity.respond ⟨w.log ++ records, rfl⟩ ⟨w.log ++ records, rfl⟩
  obtain ⟨log, h⟩ := hAlike
  rw [h]
  rfl

end World

/-- **A test gives the same whatever was logged before**, and leaves the same, except for the
log. -/
theorem runTest_addLog (o : RunOptions) (t : TestDefinition) (w : World)
    (records : List LogRecord) :
    ((runTest o t).run (w.addLog records)).1 = ((runTest o t).run w).1 ∧
      ∃ log, ((runTest o t).run (w.addLog records)).2 = ((runTest o t).run w).2.withLog log := by
  have hRun := World.logless_similarity.runTest_respects (o := o) (t := t) (fun _ _ => trivial)
    (fun _ _ => trivial) (fun _ _ _ _ => trivial)
  obtain ⟨hResult, hLeft⟩ := hRun (v := w.addLog records) ⟨w.log ++ records, rfl⟩
  exact ⟨hResult.symm, hLeft⟩

end BeaconCheck
