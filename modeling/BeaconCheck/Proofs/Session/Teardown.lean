import BeaconCheck.Proofs.Session.Alike

/-!
# Every part of the browser is closed once

Whatever is done in a session between its start and its end, every part of the browser that
was opened is closed by exactly one call, and these calls are made in a fixed order. The
invariant is `Session.Tidy`: what is held was opened, and the closing calls so far are none,
or those of what is held if the session is closed. Entering establishes it, and every
operation keeps it.

* `SessionOp`             — what can be done in a session.
* `Session.Tidy`          — the invariant.
* `Session.Tidy.play`     — every operation keeps it.
* `closings_of_session`   — the closing calls of a session, and of a test.
-/

namespace BeaconCheck

/-- Something that is done in a session. -/
inductive SessionOp where
  /-- A test is run. -/
  | run (t : TestDefinition)
  /-- A single step is executed. -/
  | step (index : Int) (step : Step)
  /-- The page sends a request. -/
  | fire (url : String)
  /-- Time passes. -/
  | sleep (length : Rat)
  /-- The session is closed. -/
  | cleanup

namespace SessionOp

/-- Does an operation. What it gives is left out. -/
def compute (o : RunOptions) : SessionOp → RunM Unit
  | .run t => discard (Session.run o t)
  | .step index s => do
    let x ← Session.executor o
    discard (x.execute index s)
  | .fire url => modify fun w => w.fire url
  | .sleep length => modify fun w => w.elapse length
  | .cleanup => Session.close

/-- The world after an operation, whether or not it failed. -/
def play (o : RunOptions) (w : World) (op : SessionOp) : World :=
  ((op.compute o).run w).2

/-- The world after some operations. -/
def playAll (o : RunOptions) (w : World) (ops : List SessionOp) : World :=
  ops.foldl (play o) w

end SessionOp

/-! ## The calls of an operation -/

/-- Steps make calls on the page only. -/
theorem Step.calls_isOnPage (o : RunOptions) (step : Step) :
    ∀ c ∈ step.calls o, c.isOnPage = true := by
  have hSettle : ∀ c ∈ o.settleCalls, c.isOnPage = true := by
    intro c hc
    unfold RunOptions.settleCalls at hc
    split at hc
    · rw [List.mem_singleton.mp hc]
      rfl
    · cases hc
  intro c hc
  -- by the calls of each kind of step, with the pause behind it where it settles
  cases step with
  | goto url =>
    rcases List.mem_cons.mp hc with rfl | hc
    · rfl
    · exact hSettle c hc
  | click selector =>
    rcases List.mem_append.mp hc with hc | hc
    · simp only [List.mem_cons, List.not_mem_nil, or_false] at hc
      rcases hc with rfl | rfl <;> rfl
    · exact hSettle c hc
  | type selector text clear =>
    cases clear <;>
      · simp only [calls, if_true, Bool.false_eq_true, if_false, List.cons_append,
          List.nil_append, List.mem_cons, List.not_mem_nil, or_false] at hc
        rcases hc with rfl | rfl | rfl <;> rfl
  | check a =>
    rcases a with ⟨_, _, _, check⟩
    cases check with
    | event key expected =>
      rw [List.mem_singleton.mp hc]
      rfl
    | request | unknown => cases hc
  | pause | awaitElement =>
    rw [List.mem_singleton.mp hc]
    rfl
  | awaitRequests | unknown => cases hc

namespace SessionOp

/-- Operations other than closing take a course that makes calls on the page only. -/
theorem play_course (o : RunOptions) (w : World) {op : SessionOp} (h : op ≠ .cleanup) :
    ∃ made, World.Course w made (op.play o w) ∧
      ∀ c ∈ made.map AnsweredCall.call, c.isOnPage = true := by
  -- running a test and a single step make the calls of steps; the other operations make none
  cases op with
  | run t =>
    obtain ⟨made, hCourse, hEnds, -⟩ := Session.run_ends o t w
    refine ⟨made, ?_, fun c hc => ?_⟩
    · show World.Course w made ((discard (Session.run o t)).run w).2
      rw [RunM.run_discard]
      exact hCourse
    · obtain ⟨step, -, hStep⟩ := List.mem_flatMap.mp (hEnds.calls_prefix.subset hc)
      exact Step.calls_isOnPage _ step c hStep
  | step index s =>
    obtain ⟨made, hCourse, hEnds, -⟩ :=
      Executor.execute_ends (x := ⟨o, w.held.contains .page⟩) index s w
    refine ⟨made, ?_, fun c hc => ?_⟩
    · show World.Course w made
        ((discard ((⟨o, w.held.contains .page⟩ : Executor).execute index s)).run w).2
      rw [RunM.run_discard]
      exact hCourse
    · exact Step.calls_isOnPage _ s c (hEnds.calls_prefix.subset hc)
  | fire url => exact ⟨[], World.fire_course w url, by simp⟩
  | sleep length => exact ⟨[], World.elapse_course w length, by simp⟩
  | cleanup => exact absurd rfl h

end SessionOp

namespace Session

/-! ## The invariant -/

/-- What is held was opened by one of the calls, and the closing calls among them are those
of what is held if the session is closed, and none otherwise. -/
structure Tidy (o : RunOptions) (made : List AnsweredCall) (w : World) : Prop where
  held : ∀ r, r ∈ w.held ↔ answered (opening o r) ∈ made
  closings : (made.map AnsweredCall.call).filter Call.isClosing =
    if w.closed then closingsOf w.held else []

/-- What is opened is not yet on the page. -/
theorem opening_not_isOnPage (o : RunOptions) (r : Resource) :
    (opening o r).isOnPage = false := by
  cases r <;> rfl

/-- The closing calls are closing calls, and open nothing. -/
theorem of_mem_closingsOf {held : List Resource} {c : Call} (h : c ∈ closingsOf held) :
    c.isClosing = true ∧ ∀ o r, c ≠ opening o r := by
  obtain ⟨s, -, rfl⟩ := List.mem_map.mp h
  refine ⟨?_, fun o r hSame => ?_⟩
  · cases s <;> rfl
  · cases s <;> cases r <;> cases hSame

/-- Calls on the page keep a session tidy. -/
theorem Tidy.course {o : RunOptions} {made more : List AnsweredCall} {w w' : World}
    (h : Tidy o made w) (hCourse : World.Course w more w')
    (hMore : ∀ c ∈ more.map AnsweredCall.call, c.isOnPage = true) :
    Tidy o (made ++ more) w' where
  held r := by
    -- no call on the page opens a part
    have hNot : answered (opening o r) ∉ more := by
      intro hMem
      have hOnPage := hMore _ (List.mem_map_of_mem hMem)
      rw [show (answered (opening o r)).call = opening o r from rfl,
        opening_not_isOnPage] at hOnPage
      cases hOnPage
    rw [hCourse.frame.held, h.held, List.mem_append, or_iff_left hNot]
  closings := by
    have hNone : (more.map AnsweredCall.call).filter Call.isClosing = [] := by
      refine List.filter_eq_nil_iff.mpr fun c hc => ?_
      simp [Call.isClosing_of_isOnPage (hMore c hc)]
    rw [List.map_append, List.filter_append, hNone, List.append_nil, h.closings,
      hCourse.frame.held, hCourse.frame.closed]

/-- Closing keeps a session tidy, and closes it. -/
theorem Tidy.close {o : RunOptions} {made : List AnsweredCall} {w : World}
    (h : Tidy o made w) :
    ∃ more, World.Stage w more (Session.close.run w).2 ∧
      Tidy o (made ++ more) (Session.close.run w).2 ∧ (Session.close.run w).2.closed = true := by
  cases hClosed : w.closed with
  | true =>
    rw [close_of_closed hClosed]
    exact ⟨[], .refl w, by simpa using h, hClosed⟩
  | false =>
    -- there was no closing call before, and now there is one for each part that is held
    obtain ⟨more, hStage, -, hCalls, hClosed', hHeld⟩ := close_of_open hClosed
    refine ⟨more, hStage, ⟨fun r => ?_, ?_⟩, hClosed'⟩
    · have hNot : answered (opening o r) ∉ more := by
        intro hMem
        have hClosing := List.mem_map_of_mem (f := AnsweredCall.call) hMem
        rw [hCalls] at hClosing
        exact (of_mem_closingsOf hClosing).2 o r rfl
      rw [hHeld, h.held, List.mem_append, or_iff_left hNot]
    · have hAll : (closingsOf w.held).filter Call.isClosing = closingsOf w.held :=
        List.filter_eq_self.mpr fun c hc => (of_mem_closingsOf hc).1
      rw [List.map_append, List.filter_append, h.closings, hClosed, hCalls, hAll, hHeld,
        hClosed']
      rfl

/-- A session that was entered, or could not be, is tidy. -/
theorem enter_tidy (o : RunOptions) {w : World} (hHeld : w.held = [])
    (hClosed : w.closed = false) :
    ∃ made, World.Stage w made ((enter o).run w).2 ∧ Tidy o made ((enter o).run w).2 := by
  obtain ⟨made, hStage, hOpen, hParts, hCalls⟩ := start_calls o w
  -- starting up holds what it has opened and closes nothing
  have hTidy : Tidy o made ((start o).run w).2 := by
    refine ⟨fun r => ?_, ?_⟩
    · rw [hParts, hHeld]
      exact or_iff_right List.not_mem_nil
    · rw [hOpen, hClosed]
      refine List.filter_eq_nil_iff.mpr fun c hc => ?_
      simp [Call.isClosing_of_mem_setupCalls (hCalls c hc)]
  rw [run_enter]
  -- where it fails the session is closed at once, which leaves it tidy as well
  rcases hStart : (start o).run w with ⟨f | _, v⟩
  · rw [hStart] at hStage hTidy
    obtain ⟨more, hStage', hTidy', -⟩ := hTidy.close
    exact ⟨made ++ more, hStage.trans hStage', hTidy'⟩
  · rw [hStart] at hStage hTidy
    exact ⟨made, hStage, hTidy⟩

/-- **Every operation keeps a session tidy.** -/
theorem Tidy.play {o : RunOptions} {made : List AnsweredCall} {w : World} (h : Tidy o made w)
    (op : SessionOp) :
    ∃ more, World.Stage w more (op.play o w) ∧ Tidy o (made ++ more) (op.play o w) := by
  by_cases hCleanup : op = .cleanup
  · subst hCleanup
    obtain ⟨more, hStage, hTidy, -⟩ := h.close
    exact ⟨more, hStage, hTidy⟩
  · obtain ⟨more, hCourse, hMore⟩ := SessionOp.play_course o w hCleanup
    exact ⟨more, .course hCourse, h.course hCourse hMore⟩

/-- What holds of the calls so far holds behind any operations. -/
theorem Tidy.playAll {o : RunOptions} {made : List AnsweredCall} {w : World}
    (h : Tidy o made w) (ops : List SessionOp) :
    ∃ more, World.Stage w more (SessionOp.playAll o w ops) ∧
      Tidy o (made ++ more) (SessionOp.playAll o w ops) := by
  -- by induction on the operations, each of which keeps the session tidy
  induction ops generalizing made w with
  | nil => exact ⟨[], .refl w, by rwa [List.append_nil]⟩
  | cons op rest ih =>
    obtain ⟨more, hStage, hTidy⟩ := h.play op
    obtain ⟨others, hStage', hTidy'⟩ := ih hTidy
    refine ⟨more ++ others, hStage.trans hStage', ?_⟩
    rw [← List.append_assoc]
    exact hTidy'

/-! ## Whole sessions -/

/-- The world that a session leaves: it is entered, some operations are done, whether or not
that failed, and it is closed. -/
def world (o : RunOptions) (page : Page) (ops : List SessionOp) : World :=
  (close.run (SessionOp.playAll o ((enter o).run (.before page o)).2 ops)).2

/-- The part of the browser was opened: the call that opens it is on record, and the script
of the page does not fail it. -/
def opened (o : RunOptions) (page : Page) (w : World) (r : Resource) : Bool :=
  (Page.answersTo page.failures w.calls).contains (answered (opening o r))

/-- **The closing calls of a session** are one for each part that was opened. -/
theorem world_closings (o : RunOptions) (page : Page) (ops : List SessionOp) :
    (world o page ops).calls.filter Call.isClosing =
      ([.page, .context, .browser, .driver].filter (opened o page (world o page ops))).map
        closing := by
  obtain ⟨entering, hEnter, hTidy⟩ := enter_tidy o (w := .before page o) rfl rfl
  obtain ⟨doing, hDo, hTidy⟩ := hTidy.playAll ops
  obtain ⟨closings, hClose, hTidy, hClosed⟩ := hTidy.close
  have hStage : World.Stage (.before page o) ((entering ++ doing) ++ closings)
      (world o page ops) := (hEnter.trans hDo).trans hClose
  have hCalls : (world o page ops).calls =
      ((entering ++ doing) ++ closings).map AnsweredCall.call := hStage.calls_eq
  -- the script answers the calls on record as they were answered
  have hAnswers : Page.answersTo page.failures (world o page ops).calls =
      (entering ++ doing) ++ closings := by
    rw [hCalls]
    exact hStage.answered_eq.1
  have hOpened : ∀ r, opened o page (world o page ops) r = (world o page ops).held.contains r := by
    intro r
    rw [opened, hAnswers, Bool.eq_iff_iff, List.contains_iff_mem, List.contains_iff_mem]
    exact (hTidy.held r).symm
  rw [hCalls, hTidy.closings, if_pos hClosed, closingsOf, funext hOpened]
  rfl

end Session

/-- A test is a session in which it is run, if the session can be entered. -/
theorem runTest_world (o : RunOptions) (t : TestDefinition) (page : Page) :
    ∃ ops, (ops = [] ∨ ops = [.run t]) ∧
      ((runTest o t).run (.before page o)).2 = Session.world o page ops := by
  rw [run_runTest]
  rcases hEnter : (Session.enter o).run (.before page o) with ⟨f | _, v⟩
  · -- the session is closed already when it could not be entered
    have hClosed : v.closed = true := by
      rw [Session.run_enter] at hEnter
      rcases hStart : (Session.start o).run (.before page o) with ⟨g | _, u⟩
      · rw [hStart] at hEnter
        cases hEnter
        exact Session.close_closed u
      · rw [hStart] at hEnter
        cases hEnter
    refine ⟨[], .inl rfl, ?_⟩
    simp only [Session.world, SessionOp.playAll, List.foldl, hEnter]
    rw [Session.close_of_closed hClosed]
  · refine ⟨[.run t], .inr rfl, ?_⟩
    simp only [Session.world, SessionOp.playAll, List.foldl, hEnter]
    show _ = (Session.close.run ((discard (Session.run o t)).run v).2).2
    rw [RunM.run_discard]

/-- **Every part of the browser is closed once.** In every session, whatever is done in it and
whichever calls fail, the closing calls are exactly one for each part that was opened, in the
order page, context, browser, driver. Closing never fails. A test is such a session, and what
it gives is what it would give if no closing call failed. -/
theorem closings_of_session (o : RunOptions) (page : Page) :
    (∀ ops, (Session.world o page ops).calls.filter Call.isClosing =
      ([.page, .context, .browser, .driver].filter
        (Session.opened o page (Session.world o page ops))).map Session.closing) ∧
    (∀ w, (Session.close.run w).1 = .ok ()) ∧
    ∀ t, (∃ ops, (ops = [] ∨ ops = [.run t]) ∧
        ((runTest o t).run (.before page o)).2 = Session.world o page ops) ∧
      ((runTest o t).run (.before page o)).1 = ((runTest o t).run (.before page.gently o)).1 :=
  ⟨Session.world_closings o page, Session.close_ok,
    fun t => ⟨runTest_world o t page, (runTest_gently o t page).symm⟩⟩

end BeaconCheck
