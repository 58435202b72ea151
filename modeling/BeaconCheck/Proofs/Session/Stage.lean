import BeaconCheck.Proofs.Capture.History
import BeaconCheck.Run.Session

/-!
# Stages of a session

A session is more than a course: parts of the browser are held, the page is watched, and in
the end everything is closed. `World.Stage` adds these to the courses of a world. The calls
of a stage are on record and answered as the script says, like those of a course, and the
store stays the history of the requests that were handled.

* `World.Stage`       — a stretch of a session, with its calls.
* `start_ends`        — how starting a session ends: the calls made, the parts held.
* `close_of_open`     — closing a session makes one closing call for each part held.
* `run_enter`         — entering a session is starting it, and closing it if that fails.
-/

namespace BeaconCheck

namespace World

/-! ## Stages -/

/-- A stretch of a session, with the calls that were made in it. -/
inductive Stage : World → List AnsweredCall → World → Prop
  | course {w w' : World} {made : List AnsweredCall} (h : Course w made w') : Stage w made w'
  | holding (w : World) (held : List Resource) : Stage w [] { w with held }
  | attached (w : World) : Stage w [] { w with handlers := w.handlers + 1 }
  | closing (w : World) : Stage w [] { w with closed := true }
  | trans {w w' w'' : World} {made more : List AnsweredCall} (h : Stage w made w')
      (h' : Stage w' more w'') : Stage w (made ++ more) w''

namespace Stage

variable {w w' w'' : World} {made more : List AnsweredCall}

theorem refl (w : World) : Stage w [] w :=
  .course (.done w)

/-- Stages in turn, the second of which makes no call. -/
theorem andThen (h : Stage w made w') (h' : Stage w' [] w'') : Stage w made w'' := by
  simpa using trans h h'

/-- **The trace has exactly the calls of the stage**, in their order. -/
theorem calls_eq (h : Stage w made w') : w'.calls = w.calls ++ made.map AnsweredCall.call := by
  induction h with
  | course h => exact h.calls_eq
  | trans _ _ ih ih' => rw [ih', ih, List.map_append, List.append_assoc]
  | _ => simp [calls]

/-- **The calls of a stage are answered as the script says.** -/
theorem answered_eq (h : Stage w made w') :
    Page.answersTo w.page.failures (made.map AnsweredCall.call) = made ∧
      Page.failuresAfterAll w.page.failures (made.map AnsweredCall.call) = w'.page.failures := by
  induction h with
  | course h => exact h.answered_eq
  | trans _ _ ih ih' =>
    rw [List.map_append, Page.answersTo_append, Page.failuresAfterAll_append, ih.2, ih.1, ih'.1,
      ih'.2]
    exact ⟨rfl, rfl⟩
  | _ => exact ⟨rfl, rfl⟩

/-- **The store is the history in every state of a session.** -/
theorem faithful (h : Stage w made w') (hw : Faithful w) : Faithful w' := by
  induction h with
  | course h => exact h.faithful hw
  | trans _ _ ih ih' => exact ih' (ih hw)
  | _ => exact hw.congr rfl [] (by simp) (by simp)

/-- A session watches the trackers that it watched before. -/
theorem trackers_eq (h : Stage w made w') : w'.capture.trackers = w.capture.trackers := by
  induction h with
  | course h => exact h.frame.trackers
  | trans _ _ ih ih' => rw [ih', ih]
  | _ => rfl

end Stage

end World

/-! ## Opening the parts of the browser -/

namespace Session

/-- The parts of the browser in the order in which they are opened. -/
def parts : List Resource := [.driver, .browser, .context, .page]

theorem mem_parts (r : Resource) : r ∈ parts := by
  cases r <;> decide

/-- How a part of the browser is opened. -/
def opening (o : RunOptions) : Resource → Call
  | .driver => .start
  | .browser => .launch o.headless
  | .context => .newContext
  | .page => .newPage

/-- Each resource is opened by a call of its own. -/
theorem opening_injective (o : RunOptions) : Function.Injective (opening o) := by
  intro r s h
  cases r <;> cases s <;> first | rfl | cases h

/-- The calls that start a session when none of them fails. -/
def setupCalls (o : RunOptions) : List Call :=
  parts.map (opening o) ++ if o.trackers.isEmpty then [] else [.route]

/-- Opens some parts of the browser, one after the other. -/
def openAll (o : RunOptions) : List Resource → RunM Unit
  | [] => return ()
  | r :: rest => do
    RunM.call (opening o r)
    hold r
    openAll o rest

/-- A session starts with its parts, and listens to requests if there are trackers. -/
theorem start_eq (o : RunOptions) :
    start o = openAll o parts >>= fun _ =>
      if !o.trackers.isEmpty then attach else pure () := by
  simp [start, openAll, parts, opening]

/-- A resource is held from its opening on. -/
theorem run_hold (r : Resource) (w : World) :
    ∃ held, (hold r).run w = (.ok (), { w with held }) ∧ ∀ s, s ∈ held ↔ s ∈ w.held ∨ s = r := by
  -- what is held already is not held twice
  by_cases h : w.held.contains r
  · refine ⟨w.held, ?_, fun s => ⟨.inl, fun hs => ?_⟩⟩
    · rw [hold, RunM.run_modify, if_pos h]
    · rcases hs with hs | rfl
      · exact hs
      · exact List.contains_iff_mem.mp h
  · refine ⟨w.held ++ [r], ?_, by simp⟩
    rw [hold, RunM.run_modify, if_neg h]

/-- An answered call. -/
def answered (c : Call) : AnsweredCall := ⟨c, none⟩

@[simp] theorem calls_answered (cs : List Call) :
    (cs.map answered).map AnsweredCall.call = cs := by
  rw [List.map_map]
  exact List.map_id cs

/-- How opening some parts ends: all of them are held, or those before the first that could
not be opened. -/
theorem openAll_ends (o : RunOptions) (rs : List Resource) (w : World) :
    ∃ opened made, World.Stage w made ((openAll o rs).run w).2 ∧
      ((openAll o rs).run w).2.closed = w.closed ∧
      ((openAll o rs).run w).2.handlers = w.handlers ∧
      (∀ r, r ∈ ((openAll o rs).run w).2.held ↔ r ∈ w.held ∨ r ∈ opened) ∧
      ((((openAll o rs).run w).1 = .ok () ∧ opened = rs ∧
          made = rs.map fun r => answered (opening o r)) ∨
        ∃ r rest e, ((openAll o rs).run w).1 = .error (.browser e) ∧
          rs = opened ++ r :: rest ∧
          made = (opened.map fun r => answered (opening o r)) ++ [⟨opening o r, some e⟩]) := by
  induction rs generalizing w with
  | nil => exact ⟨[], [], .refl w, rfl, rfl, by simp [openAll], .inl ⟨rfl, rfl, rfl⟩⟩
  | cons r rest ih =>
    rw [openAll, RunM.run_bind, RunM.run_call]
    cases hAnswer : Page.failAt (opening o r) w.page.failures with
    | some p =>
      -- the part could not be opened, so nothing behind it is tried
      have hFailed := World.Course.one (.failed hAnswer)
      refine ⟨[], [⟨opening o r, some p.1⟩], .course hFailed, rfl, rfl, fun s => ?_, ?_⟩
      · simp [World.withFailures, World.addTrace]
      · exact .inr ⟨r, rest, p.1, rfl, rfl, rfl⟩
    | none =>
      have hCall : World.Course w [answered (opening o r)] (w.respond (opening o r)) :=
        World.respond_course hAnswer
      obtain ⟨held, hHold, hHeld⟩ := run_hold r (w.respond (opening o r))
      simp only []
      rw [RunM.run_bind, hHold]
      simp only []
      obtain ⟨opened, made, hStage, hClosed, hHandlers, hMem, hEnd⟩ :=
        ih { w.respond (opening o r) with held }
      refine ⟨r :: opened, answered (opening o r) :: made, ?_, ?_, ?_, fun s => ?_, ?_⟩
      · exact ((World.Stage.course hCall).andThen (.holding _ held)).trans hStage
      · rw [hClosed]
        exact hCall.frame.closed
      · rw [hHandlers]
        exact hCall.frame.handlers
      · rw [hMem, List.mem_cons, ← or_assoc, hHeld, hCall.frame.held]
      · rcases hEnd with ⟨hOk, rfl, rfl⟩ | ⟨s, others, e, hError, hRest, rfl⟩
        · exact .inl ⟨hOk, rfl, rfl⟩
        · exact .inr ⟨s, others, e, hError, by rw [hRest]; rfl, rfl⟩

/-- The parts that were opened are read off the calls, where no call behind theirs opens one. -/
theorem mem_iff_answered_opening (o : RunOptions) (opened : List Resource)
    {tail : List AnsweredCall} (hTail : ∀ r, answered (opening o r) ∉ tail) (r : Resource) :
    r ∈ opened ↔
      answered (opening o r) ∈ (opened.map fun r => answered (opening o r)) ++ tail := by
  rw [List.mem_append, or_iff_left (hTail r)]
  refine ⟨fun h => List.mem_map_of_mem h, fun h => ?_⟩
  obtain ⟨s, hs, hEq⟩ := List.mem_map.mp h
  obtain rfl : s = r := opening_injective o (congrArg AnsweredCall.call hEq)
  exact hs

/-- To listen to requests is one call. -/
theorem run_attach (w : World) :
    attach.run w =
      match Page.failAt .route w.page.failures with
      | some (e, left) => (.error (.browser e), (w.addTrace (.call .route)).withFailures left)
      | none =>
        let w := w.respond .route
        (.ok (), { w with handlers := w.handlers + 1 }.addLog [w.capture.attachedLine]) := by
  rw [attach, RunM.run_bind, RunM.run_call]
  cases Page.failAt .route w.page.failures <;> rfl

/-- How watching a page ends: its one call is answered, and nothing is held or closed by it. -/
theorem attach_ends (w : World) :
    ∃ failure, World.Stage w [⟨.route, failure⟩] (attach.run w).2 ∧
      (attach.run w).2.closed = w.closed ∧ (attach.run w).2.held = w.held ∧
      (attach.run w).1 = match failure with
        | none => .ok ()
        | some e => .error (.browser e) := by
  rw [run_attach]
  -- the requests are watched only once the route is there
  cases hAnswer : Page.failAt .route w.page.failures with
  | some p => exact ⟨some p.1, .course (.one (.failed hAnswer)), rfl, rfl, rfl⟩
  | none =>
    have hCall : World.Course w [⟨.route, none⟩] (w.respond .route) := World.respond_course hAnswer
    exact ⟨none, ((World.Stage.course hCall).andThen (.attached _)).andThen
      (.course (.one (.logged _ [(w.respond .route).capture.attachedLine]))),
      hCall.frame.closed, hCall.frame.held, rfl⟩

/-- **How starting a session ends.** Either none of its calls failed, every part is held and
the page is watched if there are trackers; or the calls up to the one that failed were made.
In both cases a part is held if its opening call did not fail. -/
theorem start_ends (o : RunOptions) (w : World) :
    ∃ made, World.Stage w made ((start o).run w).2 ∧
      ((start o).run w).2.closed = w.closed ∧
      (∀ r, r ∈ ((start o).run w).2.held ↔ r ∈ w.held ∨ answered (opening o r) ∈ made) ∧
      ((((start o).run w).1 = .ok () ∧ made = (setupCalls o).map answered) ∨
        ∃ done c rest e, ((start o).run w).1 = .error (.browser e) ∧
          setupCalls o = done ++ c :: rest ∧ made = done.map answered ++ [⟨c, some e⟩]) := by
  obtain ⟨opened, made, hStage, hClosed, -, hHeld, hEnd⟩ := openAll_ends o parts w
  have hMade {tail : List AnsweredCall} (hTail : ∀ r, answered (opening o r) ∉ tail) (s : Resource) :=
    (hHeld s).trans (or_congr_right (mem_iff_answered_opening o opened hTail s))
  rw [start_eq, RunM.run_bind]
  rcases hRun : (openAll o parts).run w with ⟨f | _, v⟩
  · rw [hRun] at hStage hClosed hMade hEnd
    -- a part could not be opened
    rcases hEnd with ⟨hOk, -, -⟩ | ⟨r, rest, e, hError, hParts, rfl⟩
    · cases hOk
    · refine ⟨_, hStage, hClosed, hMade (by simp [answered]), .inr ⟨opened.map (opening o),
        opening o r, rest.map (opening o) ++ if o.trackers.isEmpty then [] else [.route], e, hError,
        ?_, ?_⟩⟩
      · simp [setupCalls, hParts]
      · simp [answered]
  · rw [hRun] at hStage hClosed hMade hEnd
    rcases hEnd with ⟨-, rfl, rfl⟩ | ⟨r, rest, e, hError, -, -⟩
    · -- all parts are open, and the page is watched if there are trackers
      simp only []
      cases hTrackers : o.trackers.isEmpty with
      | true =>
        have hNone := @hMade [] fun _ => List.not_mem_nil
        rw [List.append_nil] at hNone
        exact ⟨_, hStage, hClosed, hNone, .inl ⟨rfl, by simp [setupCalls, hTrackers]⟩⟩
      | false =>
        obtain ⟨failure, hAttached, hStillOpen, hSame, hAnswer⟩ := attach_ends v
        have hNotRoute (r : Resource) : answered (opening o r) ∉ [⟨.route, failure⟩] := by
          cases r <;> simp [answered, opening]
        refine ⟨_, hStage.trans hAttached, hStillOpen.trans hClosed, fun s => ?_, ?_⟩
        · exact (iff_of_eq (congrArg (s ∈ ·) hSame)).trans (hMade hNotRoute s)
        · cases failure with
          | none => exact .inl ⟨hAnswer, by simp [setupCalls, hTrackers, answered]⟩
          | some e =>
            refine .inr ⟨parts.map (opening o), .route, [], e, hAnswer, ?_, ?_⟩
            · simp [setupCalls, hTrackers]
            · simp
    · cases hError

/-- Whether or not it can be finished, starting a session makes setup calls only. -/
theorem start_calls (o : RunOptions) (w : World) :
    ∃ made, World.Stage w made ((start o).run w).2 ∧
      ((start o).run w).2.closed = w.closed ∧
      (∀ r, r ∈ ((start o).run w).2.held ↔ r ∈ w.held ∨ answered (opening o r) ∈ made) ∧
      ∀ c ∈ made.map AnsweredCall.call, c ∈ setupCalls o := by
  obtain ⟨made, hStage, hClosed, hHeld, hEnd⟩ := start_ends o w
  refine ⟨made, hStage, hClosed, hHeld, fun c hc => ?_⟩
  -- all calls were made, or those up to the one that failed
  rcases hEnd with ⟨-, rfl⟩ | ⟨done, failing, rest, e, -, hSetup, rfl⟩
  · rwa [calls_answered] at hc
  · rw [List.map_append, calls_answered] at hc
    rw [hSetup]
    simpa [or_assoc] using Or.inl hc

/-! ## Closing -/

/-- The closing calls for some parts of the browser, in the order in which they are made. -/
def closingsOf (held : List Resource) : List Call :=
  (parts.reverse.filter held.contains).map closing

/-- Where every part is held, every part is closed. -/
theorem closingsOf_all {held : List Resource} (h : ∀ r, r ∈ held) :
    closingsOf held = [.closePage, .closeContext, .closeBrowser, .stop] := by
  simp [closingsOf, parts, closing, h]

/-- Closes some parts of the browser, one after the other. -/
def closeAll : List Resource → RunM Unit
  | [] => return ()
  | r :: rest => do
    closeOne r
    closeAll rest

/-- Closing a part makes its call if the part is held, and never fails. -/
theorem closeOne_ends (r : Resource) (w : World) :
    ∃ made, World.Course w made ((closeOne r).run w).2 ∧ ((closeOne r).run w).1 = .ok () ∧
      made.map AnsweredCall.call = if w.held.contains r then [closing r] else [] := by
  rw [closeOne, RunM.run_bind, RunM.run_get]
  simp only []
  split
  -- the part is held, and a failure of its call is only logged
  · rw [RunM.run_tryCatch, RunM.run_call]
    cases hAnswer : Page.failAt (closing r) w.page.failures with
    | none => exact ⟨_, World.respond_course hAnswer, rfl, rfl⟩
    | some p =>
      have hFailed : World.Course w [⟨closing r, some p.1⟩] _ := .one (.failed hAnswer)
      exact ⟨_, hFailed.andThen (.one (.logged _ _)), rfl, rfl⟩
  · exact ⟨[], .done w, rfl, rfl⟩

/-- Closing in turn never fails, and calls for just what is held. -/
theorem closeAll_ends (rs : List Resource) (w : World) :
    ∃ made, World.Course w made ((closeAll rs).run w).2 ∧ ((closeAll rs).run w).1 = .ok () ∧
      made.map AnsweredCall.call = (rs.filter w.held.contains).map closing := by
  -- by induction on the parts: closing one of them leaves what is held as it was
  induction rs generalizing w with
  | nil => exact ⟨[], .done w, rfl, rfl⟩
  | cons r rest ih =>
    obtain ⟨made, hCourse, hOk, hCalls⟩ := closeOne_ends r w
    rw [closeAll, RunM.run_bind]
    rcases hOne : (closeOne r).run w with ⟨result, v⟩
    rw [hOne] at hCourse hOk
    obtain rfl : result = .ok () := hOk
    obtain ⟨more, hCourse', hOk', hCalls'⟩ := ih v
    refine ⟨made ++ more, hCourse.trans hCourse', hOk', ?_⟩
    rw [List.map_append, hCalls, hCalls', hCourse.frame.held, List.filter_cons]
    split <;> simp

/-- Closing goes through the parts from the last to the first, once. -/
theorem run_close (w : World) :
    close.run w =
      if w.closed then (.ok (), w)
      else ((closeAll parts.reverse >>= fun _ =>
        RunM.log .info "Browser session closed").run { w with closed := true }) := by
  -- the four closings in turn are one traversal of the parts from the last to the first
  have hParts : (closeAll parts.reverse >>= fun _ => RunM.log .info "Browser session closed") =
      (do
        closeOne .page
        closeOne .context
        closeOne .browser
        closeOne .driver
        RunM.log .info "Browser session closed") := by
    simp [parts, closeAll]
  rw [close, RunM.run_bind, RunM.run_get, hParts]
  simp only []
  split <;> rfl

/-- A session that is closed already is left alone. -/
theorem close_of_closed {w : World} (h : w.closed = true) : close.run w = (.ok (), w) := by
  rw [run_close, if_pos h]

/-- **Closing a session** makes one closing call for each part that is held, in their order,
whether or not these calls fail, and does not fail itself. -/
theorem close_of_open {w : World} (h : w.closed = false) :
    ∃ made, World.Stage w made (close.run w).2 ∧ (close.run w).1 = .ok () ∧
      made.map AnsweredCall.call = closingsOf w.held ∧ (close.run w).2.closed = true ∧
      (close.run w).2.held = w.held := by
  rw [run_close, if_neg (by simp [h]), RunM.run_bind]
  obtain ⟨made, hCourse, hOk, hCalls⟩ := closeAll_ends parts.reverse { w with closed := true }
  rcases hAll : (closeAll parts.reverse).run { w with closed := true } with ⟨result, v⟩
  rw [hAll] at hCourse hOk
  obtain rfl : result = .ok () := hOk
  -- the session counts as closed before the first of the closings is made
  have hLogged : World.Course { w with closed := true } made
      (v.addLog [⟨.info, "Browser session closed"⟩]) :=
    hCourse.andThen (.one (.logged v _))
  exact ⟨made, (World.Stage.closing w).trans (.course hLogged), rfl, hCalls,
    hLogged.frame.closed, hLogged.frame.held⟩

/-- Closing never fails. -/
theorem close_ok (w : World) : (close.run w).1 = .ok () := by
  cases h : w.closed with
  | true => rw [close_of_closed h]
  | false =>
    obtain ⟨_, _, hOk, _⟩ := close_of_open h
    exact hOk

/-- What is done behind closing is done in the world that closing leaves. -/
theorem run_close_bind {α : Type} (f : Unit → RunM α) (w : World) :
    (close >>= f).run w = (f ()).run (close.run w).2 := by
  rw [RunM.run_bind]
  rcases hClose : close.run w with ⟨result, v⟩
  obtain rfl : result = .ok () := by
    rw [← close_ok w, hClose]
  rfl

/-- Behind closing the session is closed. -/
theorem close_closed (w : World) : (close.run w).2.closed = true := by
  cases h : w.closed with
  | true => rw [close_of_closed h, h]
  | false =>
    obtain ⟨_, _, _, _, hClosed, _⟩ := close_of_open h
    exact hClosed

/-! ## Entering -/

/-- **Entering a session** is starting it, and closing it if that fails. -/
theorem run_enter (o : RunOptions) (w : World) :
    (enter o).run w =
      match (start o).run w with
      | (.ok a, v) => (.ok a, v)
      | (.error f, v) => (.error f, (close.run v).2) := by
  rw [enter, RunM.run_tryCatch]
  rcases (start o).run w with ⟨f | _, v⟩
  · simp only [run_close_bind]
    rfl
  · rfl

/-- A session that was entered was started, and nothing else. -/
theorem start_of_enter {o : RunOptions} {w v : World} (h : (enter o).run w = (.ok (), v)) :
    (start o).run w = (.ok (), v) := by
  rw [run_enter] at h
  rcases hStart : (start o).run w with ⟨f | _, u⟩
  · rw [hStart] at h
    cases h
  · rw [hStart] at h
    exact h

/-- A session that was entered has made all of its setup calls, none of which failed, and
holds every part of the browser. -/
theorem enter_ok {o : RunOptions} {w : World} (h : ((enter o).run w).1 = .ok ()) :
    World.Stage w ((setupCalls o).map answered) ((enter o).run w).2 ∧
      ((enter o).run w).2.closed = w.closed ∧ ∀ r, r ∈ ((enter o).run w).2.held := by
  obtain ⟨made, hStage, hClosed, hHeld, hEnd⟩ := start_ends o w
  rw [run_enter] at h ⊢
  rcases hStart : (start o).run w with ⟨f | _, v⟩
  · rw [hStart] at h
    cases h
  · rw [hStart] at hStage hClosed hHeld hEnd
    -- starting up has not failed, so that all parts were opened
    rcases hEnd with ⟨-, rfl⟩ | ⟨_, _, _, _, hError, -⟩
    · refine ⟨hStage, hClosed, fun r => (hHeld r).mpr (.inr ?_)⟩
      have hMem : opening o r ∈ setupCalls o :=
        List.mem_append_left _ (List.mem_map_of_mem (mem_parts r))
      exact List.mem_map_of_mem hMem
    · cases hError

end Session

end BeaconCheck
