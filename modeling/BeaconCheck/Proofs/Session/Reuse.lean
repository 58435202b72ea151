import BeaconCheck.Proofs.Session.Teardown
import Mathlib.Data.List.Nodup

/-!
# Sessions one after another

A session can be entered again when it has ended, and opens new parts of the browser then. But
closing happens once, and that it has happened is still known in the next session: whatever is
done from then on, no further closing call is made. So each part is closed once exactly in the
first session, and in a later one if there is nothing to close.

* `Session.follow`, `followAll` — sessions in turn, whatever is done in them.
* `Session.Unclosing`           — a stretch behind the end of a session, which closes nothing.
* `Session.follow_of_closed`    — every later session is such a stretch.
* `closings_of_sessions`        — the closing calls of any session, after any others.
* `second_session_left_open`    — two sessions, the second of which leaves its parts open.
-/

namespace BeaconCheck

namespace Session

/-- A session in a world: it is entered, some operations are done, whether or not that failed,
and it is closed. -/
def follow (o : RunOptions) (w : World) (ops : List SessionOp) : World :=
  (close.run (SessionOp.playAll o ((enter o).run w).2 ops)).2

/-- The world after some sessions, one after the other. -/
def followAll (o : RunOptions) (w : World) (sessions : List (List SessionOp)) : World :=
  sessions.foldl (follow o) w

/-- Behind a session everything is closed. -/
theorem follow_closed (o : RunOptions) (w : World) (ops : List SessionOp) :
    (follow o w ops).closed = true :=
  close_closed _

/-- Behind any session but none the closing has happened. -/
theorem followAll_closed (o : RunOptions) (w : World) {sessions : List (List SessionOp)}
    (h : sessions ≠ []) : (followAll o w sessions).closed = true := by
  induction sessions using List.reverseRecOn with
  | nil => exact absurd rfl h
  | append_singleton earlier ops _ =>
    rw [followAll, List.foldl_concat]
    exact follow_closed o _ ops

/-! ## Behind the end of a session -/

/-- A stretch that ends with the session closed and in which no call closes anything. -/
structure Unclosing (w : World) (made : List AnsweredCall) (w' : World) : Prop where
  stage : World.Stage w made w'
  closed : w'.closed = true
  calls : ∀ c ∈ made.map AnsweredCall.call, c.isClosing = false

namespace Unclosing

variable {w w' w'' : World} {made more : List AnsweredCall}

theorem refl (h : w.closed = true) : Unclosing w [] w :=
  ⟨.refl w, h, by simp⟩

/-- What stays closed in two parts stays closed. -/
theorem trans (h : Unclosing w made w') (h' : Unclosing w' more w'') :
    Unclosing w (made ++ more) w'' := by
  refine ⟨h.stage.trans h'.stage, h'.closed, ?_⟩
  rw [List.map_append]
  exact List.forall_mem_append.mpr ⟨h.calls, h'.calls⟩

/-- Stretches in turn, the second of which closes a session that is closed. -/
theorem andClose (h : Unclosing w made w') : Unclosing w made (close.run w').2 := by
  rwa [close_of_closed h.closed]

end Unclosing

/-- Entering closes nothing when the closing has happened, not even if it fails. -/
theorem enter_of_closed (o : RunOptions) {w : World} (h : w.closed = true) :
    ∃ made, Unclosing w made ((enter o).run w).2 := by
  obtain ⟨made, hStage, hClosed, -, hCalls⟩ := start_calls o w
  have hStarted : Unclosing w made ((start o).run w).2 :=
    ⟨hStage, hClosed.trans h, fun c hc => Call.isClosing_of_mem_setupCalls (hCalls c hc)⟩
  refine ⟨made, ?_⟩
  rw [run_enter]
  -- where starting up fails the session would be closed, but it is closed already
  rcases hStart : (start o).run w with ⟨f | _, v⟩
  · rw [hStart] at hStarted
    exact hStarted.andClose
  · rw [hStart] at hStarted
    exact hStarted

/-- No operation closes anything when the closing has happened. -/
theorem play_of_closed (o : RunOptions) {w : World} (h : w.closed = true) (op : SessionOp) :
    ∃ made, Unclosing w made (op.play o w) := by
  by_cases hCleanup : op = .cleanup
  · subst hCleanup
    exact ⟨[], (Unclosing.refl h).andClose⟩
  · obtain ⟨made, hCourse, hOnPage⟩ := SessionOp.play_course o w hCleanup
    exact ⟨made, .course hCourse, hCourse.frame.closed.trans h,
      fun c hc => Call.isClosing_of_isOnPage (hOnPage c hc)⟩

/-- Whatever is done in a session that is closed already, nothing is closed in it. -/
theorem playAll_of_closed (o : RunOptions) {w : World} (h : w.closed = true)
    (ops : List SessionOp) : ∃ made, Unclosing w made (SessionOp.playAll o w ops) := by
  induction ops generalizing w with
  | nil => exact ⟨[], .refl h⟩
  | cons op rest ih =>
    obtain ⟨made, hFirst⟩ := play_of_closed o h op
    obtain ⟨more, hRest⟩ := ih hFirst.closed
    exact ⟨made ++ more, hFirst.trans hRest⟩

/-- **A session behind the end of another** closes nothing. -/
theorem follow_of_closed (o : RunOptions) {w : World} (h : w.closed = true)
    (ops : List SessionOp) : ∃ made, Unclosing w made (follow o w ops) := by
  obtain ⟨made, hEnter⟩ := enter_of_closed o h
  obtain ⟨more, hPlay⟩ := playAll_of_closed o hEnter.closed ops
  exact ⟨made ++ more, (hEnter.trans hPlay).andClose⟩

/-! ## The first session -/

/-- The first session closes what it opened. -/
theorem follow_of_open (o : RunOptions) {w : World} (hHeld : w.held = [])
    (hClosed : w.closed = false) (ops : List SessionOp) :
    ∃ made, World.Stage w made (follow o w ops) ∧
      (made.map AnsweredCall.call).filter Call.isClosing =
        (parts.reverse.filter fun r => made.contains (answered (opening o r))).map closing := by
  -- three stages, each of which keeps the session tidy: entering, the operations, closing
  obtain ⟨entering, hEnter, hTidy⟩ := enter_tidy o hHeld hClosed
  obtain ⟨doing, hDo, hTidy⟩ := hTidy.playAll ops
  obtain ⟨closings, hClose, hTidy, hEnded⟩ := hTidy.close
  -- what is held at the end is what was opened by a call that was answered
  have hOpened : ∀ r, (follow o w ops).held.contains r =
      ((entering ++ doing) ++ closings).contains (answered (opening o r)) := by
    intro r
    rw [Bool.eq_iff_iff, List.contains_iff_mem, List.contains_iff_mem]
    exact hTidy.held r
  refine ⟨(entering ++ doing) ++ closings, (hEnter.trans hDo).trans hClose, ?_⟩
  rw [hTidy.closings, if_pos hEnded, closingsOf]
  exact congrArg (fun p => (parts.reverse.filter p).map closing) (funext hOpened)

/-- Each resource is closed by a call of its own. -/
theorem closing_injective : Function.Injective closing := by
  intro r s h
  cases r <;> cases s <;> first | rfl | cases h

/-- Of the closing calls for some parts there is one for each of these parts. -/
theorem count_closing {p : Resource → Bool} {r : Resource} (h : p r = true) :
    ((parts.reverse.filter p).map closing).count (closing r) = 1 := by
  have hNodup : (parts.reverse.filter p).Nodup := List.Nodup.filter p (by decide)
  refine List.count_eq_one_of_mem (hNodup.map closing_injective) (List.mem_map_of_mem ?_)
  exact List.mem_filter.mpr ⟨List.mem_reverse.mpr (mem_parts r), h⟩

end Session

/-- **The closing calls of a session that follows others.** Whatever is done in them and
whichever calls fail, the first session of all makes exactly one closing call for each part that
it opened, in the order page, context, browser, driver, and a later one makes none. So every
part that a session opened is closed once in it exactly if the session is the first, or if it
has opened nothing. Closing never fails. -/
theorem closings_of_sessions (o : RunOptions) (page : Page) (sessions : List (List SessionOp))
    (ops : List SessionOp) :
    let w := Session.followAll o (.before page o) sessions
    let ended := Session.follow o w ops
    (∀ v, (Session.close.run v).1 = .ok ()) ∧
    ∃ made : List AnsweredCall,
      ended.calls = w.calls ++ made.map AnsweredCall.call ∧
      Page.answersTo w.page.failures (made.map AnsweredCall.call) = made ∧
      (made.map AnsweredCall.call).filter Call.isClosing =
        (if sessions = [] then
          ([.page, .context, .browser, .driver].filter fun r =>
            made.contains (Session.answered (Session.opening o r))).map Session.closing
        else []) ∧
      ((∀ r, Session.answered (Session.opening o r) ∈ made →
          (made.map AnsweredCall.call).count (Session.closing r) = 1) ↔
        sessions = [] ∨ ∀ r, Session.answered (Session.opening o r) ∉ made) := by
  intro w ended
  refine ⟨Session.close_ok, ?_⟩
  -- only closing calls close a part
  have hCount (made : List AnsweredCall) (r : Resource) :
      (made.map AnsweredCall.call).count (Session.closing r) =
        ((made.map AnsweredCall.call).filter Call.isClosing).count (Session.closing r) := by
    refine (List.count_filter ?_).symm
    cases r <;> rfl
  by_cases hFirst : sessions = []
  · subst hFirst
    obtain ⟨made, hStage, hClosings⟩ :=
      Session.follow_of_open o (w := .before page o) rfl rfl ops
    refine ⟨made, hStage.calls_eq, hStage.answered_eq.1, hClosings, ?_⟩
    refine iff_of_true (fun r hOpened => ?_) (.inl rfl)
    rw [hCount, hClosings]
    exact Session.count_closing (List.contains_iff_mem.mpr hOpened)
  · obtain ⟨made, hStretch⟩ :=
      Session.follow_of_closed o (Session.followAll_closed o (.before page o) hFirst) ops
    have hNone : (made.map AnsweredCall.call).filter Call.isClosing = [] :=
      List.filter_eq_nil_iff.mpr fun c hc => by simp [hStretch.calls c hc]
    refine ⟨made, hStretch.stage.calls_eq, hStretch.stage.answered_eq.1, ?_, ?_⟩
    · rw [if_neg hFirst, hNone]
    · simp only [hCount, hNone, hFirst, false_or]
      exact forall_congr' fun r => imp_congr_right fun _ => iff_of_false (by simp) id

/-- Two sessions of one runner, each of which is entered and closed: the second opens every part
of the browser and closes none. -/
theorem second_session_left_open :
    let first := Session.followAll {} (.before {} {}) [[]]
    let second := Session.follow {} first []
    ((Session.enter {}).run first).1 = .ok () ∧
      first.calls = [.start, .launch true, .newContext, .newPage,
        .closePage, .closeContext, .closeBrowser, .stop] ∧
      second.calls = first.calls ++ [.start, .launch true, .newContext, .newPage] := by
  intro first second
  exact ⟨RunM.eq_ok_of_isOk (by decide +kernel), by decide +kernel, by decide +kernel⟩

end BeaconCheck
