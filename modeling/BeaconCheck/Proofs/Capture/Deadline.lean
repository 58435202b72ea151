import BeaconCheck.Proofs.Capture.Operations
import BeaconCheck.Proofs.Run.Timeout
import BeaconCheck.Proofs.World.Similar
import Mathlib.Order.Bounds.Basic

/-!
# Waiting up to a deadline

What is due on a page is in the order of time, so the batches that are due by a time are a
first part of it. A wait for a tracker lets them happen one after the other and stops behind
the first that brings enough requests, or at the deadline. For batches at distinct times this
is the least time at which the tracker has enough, if there is one up to the deadline.

* `World.dueBy`, `World.countBy` — the requests due by a time, and what a tracker has then.
* `World.Ordered`                — what is due is in the order of time; operations keep that.
* `World.awaitIn_least`          — where letting time pass stops.
* `awaitRequests_least`          — how a wait ends, after any operations.
-/

namespace BeaconCheck

namespace World

/-! ## What is due by a time -/

/-- The requests among what is due that are sent up to a time. -/
def urlsBy (pending : List Due) (time : Rat) : List String :=
  (pending.filter fun d => d.time ≤ time).flatMap fun d => d.happening.urls

/-- The requests that will be sent up to a time. -/
def dueBy (w : World) (time : Rat) : List String :=
  urlsBy w.pending time

/-- How many requests a tracker has when those due up to a time have been handled. -/
def countBy (w : World) (tracker : Text) (time : Rat) : Nat :=
  (Capture.historyOf w.capture.trackers tracker (w.handled ++ w.dueBy time)).length

/-- Nothing is sent before the first time at which something is due. -/
theorem urlsBy_eq_nil {pending : List Due} {time : Rat} (h : ∀ d ∈ pending, time < d.time) :
    urlsBy pending time = [] := by
  have hNone : pending.filter (fun d => d.time ≤ time) = [] := by
    refine List.filter_eq_nil_iff.mpr fun d hd => ?_
    simpa using h d hd
  rw [urlsBy, hNone]
  rfl

/-- What is due by then comes first. -/
theorem urlsBy_cons {d : Due} {rest : List Due} {time : Rat} (h : d.time ≤ time) :
    urlsBy (d :: rest) time = d.happening.urls ++ urlsBy rest time := by
  rw [urlsBy, List.filter_cons_of_pos (by simpa using h)]
  rfl

/-! ## The order of time -/

/-- What is due is in the order of time. -/
def Ordered (w : World) : Prop :=
  w.pending.Pairwise fun d e => d.time ≤ e.time

/-- What is put off is put in order. -/
theorem pairwise_insertDue {d : Due} {pending : List Due}
    (h : pending.Pairwise fun d e => d.time ≤ e.time) :
    (insertDue d pending).Pairwise fun d e => d.time ≤ e.time := by
  induction pending with
  | nil => exact List.pairwise_singleton _ d
  | cons e rest ih =>
    obtain ⟨hFirst, hRest⟩ := List.pairwise_cons.mp h
    rw [insertDue]
    split
    · next hBefore =>
      -- all that was due is due behind the new batch
      refine List.pairwise_cons.mpr ⟨fun f hf => ?_, h⟩
      rcases List.mem_cons.mp hf with rfl | hf
      · exact hBefore.le
      · exact hBefore.le.trans (hFirst f hf)
    · next hBehind =>
      refine List.pairwise_cons.mpr ⟨fun f hf => ?_, ih hRest⟩
      rcases List.mem_cons.mp ((insertDue_perm d rest).mem_iff.mp hf) with rfl | hf
      · exact not_lt.mp hBehind
      · exact hFirst f hf

/-- What is still due behind a wait is a last part of what was due. -/
theorem awaitIn_pending (deadline : Rat) (holds : World → Bool) (pending : List Due) :
    ∀ w : World, (awaitIn deadline holds pending w).2.pending <:+ pending := by
  -- by induction on what is pending, of which the first things happen and the rest stays
  induction pending with
  | nil => exact fun _ => List.suffix_rfl
  | cons d rest ih =>
    intro w
    have hPending : ((({ w with pending := rest } : World).advance d.time).happen
        d.happening).pending = rest := (happen_clock _ d.happening).2
    simp only [awaitIn]
    split
    · split
      · rw [hPending]
        exact List.suffix_cons d rest
      · exact (ih _).trans (List.suffix_cons d rest)
    · exact List.suffix_rfl

/-- What is left behind waiting is in order. -/
theorem Ordered.awaitBy {w : World} (h : w.Ordered) (deadline : Rat) (holds : World → Bool) :
    (awaitBy deadline holds w).2.Ordered :=
  List.Pairwise.sublist (awaitIn_pending deadline holds w.pending w).sublist h

end World

namespace CaptureOp

/-- Every operation keeps the order of time. -/
theorem play_ordered {w : World} (h : w.Ordered) (op : CaptureOp) : (op.play w).Ordered := by
  -- what is pending changes only where something is put off or time passes
  cases op with
  | fire url => exact h
  | later delay urls => exact World.pairwise_insertDue h
  | sleep length => exact h.awaitBy _ _
  | await tracker wanted timeout =>
    rw [play_await]
    rcases RunM.awaitRequests_world tracker wanted timeout w with hSame | ⟨_, _, hAwaited⟩
    · rwa [hSame]
    · rw [hAwaited]
      exact h.awaitBy _ _
  | _ =>
    rw [play, run, look_world]
    exact h

/-- What is pending is in the order of time behind any operations. -/
theorem playAll_ordered {w : World} (h : w.Ordered) (ops : List CaptureOp) :
    (playAll w ops).Ordered := by
  induction ops generalizing w with
  | nil => exact h
  | cons op rest ih => exact ih (play_ordered h op)

end CaptureOp

namespace World

/-! ## Where letting time pass stops -/

/-- What a wait needs of a world: the page is watched once, the store is the history, and all
that is due is due later, at distinct times and in their order. -/
structure Waiting (trackers : List Tracker) (pending : List Due) (w : World) : Prop where
  handlers : w.handlers = 1
  faithful : w.Faithful
  trackers_eq : w.capture.trackers = trackers
  distinct : pending.Pairwise fun d e => d.time < e.time
  later : ∀ d ∈ pending, w.now < d.time

/-- The first batch happens at its time, and the others are due still. -/
theorem Waiting.next {trackers : List Tracker} {d : Due} {rest : List Due} {w : World}
    (h : Waiting trackers (d :: rest) w) :
    let v := ({ w with pending := rest }.advance d.time).happen d.happening
    Waiting trackers rest v ∧ v.now = d.time ∧ v.handled = w.handled ++ d.happening.urls ∧
      v.pending = rest := by
  intro v
  obtain ⟨hFirst, hRest⟩ := List.pairwise_cons.mp h.distinct
  -- time first moves on to the moment at which something is due, and then it happens
  let atDue : World := { w with pending := rest }.advance d.time
  have hAtDue : atDue.handlers = 1 := h.handlers
  have hCourse : Course w [] v :=
    Course.after (.one (.timed w _ rest)) (happen_course atDue d.happening)
  have hNow : v.now = d.time := by
    have hAdvanced : atDue.now = d.time := if_pos (h.later d List.mem_cons_self).le
    rw [← hAdvanced]
    exact (happen_clock atDue d.happening).1
  refine ⟨⟨?_, ?_, ?_, hRest, ?_⟩, hNow, happen_handled hAtDue d.happening,
    (happen_clock atDue d.happening).2⟩
  · rw [hCourse.frame.handlers, h.handlers]
  · exact hCourse.faithful h.faithful
  · rw [hCourse.frame.trackers, h.trackers_eq]
  · rw [hNow]
    exact hFirst

/-- Before the time of the first batch nothing is sent and all batches are due still. -/
theorem Waiting.before_first {trackers : List Tracker} {d : Due} {rest : List Due} {w : World}
    (h : Waiting trackers (d :: rest) w) {time : Rat} (hTime : time < d.time) :
    urlsBy (d :: rest) time = [] ∧ (d :: rest).filter (fun e => time < e.time) = d :: rest := by
  have hAll : ∀ e ∈ d :: rest, time < e.time := by
    intro e he
    rcases List.mem_cons.mp he with rfl | he
    · exact hTime
    · exact hTime.trans ((List.pairwise_cons.mp h.distinct).1 e he)
  refine ⟨urlsBy_eq_nil hAll, List.filter_eq_self.mpr fun e he => ?_⟩
  exact decide_eq_true (hAll e he)

/-- From the time of the first batch on it has happened. -/
theorem filter_cons_of_le {d : Due} {rest : List Due} {time : Rat} (h : d.time ≤ time) :
    (d :: rest).filter (fun e => time < e.time) = rest.filter fun e => time < e.time :=
  List.filter_cons_of_neg (by simpa using h)

/-- Letting time pass has ended at the least time up to the deadline at which enough requests
have been handled, or at the deadline if there is no such time, with the batches due by then
handled and the others due still. -/
structure EndsAtLeast (enough : List String → Prop) (deadline : Rat) (pending : List Due)
    (w : World) (ended : Bool × World) : Prop where
  handled : ended.2.handled = w.handled ++ urlsBy pending ended.2.now
  pending_eq : ended.2.pending = pending.filter fun d => ended.2.now < d.time
  reached : ended.1 = true → IsLeast {t | w.now ≤ t ∧ t ≤ deadline ∧
    enough (w.handled ++ urlsBy pending t)} ended.2.now
  missed : ended.1 = false → ended.2.now = deadline ∧
    ∀ t ≤ deadline, ¬ enough (w.handled ++ urlsBy pending t)

section First

variable {trackers : List Tracker} {enough : List String → Prop} {deadline : Rat} {d : Due}
  {rest : List Due} {w v : World} (hw : Waiting trackers (d :: rest) w)
  (hNot : ¬ enough w.handled) (hDue : d.time ≤ deadline) (hNow : v.now = d.time)
  (hHandled : v.handled = w.handled ++ d.happening.urls)

include hw hNot hDue hNow hHandled

/-- A wait that ends behind the first batch. -/
theorem EndsAtLeast.first (hPending : v.pending = rest) (hNext : Waiting trackers rest v)
    (hEnough : enough v.handled) : EndsAtLeast enough deadline (d :: rest) w (true, v) := by
  -- nothing else is due up to then, so that all that was handled counts
  have hThen : w.handled ++ urlsBy (d :: rest) v.now = v.handled := by
    rw [urlsBy_cons hNow.ge, urlsBy_eq_nil hNext.later, hHandled, List.append_nil]
  refine ⟨hThen.symm, ?_, fun _ => ⟨⟨?_, hNow.trans_le hDue, ?_⟩, fun t ht => ?_⟩, nofun⟩
  · rw [filter_cons_of_le hNow.ge, hPending]
    exact (List.filter_eq_self.mpr fun e he => decide_eq_true (hNext.later e he)).symm
  · rw [hNow]
    exact (hw.later d List.mem_cons_self).le
  · rwa [hThen]
  · -- there were not enough requests before
    obtain ⟨-, -, hSooner⟩ := ht
    rw [hNow]
    by_contra hLess
    rw [(hw.before_first (not_le.mp hLess)).1, List.append_nil] at hSooner
    exact hNot hSooner

/-- A wait that goes on behind the first batch. -/
theorem EndsAtLeast.behind {ended : Bool × World}
    (h : EndsAtLeast enough deadline rest v ended) :
    EndsAtLeast enough deadline (d :: rest) w ended := by
  have hLater {t : Rat} (ht : d.time ≤ t) :
      w.handled ++ urlsBy (d :: rest) t = v.handled ++ urlsBy rest t := by
    rw [urlsBy_cons ht, hHandled, List.append_assoc]
  have hEarlier {t : Rat} (ht : t < d.time) : ¬ enough (w.handled ++ urlsBy (d :: rest) t) := by
    rwa [(hw.before_first ht).1, List.append_nil]
  -- the wait does not end before the first batch
  have hBehind : d.time ≤ ended.2.now := by
    cases hFlag : ended.1 with
    | true => exact hNow ▸ (h.reached hFlag).1.1
    | false => exact hDue.trans_eq (h.missed hFlag).1.symm
  refine ⟨?_, ?_, fun hFlag => ?_, fun hFlag => ⟨(h.missed hFlag).1, fun t ht => ?_⟩⟩
  · rw [hLater hBehind, h.handled]
  · rw [filter_cons_of_le hBehind, h.pending_eq]
  · obtain ⟨⟨-, hDeadline, hEnough⟩, hLeast⟩ := h.reached hFlag
    refine ⟨⟨?_, hDeadline, ?_⟩, fun t ht => ?_⟩
    · exact (hw.later d List.mem_cons_self).le.trans hBehind
    · rwa [hLater hBehind]
    · obtain ⟨-, hTo, hThen⟩ := ht
      rcases lt_or_ge t d.time with hEarly | hLate
      · exact absurd hThen (hEarlier hEarly)
      · rw [hLater hLate] at hThen
        exact hLeast ⟨hNow.trans_le hLate, hTo, hThen⟩
  · rcases lt_or_ge t d.time with hEarly | hLate
    · exact hEarlier hEarly
    · rw [hLater hLate]
      exact (h.missed hFlag).2 t ht

end First

/-- **Letting time pass ends** at the least time up to the deadline at which enough requests
have been handled, or at the deadline. -/
theorem awaitIn_least {trackers : List Tracker} {holds : World → Bool}
    {enough : List String → Prop}
    (hHolds : ∀ v : World, v.Faithful → v.capture.trackers = trackers →
      (holds v = true ↔ enough v.handled))
    {deadline : Rat} {pending : List Due} :
    ∀ {w : World}, Waiting trackers pending w → w.now ≤ deadline → ¬ enough w.handled →
      EndsAtLeast enough deadline pending w (awaitIn deadline holds pending w) := by
  induction pending with
  | nil =>
    intro w hw hNow hNot
    -- nothing is due, so the wait goes on to the deadline
    have hEnd : ({ w with pending := [] }.advance deadline).now = deadline := if_pos hNow
    have hNone (t : Rat) : w.handled ++ urlsBy [] t = w.handled := List.append_nil _
    refine ⟨(hNone _).symm, rfl, fun h => absurd h Bool.false_ne_true, fun _ =>
      ⟨hEnd, fun t _ => ?_⟩⟩
    rwa [hNone]
  | cons d rest ih =>
    intro w hw hNow hNot
    obtain ⟨hNext, hVNow, hHandled, hPending⟩ := hw.next
    simp only [awaitIn]
    generalize ({ w with pending := rest }.advance d.time).happen d.happening = v at *
    by_cases hDue : d.time ≤ deadline
    · rw [if_pos hDue]
      have hStops := hHolds v hNext.faithful hNext.trackers_eq
      by_cases hStop : holds v = true
      · rw [if_pos hStop]
        exact .first hw hNot hDue hVNow hHandled hPending hNext (hStops.mp hStop)
      · rw [if_neg hStop]
        have hNotYet : ¬ enough v.handled := fun h => hStop (hStops.mpr h)
        exact .behind hw hNot hDue hVNow hHandled (ih hNext (hVNow.trans_le hDue) hNotYet)
    · -- nothing is due by the deadline
      rw [if_neg hDue]
      have hAfter : deadline < d.time := not_le.mp hDue
      have hEnd : ({ w with pending := d :: rest }.advance deadline).now = deadline := if_pos hNow
      have hNone {t : Rat} (ht : t < d.time) :
          w.handled ++ urlsBy (d :: rest) t = w.handled := by
        rw [(hw.before_first ht).1, List.append_nil]
      refine ⟨?_, ?_, fun h => absurd h Bool.false_ne_true, fun _ => ⟨hEnd, fun t ht => ?_⟩⟩
      · rw [hEnd, hNone hAfter]
        rfl
      · rw [hEnd, (hw.before_first hAfter).2]
        rfl
      · rwa [hNone (ht.trans_lt hAfter)]

/-- A wait that needs no time. -/
theorem EndsAtLeast.at_once {trackers : List Tracker} {enough : List String → Prop}
    {deadline : Rat} {w : World} (hw : Waiting trackers w.pending w) (hNow : w.now ≤ deadline)
    (hEnough : enough w.handled) : EndsAtLeast enough deadline w.pending w (true, w) := by
  have hNone : w.handled ++ urlsBy w.pending w.now = w.handled := by
    rw [urlsBy_eq_nil hw.later, List.append_nil]
  refine ⟨hNone.symm, ?_, fun _ => ⟨⟨le_rfl, hNow, ?_⟩, fun t ht => ht.1⟩, nofun⟩
  · exact (List.filter_eq_self.mpr fun d hd => decide_eq_true (hw.later d hd)).symm
  · rwa [hNone]

/-- What is counted for a tracker is its history. -/
theorem Faithful.recorded_eq {w : World} {trackers : List Tracker} (hw : w.Faithful)
    (hTrackers : w.capture.trackers = trackers) {tracker : Text}
    (h : tracker ∈ trackers.map Tracker.name) :
    w.recorded tracker = (Capture.historyOf trackers tracker w.handled).length := by
  subst hTrackers
  rw [World.recorded_eq, hw.requests_eq h]

/-- Operations leave a page on which one can wait, if what is due is due later and at distinct
times. -/
theorem waiting_playAll (trackers : List Tracker) (ops : List CaptureOp) :
    let w := CaptureOp.playAll (.watching trackers) ops
    (w.pending.map Due.time).Nodup → (∀ d ∈ w.pending, w.now < d.time) →
      Waiting trackers w.pending w := by
  intro w hDistinct hLater
  have hCourse : Course (.watching trackers) [] w := CaptureOp.playAll_course Nat.one_ne_zero ops
  have hStart : Ordered (.watching trackers) := List.Pairwise.nil
  have hOrdered : w.Ordered := CaptureOp.playAll_ordered hStart ops
  have hApart : w.pending.Pairwise fun d e => d.time ≠ e.time := List.pairwise_map.mp hDistinct
  -- ordered and pairwise different, the times increase
  have hStrict : w.pending.Pairwise fun d e => d.time < e.time :=
    (hOrdered.and hApart).imp fun h => lt_of_le_of_ne h.1 h.2
  exact ⟨hCourse.frame.handlers, hCourse.faithful (.of_empty rfl rfl), hCourse.frame.trackers,
    hStrict, hLater⟩

end World

/-! ## How a wait ends -/

/-- A wait for a tracker ends where enough requests have been handled, or at the deadline. -/
theorem RunM.awaitRequests_ends {trackers : List Tracker} {w : World}
    (hw : World.Waiting trackers w.pending w) {tracker : Text}
    (hTracker : tracker ∈ trackers.map Tracker.name) (count : Int) {timeout : Int}
    (hPositive : 0 < timeout) (hFinite : timeout.natAbs < 1000 * Binary64.overflow) :
    ∃ reached v,
      (awaitRequests tracker (.int count) (.int timeout)).run w =
        (if reached then .ok (v.recorded tracker)
          else .error (missed tracker count (v.recorded tracker) timeout), v) ∧
      World.EndsAtLeast
        (fun handled => count ≤ (Capture.historyOf trackers tracker handled).length)
        (w.now + timeout) w.pending w (reached, v) ∧
      World.Course w [] v := by
  have hKnown : ∃ captured, w.capture.requests tracker = .ok captured := by
    refine ⟨_, hw.faithful.requests_eq ?_⟩
    rwa [hw.trackers_eq]
  obtain ⟨captured, hRequests⟩ := hKnown
  have hDeadline : w.now ≤ w.now + timeout := by
    have hTimeout : (0 : ℚ) < timeout := by exact_mod_cast hPositive
    linarith
  -- the store is the history, so what is counted is what has been handled
  have hHolds : ∀ v : World, v.Faithful → v.capture.trackers = trackers →
      (isEnough (.int count) (v.recorded tracker) = true ↔
        count ≤ (Capture.historyOf trackers tracker v.handled).length) := by
    intro v hFaithful hTrackers
    rw [hFaithful.recorded_eq hTrackers hTracker, isEnough, decide_eq_true_eq]
  have hNow := hHolds w hw.faithful hw.trackers_eq
  rw [isEnough, decide_eq_true_eq] at hNow
  rw [run_awaitRequests, hRequests]
  simp only [run_awaitCount_int]
  rw [if_neg (Nat.not_le.mpr hFinite), if_neg (not_le.mpr hPositive)]
  by_cases hEnough : count ≤ w.recorded tracker
  · rw [if_pos hEnough]
    exact ⟨true, w, rfl, .at_once hw hDeadline (hNow.mp hEnough), .done w⟩
  · rw [if_neg hEnough]
    have hNotYet : ¬ count ≤ (Capture.historyOf trackers tracker w.handled).length :=
      fun h => hEnough (hNow.mpr h)
    let enough (handled : List String) : Prop :=
      count ≤ (Capture.historyOf trackers tracker handled).length
    have hEnds : World.EndsAtLeast enough (w.now + timeout) w.pending w
        (World.awaitBy (w.now + timeout)
          (fun v => isEnough (.int count) (v.recorded tracker)) w) :=
      World.awaitIn_least hHolds hw hDeadline hNotYet
    have hCourse := World.awaitBy_course (w.now + timeout)
      (fun v => isEnough (.int count) (v.recorded tracker)) w
    generalize World.awaitBy (w.now + timeout)
      (fun v => isEnough (.int count) (v.recorded tracker)) w = after at *
    obtain ⟨reached, v⟩ := after
    refine ⟨reached, v, ?_, hEnds, hCourse⟩
    cases reached <;> rfl

/-- **How a wait for requests ends**, after any operations on the captured requests. Let the
batches that are due then be due later and at distinct times, the tracker be watched, and the
timeout be positive with a finite thousandth. If the tracker has enough requests at some time
up to the deadline, the wait ends at the least such time and gives how many there are then.
Otherwise it ends at the deadline with an error that says how many there are, unless the count
that was asked for has too many digits to be written into its text. Either way exactly the
batches due by then have been handled, the others are due still, and a further request is
recorded behind them. -/
theorem awaitRequests_least (trackers : List Tracker) (ops : List CaptureOp) {tracker : Text}
    (hTracker : tracker ∈ trackers.map Tracker.name) (count timeout : Int)
    (hPositive : 0 < timeout)
    (hFinite : (Binary64.ofRat false (mkRat timeout 1000)).isInfinite = false)
    (hDistinct : ((CaptureOp.playAll (.watching trackers) ops).pending.map Due.time).Nodup)
    (hDelayed : ∀ d ∈ (CaptureOp.playAll (.watching trackers) ops).pending,
      (CaptureOp.playAll (.watching trackers) ops).now < d.time) :
    let w := CaptureOp.playAll (.watching trackers) ops
    let ended : Except Failure Nat × World :=
      (RunM.awaitRequests tracker (.int count) (.int timeout)).run w
    let enough := {t : ℚ | w.now ≤ t ∧ t ≤ w.now + timeout ∧ count ≤ w.countBy tracker t}
    (enough.Nonempty →
      IsLeast enough ended.2.now ∧ ended.1 = .ok (w.countBy tracker ended.2.now)) ∧
    (¬ enough.Nonempty →
      ended.2.now = w.now + timeout ∧ w.countBy tracker ended.2.now < count ∧
      ended.1 = .error (
        if count.natAbs < digitBound then
          .step (.captureTimeout tracker (.int count) (w.countBy tracker ended.2.now)
            (.int timeout))
        else .crash .tooLongToWrite)) ∧
    ended.2.pending = w.pending.filter (fun d => ended.2.now < d.time) ∧
    ∀ name ∈ trackers.map Tracker.name,
      ended.2.capture.requests name =
        .ok (Capture.historyOf trackers name (w.handled ++ w.dueBy ended.2.now)) ∧
      ∀ url, (ended.2.fire url).capture.requests name =
        .ok (Capture.historyOf trackers name (w.handled ++ w.dueBy ended.2.now ++ [url])) := by
  intro w ended enough
  have hBound : timeout.natAbs < 1000 * Binary64.overflow := by
    rw [← Bool.not_eq_true, RunM.thousandth_isInfinite_iff] at hFinite
    exact Nat.lt_of_not_le hFinite
  have hw := World.waiting_playAll trackers ops hDistinct hDelayed
  obtain ⟨reached, v, hRun, hEnds, hCourse⟩ :=
    RunM.awaitRequests_ends hw hTracker count hPositive hBound
  have hFaithful : v.Faithful := hCourse.faithful hw.faithful
  have hTrackers : v.capture.trackers = trackers := hCourse.frame.trackers.trans hw.trackers_eq
  -- everything that is counted is read off the history of what was handled
  have hHandled : v.handled = w.handled ++ w.dueBy v.now := hEnds.handled
  have hCount (t : ℚ) : w.countBy tracker t =
      (Capture.historyOf trackers tracker (w.handled ++ w.dueBy t)).length := by
    rw [World.countBy, hw.trackers_eq]
  have hRecorded : v.recorded tracker = w.countBy tracker v.now := by
    rw [hFaithful.recorded_eq hTrackers hTracker, hCount, hHandled]
  -- the same set of times, with the count written out as the length of the history
  have hEnough : enough = {t : ℚ | w.now ≤ t ∧ t ≤ w.now + timeout ∧
      count ≤ (Capture.historyOf trackers tracker (w.handled ++ w.dueBy t)).length} := by
    simp only [enough, hCount]
  have hEnded : ended = (if reached then .ok (w.countBy tracker v.now)
      else .error (RunM.missed tracker count (w.countBy tracker v.now) timeout), v) :=
    hRecorded ▸ hRun
  rw [hEnded]
  refine ⟨fun hSome => ?_, fun hNone => ?_, hEnds.pending_eq, fun name hName => ⟨?_, fun url => ?_⟩⟩
  · -- had the wait missed its deadline, there would be no such time
    cases reached with
    | true => exact ⟨hEnough ▸ hEnds.reached rfl, rfl⟩
    | false =>
      obtain ⟨t, ht⟩ := hSome
      rw [hEnough] at ht
      exact absurd ht.2.2 ((hEnds.missed rfl).2 t ht.2.1)
  · cases reached with
    | true => exact absurd ⟨v.now, hEnough ▸ (hEnds.reached rfl).1⟩ hNone
    | false =>
      obtain ⟨hNow, hMissed⟩ := hEnds.missed rfl
      refine ⟨hNow, ?_, rfl⟩
      rw [hCount]
      exact not_le.mp (hMissed v.now hNow.le)
  · have hKnown : name ∈ v.capture.trackers.map Tracker.name := by rwa [hTrackers]
    have hRequests := hFaithful.requests_eq hKnown
    rwa [hTrackers, hHandled] at hRequests
  · -- the page is still watched, so the request is handled
    have hFired : (v.fire url).handled = v.handled ++ [url] := by
      have hHandlers : v.handlers = 1 := hCourse.frame.handlers.trans hw.handlers
      rw [World.fire_eq_handle hHandlers, World.handled_handle]
    have hSame : (v.fire url).capture.trackers = trackers :=
      (World.fire_course v url).frame.trackers.trans hTrackers
    have hKnown : name ∈ (v.fire url).capture.trackers.map Tracker.name := by rwa [hSame]
    have hRequests := ((World.fire_course v url).faithful hFaithful).requests_eq hKnown
    rwa [hSame, hFired, hHandled] at hRequests

/-- A wait for two requests, one of which has been sent: the batch that brings the second one
brings a third, and the batch in front of it is for no tracker. -/
theorem awaitRequests_least_in_batch :
    let trackers : List Tracker := [⟨"ga", "collect", false⟩]
    let ops : List CaptureOp := [.fire "https://x/collect?a=1",
      .later 30 ["https://x/collect?b=2", "https://x/collect?c=3"], .later 10 ["https://y/"],
      .sleep 5]
    let w := CaptureOp.playAll (.watching trackers) ops
    Text.whole "ga" ∈ trackers.map Tracker.name ∧
      (Binary64.ofRat false (mkRat 100 1000)).isInfinite = false ∧
      (w.pending.map Due.time).Nodup ∧ (∀ d ∈ w.pending, w.now < d.time) ∧
      IsLeast {t : ℚ | w.now ≤ t ∧ t ≤ w.now + (100 : Int) ∧ (2 : Int) ≤ w.countBy "ga" t} 30 ∧
      ((RunM.awaitRequests "ga" (.int 2) (.int 100)).run w).1 = .ok 3 := by
  intro trackers ops w
  have hTracker : Text.whole "ga" ∈ trackers.map Tracker.name := by decide
  have hFinite : (Binary64.ofRat false (mkRat 100 1000)).isInfinite = false := by decide +kernel
  have hDistinct : (w.pending.map Due.time).Nodup := by decide +kernel
  have hDelayed : ∀ d ∈ w.pending, w.now < d.time := by decide +kernel
  obtain ⟨hReached, -⟩ := awaitRequests_least trackers ops hTracker 2 100 (by decide) hFinite
    hDistinct hDelayed
  -- at 30 two requests come at once, which makes three of them where two were asked for
  have hEnough : w.now ≤ 30 ∧ 30 ≤ w.now + (100 : Int) ∧ (2 : Int) ≤ w.countBy "ga" 30 := by
    decide +kernel
  obtain ⟨hLeast, hResult⟩ := hReached ⟨30, hEnough⟩
  have hNow : ((RunM.awaitRequests "ga" (.int 2) (.int 100)).run w).2.now = 30 := by
    decide +kernel
  have hThree : w.countBy "ga" 30 = 3 := by decide +kernel
  rw [hNow] at hLeast hResult
  rw [hThree] at hResult
  exact ⟨hTracker, hFinite, hDistinct, hDelayed, hLeast, hResult⟩

/-- A wait for more requests than can be written misses its deadline, and the error that would
say so cannot be built. -/
theorem no_timeout_for_long_count :
    let w := CaptureOp.playAll (.watching [⟨"ga", "collect", false⟩]) []
    let ended := (RunM.awaitRequests "ga" (.int digitBound) (.int 5)).run w
    ended.1 = .error (.crash .tooLongToWrite) ∧ ended.2.now = w.now + 5 ∧
      w.countBy "ga" (w.now + 5) < digitBound ∧
      ∀ captured, ended.1 ≠ .error (.step (.captureTimeout "ga" (.int digitBound) captured
        (.int 5))) := by
  intro w ended
  have hCrash : ended.1 = .error (.crash .tooLongToWrite) := by decide +kernel
  refine ⟨hCrash, by decide +kernel, by decide +kernel, fun captured h => ?_⟩
  rw [hCrash] at h
  cases h

end BeaconCheck
