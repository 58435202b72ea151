import BeaconCheck.Proofs.Capture.History
import BeaconCheck.Proofs.Run.Await

/-!
# Operations on captured requests

Everything that can be done with the captured requests of a page, in any order: requests
are sent, at once or later in batches, time passes, requests are waited for, read, counted
and matched. Whatever was done, the list of a name is the history of the requests that were
handled, and every request that was sent is either handled once or still due.

* `CaptureOp`            — the operations.
* `CaptureOp.playAll`    — operations in turn, on a page that is watched from the start.
* `requests_of_playAll`  — the lists, the actions and the requests after any operations.
-/

namespace BeaconCheck

/-- Something that is done with captured requests. -/
inductive CaptureOp where
  /-- The page sends a request. -/
  | fire (url : String)
  /-- The page is going to send some requests at once, after a delay. -/
  | later (delay : Rat) (urls : List String)
  /-- Time passes. -/
  | sleep (length : Rat)
  /-- A tracker is to have a number of requests. -/
  | await (tracker : Text) (count timeout : Number)
  /-- The requests of a tracker are read. -/
  | requests (tracker : Text)
  /-- The requests of a tracker are counted. -/
  | count (tracker : Text)
  /-- The requests of a tracker are matched with a pattern. -/
  | check (tracker key pattern : Text) (any : Bool)

namespace CaptureOp

/-- Looks at the world. What is seen is left out. -/
def look {α : Type} (f : World → Except Failure α) : RunM Unit := do
  discard (RunM.result (f (← get)))

/-- Does an operation. What it answers is left out. -/
def run : CaptureOp → RunM Unit
  | .fire url => modify fun w => w.handle url
  | .later delay urls => modify fun w => w.schedule delay { urls }
  | .sleep length => modify fun w => w.elapse length
  | .await tracker wanted timeout => discard (RunM.awaitRequests tracker wanted timeout)
  | .requests tracker => look fun w => (w.capture.requests tracker).mapError .assertion
  | .count tracker => look fun w => (w.capture.count tracker).mapError .assertion
  | .check tracker key pattern any => look fun w =>
    w.capture.matchesRequest tracker key pattern any

/-- The world after an operation, whether or not it failed. -/
def play (w : World) (op : CaptureOp) : World :=
  (op.run.run w).2

/-- The world after some operations. -/
def playAll (w : World) (ops : List CaptureOp) : World :=
  ops.foldl play w

/-- The requests that an operation sends or is going to send. -/
def urls : CaptureOp → List String
  | .fire url => [url]
  | .later _ urls => urls
  | _ => []

/-- The operation only looks, or puts off. -/
def isPassive : CaptureOp → Bool
  | .later .. | .requests _ | .count _ | .check .. => true
  | _ => false

end CaptureOp

namespace World

/-- A page that is watched for some trackers and has not sent a request. -/
def watching (trackers : List Tracker) : World where
  handlers := 1
  capture := .ofTrackers trackers

/-- The requests that are due, in the order in which they will be sent. -/
def due (w : World) : List String :=
  w.pending.flatMap fun d => d.happening.urls

/-! ## Every request is handled once -/

/-- Where one listener is there, a request is handled once. -/
theorem fire_eq_handle {w : World} (hw : w.handlers = 1) (url : String) :
    w.fire url = w.handle url := by
  unfold fire
  rw [if_neg (by omega), hw]
  rfl

/-- Requests in turn are all handled. -/
theorem fireAll_handled {w : World} (hw : w.handlers = 1) (urls : List String) :
    (w.fireAll urls).handled = w.handled ++ urls := by
  induction urls generalizing w with
  | nil => simp [fireAll]
  | cons url rest ih =>
    show ((w.fire url).fireAll rest).handled = _
    rw [fire_eq_handle hw, ih (by simpa using hw), handled_handle, List.append_assoc]
    rfl

/-- What happens sends its requests to the listener. -/
theorem happen_handled {w : World} (hw : w.handlers = 1) (h : Happening) :
    (w.happen h).handled = w.handled ++ h.urls :=
  fireAll_handled hw h.urls

/-- What was due is handled in its order or is due still. -/
theorem awaitIn_handled (deadline : Rat) (holds : World → Bool) (pending : List Due) :
    ∀ {w : World}, w.handlers = 1 →
      (awaitIn deadline holds pending w).2.handled ++ (awaitIn deadline holds pending w).2.due =
        w.handled ++ pending.flatMap fun d => d.happening.urls := by
  induction pending with
  | nil => intro w _; rfl
  | cons d rest ih =>
    intro w hw
    -- the world at the time of what is due first, before it happens
    let atDue : World := { w with pending := rest }.advance d.time
    have hAtDue : atDue.handlers = 1 := hw
    have hHappened : (atDue.happen d.happening).handled = w.handled ++ d.happening.urls :=
      happen_handled hAtDue d.happening
    simp only [awaitIn]
    split
    · split
      -- the wait ends here, and the rest is due still
      · show (atDue.happen d.happening).handled ++ (atDue.happen d.happening).due = _
        rw [hHappened, due, (happen_clock atDue _).2, List.flatMap_cons, List.append_assoc]
        rfl
      -- the wait goes on in a world that is watched in the same way
      · have hNext : (atDue.happen d.happening).handlers = 1 := by
          rw [(happen_course atDue d.happening).frame.handlers, hAtDue]
        rw [ih hNext, List.flatMap_cons, ← List.append_assoc]
        exact congrArg (· ++ _) hHappened
    · rfl

/-- While waiting, what was due is handled in order. -/
theorem awaitBy_handled {w : World} (hw : w.handlers = 1) (deadline : Rat)
    (holds : World → Bool) :
    (awaitBy deadline holds w).2.handled ++ (awaitBy deadline holds w).2.due =
      w.handled ++ w.due :=
  awaitIn_handled deadline holds w.pending hw

/-- To put something off is to add it to what is pending. -/
theorem insertDue_perm (d : Due) (pending : List Due) :
    (insertDue d pending).Perm (d :: pending) := by
  induction pending with
  | nil => exact .refl _
  | cons e rest ih =>
    simp only [insertDue]
    split
    · exact .refl _
    · exact (ih.cons e).trans (.swap d e rest)

end World

namespace CaptureOp

/-! ## Single operations -/

/-- Looking changes nothing. -/
theorem look_world {α : Type} (f : World → Except Failure α) (w : World) :
    ((look f).run w).2 = w := by
  rw [look, RunM.run_bind, RunM.run_get]
  simp only []
  rw [RunM.run_discard, RunM.run_result]

/-- Waiting changes the world as its run does. -/
theorem play_await (w : World) (tracker : Text) (wanted timeout : Number) :
    (CaptureOp.await tracker wanted timeout).play w =
      ((RunM.awaitRequests tracker wanted timeout).run w).2 := by
  show ((discard (RunM.awaitRequests tracker wanted timeout)).run w).2 = _
  rw [RunM.run_discard]

/-- An operation that looks or puts off leaves the capture and the trace alone. -/
theorem play_of_isPassive {op : CaptureOp} (h : op.isPassive) (w : World) :
    (op.play w).capture = w.capture ∧ (op.play w).trace = w.trace := by
  cases op with
  | later delay urls => exact ⟨rfl, rfl⟩
  | requests tracker => simp [play, run, look_world]
  | count tracker => simp [play, run, look_world]
  | check tracker key pattern any => simp [play, run, look_world]
  | _ => cases h

/-- An operation makes no call to the browser. -/
theorem play_course {w : World} (hw : w.handlers ≠ 0) (op : CaptureOp) :
    World.Course w [] (op.play w) := by
  -- an operation that only looks leaves the world as it is
  cases op with
  | fire url => exact .one (.handled hw url)
  | later delay urls => exact World.schedule_course w delay _
  | sleep length => exact World.elapse_course w length
  | await tracker wanted timeout =>
    rw [play_await]
    exact RunM.awaitRequests_course tracker wanted timeout w
  | _ =>
    rw [play, run, look_world]
    exact .done w

/-- What an operation sends is handled once, now or when it is due. -/
theorem play_perm {w : World} (hw : w.handlers = 1) (op : CaptureOp) :
    ((op.play w).handled ++ (op.play w).due).Perm (w.handled ++ w.due ++ op.urls) := by
  cases op with
  | fire url =>
    show ((w.handle url).handled ++ w.due).Perm _
    rw [World.handled_handle, List.append_assoc, List.append_assoc]
    exact List.perm_append_comm.append_left w.handled
  | later delay urls =>
    -- a batch takes its place among what is due, whatever that place is
    show (w.handled ++ (World.insertDue ⟨w.now + delay, { urls }⟩ w.pending).flatMap
      fun d => d.happening.urls).Perm _
    rw [List.append_assoc]
    refine List.Perm.append_left w.handled ?_
    exact ((World.insertDue_perm _ _).flatMap_right _).trans List.perm_append_comm
  | sleep length =>
    simp only [urls, List.append_nil]
    exact .of_eq (World.awaitBy_handled hw _ _)
  | await tracker wanted timeout =>
    simp only [urls, List.append_nil, play_await]
    rcases RunM.awaitRequests_world tracker wanted timeout w with h | ⟨deadline, holds, h⟩
    · rw [h]
    · rw [h]
      exact .of_eq (World.awaitBy_handled hw deadline holds)
  | _ =>
    simp only [play, run, look_world, urls, List.append_nil]
    exact .refl _

/-! ## Operations in turn -/

/-- No operation makes a call. -/
theorem playAll_course {w : World} (hw : w.handlers ≠ 0) (ops : List CaptureOp) :
    World.Course w [] (playAll w ops) := by
  induction ops generalizing w with
  | nil => exact .done w
  | cons op rest ih =>
    have hFirst : World.Course w [] (op.play w) := play_course hw op
    exact World.Course.after hFirst (ih (by rw [hFirst.frame.handlers]; exact hw))

/-- No request gets lost: it is handled or still due. -/
theorem playAll_perm {w : World} (hw : w.handlers = 1) (ops : List CaptureOp) :
    ((playAll w ops).handled ++ (playAll w ops).due).Perm
      (w.handled ++ w.due ++ ops.flatMap urls) := by
  induction ops generalizing w with
  | nil => simp [playAll]
  | cons op rest ih =>
    -- an operation leaves the page watched once, so the others can follow
    have hNext : (op.play w).handlers = 1 := by
      rw [(play_course (by omega) op).frame.handlers, hw]
    rw [List.flatMap_cons, ← List.append_assoc]
    exact (ih hNext).trans ((play_perm hw op).append_right _)

end CaptureOp

namespace World

/-- While the page is watched no request is ignored. -/
theorem Course.not_ignored {w w' : World} {made : List AnsweredCall} (h : Course w made w')
    (hHandlers : w.handlers ≠ 0) (hw : ∀ url, .request url none ∉ w.trace) (url : String) :
    .request url none ∉ w'.trace := by
  have hKept : w'.handlers ≠ 0 ∧ ∀ url, .request url none ∉ w'.trace := by
    refine h.invariant (P := fun v => v.handlers ≠ 0 ∧ ∀ url, .request url none ∉ v.trace)
      ?_ ⟨hHandlers, hw⟩
    intro v v' made first hv
    refine ⟨by rw [first.frame.handlers]; exact hv.1, fun other => ?_⟩
    -- only a request that is ignored adds such an entry, and a watched page ignores none
    cases first with
    | ignored hNone => exact absurd hNone hv.1
    | answered | failed | handled => simp [addTrace, withFailures, hv.2 other]
    | _ => exact hv.2 other
  exact hKept.2 url

end World

/-- **The lists of captured requests after any operations.** Under the name of every
tracker there are, for the requests that were handled and in their order, as many copies of
the parameters as there are trackers that have the name and that the request is for. Every
request that was sent is handled once or is due. Each request on record has one action,
and is aborted exactly if a tracker that it is for asks for it. Handling a request does not
fail, and nothing but a request that is handled changes a list. -/
theorem requests_of_playAll (trackers : List Tracker) (ops : List CaptureOp) :
    let w := CaptureOp.playAll (World.watching trackers) ops
    (∀ name ∈ trackers.map Tracker.name,
      w.capture.requests name = .ok (Capture.historyOf trackers name w.handled) ∧
      w.capture.count name = .ok (Capture.historyOf trackers name w.handled).length) ∧
    (w.handled ++ w.due).Perm (ops.flatMap CaptureOp.urls) ∧
    (∀ entry ∈ w.trace, ∃ url action, entry = .request url (some action) ∧
      (action = .abort ↔
        ∃ t ∈ trackers, t.urlPart.letters <:+: Text.letters url ∧ t.abort = true)) ∧
    (∀ url, ((CaptureOp.fire url).run.run w).1 = .ok () ∧
      ((CaptureOp.fire url).play w).handled = w.handled ++ [url]) ∧
    ∀ op : CaptureOp,
      (∃ new, (op.play w).handled = w.handled ++ new ∧
        (new = [] → (op.play w).capture = w.capture)) ∧
      (op.isPassive → (op.play w).capture = w.capture ∧ (op.play w).trace = w.trace) := by
  intro w
  -- playing operations is a course that makes no call, from a world in which nothing has happened
  have hCourse : World.Course (World.watching trackers) [] w :=
    CaptureOp.playAll_course Nat.one_ne_zero ops
  have hFaithful : World.Faithful w := hCourse.faithful (.of_empty rfl rfl)
  have hTrackers : w.capture.trackers = trackers := hCourse.frame.trackers
  have hHandlers : w.handlers ≠ 0 := by
    rw [hCourse.frame.handlers]
    exact Nat.one_ne_zero
  refine ⟨fun name hName => ?_, ?_, fun entry hEntry => ?_, fun url => ⟨rfl, ?_⟩, fun op => ?_⟩
  · have hKnown : name ∈ w.capture.trackers.map Tracker.name := by rwa [hTrackers]
    have hRequests := hFaithful.requests_eq hKnown
    rw [hTrackers] at hRequests
    exact ⟨hRequests, by rw [Capture.count, hRequests]; rfl⟩
  · exact CaptureOp.playAll_perm rfl ops
  · -- the trace holds no calls, since a course of operations makes none
    have hCalls : w.calls = [] := hCourse.calls_eq
    cases entry with
    | call c =>
      have hMem : c ∈ w.calls := List.mem_filterMap.mpr ⟨_, hEntry, rfl⟩
      rw [hCalls] at hMem
      cases hMem
    | request url answer =>
      cases answer with
      | none =>
        exact absurd hEntry
          (hCourse.not_ignored Nat.one_ne_zero (by simp [World.watching]) url)
      | some action =>
        have hActed := hFaithful.acted url action hEntry
        rw [hTrackers] at hActed
        exact ⟨url, action, rfl, hActed⟩
  · exact World.handled_handle w url
  · exact ⟨(CaptureOp.play_course hHandlers op).capture_eq,
      fun hPassive => CaptureOp.play_of_isPassive hPassive w⟩

/-- Two trackers of one name: a request that is for both is recorded twice, and one that is
sent later once. -/
theorem requests_of_playAll_same_name :
    let trackers : List Tracker := [⟨"ga", "collect", false⟩, ⟨"ga", "", true⟩]
    let ops : List CaptureOp := [.fire "https://x/collect?a=1", .later 5 ["https://y/"],
      .sleep 10, .await "ga" (.int 9) (.int 3)]
    Text.whole "ga" ∈ trackers.map Tracker.name ∧
      (CaptureOp.playAll (World.watching trackers) ops).capture.requests "ga" =
        .ok [[("a", "1")], [("a", "1")], []] := by
  intro trackers ops
  have hName : Text.whole "ga" ∈ trackers.map Tracker.name := by decide
  have hHandled : (CaptureOp.playAll (World.watching trackers) ops).handled =
      ["https://x/collect?a=1", "https://y/"] := by decide +kernel
  -- two trackers of one name take a request twice
  have hHistory : Capture.historyOf trackers "ga" ["https://x/collect?a=1", "https://y/"] =
      [[("a", "1")], [("a", "1")], []] := by decide +kernel
  refine ⟨hName, ?_⟩
  rw [((requests_of_playAll trackers ops).1 "ga" hName).1, hHandled, hHistory]

end BeaconCheck
