import BeaconCheck.Proofs.Capture.Store
import BeaconCheck.Proofs.Computation

/-!
# Courses of a world

Whatever a run does to a world is made of a few small changes: a record in the log, a call
with its answer, a request that is handled or ignored, an entry pushed to a layer, a tick
of the clock. `World.Change` lists them, and a `World.Course` is a sequence of them that
remembers the calls with their answers. What holds of the world in every state of a run is
then shown once for each change (`Course.invariant`), whatever the run does.

* `World.call_course`      — a call either fails as the script says, or is answered.
* `World.awaitBy_course`   — letting time pass makes no call.
* `World.Course.calls_eq`  — the trace has exactly the calls of the course.
* `World.Course.answered`  — the answers are those that the script of the page has.
* `World.Course.frame`     — what a course leaves alone.
-/

namespace BeaconCheck

/-- A call with the failure that it ended in, if any. -/
structure AnsweredCall where
  call : Call
  failure : Option BrowserError
deriving DecidableEq, Repr

/-! ## What a trace and a script say about calls -/

/-- The call of an entry. -/
def TraceEntry.call? : TraceEntry → Option Call
  | .call c => some c
  | .request .. => none

/-- The calls on record, without the requests between them. -/
def World.calls (w : World) : List Call :=
  w.trace.filterMap TraceEntry.call?

namespace Page

/-- The scripted failures that are left after a call. -/
def failuresAfter (c : Call) (failures : List ScriptedFailure) : List ScriptedFailure :=
  ((failAt c failures).map Prod.snd).getD failures

/-- The scripted failures that are left after some calls. -/
def failuresAfterAll (failures : List ScriptedFailure) (cs : List Call) :
    List ScriptedFailure :=
  cs.foldl (fun left c => failuresAfter c left) failures

/-- The calls with the failures that the script has for them when they are made in turn. -/
def answersTo : List ScriptedFailure → List Call → List AnsweredCall
  | _, [] => []
  | failures, c :: rest =>
    ⟨c, (failAt c failures).map Prod.fst⟩ :: answersTo (failuresAfter c failures) rest

/-- What a page answers to calls in turn, it answers to the first ones, and then to the rest with
the failures that are left. -/
theorem answersTo_append (failures : List ScriptedFailure) (cs rest : List Call) :
    answersTo failures (cs ++ rest) =
      answersTo failures cs ++ answersTo (failuresAfterAll failures cs) rest := by
  induction cs generalizing failures with
  | nil => rfl
  | cons c cs ih =>
    rw [List.cons_append, answersTo, ih, answersTo]
    rfl

/-- The failures that are left behind calls in turn. -/
theorem failuresAfterAll_append (failures : List ScriptedFailure) (cs rest : List Call) :
    failuresAfterAll failures (cs ++ rest) =
      failuresAfterAll (failuresAfterAll failures cs) rest :=
  List.foldl_append

end Page

namespace World

/-! ## Changes and courses -/

/-- The world with other scripted failures left. -/
def withFailures (w : World) (failures : List ScriptedFailure) : World :=
  { w with page := { w.page with failures } }

/-- One small change of a world while a session is open, with the call in it. -/
inductive Change : World → List AnsweredCall → World → Prop
  | logged (w : World) (records : List LogRecord) : Change w [] (w.addLog records)
  | answered {w : World} {c : Call} (h : Page.failAt c w.page.failures = none) :
      Change w [⟨c, none⟩] (w.addTrace (.call c))
  | failed {w : World} {c : Call} {e : BrowserError} {left : List ScriptedFailure}
      (h : Page.failAt c w.page.failures = some (e, left)) :
      Change w [⟨c, some e⟩] ((w.addTrace (.call c)).withFailures left)
  | handled {w : World} (h : w.handlers ≠ 0) (url : String) : Change w [] (w.handle url)
  | ignored {w : World} (h : w.handlers = 0) (url : String) :
      Change w [] (w.addTrace (.request url none))
  | pushed (w : World) (pushes : List (Text × Value)) : Change w [] (w.pushAll pushes)
  | timed (w : World) (now : Rat) (pending : List Due) : Change w [] { w with now, pending }

/-- A sequence of changes, with the calls that were made in it. -/
inductive Course : World → List AnsweredCall → World → Prop
  | done (w : World) : Course w [] w
  | next {w w' w'' : World} {made rest : List AnsweredCall} (first : Change w made w')
      (others : Course w' rest w'') : Course w (made ++ rest) w''

namespace Course

variable {w w' w'' : World} {made more : List AnsweredCall}

theorem one (h : Change w made w') : Course w made w' := by
  simpa using next h (done w')

/-- A course can go on with another one. -/
theorem trans (h : Course w made w') (h' : Course w' more w'') :
    Course w (made ++ more) w'' := by
  induction h with
  | done => exact h'
  | next first _ ih =>
    rw [List.append_assoc]
    exact next first (ih h')

/-- Courses in turn, the first of which makes no call. -/
theorem after (h : Course w [] w') (h' : Course w' more w'') : Course w more w'' :=
  trans h h'

/-- Courses in turn, the second of which makes no call. -/
theorem andThen (h : Course w made w') (h' : Course w' [] w'') : Course w made w'' := by
  simpa using trans h h'

/-- **What every change keeps holds along a course.** -/
theorem invariant {P : World → Prop}
    (hKept : ∀ {w made w'}, Change w made w' → P w → P w') (h : Course w made w')
    (hw : P w) : P w' := by
  induction h with
  | done => exact hw
  | next first _ ih => exact ih (hKept first hw)

end Course

/-! ## What a course leaves alone -/

@[simp] theorem handle_handlers (w : World) (url : String) :
    (w.handle url).handlers = w.handlers := rfl

@[simp] theorem handle_capture (w : World) (url : String) :
    (w.handle url).capture = (w.capture.receive url).1 := rfl

@[simp] theorem handle_trace (w : World) (url : String) :
    (w.handle url).trace = w.trace ++ [.request url (some (w.capture.action url))] := rfl

/-- The parts of a world that stay the same while a session is open. -/
structure SameSession (w w' : World) : Prop where
  handlers : w'.handlers = w.handlers
  held : w'.held = w.held
  closed : w'.closed = w.closed
  trackers : w'.capture.trackers = w.capture.trackers

theorem SameSession.refl (w : World) : SameSession w w := ⟨rfl, rfl, rfl, rfl⟩

/-- To have the same session is transitive. -/
theorem SameSession.trans {w w' w'' : World} (h : SameSession w w')
    (h' : SameSession w' w'') : SameSession w w'' :=
  ⟨h'.handlers.trans h.handlers, h'.held.trans h.held, h'.closed.trans h.closed,
    h'.trackers.trans h.trackers⟩

/-- A change of the world leaves the session alone. -/
theorem Change.frame {w w' : World} {made : List AnsweredCall} (h : Change w made w') :
    SameSession w w' := by
  cases h with
  | handled _ url => exact ⟨rfl, rfl, rfl, Capture.receive_trackers _ url⟩
  | _ => exact ⟨rfl, rfl, rfl, rfl⟩

/-- **A course leaves the session alone**: what is attached, started and watched. -/
theorem Course.frame {w w' : World} {made : List AnsweredCall} (h : Course w made w') :
    SameSession w w' := by
  induction h with
  | done w => exact .refl w
  | next first _ ih => exact first.frame.trans ih

/-! ## The calls of a course -/

/-- The calls of a change are recorded at the end of the trace. -/
theorem Change.calls_eq {w w' : World} {made : List AnsweredCall} (h : Change w made w') :
    w'.calls = w.calls ++ made.map AnsweredCall.call := by
  cases h <;> simp [calls, addLog, addTrace, withFailures, pushAll, TraceEntry.call?]

/-- **The trace has exactly the calls of the course**, in their order. -/
theorem Course.calls_eq {w w' : World} {made : List AnsweredCall} (h : Course w made w') :
    w'.calls = w.calls ++ made.map AnsweredCall.call := by
  induction h with
  | done w => simp
  | next first _ ih => rw [ih, first.calls_eq, List.map_append, List.append_assoc]

/-- The calls of a change are answered as the page has it. -/
theorem Change.answered_eq {w w' : World} {made : List AnsweredCall} (h : Change w made w') :
    Page.answersTo w.page.failures (made.map AnsweredCall.call) = made ∧
      Page.failuresAfterAll w.page.failures (made.map AnsweredCall.call) = w'.page.failures := by
  cases h with
  | answered h => simp [Page.answersTo, Page.failuresAfterAll, Page.failuresAfter, h, addTrace]
  | failed h =>
    simp [Page.answersTo, Page.failuresAfterAll, Page.failuresAfter, h, withFailures]
  | _ => exact ⟨rfl, rfl⟩

/-- **The calls of a course are answered as the script says.** -/
theorem Course.answered_eq {w w' : World} {made : List AnsweredCall} (h : Course w made w') :
    Page.answersTo w.page.failures (made.map AnsweredCall.call) = made ∧
      Page.failuresAfterAll w.page.failures (made.map AnsweredCall.call) = w'.page.failures := by
  induction h with
  | done w => exact ⟨rfl, rfl⟩
  | next first _ ih =>
    obtain ⟨hFirst, hLeft⟩ := first.answered_eq
    rw [List.map_append, Page.answersTo_append, Page.failuresAfterAll_append, hLeft, hFirst,
      ih.1, ih.2]
    exact ⟨rfl, rfl⟩

/-! ## What the page does by itself -/

/-- A request that is handled makes no call, however often it is handled. -/
theorem handleTimes_course (url : String) (n : Nat) :
    ∀ {w : World}, w.handlers ≠ 0 → Course w [] (handleTimes url n w) := by
  induction n with
  | zero => intro w _; exact .done w
  | succ n ih =>
    intro w hw
    exact Course.after (.one (.handled hw url)) (ih (by simpa using hw))

/-- A request of the page makes no call. -/
theorem fire_course (w : World) (url : String) : Course w [] (w.fire url) := by
  unfold fire
  split
  · next h => exact .one (.ignored h url)
  · next h => exact handleTimes_course url w.handlers h

/-- Nor do requests in turn. -/
theorem fireAll_course (w : World) (urls : List String) : Course w [] (w.fireAll urls) := by
  induction urls generalizing w with
  | nil => exact .done w
  | cons url rest ih => exact Course.after (fire_course w url) (ih (w.fire url))

theorem happen_course (w : World) (h : Happening) : Course w [] (w.happen h) :=
  Course.after (fireAll_course w h.urls) (.one (.pushed _ h.pushes))

/-- Requests that the page sends take no time and put nothing off. -/
theorem fire_clock (w : World) (url : String) :
    (w.fire url).now = w.now ∧ (w.fire url).pending = w.pending := by
  have hTimes (n : Nat) : ∀ v : World, (handleTimes url n v).now = v.now ∧
      (handleTimes url n v).pending = v.pending := by
    induction n with
    | zero => exact fun _ => ⟨rfl, rfl⟩
    | succ n ih => exact fun v => ih (v.handle url)
  unfold fire
  split
  · exact ⟨rfl, rfl⟩
  · exact hTimes w.handlers w

/-- What happens takes no time and puts nothing off. -/
theorem happen_clock (w : World) (h : Happening) :
    (w.happen h).now = w.now ∧ (w.happen h).pending = w.pending := by
  have hFireAll (urls : List String) : ∀ v : World, (v.fireAll urls).now = v.now ∧
      (v.fireAll urls).pending = v.pending := by
    induction urls with
    | nil => exact fun _ => ⟨rfl, rfl⟩
    | cons url rest ih =>
      intro v
      obtain ⟨hNow, hPending⟩ := ih (v.fire url)
      exact ⟨hNow.trans (v.fire_clock url).1, hPending.trans (v.fire_clock url).2⟩
  exact hFireAll h.urls w

/-- What is put off makes no call. -/
theorem schedule_course (w : World) (delay : Rat) (h : Happening) :
    Course w [] (w.schedule delay h) :=
  .one (.timed w w.now _)

/-- A reaction of the page makes no call. -/
theorem react_course (w : World) (r : Reaction) : Course w [] (w.react r) := by
  unfold react
  split
  · exact happen_course w r.happening
  · exact schedule_course w _ r.happening

/-- Nor do reactions in turn. -/
theorem reactAll_course (w : World) (rs : List Reaction) : Course w [] (rs.foldl react w) := by
  induction rs generalizing w with
  | nil => exact .done w
  | cons r rest ih => exact Course.after (react_course w r) (ih (w.react r))

/-- Waiting makes no call, whatever is due meanwhile. -/
theorem awaitIn_course (deadline : Rat) (holds : World → Bool) (due : List Due) :
    ∀ w : World, Course w [] (awaitIn deadline holds due w).2 := by
  induction due with
  | nil => intro w; exact .one (.timed w _ [])
  | cons d rest ih =>
    intro w
    -- what is due first: the clock is set to its time, and it happens
    have hFirst : Course w []
        (({ w with pending := rest }.advance d.time).happen d.happening) :=
      Course.after (.one (.timed w _ rest)) (happen_course _ d.happening)
    simp only [awaitIn]
    split
    -- due by the deadline, and what is waited for holds then or does not
    · split
      · exact hFirst
      · exact Course.after hFirst (ih _)
    · exact .one (.timed w _ (d :: rest))

/-- Letting time pass makes no call, whatever is waited for. -/
theorem awaitBy_course (deadline : Rat) (holds : World → Bool) (w : World) :
    Course w [] (awaitBy deadline holds w).2 :=
  awaitIn_course deadline holds w.pending w

theorem elapse_course (w : World) (length : Rat) : Course w [] (w.elapse length) :=
  awaitBy_course _ _ w

end World

/-! ## Calls -/

namespace World

/-- The world after a call that does not fail: the page has reacted, and a pause has taken
its time. -/
def respond (w : World) (c : Call) : World :=
  let reacted := (w.page.reactionsTo c).foldl react (w.addTrace (.call c))
  match c with
  | .waitForTimeout length =>
    match length.toRat? with
    | some ms => if 0 < ms ∧ ms ≤ 3600000 then reacted.elapse ms else reacted
    | none => reacted
  | _ => reacted

end World

/-- **A call fails as the script says, or else the page responds.** -/
theorem RunM.run_call (c : Call) (w : World) :
    (RunM.call c).run w =
      match Page.failAt c w.page.failures with
      | some (e, left) => (.error (.browser e), (w.addTrace (.call c)).withFailures left)
      | none => (.ok (), w.respond c) := by
  simp only [RunM.call, run_bind, run_modify, run_get, World.addTrace]
  cases Page.failAt c w.page.failures with
  | some p => rfl
  | none =>
    simp only [run_bind, run_set, World.respond]
    -- only a call that waits lets time pass, and only where its length is a number
    cases c with
    | waitForTimeout length =>
      simp only []
      cases length.toRat? with
      | none => rfl
      | some ms =>
        simp only []
        split <;> rfl
    | _ => rfl

namespace World

/-- A call that succeeds is the one that it makes. -/
theorem respond_course {w : World} {c : Call} (h : Page.failAt c w.page.failures = none) :
    Course w [⟨c, none⟩] (w.respond c) := by
  -- the answer is the only call: reactions and the time of a pause make none
  have hReacted : Course w [⟨c, none⟩]
      ((w.page.reactionsTo c).foldl react (w.addTrace (.call c))) :=
    Course.andThen (.one (.answered h)) (reactAll_course _ _)
  unfold respond
  split
  · split
    · split
      · exact Course.andThen hReacted (elapse_course _ _)
      · exact hReacted
    · exact hReacted
  · exact hReacted

end World

end BeaconCheck
