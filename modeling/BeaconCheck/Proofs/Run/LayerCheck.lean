import BeaconCheck.Proofs.Run.Record
import BeaconCheck.Proofs.Run.Stepping
import BeaconCheck.Proofs.World.Schedule

/-!
# What a test step finds in the event layer

A step that checks the event layer reads the one that the options name, and nothing but what it
reads decides how the step ends. The page may react to the read like to any other call. What it
sends then is captured, and is all that the step changes in the capture.

* `anyEntryEquals_eq_ok`      — searching a layer finds an entry exactly if there is one.
* `Assertion.EndsBy`          — how a step ends by what was read.
* `Assertion.endsBy_record`   — what its assertion leaves is that.
* `Capture.takeAll`           — the capture after some requests.
* `World.capture_call`        — what a call changes in the capture.
* `Stepper.execute_layer_check` — one step that checks the event layer.
-/

namespace BeaconCheck

/-! ## Searching without a crash -/

/-- The entry has a value under the key that loosely equals the expected one. -/
def EntryMatches (key : Text) (expected entry : Value) : Prop :=
  ∃ data, entry.entries? = some data ∧
    (Value.field data key).looselyEquals expected = .ok true

/-- An entry equals what is expected exactly if it matches it. -/
theorem entryEquals_eq_true_iff {key : Text} {expected entry : Value} :
    entryEquals key expected entry = .ok true ↔ EntryMatches key expected entry := by
  unfold entryEquals EntryMatches
  cases entry.entries? with
  | none => exact iff_of_false nofun nofun
  | some data => simp only [Option.some.injEq, exists_eq_left']

/-- **Searching a list of entries** that can all be compared finds an entry exactly if there is
one. -/
theorem anyEntryEquals_eq_ok {key : Text} {expected : Value} {entries : List Value}
    (hCompared : ∀ entry ∈ entries, ∀ c, entryEquals key expected entry ≠ .error c) :
    ∃ found, anyEntryEquals key expected entries = .ok found ∧
      (found = true ↔ ∃ entry ∈ entries, EntryMatches key expected entry) := by
  -- by induction on the entries: the search stops at the first one that matches
  induction entries with
  | nil => exact ⟨false, rfl, by simp⟩
  | cons first rest ih =>
    obtain ⟨hFirst, hRest⟩ := List.forall_mem_cons.mp hCompared
    simp only [List.exists_mem_cons_iff]
    rw [anyEntryEquals, ← entryEquals_eq_true_iff]
    cases hEquals : entryEquals key expected first with
    | error c => exact absurd hEquals (hFirst c)
    | ok b =>
      cases b with
      | true => exact ⟨true, rfl, by simp⟩
      | false =>
        obtain ⟨found, hFound, hIff⟩ := ih hRest
        refine ⟨found, hFound, hIff.trans ?_⟩
        simp

/-! ## How the step ends -/

/-- What comes of reading an event layer: the failure of the browser, or what the page
returns. -/
def World.layerRead (w : World) (name : Text) : Except BrowserError Value :=
  match Page.failAt (.readLayer name) w.page.failures with
  | some (e, _) => .error e
  | none => .ok ((w.respond (.readLayer name)).page.layer name)

/-- The result of an assertion with an outcome and perhaps a message. -/
def Assertion.result (a : Assertion) (outcome : Outcome) (message : Option Text) :
    TestResult :=
  { id := a.id, name := a.name, outcome, message }

/-- How a step that looks for an expected value under a key of the event layer ends, and the
results that it adds, by what came of reading the layer. A failure that says that the page is
gone ends the run, as does one that is none of the browser's own. Any other failure is recorded
as an error, and anything but a list as a failure, both with a message. A list decides without
one: the step passes exactly if some entry has the value. -/
def Assertion.EndsBy (a : Assertion) (name key : Text) (expected : Value)
    (read : Except BrowserError Value) (ended : Except Failure Unit)
    (added : List TestResult) : Prop :=
  match read with
  | .error e =>
    if e.kind.isOwn then
      if Executor.saysClosed e then
        ended = .error (.step (.pageClosed name e.message)) ∧ added = []
      else ended = .ok () ∧ ∃ message, added = [a.result .error (some message)]
    else ended = .error (.browser e) ∧ added = []
  | .ok layer =>
    match layer.items? with
    | none => ended = .ok () ∧ ∃ message, added = [a.result .fail (some message)]
    | some entries =>
      ended = .ok () ∧ ∃ outcome, added = [a.result outcome none] ∧
        (outcome = .pass ∨ outcome = .fail) ∧
        (outcome = .pass ↔ ∃ entry ∈ entries, EntryMatches key expected entry)

section

variable {o : RunOptions} {w : World} {a : Assertion} {key : Text} {expected : Value}

/-- No entry of the layer, as it is read, crashes when it is compared with the value. -/
def World.Comparable (w : World) (name key : Text) (expected : Value) : Prop :=
  ∀ layer entries, w.layerRead name = .ok layer → layer.items? = some entries →
    ∀ entry ∈ entries, ∀ c, entryEquals key expected entry ≠ .error c

/-- **What an assertion about the event layer leaves** is decided by what is read. -/
theorem Assertion.endsBy_record (hCheck : a.check = .event key expected) {shown : Text}
    (hName : a.name.display = .ok shown) (hCompared : w.Comparable o.layerName key expected) :
    a.EndsBy o.layerName key expected (w.layerRead o.layerName)
      ((a.record o w).map fun _ => ()) (a.record o w).toOption.toList := by
  unfold World.Comparable at hCompared
  unfold EndsBy World.layerRead record at *
  rw [hName, hCheck]
  simp only [Check.verdict]
  cases hRead : Page.failAt (.readLayer o.layerName) w.page.failures with
  | some p =>
    obtain ⟨e, left⟩ := p
    simp only [Executor.unreadable]
    -- who raises the failure, and whether it says that the page is gone
    cases hOwn : e.kind.isOwn with
    | false => exact ⟨rfl, rfl⟩
    | true =>
      cases hClosed : Executor.saysClosed e with
      | true => exact ⟨rfl, rfl⟩
      | false => exact ⟨rfl, _, rfl⟩
  | none =>
    rw [hRead] at hCompared
    simp only [layerContains]
    generalize (w.respond (.readLayer o.layerName)).page.layer o.layerName = layer at *
    cases hItems : layer.items? with
    | none => exact ⟨rfl, _, rfl⟩
    | some entries =>
      obtain ⟨found, hFound, hIff⟩ := anyEntryEquals_eq_ok (hCompared layer entries rfl hItems)
      simp only []
      rw [hFound]
      refine ⟨rfl, .ofBool found, rfl, Capture.ofBool_cases found, ?_⟩
      rw [Capture.ofBool_eq_pass, hIff]

end

/-! ## What the capture takes -/

namespace Capture

/-- The capture takes requests, each a number of times. -/
def takeAll (times : Nat) (c : Capture) (urls : List String) : Capture :=
  urls.foldl (fun c url => (fun c => (c.receive url).1)^[times] c) c

theorem takeAll_nil (times : Nat) (c : Capture) : c.takeAll times [] = c := rfl

/-- Requests are taken one after the other. -/
theorem takeAll_append (times : Nat) (c : Capture) (urls more : List String) :
    c.takeAll times (urls ++ more) = (c.takeAll times urls).takeAll times more :=
  List.foldl_append

end Capture

namespace World

/-- A request that the page sends is taken as often as the page is watched. -/
theorem capture_fire (w : World) (url : String) :
    (w.fire url).capture = w.capture.takeAll w.handlers [url] := by
  -- by induction on the handlers, each of which receives the request once
  have hTimes (n : Nat) : ∀ v : World, (handleTimes url n v).capture =
      (fun c : Capture => (c.receive url).1)^[n] v.capture := by
    induction n with
    | zero => exact fun _ => rfl
    | succ n ih => exact fun v => ih (v.handle url)
  unfold fire
  split
  · next h =>
    rw [h]
    rfl
  · exact hTimes w.handlers w

/-- The page's requests reach the capture as often as it listens. -/
theorem capture_fireAll (w : World) (urls : List String) :
    (w.fireAll urls).capture = w.capture.takeAll w.handlers urls := by
  induction urls generalizing w with
  | nil => rfl
  | cons url rest ih =>
    have hHandlers : (w.fire url).handlers = w.handlers := (fire_course w url).frame.handlers
    show ((w.fire url).fireAll rest).capture = _
    rw [ih, hHandlers, capture_fire, ← Capture.takeAll_append]
    rfl

/-- So do those of a reaction. -/
theorem capture_react (w : World) (r : Reaction) :
    (w.react r).capture = w.capture.takeAll w.handlers r.sent := by
  unfold react Reaction.sent
  cases r.delay with
  | none => exact capture_fireAll w r.happening.urls
  | some delay => rfl

/-- So do those of reactions in turn. -/
theorem capture_reactAll (w : World) (rs : List Reaction) :
    (rs.foldl react w).capture = w.capture.takeAll w.handlers (rs.flatMap Reaction.sent) := by
  induction rs generalizing w with
  | nil => rfl
  | cons r rest ih =>
    have hHandlers : (w.react r).handlers = w.handlers := (react_course w r).frame.handlers
    rw [List.foldl_cons, ih, hHandlers, capture_react, List.flatMap_cons, Capture.takeAll_append]

/-- The requests that a page sends at once in reaction to a call that is made: none if the call
fails. -/
def sentInReaction (w : World) (c : Call) : List String :=
  match Page.failAt c w.page.failures with
  | some _ => []
  | none => w.page.sentAtOnce c

/-- **What a call changes in the capture**, if it is no pause: the capture takes the requests
that the page sends at once. -/
theorem capture_call (w : World) {c : Call} (hc : c.isPause = false) :
    ((RunM.call c).run w).2.capture = w.capture.takeAll w.handlers (w.sentInReaction c) := by
  rw [RunM.run_call, sentInReaction]
  cases Page.failAt c w.page.failures with
  | some p => rfl
  | none =>
    -- the call is none that waits, so that nothing but its reactions happens
    have hRespond : w.respond c =
        (w.page.reactionsTo c).foldl react (w.addTrace (.call c)) := by
      cases c <;> first | rfl | cases hc
    show (w.respond c).capture = _
    rw [hRespond, capture_reactAll]
    rfl

/-- A call is on record once it is made, whatever comes of it. -/
theorem calls_call (w : World) (c : Call) :
    ((RunM.call c).run w).2.calls = w.calls ++ [c] := by
  rw [RunM.run_call]
  cases h : Page.failAt c w.page.failures with
  | some p => exact (Course.one (.failed h)).calls_eq
  | none => exact (respond_course h).calls_eq

end World

/-! ## The world behind the step -/

theorem World.addLog_nil (w : World) : w.addLog [] = w := by
  rw [addLog, List.append_nil]

/-- The log grows at its end. -/
theorem World.addLog_addLog (w : World) (records more : List LogRecord) :
    (w.addLog records).addLog more = w.addLog (records ++ more) := by
  simp only [addLog, List.append_assoc]

namespace Executor

variable (o : RunOptions)

/-- Reading the event layer is one call. -/
theorem run_readLayer_world (w : World) :
    ((⟨o, true⟩ : Executor).readLayer.run w).2 = ((RunM.call (.readLayer o.layerName)).run w).2 := by
  have hCall : (⟨o, true⟩ : Executor).call (.readLayer o.layerName) =
      RunM.call (.readLayer o.layerName) := rfl
  unfold readLayer
  rw [RunM.run_bind, RunM.run_tryCatch]
  simp only [hCall]
  rcases (RunM.call (.readLayer o.layerName)).run w with ⟨f | _, v⟩
  · cases f <;> rfl
  · rfl

/-- A check of the event layer changes nothing else but the log. -/
theorem run_outcome_world (shown : Text) (key : Text) (expected : Value) (w : World) :
    ∃ records, (((⟨o, true⟩ : Executor).outcome shown (.event key expected)).run w).2 =
      ((RunM.call (.readLayer o.layerName)).run w).2.addLog records := by
  have hRead := run_readLayer_world o w
  -- behind the reading of the layer nothing but a line of the log is added to the world
  rw [← hRead, outcome, RunM.run_tryCatch, RunM.run_bind, holds, RunM.run_bind]
  rcases (⟨o, true⟩ : Executor).readLayer.run w with ⟨f | layer, v⟩
  · -- an error of the assertion is logged
    cases f with
    | assertion e => exact ⟨_, rfl⟩
    | _ => exact ⟨[], v.addLog_nil.symm⟩
  · simp only [RunM.run_result]
    rcases layerContains layer key expected o.layerName with f | found
    · cases f with
      | assertion e => exact ⟨_, rfl⟩
      | _ => exact ⟨[], v.addLog_nil.symm⟩
    · exact ⟨[], v.addLog_nil.symm⟩

/-- **The world behind a step that checks the event layer** is the one behind the read, except
for the log. -/
theorem execute_event_world {a : Assertion} {key : Text} {expected : Value}
    (hCheck : a.check = .event key expected) {shown : Text}
    (hName : a.name.display = .ok shown) (index : Int) (w : World) :
    ∃ before after, (((⟨o, true⟩ : Executor).execute index (.check a)).run w).2 =
      ((RunM.call (.readLayer o.layerName)).run (w.addLog before)).2.addLog after := by
  refine ⟨[⟨.info, "Testing: " ++ shown⟩], ?_⟩
  rw [execute, RunM.run_bind, evaluate, RunM.run_bind, RunM.run_safely, hName]
  simp only [RunM.mapError_ok]
  rw [RunM.run_bind, RunM.run_log]
  simp only [hCheck]
  obtain ⟨records, hOutcome⟩ := run_outcome_world o shown key expected
    (w.addLog [⟨.info, "Testing: " ++ shown⟩])
  rw [RunM.run_bind]
  rcases hRun : ((⟨o, true⟩ : Executor).outcome shown (.event key expected)).run
    (w.addLog [⟨.info, "Testing: " ++ shown⟩]) with ⟨f | p, v⟩
  · rw [hRun] at hOutcome
    exact ⟨records, hOutcome⟩
  · rw [hRun] at hOutcome
    obtain rfl : v = _ := hOutcome
    -- the outcome is logged as well
    refine ⟨records ++ [⟨.info, "Test '" ++ shown ++ s!"': {p.1.text}"⟩], ?_⟩
    rw [← World.addLog_addLog]
    rfl

end Executor

/-! ## One step -/

/-- **What a step that checks the event layer does.** Take any results so far and any world, and
a step that looks for an expected value under a key of the layer. Its name can be written, and
no entry of the layer crashes when it is compared with the value. Then the step makes one call,
which reads the layer that the options name, and ends by what is read: it adds one result behind
the earlier ones, or ends the run and adds none. The capture takes the requests that the page
sends at once in reaction to the read, and stays as it was if there are none. -/
theorem Stepper.execute_layer_check {o : RunOptions} {earlier : List TestResult} (index : Int)
    {w : World} {a : Assertion} {key shown : Text} {expected : Value}
    (hCheck : a.check = .event key expected) (hName : a.name.display = .ok shown)
    (hCompared : w.Comparable o.layerName key expected) :
    let (ended, s', after) := (⟨⟨o, true⟩, earlier⟩ : Stepper).execute index (.check a) w
    let sent := w.sentInReaction (.readLayer o.layerName)
    (∃ added, s'.results = earlier ++ added ∧
      a.EndsBy o.layerName key expected (w.layerRead o.layerName) ended added) ∧
    after.calls = w.calls ++ [.readLayer o.layerName] ∧
    after.capture = w.capture.takeAll w.handlers sent ∧
    (sent = [] → after.capture = w.capture) := by
  have hEnds := Assertion.endsBy_record hCheck hName hCompared
  have hRecord := Executor.execute_check o index w a
  obtain ⟨before, behind, hWorld⟩ := Executor.execute_event_world o hCheck hName index w
  have hCalls := World.calls_call (w.addLog before) (.readLayer o.layerName)
  have hCapture := World.capture_call (w.addLog before) (c := .readLayer o.layerName) rfl
  rw [Stepper.execute]
  rcases hRun : ((⟨o, true⟩ : Executor).execute index (.check a)).run w with ⟨r, v⟩
  rw [hRun] at hRecord hWorld
  obtain rfl : r = _ := hRecord
  obtain rfl : v = _ := hWorld
  -- the log is neither among the calls nor in the capture
  have hLeft : (((RunM.call (.readLayer o.layerName)).run (w.addLog before)).2.addLog
      behind).capture = w.capture.takeAll w.handlers
        (w.sentInReaction (.readLayer o.layerName)) := hCapture
  have hUnchanged (h : w.sentInReaction (.readLayer o.layerName) = []) :
      (((RunM.call (.readLayer o.layerName)).run (w.addLog before)).2.addLog behind).capture =
        w.capture := by
    rw [hLeft, h, Capture.takeAll_nil]
  cases hLeaves : a.record o w with
  | error f =>
    rw [hLeaves] at hEnds
    exact ⟨⟨[], (List.append_nil _).symm, hEnds⟩, hCalls, hLeft, hUnchanged⟩
  | ok result =>
    rw [hLeaves] at hEnds
    exact ⟨⟨[result], rfl, hEnds⟩, hCalls, hLeft, hUnchanged⟩

/-- A layer with an entry that is no object, one without the key and one with a text for the
number: the step passes, behind an earlier result. -/
theorem Stepper.execute_layer_check_mixed :
    let layer : Value := .list [.int 3, .ofFields [], .ofFields [("v", .text "1")]]
    let w : World := .before { layers := [("dataLayer", layer)] } {}
    let a : Assertion := { id := .int 2, name := .text "value", check := .event "v" (.int 1) }
    let first : TestResult := a.result .fail none
    let (ended, s', after) := (⟨⟨{}, true⟩, [first]⟩ : Stepper).execute 1 (.check a) w
    a.name.display = .ok "value" ∧ w.Comparable "dataLayer" "v" (.int 1) ∧
      ended = .ok () ∧ s'.results = [first, a.result .pass none] ∧
      after.capture = w.capture := by
  intro layer w a first
  have hRead : w.layerRead "dataLayer" = .ok layer := rfl
  have hEntries : ∀ entry ∈ [(.int 3 : Value), .ofFields [], .ofFields [("v", .text "1")]],
      (entryEquals "v" (.int 1) entry).isOk = true := by
    decide +kernel
  -- comparing is evaluated entry by entry, since the condition speaks of all of them
  have hCompared : w.Comparable "dataLayer" "v" (.int 1) := by
    intro found entries hFound hItems entry hEntry c hCrash
    rw [hRead] at hFound
    obtain rfl := Except.ok.inj hFound
    obtain rfl := Option.some.inj hItems
    have hOk := hEntries entry hEntry
    rw [hCrash] at hOk
    cases hOk
  have hSent : w.sentInReaction (.readLayer "dataLayer") = [] := rfl
  have hName : a.name.display = .ok "value" := rfl
  have hStep := @Stepper.execute_layer_check {} [first] 1 w a "v" "value" (.int 1) rfl hName
    hCompared
  rcases hExecute : (⟨⟨{}, true⟩, [first]⟩ : Stepper).execute 1 (.check a) w with
    ⟨ended, s', after⟩
  rw [hExecute] at hStep
  obtain ⟨⟨added, hResults, hEnds⟩, -, -, hCapture⟩ := hStep
  have hSearched : a.EndsBy "dataLayer" "v" (.int 1) (.ok layer) ended added := hRead ▸ hEnds
  obtain ⟨hEnded, outcome, rfl, -, hPass⟩ := hSearched
  -- it is the text that matches, by its reading as a number
  have hThere : ∃ entry ∈ [(.int 3 : Value), .ofFields [], .ofFields [("v", .text "1")]],
      EntryMatches "v" (.int 1) entry := by
    refine ⟨.ofFields [("v", .text "1")], by simp, entryEquals_eq_true_iff.mp ?_⟩
    decide +kernel
  obtain rfl : outcome = .pass := hPass.mpr hThere
  exact ⟨hName, hCompared, hEnded, hResults, hCapture hSent⟩

/-- A page can send a request in reaction to the read. It is captured, so the step changes the
capture, although it has a result and nothing crashes. And an assertion that is named by a number
of more than 4300 digits has no result, although its layer is a list and holds the value. -/
theorem Stepper.layer_check_changes_capture :
    let o : RunOptions := { trackers := [⟨"ga", "collect", false⟩] }
    let layer : Value := .list [.ofFields [("v", .int 1)]]
    let page : Page := {
      layers := [("dataLayer", layer)]
      reactions := [⟨{ name := "data_layer" }, none, { urls := ["https://x/collect?ev=read"] }⟩] }
    let entered := ((Session.enter o).run (.before page o)).2
    let a : Assertion := { id := .int 1, name := .text "value", check := .event "v" (.int 1) }
    let step (a : Assertion) := (⟨⟨o, true⟩, []⟩ : Stepper).execute 0 (.check a) entered
    (∀ entry ∈ [(.ofFields [("v", .int 1)] : Value)], EntryMatches "v" (.int 1) entry) ∧
      (step a).1 = .ok () ∧ entered.capture.count "ga" = .ok 0 ∧
      (step a).2.2.capture.count "ga" = .ok 1 ∧
      (step { a with name := .int digitBound }).1 = .error (.crash .tooLongToWrite) := by
  intro o layer page entered a step
  -- the request sent when the layer is read is captured within the step
  refine ⟨?_, ?_, ?_, ?_, ?_⟩
  · intro entry hEntry
    obtain rfl := List.mem_singleton.mp hEntry
    exact entryEquals_eq_true_iff.mp (by decide +kernel)
  · decide +kernel
  · decide +kernel
  · decide +kernel
  · decide +kernel

end BeaconCheck
