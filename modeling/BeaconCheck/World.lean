import BeaconCheck.Browser.Page

/-!
# The world of a run

The state that a run works on: a clock in milliseconds, a scripted page with what is due
to happen on it, the captured requests, and the records that the run leaves. The clock
stands still while the run computes and jumps when the run waits, and everything that is
due by then happens first, each at its own time.

* `World.happen` lets something happen on the page.
* `World.elapse` lets time pass; `World.awaitBy` does so until a condition holds.
-/

namespace BeaconCheck

/-- Something that is due to happen on the page. -/
structure Due where
  time : Rat
  happening : Happening
deriving Repr, Inhabited

/-- The parts of a browser that are started and closed one by one. -/
inductive Resource where
  | page
  | context
  | browser
  | driver
deriving DecidableEq, Repr, Inhabited

/-- The state of a run. -/
structure World where
  now : Rat := 0
  page : Page := {}
  /-- What is due, in the order of time. -/
  pending : List Due := []
  /-- How often the requests of the page are passed to the capture. -/
  handlers : Nat := 0
  capture : Capture := .ofTrackers []
  /-- The parts of the browser that were started. -/
  held : List Resource := []
  /-- The parts of the browser were closed. -/
  closed : Bool := false
  trace : List TraceEntry := []
  log : List LogRecord := []
deriving Repr, Inhabited

namespace World

/-- Adds records to the log. -/
def addLog (w : World) (records : List LogRecord) : World :=
  { w with log := w.log ++ records }

/-- Adds an entry to the trace. -/
def addTrace (w : World) (entry : TraceEntry) : World :=
  { w with trace := w.trace ++ [entry] }

/-- The capture takes a request. -/
def handle (w : World) (url : String) : World :=
  let (capture, records) := w.capture.receive url
  ({ w with capture }.addLog records).addTrace (.request url (some (w.capture.action url)))

/-- The capture takes a request a number of times. -/
def handleTimes (url : String) : Nat → World → World
  | 0, w => w
  | n + 1, w => handleTimes url n (w.handle url)

/-- The page sends a request, which is passed to the capture as often as it was attached,
and left alone if it was not. -/
def fire (w : World) (url : String) : World :=
  if w.handlers = 0 then w.addTrace (.request url none)
  else handleTimes url w.handlers w

/-- What is done with a request of the page, if anything. -/
def answer (w : World) (url : String) : Option Action :=
  if w.handlers = 0 then none else some (w.capture.action url)

/-- The page sends requests. -/
def fireAll (w : World) (urls : List String) : World :=
  urls.foldl fire w

/-- The page pushes entries to its layers. -/
def pushAll (w : World) (pushes : List (Text × Value)) : World :=
  let layers := pushes.foldl (fun layers p => Page.push layers p.1 p.2) w.page.layers
  { w with page := { w.page with layers } }

/-- Something happens on the page: requests are sent, and then entries are pushed. -/
def happen (w : World) (h : Happening) : World :=
  (w.fireAll h.urls).pushAll h.pushes

/-- Puts something that is due in its place by time, behind what is due then already. -/
def insertDue (d : Due) : List Due → List Due
  | [] => [d]
  | e :: rest => if d.time < e.time then d :: e :: rest else e :: insertDue d rest

/-- Lets something happen after a delay. -/
def schedule (w : World) (delay : Rat) (h : Happening) : World :=
  { w with pending := insertDue ⟨w.now + delay, h⟩ w.pending }

/-- Something happens now, or later if there is a delay. -/
def react (w : World) (r : Reaction) : World :=
  match r.delay with
  | none => w.happen r.happening
  | some delay => w.schedule delay r.happening

/-- The clock is set to a time, but not back. -/
def advance (w : World) (time : Rat) : World :=
  { w with now := if w.now ≤ time then time else w.now }

/-- Lets time pass up to a deadline, but no further than to where the condition holds
behind something that happened. Tells whether it does. -/
def awaitIn (deadline : Rat) (holds : World → Bool) : List Due → World → Bool × World
  | [], w => (false, { w with pending := [] }.advance deadline)
  | d :: rest, w =>
    -- what is due at the deadline itself still happens
    if d.time ≤ deadline then
      let w := ({ w with pending := rest }.advance d.time).happen d.happening
      if holds w then (true, w) else awaitIn deadline holds rest w
    else (false, { w with pending := d :: rest }.advance deadline)

@[inherit_doc awaitIn]
def awaitBy (deadline : Rat) (holds : World → Bool) (w : World) : Bool × World :=
  awaitIn deadline holds w.pending w

/-- Lets time pass. -/
def elapse (w : World) (length : Rat) : World :=
  (awaitBy (w.now + length) (fun _ => false) w).2

/-- The number of requests recorded for a tracker, 0 for an unknown one. -/
def recorded (w : World) (tracker : Text) : Nat :=
  ((Entries.get? w.capture.store tracker).getD []).length

end World

/-! ## Computations -/

/-- A computation that changes the world, and can fail. The changes made before a failure
stay. -/
abbrev RunM := ExceptT Failure (StateM World)

namespace RunM

/-- Writes a record to the log. -/
def log (level : LogLevel) (message : Text) : RunM Unit :=
  modify fun w => w.addLog [⟨level, message⟩]

/-- A step that can only crash. -/
def safely {α : Type} (result : Except Crash α) : RunM α :=
  match result with
  | .ok a => return a
  | .error c => throw (.crash c)

/-- A result that is known already. -/
def result {α : Type} (known : Except Failure α) : RunM α :=
  match known with
  | .ok a => return a
  | .error failure => throw failure

/-- Fails with an error of a step. -/
def stop {α : Type} (e : StepError) : RunM α :=
  throw (.step e)

/-- A call fails as the script says, or else the page reacts to it. A pause takes its time,
up to an hour; all other calls take none. -/
def call (c : Call) : RunM Unit := do
  modify fun w => w.addTrace (.call c)
  let w ← get
  match Page.failAt c w.page.failures with
  | some (e, failures) =>
    set { w with page := { w.page with failures } }
    throw (.browser e)
  | none =>
    -- a pause sets off what it does before it takes its time
    set ((w.page.reactionsTo c).foldl World.react w)
    match c with
    | .waitForTimeout length =>
      match length.toRat? with
      | some ms => if 0 < ms ∧ ms ≤ 3600000 then modify fun w => w.elapse ms
      | none => pure ()
    | _ => pure ()

/-- Turns the failures of the browser's own interface into errors of a step. Other failures
stay what they are. -/
def explaining {α : Type} (action : RunM α) (f : BrowserError → StepError) : RunM α :=
  tryCatch action fun failure =>
    match failure with
    | .browser e => if e.kind.isOwn then stop (f e) else throw failure
    | _ => throw failure

end RunM

end BeaconCheck
