import BeaconCheck.Value.Basic

/-!
# Test definitions

A test drives a page step by step and checks, between the steps, which requests the
page has sent to trackers and what it has pushed to its event layer. How it is run is
left to options: the trackers to watch, and how long to wait for what.

Durations are in milliseconds.
-/

namespace BeaconCheck

/-- A receiver of requests that is watched. A request is for the tracker if its URL holds
a text, and is aborted before it is sent if the tracker asks for it. -/
structure Tracker where
  name : Text
  urlPart : Text
  abort : Bool := false
deriving DecidableEq, Repr, Inhabited

/-- What an assertion looks at. -/
inductive Check where
  /-- A parameter of the latest request, or of any request, for a tracker matches. -/
  | request (tracker key pattern : Text) (any : Bool)
  /-- Some entry of the event layer has the value under the key. -/
  | event (key : Text) (expected : Value)
  /-- A kind of assertion that is not known. -/
  | unknown (kind : String)
deriving Repr, Inhabited

/-- An assertion with what its result is reported under. -/
structure Assertion where
  id : Value
  name : Value
  description : Value := .null
  check : Check
deriving Repr, Inhabited

/-- One step of a test. -/
inductive Step where
  | goto (url : Text)
  | click (selector : Text)
  | pause (length : Number)
  | awaitElement (selector : Text)
  | type (selector text : Text) (clear : Bool)
  | awaitRequests (tracker : Text) (count timeout : Nat)
  | check (assertion : Assertion)
  /-- A kind of step that is not known. -/
  | unknown (kind : String)
deriving Repr, Inhabited

/-- The assertion that a step checks. -/
def Step.assertion? : Step → Option Assertion
  | .check a => some a
  | _ => none

/-- A named list of steps. -/
structure TestDefinition where
  name : Text
  steps : List Step := []
deriving Repr, Inhabited

/-- The assertions of a test in the order of its steps. -/
def TestDefinition.assertions (t : TestDefinition) : List Assertion :=
  t.steps.filterMap Step.assertion?

namespace Default

/-- The browser has no window. -/
def headless : Bool := true

/-- How long navigation and elements are waited for. -/
def timeout : Nat := 30000

/-- The pause behind a navigation or a click, for trackers that fire late. -/
def settleDelay : Nat := 1000

/-- The pause between two keystrokes. -/
def typeDelay : Nat := 200

/-- The name of the event layer. -/
def layerName : String := "dataLayer"

/-- How many requests are waited for. -/
def requestCount : Nat := 1

/-- How long requests are waited for. -/
def requestTimeout : Nat := 10000

/-- When a navigation counts as done. -/
def waitUntil : String := "networkidle"

/-- The address and the port that are listened on. -/
def host : String := "127.0.0.1"

@[inherit_doc host]
def port : Int := 8080

/-- How a line of the log is laid out, and the time in it. -/
def logFormat : String := "%(asctime)s %(levelname)-5s %(message)s"

@[inherit_doc logFormat]
def logTimeFormat : String := "%Y-%m-%d %H:%M:%S"

end Default

/-- How a test is run. -/
structure RunOptions where
  headless : Bool := Default.headless
  trackers : List Tracker := []
  settleDelay : Nat := Default.settleDelay
  typeDelay : Nat := Default.typeDelay
  timeout : Nat := Default.timeout
  layerName : Text := Default.layerName
deriving DecidableEq, Repr, Inhabited

/-- What an assertion comes to. -/
inductive Outcome where
  | pass
  | fail
  | error
deriving DecidableEq, Repr, Inhabited

/-- How an outcome is reported. -/
def Outcome.text : Outcome → String
  | .pass => "PASS"
  | .fail => "FAIL"
  | .error => "ERROR"

/-- The outcome of a check that was decided. -/
def Outcome.ofBool (b : Bool) : Outcome :=
  if b then .pass else .fail

/-- The result of one assertion. -/
structure TestResult where
  id : Value
  name : Value
  outcome : Outcome
  message : Option Text := none
deriving Repr, Inhabited

namespace TestResult

/-- An entry of a report. A message is left out where it is empty or null. -/
def entry (id name outcome message : Value) : Value :=
  .ofFields [("test", .ofFields (
    [("id", id), ("name", name), ("result", outcome)] ++
      (if message.isTruthy then [("message", message)] else [])))]

/-- The entry of a result in a report. -/
def toValue (r : TestResult) : Value :=
  entry r.id r.name (.text r.outcome.text) ((r.message.map Value.text).getD .null)

/-- The report of some results. -/
def report (rs : List TestResult) : Value :=
  .list (rs.map toValue)

end TestResult

end BeaconCheck
