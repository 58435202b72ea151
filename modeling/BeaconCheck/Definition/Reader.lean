import BeaconCheck.Definition.Problem
import BeaconCheck.Value.Text

/-!
# Reading definitions

Test definitions, run options and their parts are read from values, such as a document
or the body of a request. What is not asked for is ignored. A field that may be missing
may also be null, with two exceptions: the count of requests to wait for and the name of
the event layer.

* `Assertion.ofValue`, `Step.ofValue`, `TestDefinition.ofValue` read a test.
* `Tracker.listOfValue`, `RunOptions.ofValue` read options.
-/

namespace BeaconCheck

/-- Reading a definition can fail. -/
abbrev ReadResult := Except InputFailure

namespace FieldReading

/-- The entries of an object. -/
abbrev Object := List (Scalar × Value)

/-- Refuses the definition. -/
def refuse {α : Type} (e : InputError) : ReadResult α :=
  .error (.refused e)

/-- A step that can only crash. -/
def safely {α : Type} (result : Except Crash α) : ReadResult α :=
  result.mapError .crash

/-- A text that is not empty. -/
def text (data : Object) (field : String) (place : Place) : ReadResult Text :=
  match Value.field data field with
  | .text s => if s = "" then refuse (.noText place field) else .ok s
  | _ => refuse (.noText place field)

/-- A truth value, `default` where it is missing or null. -/
def flag (data : Object) (field : String) (place : Place) (default : Bool) :
    ReadResult Bool :=
  match Value.field data field with
  | .null => .ok default
  | .bool b => .ok b
  | _ => refuse (.noTruthValue place field)

/-- The number is below zero. Not-a-number is not. -/
def isBelowZero (n : Number) : Bool :=
  n.isNegative && !n.isZero

/-- A duration, `default` where it is missing or null; a fraction of a millisecond is
dropped. -/
def duration (data : Object) (field : String) (place : Place) (default : Nat) :
    ReadResult Nat :=
  match Value.field data field with
  | .null => .ok default
  | .number n =>
    if isBelowZero n then refuse (.noDuration place field)
    else (safely n.truncate).map Int.toNat
  | _ => refuse (.noDuration place field)

/-- The value, or the empty text in place of one that counts as false. -/
def orEmpty (v : Value) : Value :=
  if v.isTruthy then v else .text ""

end FieldReading

open FieldReading

/-! ## Tests -/

/-- The check of a request assertion. -/
def Check.requestOfFields (data : Object) (place : Place) : ReadResult Check := do
  -- the order of the checks says which of several faults is told
  let some wanted := (Value.field data "match").entries? | refuse (.matchNotObject place)
  let options := Value.field data "options"
  let some options := if options.isTruthy then options.entries? else some []
    | refuse (.optionsNotObject place)
  let .text pattern := Value.field wanted "value" | refuse (.noPattern place)
  let tracker ← text data "for" place
  let key ← text wanted "key" (.within place "match")
  let any ← flag options "matchAnyRequest" (.within place "options") false
  return .request tracker key pattern any

/-- The check of an event layer assertion. -/
def Check.eventOfFields (data : Object) (place : Place) : ReadResult Check := do
  let some expected := Value.field? data "value" | refuse (.noExpectedValue place)
  return .event (← text data "key" place) expected

/-- The check of an assertion. -/
def Check.ofFields (data : Object) (place : Place) : ReadResult Check := do
  match Value.field data "type" with
  | .text (.whole "requestMatchRegex") => Check.requestOfFields data place
  | .text (.whole "matchDataLayerKeyValue") => Check.eventOfFields data place
  | kind => refuse (.unknownAssertion place (← safely kind.quoted))

/-- Reads an assertion. -/
def Assertion.ofValue (v : Value) (place : Place) : ReadResult Assertion := do
  let some data := v.entries? | refuse (.assertionNotObject place)
  let check ← Check.ofFields data place
  return {
    id := Value.field data "id"
    name := orEmpty (Value.field data "name")
    description := Value.field data "description"
    check }

namespace Step

/-- Reads a pause or the wait for an element. -/
def waitOfFields (data : Object) (place : Place) : ReadResult Step :=
  match Value.field data "value" with
  | .text s => if s = "" then refuse (.noPauseOrElement place) else .ok (.awaitElement s)
  | .number n => if isBelowZero n then refuse (.negativePause place) else .ok (.pause n)
  | _ => refuse (.noPauseOrElement place)

/-- Reads the typing of a text. -/
def typeOfFields (data : Object) (place : Place) : ReadResult Step := do
  let .text typed := Value.field data "value" | refuse (.noTypedText place)
  let selector ← text data "element" place
  let clear ← flag data "clear" place false
  return .type selector typed clear

/-- The number of requests to wait for. -/
def countOfFields (data : Object) (place : Place) : ReadResult Nat :=
  match Value.field? data "count" with
  | none => .ok Default.requestCount
  | some (.number (.int n)) => if n < 1 then refuse (.noCount place) else .ok n.toNat
  | some _ => refuse (.noCount place)

/-- Reads the wait for requests. -/
def awaitRequestsOfFields (data : Object) (place : Place) : ReadResult Step := do
  let count ← countOfFields data place
  let tracker ← text data "for" place
  let timeout ← duration data "timeout" place Default.requestTimeout
  return .awaitRequests tracker count timeout

/-- Reads the step with an index. -/
def ofValue (v : Value) (index : Int) : ReadResult Step := do
  let place := Place.step index
  let some data := v.entries? | refuse (.notObject place)
  match Value.field data "action" with
  | .text (.whole "goto") => return .goto (← text data "value" place)
  | .text (.whole "click") => return .click (← text data "element" place)
  | .text (.whole "wait") => waitOfFields data place
  | .text (.whole "type") => typeOfFields data place
  | .text (.whole "test") => return .check (← Assertion.ofValue (Value.field data "test") place)
  | .text (.whole "waitForRequest") => awaitRequestsOfFields data place
  | action => refuse (.unknownStep (← safely action.quoted) index)

/-- Reads steps, the first of which has an index. -/
def listOfValues (index : Nat) : List Value → ReadResult (List Step)
  | [] => .ok []
  | v :: rest => do
    let step ← ofValue v index
    return step :: (← listOfValues (index + 1) rest)

end Step

/-- Reads a test. -/
def TestDefinition.ofValue (v : Value) : ReadResult TestDefinition := do
  let some data := v.entries? | refuse .notATest
  let some steps := (Value.field data "steps").items? | refuse .stepsNotList
  let name ← safely (orEmpty (Value.field data "name")).display
  return { name, steps := ← Step.listOfValues 0 steps }

/-! ## Options -/

namespace Tracker

/-- Reads the tracker with an index. -/
def ofValue (v : Value) (index : Nat) : ReadResult Tracker := do
  let place := Place.tracker index
  let some data := v.entries? | refuse (.notObject place)
  let name ← text data "name" place
  let urlPart ← text data "url" place
  let abort ← flag data "abortRequest" place false
  return { name, urlPart, abort }

/-- Reads trackers, the first of which has an index. None may have the name of one
before it. -/
def listOfValues (earlier : List Text) (index : Nat) :
    List Value → ReadResult (List Tracker)
  | [] => .ok []
  | v :: rest => do
    -- a fault of the tracker itself is told before a name that is taken
    let tracker ← ofValue v index
    if earlier.contains tracker.name then
      refuse (.repeatedTracker (.tracker index) tracker.name)
    return tracker :: (← listOfValues (tracker.name :: earlier) (index + 1) rest)

/-- Reads the list of trackers, none where it is null. -/
def listOfValue (v : Value) : ReadResult (List Tracker) :=
  if v.isNull then .ok []
  else
    match v.items? with
    | some items => listOfValues [] 0 items
    | none => refuse .trackersNotList

end Tracker

namespace RunOptions

/-- The name of the event layer, which may be missing but not null. -/
def layerNameOfFields (data : Object) : ReadResult Text :=
  match Value.field? data "dataLayerName" with
  | none => .ok Default.layerName
  | some (.text s) => if s = "" then refuse .noLayerName else .ok s
  | some _ => refuse .noLayerName

/-- Reads options; null stands for the defaults. -/
def ofValue (v : Value) : ReadResult RunOptions := do
  if v.isNull then return {}
  let some data := v.entries? | refuse .notOptions
  let layerName ← layerNameOfFields data
  let headless ← flag data "headless" .options Default.headless
  let trackers ← Tracker.listOfValue (Value.field data "trackRequests")
  let settleDelay ← duration data "settleDelay" .options Default.settleDelay
  let typeDelay ← duration data "typeDelay" .options Default.typeDelay
  let timeout ← duration data "timeout" .options Default.timeout
  return { headless, trackers, settleDelay, typeDelay, timeout, layerName }

end RunOptions

end BeaconCheck
