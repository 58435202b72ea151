import BeaconCheck.Proofs.Number.Duration
import BeaconCheck.Proofs.Value.Showing

/-!
# The grammar of definitions

What a value must be to describe a test or options, and which test or options it describes. The
grammar is told by the fields of a value alone: neither the order in which they are looked at nor
the place that a message would name plays a part in it.

* `FieldReading.HasText`, `HasFlag`, `HasDuration` — what a field can hold.
* `Value.DescribesAssertion`, `DescribesStep`, `DescribesTest` — tests.
* `Value.DescribesTracker`, `DescribesTrackers`, `DescribesOptions` — options.
* `Value.CrashesStep`, `CrashesTest`, `CrashesOptions` — what cannot even be refused.
-/

namespace BeaconCheck

namespace FieldReading

/-! ## Fields -/

variable (data : Object) (field : String)

/-- The field holds a text that is not empty. -/
def HasText (s : Text) : Prop :=
  Value.field data field = .text s ∧ s ≠ ""

/-- The field holds the truth value, or the default is it and the field is null or missing. -/
inductive HasFlag (default : Bool) : Bool → Prop
  | missing (h : Value.field data field = .null) : HasFlag default default
  | given {b : Bool} (h : Value.field data field = .bool b) : HasFlag default b

/-- The field holds a number of milliseconds that is not below zero, of which the fraction is
dropped, or the default is it and the field is null or missing. -/
inductive HasDuration (default : Nat) : Nat → Prop
  | missing (h : Value.field data field = .null) : HasDuration default default
  | given {n : Number} {r : Rat} (h : Value.field data field = .number n)
      (hValue : n.toRat? = some r) (hAtLeast : 0 ≤ r) : HasDuration default ⌊r⌋₊

end FieldReading

open FieldReading

namespace Value

/-! ## Tests -/

/-- The options of a request assertion say whether any request may match: options that count as
false say that only the latest may. -/
inductive DescribesMatching (options : Value) : Bool → Prop
  | left (h : options.isTruthy = false) : DescribesMatching options false
  | given {data : Object} {any : Bool} (hData : options.entries? = some data)
      (hAny : HasFlag data "matchAnyRequest" false any) : DescribesMatching options any

/-- What an assertion looks at, by the fields of its description. -/
inductive DescribesCheck (data : Object) : Check → Prop
  | request {wanted : Object} {tracker key pattern : Text} {any : Bool}
      (hType : field data "type" = .text "requestMatchRegex")
      (hTracker : HasText data "for" tracker)
      (hWanted : (field data "match").entries? = some wanted)
      (hKey : HasText wanted "key" key)
      (hPattern : field wanted "value" = .text pattern)
      (hAny : DescribesMatching (field data "options") any) :
      DescribesCheck data (.request tracker key pattern any)
  | event {key : Text} {expected : Value}
      (hType : field data "type" = .text "matchDataLayerKeyValue")
      (hKey : HasText data "key" key)
      (hExpected : field? data "value" = some expected) :
      DescribesCheck data (.event key expected)

/-- The value is an object that describes the assertion. -/
def DescribesAssertion (v : Value) (a : Assertion) : Prop :=
  ∃ data, v.entries? = some data ∧ DescribesCheck data a.check ∧ a.id = field data "id" ∧
    a.name = orEmpty (field data "name") ∧ a.description = field data "description"

/-- The number of requests that a step waits for, which may be missing but not null. -/
inductive DescribesCount (data : Object) : Nat → Prop
  | missing (h : field? data "count" = none) : DescribesCount data Default.requestCount
  | given {n : Nat} (h : field? data "count" = some (.int n)) (hSome : 1 ≤ n) :
      DescribesCount data n

/-- A step, by the fields of its description. -/
inductive DescribesAction (data : Object) : Step → Prop
  | goto {url : Text} (hAction : field data "action" = .text "goto")
      (hUrl : HasText data "value" url) : DescribesAction data (.goto url)
  | click {selector : Text} (hAction : field data "action" = .text "click")
      (hElement : HasText data "element" selector) : DescribesAction data (.click selector)
  | pause {n : Number} (hAction : field data "action" = .text "wait")
      (hLength : field data "value" = .number n) (hAtLeast : n.AtLeastZero) :
      DescribesAction data (.pause n)
  | awaitElement {selector : Text} (hAction : field data "action" = .text "wait")
      (hElement : HasText data "value" selector) :
      DescribesAction data (.awaitElement selector)
  | type {selector typed : Text} {clear : Bool}
      (hAction : field data "action" = .text "type")
      (hTyped : field data "value" = .text typed)
      (hElement : HasText data "element" selector)
      (hClear : HasFlag data "clear" false clear) :
      DescribesAction data (.type selector typed clear)
  | awaitRequests {tracker : Text} {count timeout : Nat}
      (hAction : field data "action" = .text "waitForRequest")
      (hTracker : HasText data "for" tracker)
      (hCount : DescribesCount data count)
      (hTimeout : HasDuration data "timeout" Default.requestTimeout timeout) :
      DescribesAction data (.awaitRequests tracker count timeout)
  | check {a : Assertion} (hAction : field data "action" = .text "test")
      (hAssertion : (field data "test").DescribesAssertion a) :
      DescribesAction data (.check a)

/-- The value is an object that describes the step. -/
def DescribesStep (v : Value) (s : Step) : Prop :=
  ∃ data, v.entries? = some data ∧ DescribesAction data s

/-- The value is an object with the name of the test and a list of steps, each of which is related
to the step of the test in its place. -/
def IsTestBy (v : Value) (each : Value → Step → Prop) (t : TestDefinition) : Prop :=
  ∃ data steps, v.entries? = some data ∧ (field data "steps").items? = some steps ∧
    (orEmpty (field data "name")).display = .ok t.name ∧ List.Forall₂ each steps t.steps

/-- The value is an object with a list of steps, and describes the test. -/
def DescribesTest (v : Value) (t : TestDefinition) : Prop :=
  v.IsTestBy DescribesStep t

/-! ## Options -/

/-- The value is an object that describes the tracker. -/
def DescribesTracker (v : Value) (t : Tracker) : Prop :=
  ∃ data, v.entries? = some data ∧ HasText data "name" t.name ∧ HasText data "url" t.urlPart ∧
    HasFlag data "abortRequest" false t.abort

/-- The value is null, or a list that describes the trackers, which have distinct names. -/
inductive DescribesTrackers (v : Value) : List Tracker → Prop
  | missing (h : v = .null) : DescribesTrackers v []
  | given {items : List Value} {trackers : List Tracker} (hItems : v.items? = some items)
      (hEach : List.Forall₂ DescribesTracker items trackers)
      (hDistinct : (trackers.map Tracker.name).Nodup) : DescribesTrackers v trackers

/-- The name of the event layer, which may be missing but not null. -/
inductive DescribesLayer (data : Object) : Text → Prop
  | missing (h : field? data "dataLayerName" = none) : DescribesLayer data Default.layerName
  | given {name : Text} (h : HasText data "dataLayerName" name) : DescribesLayer data name

/-- Options, by the fields of their description. -/
structure DescribesSettings (data : Object) (o : RunOptions) : Prop where
  layerName : DescribesLayer data o.layerName
  headless : HasFlag data "headless" Default.headless o.headless
  trackers : DescribesTrackers (field data "trackRequests") o.trackers
  settleDelay : HasDuration data "settleDelay" Default.settleDelay o.settleDelay
  typeDelay : HasDuration data "typeDelay" Default.typeDelay o.typeDelay
  timeout : HasDuration data "timeout" Default.timeout o.timeout

/-- The value is null, which describes the default options, or an object that describes the
options. -/
inductive DescribesOptions (v : Value) : RunOptions → Prop
  | missing (h : v = .null) : DescribesOptions v {}
  | given {data : Object} {o : RunOptions} (hData : v.entries? = some data)
      (hSettings : DescribesSettings data o) : DescribesOptions v o

end Value

/-! ## What is beyond the grammar -/

/-- The field holds a number that has no integer part. -/
def FieldReading.HasUnmeasurable (data : Object) (field : String) (c : Crash) : Prop :=
  ∃ n, Value.field data field = .number n ∧ n.Unmeasurable c

namespace Value

/-- The value describes a pause whose length is not-a-number, which is below zero as little as
above. -/
def IsEndlessPause (v : Value) (s : Step) : Prop :=
  ∃ data, v.entries? = some data ∧ field data "action" = .text "wait" ∧
    field data "value" = .float .nan ∧ s = .pause (.float .nan)

/-- The value is read as the step. -/
def BecomesStep (v : Value) (s : Step) : Prop :=
  v.DescribesStep s ∨ v.IsEndlessPause s

/-- The value is read as the test. -/
def BecomesTest (v : Value) (t : TestDefinition) : Prop :=
  v.IsTestBy BecomesStep t

/-- The types of assertions. -/
def typeNames : List Text := ["requestMatchRegex", "matchDataLayerKeyValue"]

/-- The actions of steps. -/
def actionNames : List Text := ["goto", "click", "wait", "type", "test", "waitForRequest"]

/-- The name is unknown, and the refusal cannot show it. -/
def IsLongName (v : Value) (known : List Text) : Prop :=
  (∀ name ∈ known, v ≠ .text name) ∧ v.HoldsLong

/-- Reading the value as an assertion crashes: its type is unknown and cannot be shown. -/
inductive CrashesAssertion (v : Value) : Crash → Prop
  | type {data : Object} (hData : v.entries? = some data)
      (hLong : (field data "type").IsLongName typeNames) : CrashesAssertion v .tooLongToWrite

/-- Reading the value as a step crashes: its action is unknown and cannot be shown, reading its
assertion crashes, or it waits for requests and has a timeout without an integer part. -/
inductive CrashesStep (v : Value) : Crash → Prop
  | action {data : Object} (hData : v.entries? = some data)
      (hLong : (field data "action").IsLongName actionNames) : CrashesStep v .tooLongToWrite
  | assertion {data : Object} {c : Crash} (hData : v.entries? = some data)
      (hAction : field data "action" = .text "test")
      (hAssertion : (field data "test").CrashesAssertion c) : CrashesStep v c
  | timeout {data : Object} {tracker : Text} {count : Nat} {c : Crash}
      (hData : v.entries? = some data)
      (hAction : field data "action" = .text "waitForRequest")
      (hTracker : HasText data "for" tracker) (hCount : DescribesCount data count)
      (hTimeout : HasUnmeasurable data "timeout" c) : CrashesStep v c

/-- Reading the value as a test crashes: its name cannot be shown, or reading a step crashes
behind steps that were read. -/
inductive CrashesTest (v : Value) : Crash → Prop
  | name {data : Object} {steps : List Value} (hData : v.entries? = some data)
      (hSteps : (field data "steps").items? = some steps)
      (hLong : (field data "name").HoldsLong) : CrashesTest v .tooLongToWrite
  | step {data : Object} {before behind : List Value} {raw : Value} {c : Crash}
      (hData : v.entries? = some data)
      (hSteps : (field data "steps").items? = some (before ++ raw :: behind))
      (hName : ¬ (field data "name").HoldsLong)
      (hBefore : ∀ r ∈ before, ∃ s, r.BecomesStep s)
      (hStep : raw.CrashesStep c) : CrashesTest v c

/-- The fields of options that hold durations, in the order in which they are read. -/
def durationNames : List String := ["settleDelay", "typeDelay", "timeout"]

/-- Reading the value as options crashes: a duration has no integer part, and what is read
before it is well-formed. -/
inductive CrashesOptions (v : Value) : Crash → Prop
  | duration {data : Object} {layerName : Text} {name : String} {headless : Bool}
      {trackers : List Tracker} {before behind : List String} {c : Crash}
      (hData : v.entries? = some data)
      (hLayer : DescribesLayer data layerName)
      (hHeadless : HasFlag data "headless" Default.headless headless)
      (hTrackers : DescribesTrackers (field data "trackRequests") trackers)
      (hNames : durationNames = before ++ name :: behind)
      (hBefore : ∀ n ∈ before, ∃ d, HasDuration data n 0 d)
      (hDuration : HasUnmeasurable data name c) : CrashesOptions v c

end Value

end BeaconCheck
