import BeaconCheck.Definition.Problem
import BeaconCheck.Value.Text

/-!
# Kinds of errors

The errors of a run form a tree. Errors of input keep a test from being started; errors
of a step end the run; errors of an assertion are recorded as its outcome, a missing
observation as a failure and everything else as an error.

`ErrorKind.describe` words an error of a kind from its parts.
-/

namespace BeaconCheck

/-- The kinds of errors, the general before the special. -/
inductive ErrorKind where
  | runner
  | invalidInput
  | unknownStep
  | step
  | navigation
  | missingElement
  | captureTimeout
  | assertion
  | query
  | noRequests
  | noLayer
  | unknownTracker
  | invalidPattern
deriving DecidableEq, Repr, Inhabited

namespace ErrorKind

/-- All kinds. -/
def all : List ErrorKind :=
  [.runner, .invalidInput, .unknownStep, .step, .navigation, .missingElement,
    .captureTimeout, .assertion, .query, .noRequests, .noLayer, .unknownTracker,
    .invalidPattern]

/-- The name that a kind is reported under. -/
def name : ErrorKind → String
  | .runner => "RunnerError"
  | .invalidInput => "InvalidInput"
  | .unknownStep => "UnrecognizedStep"
  | .step => "StepExecutionError"
  | .navigation => "NavigationError"
  | .missingElement => "ElementNotFound"
  | .captureTimeout => "CaptureTimeout"
  | .assertion => "AssertionEvaluationError"
  | .query => "DecodeError"
  | .noRequests => "NoRequestsCaptured"
  | .noLayer => "DataLayerUnavailable"
  | .unknownTracker => "UnknownTracker"
  | .invalidPattern => "InvalidPattern"

/-- The kind with a name. -/
def ofName? (name : String) : Option ErrorKind :=
  all.find? fun kind => kind.name == name

/-- The kind and the kinds that it is a case of, up to the most general. -/
def lineage : ErrorKind → List ErrorKind
  | .runner => [.runner]
  | .invalidInput => [.invalidInput, .runner]
  | .unknownStep => [.unknownStep, .invalidInput, .runner]
  | .step => [.step, .runner]
  | .navigation => [.navigation, .step, .runner]
  | .missingElement => [.missingElement, .step, .runner]
  | .captureTimeout => [.captureTimeout, .step, .runner]
  | .assertion => [.assertion, .runner]
  | .query => [.query, .assertion, .runner]
  | .noRequests => [.noRequests, .assertion, .runner]
  | .noLayer => [.noLayer, .assertion, .runner]
  | .unknownTracker => [.unknownTracker, .assertion, .runner]
  | .invalidPattern => [.invalidPattern, .assertion, .runner]

/-- The outcome that an error of an assertion is recorded as. -/
def outcome? (kind : ErrorKind) : Option Outcome :=
  if kind.lineage.contains .assertion then
    some (if kind = .noRequests ∨ kind = .noLayer then .fail else .error)
  else none

end ErrorKind

/-! ## Texts -/

namespace ErrorText

/-- An element that cannot be used, and why. -/
def missingElement (selector detail : Text) : Text :=
  if detail = "" then "Element not found: " ++ selector
  else "Element not found: " ++ selector ++ " (" ++ detail ++ ")"

/-- Requests that were not sent in time. -/
def captureTimeout (tracker expected captured timeout : Text) : Text :=
  "Timed out after " ++ timeout ++ "ms waiting for " ++ expected ++
    " request(s) on tracker '" ++ tracker ++ "' (" ++ captured ++ " captured)"

/-- No request was captured. -/
def noRequests (tracker : Text) : Text :=
  "No requests captured for tracker '" ++ tracker ++ "'"

/-- The page has no event layer of the name. -/
def noLayer (name : Text) : Text :=
  "Page has no '" ++ name ++ "' event layer"

/-- The tracker is none of those watched. -/
def unknownTracker (tracker : Text) : Text :=
  "Tracker '" ++ tracker ++ "' is not configured"

/-- A pattern that cannot be compiled; it is shown as `shown`. -/
def invalidPattern (shown : String) (reason : Text) : Text :=
  s!"Invalid match pattern {shown}: " ++ reason

end ErrorText

namespace ErrorKind

/-- The text of several values together. -/
def tupleText (parts : List Value) : Except Crash String := do
  return "(" ++ ", ".intercalate (← parts.mapM Value.quoted) ++ ")"

/-- The text of an error without a text of its own: that of its only part. -/
def describePlain : List Value → Except Crash Text
  | [] => .ok ""
  | [part] => part.display
  | parts => (tupleText parts).map .whole

/-- The text of an error of a kind that is built from some parts. -/
def describe (kind : ErrorKind) (parts : List Value) : Except Crash Text :=
  match kind, parts with
  | .unknownStep, action :: rest => do
    let index := (rest.head?).getD .null
    let place ← if index.isNull then pure none else index.display.map some
    return unknownStepText (← action.quoted) place
  | .missingElement, selector :: rest => do
    let detail := (rest.head?).getD .null
    let detail ← if detail.isTruthy then detail.display else pure ""
    return ErrorText.missingElement (← selector.display) detail
  | .captureTimeout, [tracker, expected, captured, timeout] => do
    let timeout ← timeout.display
    let expected ← expected.display
    let tracker ← tracker.display
    return ErrorText.captureTimeout tracker expected (← captured.display) timeout
  | .noRequests, [tracker] => tracker.display.map ErrorText.noRequests
  | .noLayer, [name] => name.display.map ErrorText.noLayer
  | .unknownTracker, [tracker] => tracker.display.map ErrorText.unknownTracker
  | .invalidPattern, [pattern, reason] => do
    return ErrorText.invalidPattern (← pattern.quoted) (← reason.display)
  | _, _ => describePlain parts

end ErrorKind

end BeaconCheck
