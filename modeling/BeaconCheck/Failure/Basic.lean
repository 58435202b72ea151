import BeaconCheck.Failure.Kind
import BeaconCheck.Query

/-!
# Failures

Everything that can end a run, a step or a question about the captured requests.

* `AssertionError`: an assertion cannot be evaluated. This is recorded and ends nothing.
* `StepError`: the browser does not do what a step asks for. This ends the run.
* `BrowserError`: a failure of the browser as it reports it. Those that the browser's own
  interface raises are turned into step errors where a step expects them.
* `Failure`: any of these, a refused definition, or a crash.
-/

namespace BeaconCheck

/-- Why an assertion has no outcome of its own. -/
inductive AssertionError where
  | noRequests (tracker : Text)
  | noLayer (name : Text)
  | unknownTracker (tracker : Text)
  | invalidPattern (pattern reason : Text)
  | unreadableLayer (name reason : Text)
  | unsupported (kind : String)
deriving DecidableEq, Repr, Inhabited

namespace AssertionError

def kind : AssertionError → ErrorKind
  | .noRequests _ => .noRequests
  | .noLayer _ => .noLayer
  | .unknownTracker _ => .unknownTracker
  | .invalidPattern .. => .invalidPattern
  | .unreadableLayer .. | .unsupported _ => .assertion

def message : AssertionError → Text
  | .noRequests tracker => ErrorText.noRequests tracker
  | .noLayer name => ErrorText.noLayer name
  | .unknownTracker tracker => ErrorText.unknownTracker tracker
  | .invalidPattern pattern reason => ErrorText.invalidPattern (quoted pattern) reason
  | .unreadableLayer name reason => "Reading event layer '" ++ name ++ "' failed: " ++ reason
  | .unsupported kind => s!"Unsupported assertion: {kind}"

/-- The outcome that is recorded: a missing observation is a failure. -/
def outcome : AssertionError → Outcome
  | .noRequests _ | .noLayer _ => .fail
  | _ => .error

/-- The outcome is that of the kind. -/
theorem outcome?_kind (e : AssertionError) : e.kind.outcome? = some e.outcome := by
  cases e <;> rfl

end AssertionError

/-- How a failure of the browser is raised. The first two are its interface's own. -/
inductive BrowserErrorKind where
  | error
  | timeout
  | runtime
  | value
deriving DecidableEq, Repr, Inhabited

namespace BrowserErrorKind

/-- The class of the failure. -/
def name : BrowserErrorKind → String
  | .error => "Error"
  | .timeout => "TimeoutError"
  | .runtime => "RuntimeError"
  | .value => "ValueError"

/-- The failure is one of those that the browser's interface raises. -/
def isOwn : BrowserErrorKind → Bool
  | .error | .timeout => true
  | .runtime | .value => false

end BrowserErrorKind

/-- A failure of the browser. -/
structure BrowserError where
  kind : BrowserErrorKind
  message : Text
deriving DecidableEq, Repr, Inhabited

/-- Why a step ends the run. -/
inductive StepError where
  | navigation (url reason : Text)
  | missingElement (selector detail : Text)
  | captureTimeout (tracker : Text) (expected : Number) (captured : Nat)
      (timeout : Number)
  | unknownTracker (tracker : Text)
  | pageClosed (layer reason : Text)
deriving DecidableEq, Repr, Inhabited

namespace StepError

def kind : StepError → ErrorKind
  | .navigation .. => .navigation
  | .missingElement .. => .missingElement
  | .captureTimeout .. => .captureTimeout
  | .unknownTracker _ | .pageClosed .. => .step

def message : StepError → Text
  | .navigation url reason => "Navigation to " ++ url ++ " failed: " ++ reason
  | .missingElement selector detail => ErrorText.missingElement selector detail
  | .captureTimeout tracker expected captured timeout =>
    ErrorText.captureTimeout tracker expected.digits (toString captured) timeout.digits
  | .unknownTracker tracker => ErrorText.unknownTracker tracker
  | .pageClosed layer reason =>
    "Page closed while reading event layer '" ++ layer ++ "': " ++ reason

end StepError

/-- Anything that can end what is asked for. -/
inductive Failure where
  | input (e : InputError)
  | query (e : QueryError)
  | assertion (e : AssertionError)
  | step (e : StepError)
  | browser (e : BrowserError)
  | crash (c : Crash)
deriving DecidableEq, Repr, Inhabited

namespace Failure

/-- The kind of an input error. -/
def inputKind : InputError → ErrorKind
  | .unknownStep .. => .unknownStep
  | _ => .invalidInput

/-- The kind, where the failure is an error of the run's own. -/
def kind? : Failure → Option ErrorKind
  | .input e => some (inputKind e)
  | .query _ => some .query
  | .assertion e => some e.kind
  | .step e => some e.kind
  | .browser _ | .crash _ => none

/-- The name of the class of the failure. -/
def className : Failure → String
  | .input e => (inputKind e).name
  | .query _ => ErrorKind.query.name
  | .assertion e => e.kind.name
  | .step e => e.kind.name
  | .browser e => e.kind.name
  | .crash c => c.kind

/-- The text of the failure. -/
def message : Failure → Text
  | .input e => e.message
  | .query e => e.message
  | .assertion e => e.message
  | .step e => e.message
  | .browser e => e.message
  | .crash c => c.message

/-- The failure that a refused definition is. -/
def ofInput : InputFailure → Failure
  | .refused e => .input e
  | .crash c => .crash c

end Failure

end BeaconCheck
