import BeaconCheck.Crash
import BeaconCheck.Definition.Basic

/-!
# What can be wrong with a definition

A definition or its options are refused for the first thing in them that is wrong.
`InputError.message` words it, beginning with the place.
-/

namespace BeaconCheck

/-- A place in a definition or in options. -/
inductive Place where
  | named (text : String)
  | step (index : Int)
  | tracker (index : Nat)
  | options
  | within (outer : Place) (part : String)
deriving DecidableEq, Repr, Inhabited

/-- How a message names a place. -/
def Place.text : Place → String
  | .named text => text
  | .step index => s!"step {index}"
  | .tracker index => s!"trackRequests[{index}]"
  | .options => "options"
  | .within outer part => s!"{outer.text}.{part}"

/-- Why a definition or its options are refused. -/
inductive InputError where
  | noText (place : Place) (field : String)
  | noTruthValue (place : Place) (field : String)
  | noDuration (place : Place) (field : String)
  | assertionNotObject (place : Place)
  | matchNotObject (place : Place)
  | optionsNotObject (place : Place)
  | noPattern (place : Place)
  | noExpectedValue (place : Place)
  | unknownAssertion (place : Place) (kind : String)
  | notObject (place : Place)
  | noPauseOrElement (place : Place)
  | negativePause (place : Place)
  | noTypedText (place : Place)
  | noCount (place : Place)
  /-- The action as a message shows it. -/
  | unknownStep (action : String) (index : Int)
  | notATest
  | stepsNotList
  | trackersNotList
  | repeatedTracker (place : Place) (name : Text)
  | notOptions
  | noLayerName
  /-- The file is missing or is no document. -/
  | unreadable (path : String)
deriving DecidableEq, Repr, Inhabited

/-- How a step of an unknown kind is refused or skipped. The action is shown as `shown`. -/
def unknownStepText (shown : String) (index : Option Text) : Text :=
  match index with
  | none => s!"Unrecognized step action: {shown}"
  | some i => "Unrecognized step action at step " ++ i ++ s!": {shown}"

namespace InputError

def message : InputError → Text
  | .noText place field => s!"{place.text}: '{field}' must be a non-empty string"
  | .noTruthValue place field => s!"{place.text}: '{field}' must be a boolean"
  | .noDuration place field =>
    s!"{place.text}: '{field}' must be a non-negative number of milliseconds"
  | .assertionNotObject place => s!"{place.text}: assertion must be an object"
  | .matchNotObject place =>
    s!"{place.text}: 'match' must be an object with 'key' and 'value'"
  | .optionsNotObject place => s!"{place.text}: 'options' must be an object"
  | .noPattern place => s!"{place.text}: 'match.value' must be a string pattern"
  | .noExpectedValue place => s!"{place.text}: 'value' is required"
  | .unknownAssertion place kind => s!"{place.text}: unknown assertion type {kind}"
  | .notObject place => s!"{place.text}: must be an object"
  | .noPauseOrElement place => s!"{place.text}: 'value' must be milliseconds or a selector"
  | .negativePause place => s!"{place.text}: 'value' must not be negative"
  | .noTypedText place => s!"{place.text}: 'value' must be a string"
  | .noCount place => s!"{place.text}: 'count' must be a positive integer"
  | .unknownStep action index => unknownStepText action (some (toString index))
  | .notATest => "Invalid test sequence"
  | .stepsNotList => "Invalid test sequence: 'steps' must be a list"
  | .trackersNotList => "Invalid options: 'trackRequests' must be a list"
  | .repeatedTracker place name =>
    s!"{place.text}: duplicate tracker name '" ++ name ++ "'"
  | .notOptions => "Invalid options"
  | .noLayerName => "Invalid options: 'dataLayerName' must be a non-empty string"
  | .unreadable path => s!"Cannot read {path}"

end InputError

/-- What keeps a definition from being read: it is refused, or reading it crashes. -/
inductive InputFailure where
  | refused (e : InputError)
  | crash (c : Crash)
deriving DecidableEq, Repr, Inhabited

end BeaconCheck
