import BeaconCheck.Browser.Action
import BeaconCheck.Run.Await

/-!
# Running steps

The steps of a test are executed one after the other. An error of the browser ends the
run. An error while an assertion is evaluated is logged and becomes the result of that
assertion, so every assertion that is reached has exactly one result.
-/

namespace BeaconCheck.Executor

/-! ## Assertions -/

/-- Evaluates what an assertion looks at. -/
def holds (x : Executor) : Check → RunM Bool
  | .request tracker key pattern any => do
    let capture := (← get).capture
    modify fun w => w.addLog (capture.requestsLine tracker)
    RunM.result (capture.matchesRequest tracker key pattern any)
  | .event key expected => do
    let layer ← x.readLayer
    RunM.result (layerContains layer key expected x.options.layerName)
  | .unknown kind => throw (.assertion (.unsupported kind))

/-- The outcome of a check, with a message if it could not be evaluated. The assertion is
shown in the log under a name. -/
def outcome (x : Executor) (shown : Text) (c : Check) :
    RunM (Outcome × Option Text) :=
  tryCatch (do return (.ofBool (← x.holds c), none)) fun failure =>
    match failure with
    | .assertion e => do
      RunM.log .error ("Test '" ++ shown ++ "' could not be evaluated: " ++ e.message)
      return (e.outcome, some e.message)
    | _ => throw failure

/-- Evaluates an assertion to its result. -/
def evaluate (x : Executor) (a : Assertion) : RunM TestResult := do
  -- outside of what catches errors, unlike what follows
  let shown ← RunM.safely a.name.display
  RunM.log .info ("Testing: " ++ shown)
  let (outcome, message) ← x.outcome shown a.check
  RunM.log .info ("Test '" ++ shown ++ s!"': {outcome.text}")
  return { id := a.id, name := a.name, outcome, message }

/-! ## Steps -/

/-- The pause after a navigation or a click. -/
def settle (x : Executor) : RunM Unit :=
  if 0 < x.options.settleDelay then x.pause (.int x.options.settleDelay) else pure ()

/-- Waits for requests. A tracker that is not watched ends the run. -/
def awaitRequests (tracker : Text) (count timeout : Nat) : RunM Unit := do
  let shown ← RunM.safely (integerText count)
  RunM.log .info (s!"Waiting for {shown} '" ++ tracker ++ "' request(s)")
  tryCatch (discard (RunM.awaitRequests tracker (.int count) (.int timeout))) fun failure =>
    match failure with
    | .assertion (.unknownTracker name) => RunM.stop (.unknownTracker name)
    | _ => throw failure

/-- Executes the step with an index. A step that checks an assertion has a result. -/
def execute (x : Executor) (index : Int) : Step → RunM (Option TestResult)
  | .goto url => do
    RunM.log .info ("Go to page: " ++ url)
    x.goto url
    x.settle
    return none
  | .click selector => do
    RunM.log .info ("Click element: " ++ selector)
    x.click selector
    x.settle
    return none
  | .pause length => do
    let shown ← RunM.safely length.text
    RunM.log .info s!"Waiting for: {shown}"
    x.pause length
    return none
  | .awaitElement selector => do
    RunM.log .info ("Waiting for: " ++ selector)
    x.awaitElement selector
    return none
  | .type selector text clear => do
    RunM.log .info ("Typing '" ++ text ++ "' on element: " ++ selector)
    x.typeText selector text clear
    return none
  | .awaitRequests tracker count timeout => do
    awaitRequests tracker count timeout
    return none
  | .check a => do
    let result ← x.evaluate a
    return some result
  | .unknown kind => do
    RunM.log .warning (unknownStepText (quoted kind) (some (toString index)))
    return none

/-- Executes steps, the first of which has an index, and collects their results. -/
def executeAll (x : Executor) (index : Nat) : List Step → RunM (List TestResult)
  | [] => return []
  | step :: rest => do
    let result ← x.execute index step
    let results ← x.executeAll (index + 1) rest
    return result.toList ++ results

/-- Executes the steps of a test. -/
def executeTest (x : Executor) (t : TestDefinition) : RunM (List TestResult) := do
  RunM.log .info ("Running test '" ++ t.name ++ s!"' ({t.steps.length} steps)")
  x.executeAll 0 t.steps

end BeaconCheck.Executor
