import BeaconCheck.Json.Writer
import BeaconCheck.Run.Steps

/-!
# Sessions

A session starts a browser, runs tests in it and closes it. Its parts are started one
after the other, and the page is watched before the first navigation. When a part cannot
be started, those that were are closed. Closing happens once: each part by itself, so that
a failure does not keep the other parts open.

`runTest` runs one test in a session of its own.
-/

namespace BeaconCheck

namespace Session

/-- A part of the browser was started. -/
def hold (r : Resource) : RunM Unit :=
  modify fun w => if w.held.contains r then w else { w with held := w.held ++ [r] }

/-- Passes the requests of the page to the capture. -/
def attach : RunM Unit := do
  RunM.call .route
  modify fun w => { w with handlers := w.handlers + 1 }
  modify fun w => w.addLog [w.capture.attachedLine]

/-- Starts the parts of the browser. -/
def start (o : RunOptions) : RunM Unit := do
  RunM.call .start
  hold .driver
  RunM.call (.launch o.headless)
  hold .browser
  RunM.call .newContext
  hold .context
  RunM.call .newPage
  hold .page
  if !o.trackers.isEmpty then attach

/-- How a part of the browser is closed. -/
def closing : Resource → Call
  | .page => .closePage
  | .context => .closeContext
  | .browser => .closeBrowser
  | .driver => .stop

/-- How a warning names a part of the browser. -/
def nameOf : Resource → String
  | .page => "page"
  | .context => "context"
  | .browser => "browser"
  | .driver => "playwright"

/-- Closes a part of the browser if it was started. A failure is only logged. -/
def closeOne (r : Resource) : RunM Unit := do
  if (← get).held.contains r then
    tryCatch (RunM.call (closing r)) fun failure =>
      RunM.log .warning (s!"Failed to close {nameOf r}: " ++ failure.message)

/-- Closes the parts of the browser, unless this was done before. -/
def close : RunM Unit := do
  if (← get).closed then return ()
  -- noted first, so that nothing is closed twice
  modify fun w => { w with closed := true }
  closeOne .page
  closeOne .context
  closeOne .browser
  closeOne .driver
  RunM.log .info "Browser session closed"

/-- Starts a session. If that fails, what was started is closed. -/
def enter (o : RunOptions) : RunM Unit :=
  tryCatch (start o) fun failure => do
    close
    throw failure

/-- What executes steps in the session as it is now. -/
def executor (o : RunOptions) : RunM Executor := do
  return ⟨o, (← get).held.contains .page⟩

/-- Runs a test in the session. -/
def run (o : RunOptions) (t : TestDefinition) : RunM (List TestResult) := do
  let x ← executor o
  let results ← tryCatch (x.executeTest t) fun failure => do
    RunM.log .error ("Test '" ++ t.name ++ "' aborted: " ++ failure.message)
    throw failure
  -- the results are written for the log before they are handed back, which can fail
  let shown ← RunM.safely (Json.write .line (TestResult.report results))
  RunM.log .info ("Results for '" ++ t.name ++ "': " ++ shown)
  return results

end Session

/-- Runs a test in a session of its own, which is closed in the end. -/
def runTest (o : RunOptions) (t : TestDefinition) : RunM (List TestResult) := do
  Session.enter o
  let results ← tryCatch (Session.run o t) fun failure => do
    Session.close
    throw failure
  Session.close
  return results

/-- The world before a test is run on a page. -/
def World.before (page : Page) (o : RunOptions) : World where
  page
  capture := .ofTrackers o.trackers

end BeaconCheck
