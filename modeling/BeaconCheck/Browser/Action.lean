import BeaconCheck.World

/-!
# Actions on the page

What steps do with the page. A failure that the browser's interface raises becomes an
error that names the page or the element; a pause has none.
-/

namespace BeaconCheck

/-- What executes steps: the options of the run, and whether it was given a page. -/
structure Executor where
  options : RunOptions
  hasPage : Bool
deriving DecidableEq, Repr, Inhabited

namespace Executor

/-- A call to the page. -/
def call (x : Executor) (c : Call) : RunM Unit :=
  if x.hasPage then RunM.call c else throw (.crash (.noPage c.operation))

/-- Opens a page. -/
def goto (x : Executor) (url : Text) : RunM Unit :=
  RunM.explaining (x.call (.goto url x.options.timeout)) fun e =>
    .navigation url e.message

/-- The error for an element that was not found. -/
def notAttached (x : Executor) (selector : Text) (e : BrowserError) : RunM Unit := do
  if e.kind = .timeout then
    let shown ← RunM.safely (integerText x.options.timeout)
    RunM.stop (.missingElement selector s!"not attached after {shown}ms")
  else RunM.stop (.missingElement selector e.message)

/-- Waits for an element to be in the page, visible or not. -/
def awaitElement (x : Executor) (selector : Text) : RunM Unit :=
  tryCatch (x.call (.waitForSelector selector x.options.timeout)) fun failure =>
    match failure with
    | .browser e => if e.kind.isOwn then x.notAttached selector e else throw failure
    | _ => throw failure

/-- Clicks an element. -/
def click (x : Executor) (selector : Text) : RunM Unit := do
  x.awaitElement selector
  RunM.explaining (x.call (.click selector)) fun e =>
    .missingElement selector ("click failed: " ++ e.message)

/-- Empties an input element. -/
def clear (x : Executor) (selector : Text) : RunM Unit :=
  RunM.explaining (x.call (.clear selector)) fun e =>
    .missingElement selector ("clear failed: " ++ e.message)

/-- Types a text into an element, which is emptied before if asked for. -/
def typeText (x : Executor) (selector text : Text) (empty : Bool) : RunM Unit := do
  x.awaitElement selector
  if empty then x.clear selector
  RunM.explaining (x.call (.type selector text x.options.typeDelay x.options.timeout))
    fun e => .missingElement selector ("typing failed: " ++ e.message)

/-- Does nothing for a while. -/
def pause (x : Executor) (length : Number) : RunM Unit :=
  x.call (.waitForTimeout length)

/-- The failure says that the page is gone. -/
def saysClosed (e : BrowserError) : Bool :=
  occurs (Text.letters "has been closed") e.message.letters

/-- The error for an event layer that cannot be read. -/
def unreadable (name : Text) (e : BrowserError) : Failure :=
  if saysClosed e then .step (.pageClosed name e.message)
  else .assertion (.unreadableLayer name e.message)

/-- Reads the event layer; null where the page has none. -/
def readLayer (x : Executor) : RunM Value := do
  let name := x.options.layerName
  tryCatch (x.call (.readLayer name)) fun failure =>
    match failure with
    | .browser e => throw (if e.kind.isOwn then unreadable name e else failure)
    | _ => throw failure
  return (← get).page.layer name

end Executor

end BeaconCheck
