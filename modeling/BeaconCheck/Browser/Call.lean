import BeaconCheck.Definition.Basic
import BeaconCheck.Capture

/-!
# Calls to the browser

Everything that a run asks of the browser, and the trace that this leaves together with
the requests of the page.
-/

namespace BeaconCheck

/-- A call to the browser. -/
inductive Call where
  | start
  | launch (headless : Bool)
  | newContext
  | newPage
  | route
  | goto (url : Text) (timeout : Nat)
  | waitForSelector (selector : Text) (timeout : Nat)
  | click (selector : Text)
  | clear (selector : Text)
  | readLayer (name : Text)
  | type (selector text : Text) (delay timeout : Nat)
  | waitForTimeout (length : Number)
  | closePage
  | closeContext
  | closeBrowser
  | stop
deriving DecidableEq, Repr, Inhabited

namespace Call

/-- The requests that are routed: all of them. -/
def everyUrl : String := "**/*"

/-- The name of a call. -/
def name : Call → String
  | .start => "start"
  | .launch _ => "launch"
  | .newContext => "new_context"
  | .newPage => "new_page"
  | .route => "route"
  | .goto .. => "goto"
  | .waitForSelector .. => "wait_for_selector"
  | .click _ => "click"
  | .clear _ => "clear"
  | .readLayer _ => "data_layer"
  | .type .. => "type"
  | .waitForTimeout _ => "wait_for_timeout"
  | .closePage => "page.close"
  | .closeContext => "context.close"
  | .closeBrowser => "browser.close"
  | .stop => "playwright.stop"

/-- The arguments of a call that have no name. -/
def arguments : Call → List Value
  | .route => [.text everyUrl]
  | .goto url _ => [.text url]
  | .waitForSelector selector _ => [.text selector]
  | .click selector | .clear selector => [.text selector]
  | .readLayer name => [.text name]
  | .type selector text _ _ => [.text selector, .text text]
  | .waitForTimeout length => [.number length]
  | _ => []

/-- The arguments of a call that have a name. -/
def namedArguments : Call → List (String × Value)
  | .launch headless => [("headless", .bool headless)]
  | .goto _ timeout => [("timeout", .int timeout), ("wait_until", .text Default.waitUntil)]
  | .waitForSelector _ timeout => [("state", .text "attached"), ("timeout", .int timeout)]
  | .type _ _ delay timeout => [("delay", .int delay), ("timeout", .int timeout)]
  | _ => []

/-- The call as a trace shows it. -/
def toValue (c : Call) : Value :=
  let named := c.namedArguments
  .list (.text c.name :: c.arguments ++ if named.isEmpty then [] else [.ofFields named])

/-- What a page is asked for by a call, where it is the page that is asked. -/
def operation : Call → String
  | .click _ | .clear _ | .readLayer _ => "evaluate"
  | c => c.name

end Call

/-- What is on record of a page: the calls to the browser, and the requests with what was
done with them, if anything. -/
inductive TraceEntry where
  | call (c : Call)
  | request (url : String) (answer : Option Action)
deriving DecidableEq, Repr, Inhabited

/-- How an answer to a request is shown. -/
def Action.text : Action → String
  | .abort => "abort"
  | .forward => "continue"

/-- The entry as a trace shows it. -/
def TraceEntry.toValue : TraceEntry → Value
  | .call c => c.toValue
  | .request url answer =>
    .list [.text "request", .text url, .text ((answer.map Action.text).getD "unhandled" : String)]

end BeaconCheck
