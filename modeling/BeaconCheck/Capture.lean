import BeaconCheck.Evaluation
import BeaconCheck.Log

/-!
# Captured requests

Requests of a page are matched with the trackers that are watched. A request is recorded
for each tracker whose text is in its URL, in the order of the trackers, and is aborted
if one of them asks for it. A request whose URL cannot be decoded is recorded without
parameters.

* `Capture.receive` takes a request and says what happens to it.
* `Capture.requests`, `Capture.count` are what was recorded for a tracker.
-/

namespace BeaconCheck

/-- What happens to a request that was captured. -/
inductive Action where
  | abort
  | forward
deriving DecidableEq, Repr, Inhabited

/-- The requests recorded for the trackers that are watched. -/
structure Capture where
  trackers : List Tracker
  store : Entries Text (List Params)
deriving Repr, Inhabited

/-- The text occurs in another text. -/
def occurs (part : List Letter) : List Letter → Bool
  | [] => part.isEmpty
  | l :: rest => part.isPrefixOf (l :: rest) || occurs part rest

/-- The request is for the tracker. -/
def Tracker.isFor (t : Tracker) (url : String) : Bool :=
  occurs t.urlPart.letters (Text.letters url)

/-- How the log shows parameters. -/
def Params.shown (params : Params) : String :=
  let entry (p : String × String) := quoted p.1 ++ ": " ++ quoted p.2
  "\x7b" ++ ", ".intercalate (params.map entry) ++ "\x7d"

namespace Capture

/-- Nothing is recorded yet. -/
def ofTrackers (trackers : List Tracker) : Capture where
  trackers
  store := Entries.ofPairs (trackers.map fun t => (t.name, []))

/-- The parameters recorded for a request, and the warning if it has none. -/
def decoded (url : String) : Params × List LogRecord :=
  match Query.params url with
  | .ok params => (params, [])
  | .error e => ([], [⟨.warning, s!"Captured request could not be decoded: {e.message}"⟩])

/-- Records a request for a tracker. -/
def record (store : Entries Text (List Params)) (name : Text) (params : Params) :
    Entries Text (List Params) :=
  Entries.insert store name ((Entries.get? store name).getD [] ++ [params])

/-- Records a request for some trackers, one after the other. -/
def recordAll (params : Params) :
    List Tracker → Entries Text (List Params) → Entries Text (List Params) × List LogRecord
  | [], store => (store, [])
  | t :: rest, store =>
    let store := record store t.name params
    let number := ((Entries.get? store t.name).getD []).length
    let line := "Captured " ++ t.name ++ s!" request #{number}: {params.shown}"
    let (store, lines) := recordAll params rest store
    (store, ⟨.debug, line⟩ :: lines)

/-- The trackers that a request is for. -/
def matched (c : Capture) (url : String) : List Tracker :=
  c.trackers.filter fun t => t.isFor url

/-- What is done with a request: it is aborted if a tracker that it is for asks for it. -/
def action (c : Capture) (url : String) : Action :=
  if (c.matched url).any Tracker.abort then .abort else .forward

/-- Takes a request: what is recorded then, and what is logged. -/
def receive (c : Capture) (url : String) : Capture × List LogRecord :=
  let matched := c.matched url
  if matched.isEmpty then (c, [])
  else
    let (params, warnings) := decoded url
    let (store, lines) := recordAll params matched c.store
    ({ c with store }, warnings ++ lines)

/-- The requests recorded for a tracker, in the order in which they came. -/
def requests (c : Capture) (tracker : Text) : Except AssertionError (List Params) :=
  match Entries.get? c.store tracker with
  | some captured => .ok captured
  | none => .error (.unknownTracker tracker)

/-- The number of requests recorded for a tracker. -/
def count (c : Capture) (tracker : Text) : Except AssertionError Nat :=
  (c.requests tracker).map List.length

/-- The number of requests recorded for each tracker. -/
def counts (c : Capture) : Entries Text Nat :=
  c.store.map fun p => (p.1, p.2.length)

/-- A request assertion holds of what was recorded. -/
def matchesRequest (c : Capture) (tracker key pattern : Text) (any : Bool) :
    Evaluated Bool := do
  let captured ← (c.requests tracker).mapError .assertion
  let chosen ← (candidates captured tracker any).mapError .assertion
  requestMatches chosen key pattern

/-- What the log shows before a request assertion is evaluated. -/
def requestsLine (c : Capture) (tracker : Text) : List LogRecord :=
  match c.requests tracker with
  | .ok captured =>
    let shown := ", ".intercalate (captured.map Params.shown)
    [⟨.debug, tracker ++ s!" requests: [{shown}]"⟩]
  | .error _ => []

/-- What the log shows when a page is watched. -/
def attachedLine (c : Capture) : LogRecord :=
  let names := Text.intercalate ", " (c.store.map Prod.fst)
  ⟨.info, "Request capture enabled for trackers: " ++ if names = "" then ("(none)" : Text) else names⟩

end Capture

end BeaconCheck
