import BeaconCheck.Failure.Basic
import BeaconCheck.Pattern.Search
import BeaconCheck.Value.Loose

/-!
# Evaluating assertions

An assertion is evaluated against what was observed: the parameters of captured requests,
or what the page returned as its event layer.

* `candidates` are the requests that an assertion may look at.
* `requestMatches` holds if a candidate has the key with a value in which the pattern is
  found. `layerContains` holds if an entry loosely equals the expected value.
-/

namespace BeaconCheck

/-- Evaluation fails with an error of the assertion or with a crash. -/
abbrev Evaluated := Except Failure

/-- The requests that are looked at: all of them, or the latest. -/
def candidates (captured : List Params) (tracker : Text) (any : Bool) :
    Except AssertionError (List Params) :=
  match captured.getLast? with
  | none => .error (.noRequests tracker)
  | some latest => .ok (if any then captured else [latest])

/-- The pattern, if it can be compiled. -/
def compilePattern (pattern : Text) : Evaluated Pattern :=
  match Pattern.compile pattern with
  | .ok p => .ok p
  | .error (.refused e) => .error (.assertion (.invalidPattern pattern (e.message pattern)))
  | .error (.crash c) => .error (.crash c)

/-- The value of a parameter. The names of parameters are decoded, so none holds a half of
a surrogate pair. -/
def Params.get? (params : Params) (key : Text) : Option String :=
  key.string?.bind (Entries.get? params)

/-- A request has the key, with a value in which the pattern is found. -/
def Params.matches (params : Params) (key : Text) (p : Pattern) : Bool :=
  match params.get? key with
  | some value => p.occursIn value
  | none => false

/-- Some request has the key, with a value in which the pattern is found. -/
def requestMatches (requests : List Params) (key pattern : Text) : Evaluated Bool := do
  let p ← compilePattern pattern
  return requests.any fun params => params.matches key p

/-- An entry of the layer is an object whose value under the key loosely equals the
expected one. A missing key counts as null. -/
def entryEquals (key : Text) (expected entry : Value) : Except Crash Bool :=
  match entry.entries? with
  | some data => (Value.field data key).looselyEquals expected
  | none => .ok false

/-- Some entry equals the expected value under the key. The entries are looked at in their
order, up to the first that does. -/
def anyEntryEquals (key : Text) (expected : Value) : List Value → Except Crash Bool
  | [] => .ok false
  | entry :: rest => do
    if ← entryEquals key expected entry then return true
    else anyEntryEquals key expected rest

/-- Some entry of an event layer equals the expected value under the key. -/
def layerContains (layer : Value) (key : Text) (expected : Value) (name : Text) :
    Evaluated Bool :=
  match layer.items? with
  | some entries => (anyEntryEquals key expected entries).mapError .crash
  | none => .error (.assertion (.noLayer name))

end BeaconCheck
