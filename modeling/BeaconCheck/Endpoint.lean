import BeaconCheck.Definition.Reader
import BeaconCheck.Json.Reader
import BeaconCheck.Run.Session

/-!
# The HTTP endpoint

A test with its options is posted as JSON to one of two paths, and is answered with the
report of its run. Everything that is wrong with the request or with the run is answered
with a detail that says so. A crash outside of the run is answered with a server error and
raised; that the body of an answer holds a half of a surrogate pair, and so cannot be
encoded, is one.

* `Endpoint.parse` accepts or refuses a request before a browser is started.
* `Endpoint.respond` answers a request.
-/

namespace BeaconCheck

/-- A request to the endpoint. -/
structure Request where
  method : String := "POST"
  path : String := "/runTest"
  body : List UInt8 := []
deriving DecidableEq, Repr, Inhabited

/-- An answer. Only answers to `HEAD` have no body. -/
structure Response where
  status : Nat
  body : Option String
  raised : Option Crash := none
deriving DecidableEq, Repr, Inhabited

namespace Endpoint

/-- The methods that the paths are known for; only one of them runs a test. -/
def methods : List String :=
  ["GET", "POST", "PUT", "PATCH", "DELETE", "OPTIONS", "HEAD", "TRACE"]

/-- The paths of the endpoint. -/
def paths : List String := ["/", "/runTest"]

/-- Why a request is not answered with a report. -/
inductive Refusal where
  | unknownPath
  /-- The path is one of the endpoint's but for the slashes at its end. -/
  | otherSlashes
  | unknownMethod
  | notPosted
  | notATest
  | notOptions
  | input (e : InputError)
  | crash (c : Crash)
  | failed (f : Failure)
deriving DecidableEq, Repr, Inhabited

/-- The body of an answer that only gives a detail. -/
def detailText (detail : Text) : Text :=
  "\x7b\"detail\":" ++ Json.writeText detail ++ "\x7d"

/-- The answer to a crash that nothing catches. -/
def crashed (c : Crash) : Response :=
  ⟨500, some "Internal Server Error", some c⟩

/-- An answer with a body, which is encoded outside of what catches errors. -/
def encoded (status : Nat) (body : Text) : Response :=
  match Utf8.writable body with
  | .ok body => ⟨status, some body, none⟩
  | .error halves => crashed (.unencodable halves)

/-- An answer with a detail. -/
def detailed (status : Nat) (detail : Text) : Response :=
  encoded status (detailText detail)

/-- How a failed run is described: an error of the run's own by its text, anything else by
its class, too. -/
def failureText (f : Failure) : Text :=
  match f.kind? with
  | some _ => f.message
  | none => s!"{f.className}: " ++ f.message

/-- The answer to a refused request. -/
def Refusal.response : Refusal → Response
  | .unknownPath => detailed 404 "Not Found"
  | .otherSlashes => ⟨307, some "", none⟩
  | .unknownMethod => detailed 405 "Method Not Allowed"
  | .notPosted => detailed 400 "Invalid request method"
  | .notATest => detailed 400 "Invalid test sequence"
  | .notOptions => detailed 400 "Invalid options"
  | .input e => detailed 400 e.message
  | .crash c => crashed c
  | .failed f => detailed 400 (failureText f)

/-- The refusal that a refused definition is. -/
def Refusal.ofInput : InputFailure → Refusal
  | .refused e => .input e
  | .crash c => .crash c

/-- The path without the slashes at its end, or with one if it has none. -/
def otherEnding (path : String) : String :=
  let reversed := path.toList.reverse
  match reversed with
  | '/' :: _ => String.ofList (reversed.dropWhile (· == '/')).reverse
  | _ => path ++ "/"

/-- The path and the method are those of a posted test. -/
def checkRoute (r : Request) : Except Refusal Unit :=
  if paths.contains r.path then
    if methods.contains r.method then
      if r.method = "POST" then .ok () else .error .notPosted
    else .error .unknownMethod
  else if paths.contains (otherEnding r.path) then .error .otherSlashes
  else .error .unknownPath

/-- Reads the test and the options of a body. -/
def parseBody (body : List UInt8) : Except Refusal (TestDefinition × RunOptions) := do
  let some content := Json.ofBody? body | .error .notATest
  let some data := content.entries? | .error .notATest
  let test := Value.field data "test"
  let options := Value.field data "options"
  if test.entries?.isNone then throw .notATest
  -- null passes for options that are missing
  if !options.isNull && options.entries?.isNone then throw .notOptions
  let t ← (TestDefinition.ofValue test).mapError .ofInput
  let o ← (RunOptions.ofValue options).mapError .ofInput
  return (t, o)

/-- Reads the test and the options of a request. -/
def parse (r : Request) : Except Refusal (TestDefinition × RunOptions) := do
  checkRoute r
  parseBody r.body

/-- Runs a test. A failure that is none of the run's own is logged once more. -/
def runPosted (t : TestDefinition) (o : RunOptions) : RunM (List TestResult) := do
  RunM.log .info ("Received test '" ++ t.name ++ s!"' with {o.trackers.length} tracker(s)")
  tryCatch (runTest o t) fun f => do
    if f.kind?.isNone then RunM.log .error ("Test '" ++ t.name ++ "' failed")
    throw f

/-- The answer to a test that was run. -/
def reportOn (result : Except Failure (List TestResult)) : Response :=
  match result with
  | .error f => Refusal.response (.failed f)
  | .ok results =>
    match Json.write .compact (TestResult.report results) with
    | .ok text => encoded 200 text
    | .error c => crashed c

/-- The answer to a request, and what is on record of it. -/
def answer (page : Page) (r : Request) : Response × World :=
  match parse r with
  | .error refusal => (refusal.response, { page })
  | .ok (t, o) =>
    let (result, w) := (runPosted t o).run (World.before page o)
    (reportOn result, w)

/-- The answer to a request, which has no body if only the head was asked for. -/
def respond (page : Page) (r : Request) : Response × World :=
  let (response, w) := answer page r
  (if r.method = "HEAD" then { response with body := none } else response, w)

end Endpoint

end BeaconCheck
