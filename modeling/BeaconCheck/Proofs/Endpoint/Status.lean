import BeaconCheck.Endpoint
import BeaconCheck.Proofs.Definition.Plain
import BeaconCheck.Proofs.Json.Halves
import BeaconCheck.Proofs.Run.Results
import BeaconCheck.Proofs.World.Unlogged

/-!
# The status of an answer

A request to one of the endpoint's paths is answered with the report of its test, with a
detail, or with a server error. A server error has one of three causes: a duration of the test
or of its options has no integer part, the id or the name of an assertion is or holds a number
that is not finite, or the report or the detail holds a half of a surrogate pair, which no
encoding has bytes for.

* `Endpoint.Posts`            — the shape of a body that is read as a test and options.
* `Endpoint.parse_eq_ok_iff`  — which requests are accepted.
* `TestResult.write_report_eq_error_iff` — which reports can be written.
* `Endpoint.Sends`            — the report or the detail that a request asks for.
* `Endpoint.Answered`         — the answers to a request, with what they are about.
* `Endpoint.status_of_respond` — which status a request is answered with.
-/

namespace BeaconCheck

namespace Endpoint

/-- The request posts a JSON object with a test that is an object, and with options that are
an object, null or missing. -/
structure Posts (r : Request) (test options : Value) : Prop where
  isPost : r.method = "POST"
  body : ∃ data, Json.ofBody? r.body = some (.object data) ∧
    Value.field data "test" = test ∧ Value.field data "options" = options
  isTest : ∃ data, test = .object data
  isOptions : options = .null ∨ ∃ data, options = .object data

/-- The request posts a test and options that can be read. -/
def Accepts (r : Request) (t : TestDefinition) (o : RunOptions) : Prop :=
  ∃ test options, Posts r test options ∧ TestDefinition.ofValue test = .ok t ∧
    RunOptions.ofValue options = .ok o

/-- The request posts a test and options, and reading one of them fails. The test is read
first. -/
inductive Fails (r : Request) : InputFailure → Prop
  | test {test options : Value} {failure : InputFailure} (hPosts : Posts r test options)
      (hTest : TestDefinition.ofValue test = .error failure) : Fails r failure
  | options {test options : Value} {t : TestDefinition} {failure : InputFailure}
      (hPosts : Posts r test options) (hTest : TestDefinition.ofValue test = .ok t)
      (hOptions : RunOptions.ofValue options = .error failure) : Fails r failure

/-! ## Which requests are accepted -/

/-- Reads a test, and then options. -/
def readBoth (test options : Value) : Except Refusal (TestDefinition × RunOptions) := do
  let t ← (TestDefinition.ofValue test).mapError .ofInput
  let o ← (RunOptions.ofValue options).mapError .ofInput
  return (t, o)

variable {r : Request}

/-- On a known route it is the body that counts, and only a post has one. -/
theorem parse_of_route (hMethod : r.method ∈ methods) (hPath : r.path ∈ paths) :
    parse r = if r.method = "POST" then parseBody r.body else .error .notPosted := by
  unfold parse checkRoute
  rw [if_pos (List.contains_iff_mem.mpr hPath), if_pos (List.contains_iff_mem.mpr hMethod)]
  split <;> rfl

/-- The body of a posted object: its test is looked at before its options are, and both are
before either is read. -/
theorem parseBody_of_object {body : List UInt8} {data : List (Scalar × Value)}
    (h : Json.ofBody? body = some (.object data)) :
    parseBody body =
      if (Value.field data "test").entries?.isNone then .error .notATest
      else if !(Value.field data "options").isNull && (Value.field data "options").entries?.isNone
        then .error .notOptions
      else readBoth (Value.field data "test") (Value.field data "options") := by
  have hEntries : (Value.object data).entries? = some data := rfl
  unfold parseBody
  rw [h]
  simp only [hEntries]
  -- the test is looked at before the options, so a body with both wrong is refused for the test
  split
  · rfl
  · split <;> rfl

/-- From a body with a test the test and the options are read. -/
theorem parseBody_of_posts {test options : Value} (h : Posts r test options) :
    parseBody r.body = readBoth test options := by
  obtain ⟨data, hBody, hTest, hOptions⟩ := h.body
  obtain ⟨testData, hTestData⟩ := h.isTest
  rw [parseBody_of_object hBody, hTest, hOptions, hTestData]
  rcases h.isOptions with hNull | ⟨optionData, hOptionData⟩
  · rw [hNull]
    rfl
  · rw [hOptionData]
    rfl

/-- Any other body is turned down: there is no test in it, or its options are none. -/
theorem parseBody_of_not_posts (hMethod : r.method = "POST")
    (h : ∀ test options, ¬ Posts r test options) :
    parseBody r.body = .error .notATest ∨ parseBody r.body = .error .notOptions := by
  cases hBody : Json.ofBody? r.body with
  | none =>
    unfold parseBody
    rw [hBody]
    exact .inl rfl
  | some content =>
    have hPlain := Json.plain_of_ofBody? hBody
    cases hData : content.entries? with
    | none =>
      refine .inl ?_
      unfold parseBody
      rw [hBody]
      simp only [hData]
    | some data =>
      obtain rfl := hPlain.eq_object hData
      rw [parseBody_of_object hBody]
      cases hTest : (Value.field data "test").entries? with
      | none => exact .inl rfl
      | some testData =>
        have hTestObject := (hPlain.field rfl "test").eq_object hTest
        cases hOptions : (Value.field data "options").entries? with
        | some optionData =>
          have hOptionsObject := (hPlain.field rfl "options").eq_object hOptions
          exact absurd ⟨hMethod, ⟨data, hBody, rfl, rfl⟩, ⟨_, hTestObject⟩,
            .inr ⟨_, hOptionsObject⟩⟩ (h _ _)
        | none =>
          cases hNull : (Value.field data "options").isNull with
          | true =>
            exact absurd ⟨hMethod, ⟨data, hBody, rfl, rfl⟩, ⟨_, hTestObject⟩,
              .inl (Value.eq_null_of_isNull hNull)⟩ (h _ _)
          -- options that are neither an object nor null are all that is left
          | false => exact .inr rfl

/-- A body holds one test and one set of options. -/
theorem Posts.unique {test options test' options' : Value} (h : Posts r test options)
    (h' : Posts r test' options') : test' = test ∧ options' = options := by
  obtain ⟨data, hBody, rfl, rfl⟩ := h.body
  obtain ⟨data', hBody', rfl, rfl⟩ := h'.body
  rw [hBody] at hBody'
  obtain rfl := Value.object.inj (Option.some.inj hBody')
  exact ⟨rfl, rfl⟩

/-- Both are read, each by itself. -/
theorem readBoth_eq_ok_iff {test options : Value} {t : TestDefinition} {o : RunOptions} :
    readBoth test options = .ok (t, o) ↔
      TestDefinition.ofValue test = .ok t ∧ RunOptions.ofValue options = .ok o := by
  unfold readBoth
  cases TestDefinition.ofValue test with
  -- either reader that fails ends the reading, so that both have to succeed
  | error e => exact iff_of_false nofun nofun
  | ok t' =>
    cases RunOptions.ofValue options with
    | error e => exact iff_of_false nofun nofun
    | ok o' =>
      constructor
      · intro h
        cases h
        exact ⟨rfl, rfl⟩
      · rintro ⟨⟨⟩, ⟨⟩⟩
        rfl

/-- Each failure to read has a refusal of its own. -/
theorem Refusal.ofInput_injective : Function.Injective Refusal.ofInput := by
  rintro (e | c) (e' | c') h
  · rw [Refusal.input.inj h]
  · cases h
  · cases h
  · rw [Refusal.crash.inj h]

/-- The test is read first, so the options only fail behind a test that can be read. -/
theorem readBoth_eq_error_iff {test options : Value} {failure : InputFailure} :
    readBoth test options = .error (.ofInput failure) ↔
      TestDefinition.ofValue test = .error failure ∨
        (∃ t, TestDefinition.ofValue test = .ok t) ∧
          RunOptions.ofValue options = .error failure := by
  have hSame {failure' : InputFailure} :
      (Except.error (Refusal.ofInput failure') : Except Refusal (TestDefinition × RunOptions)) =
        .error (.ofInput failure) ↔ failure' = failure := by
    rw [Except.error.injEq, Refusal.ofInput_injective.eq_iff]
  unfold readBoth
  -- the test is read first: what its reader fails with hides whatever is wrong with the options
  cases TestDefinition.ofValue test with
  | error failure' =>
    refine hSame.trans ?_
    simp only [Except.error.injEq, reduceCtorEq, exists_false, false_and, or_false]
  | ok t =>
    cases RunOptions.ofValue options with
    | error failure' =>
      refine hSame.trans ?_
      simp only [Except.error.injEq, reduceCtorEq, false_or, Except.ok.injEq, exists_eq',
        true_and]
    | ok o =>
      refine iff_of_false (fun h => ?_) fun h => ?_
      · cases h
      · rcases h with h | ⟨-, h⟩
        · cases h
        · cases h

/-- Nothing but a failure to read keeps what is read from being accepted. -/
theorem refusal_of_readBoth {test options : Value} {refusal : Refusal}
    (h : readBoth test options = .error refusal) :
    ∃ failure, refusal = .ofInput failure := by
  unfold readBoth at h
  -- neither reader gives one of the early refusals: a failure of either is handed on as it is
  cases hTest : TestDefinition.ofValue test with
  | error failure =>
    rw [hTest] at h
    exact ⟨failure, (Except.error.inj h).symm⟩
  | ok t =>
    cases hOptions : RunOptions.ofValue options with
    | error failure =>
      rw [hTest, hOptions] at h
      exact ⟨failure, (Except.error.inj h).symm⟩
    | ok o =>
      rw [hTest, hOptions] at h
      cases h

/-- Only what is posted is read, and everything else is refused before. -/
theorem parse_cases (hMethod : r.method ∈ methods) (hPath : r.path ∈ paths) :
    (∃ test options, Posts r test options ∧ parse r = readBoth test options) ∨
      (∀ test options, ¬ Posts r test options) ∧
        ∃ refusal, parse r = .error refusal ∧
          refusal ∈ [Refusal.notPosted, .notATest, .notOptions] := by
  rw [parse_of_route hMethod hPath]
  by_cases hPost : r.method = "POST"
  · rw [if_pos hPost]
    -- a posted body either has the form of a call, or one of its two parts has not
    by_cases hPosts : ∃ test options, Posts r test options
    · obtain ⟨test, options, h⟩ := hPosts
      exact .inl ⟨test, options, h, parseBody_of_posts h⟩
    · have hNot : ∀ test options, ¬ Posts r test options := fun test options h =>
        hPosts ⟨test, options, h⟩
      refine .inr ⟨hNot, ?_⟩
      rcases parseBody_of_not_posts hPost hNot with h | h
      · exact ⟨.notATest, h, by decide⟩
      · exact ⟨.notOptions, h, by decide⟩
  · rw [if_neg hPost]
    exact .inr ⟨fun test options h => hPost h.isPost, .notPosted, rfl, by decide⟩

/-- A request is accepted exactly if it posts what can be read. -/
theorem parse_eq_ok_iff (hMethod : r.method ∈ methods) (hPath : r.path ∈ paths)
    {t : TestDefinition} {o : RunOptions} : parse r = .ok (t, o) ↔ Accepts r t o := by
  -- what is accepted is posted, and what is posted is read as one pair only
  rcases parse_cases hMethod hPath with
    ⟨test, options, hPosts, hParse⟩ | ⟨hNot, refusal, hParse, -⟩
  · rw [hParse, readBoth_eq_ok_iff]
    constructor
    · rintro ⟨hTest, hOptions⟩
      exact ⟨test, options, hPosts, hTest, hOptions⟩
    · rintro ⟨test', options', hPosts', hTest, hOptions⟩
      obtain ⟨rfl, rfl⟩ := hPosts.unique hPosts'
      exact ⟨hTest, hOptions⟩
  · rw [hParse]
    exact iff_of_false nofun fun ⟨_, _, hPosts, _⟩ => hNot _ _ hPosts

/-- Reading a request fails exactly if reading what it posts does. -/
theorem parse_eq_error_iff (hMethod : r.method ∈ methods) (hPath : r.path ∈ paths)
    {failure : InputFailure} : parse r = .error (.ofInput failure) ↔ Fails r failure := by
  rcases parse_cases hMethod hPath with
    ⟨test, options, hPosts, hParse⟩ | ⟨hNot, refusal, hParse, hEarly⟩
  -- something is posted, and it is read as one pair only, so both sides speak of the same readers
  · rw [hParse, readBoth_eq_error_iff]
    constructor
    · rintro (hTest | ⟨⟨t, hTest⟩, hOptions⟩)
      · exact .test hPosts hTest
      · exact .options hPosts hTest hOptions
    · intro h
      cases h with
      | test hPosts' hTest =>
        obtain ⟨rfl, rfl⟩ := hPosts.unique hPosts'
        exact .inl hTest
      | options hPosts' hTest hOptions =>
        obtain ⟨rfl, rfl⟩ := hPosts.unique hPosts'
        exact .inr ⟨⟨_, hTest⟩, hOptions⟩
  · -- nothing is posted, and a refusal that comes before that is none of what is read
    rw [hParse]
    refine iff_of_false ?_ fun h => ?_
    · cases failure <;>
      · rintro ⟨⟩
        simp only [Refusal.ofInput, List.mem_cons, reduceCtorEq, List.not_mem_nil, or_self]
          at hEarly
    · cases h with
      | test hPosts => exact hNot _ _ hPosts
      | options hPosts => exact hNot _ _ hPosts

/-- A request that is refused before anything is read is answered so. -/
theorem response_of_refused (hMethod : r.method ∈ methods) (hPath : r.path ∈ paths)
    {refusal : Refusal} (h : parse r = .error refusal) (hNot : ∀ failure, ¬ Fails r failure) :
    ∃ body, refusal.response = ⟨400, some body, none⟩ := by
  rcases parse_cases hMethod hPath with
    ⟨test, options, hPosts, hParse⟩ | ⟨-, early, hParse, hEarly⟩
  -- a refusal of one of the readers is excluded
  · rw [hParse] at h
    obtain ⟨failure, rfl⟩ := refusal_of_readBoth h
    rw [h] at hParse
    exact absurd ((parse_eq_error_iff hMethod hPath).mp hParse) (hNot failure)
  · rw [hParse] at h
    cases h
    simp only [List.mem_cons, List.not_mem_nil, or_false] at hEarly
    rcases hEarly with rfl | rfl | rfl <;> exact ⟨_, rfl⟩

/-- What is posted is plain. -/
theorem Posts.plain {test options : Value} (h : Posts r test options) : test.Plain := by
  obtain ⟨data, hBody, rfl, -⟩ := h.body
  exact (Json.plain_of_ofBody? hBody).field rfl "test"

/-- Reading a body crashes for nothing but a duration that has no integer part. -/
theorem Fails.isUnmeasurable {c : Crash} (h : Fails r (.crash c)) : c.IsUnmeasurable := by
  cases h with
  | test hPosts hTest =>
    exact (((TestDefinition.reads_ofValue _).crash c).mp hTest).isUnmeasurable hPosts.plain
  | options _ _ hOptions =>
    exact (((RunOptions.reads_ofValue _).crash c).mp hOptions).isUnmeasurable

/-- The assertions of a posted test have plain ids and names. -/
theorem Accepts.plain {t : TestDefinition} {o : RunOptions} (h : Accepts r t o) :
    ∀ a ∈ t.assertions, a.IsPlain := by
  obtain ⟨test, options, hPosts, hTest, -⟩ := h
  exact (((TestDefinition.reads_ofValue test).ok t).mp hTest).isPlain hPosts.plain

end Endpoint

/-! ## Which reports can be written -/

/-- The id or the name holds a number that is not finite. -/
def Assertion.HoldsNonFinite (a : Assertion) : Prop :=
  a.id.HoldsNonFinite ∨ a.name.HoldsNonFinite

namespace TestResult

variable {r : TestResult}

/-- A message is a text, or null where it is missing. -/
theorem plain_message (m : Option Text) : ((m.map Value.text).getD .null).Plain := by
  cases m with
  | none => exact .null
  | some s => exact .text s

/-- A result is plain if its id and its name are. -/
theorem plain_toValue (hId : r.id.Plain) (hName : r.name.Plain) : r.toValue.Plain := by
  refine Value.plain_ofFields (List.forall_mem_singleton.mpr (Value.plain_ofFields ?_))
  refine List.forall_mem_append.mpr ⟨?_, ?_⟩
  · simp only [List.forall_mem_cons]
    exact ⟨hId, hName, .text _, nofun⟩
  · split
    · exact List.forall_mem_singleton.mpr (plain_message r.message)
    · nofun

theorem holdsNonFinite_toValue :
    r.toValue.HoldsNonFinite ↔ r.id.HoldsNonFinite ∨ r.name.HoldsNonFinite := by
  rw [spreads_toValue fun _ => Value.holdsNonFinite_ofFields]
  refine or_congr_right (or_iff_left ?_)
  rintro (h | ⟨m, -, -, h⟩) <;> cases h

/-- The id, the name or the message of the result holds a half. -/
def HoldsHalf (r : TestResult) : Prop :=
  r.id.HoldsHalf ∨ r.name.HoldsHalf ∨ ∃ m, r.message = some m ∧ m.HoldsHalf

/-- A result holds a half in its id, its name or its message. -/
theorem holdsHalf_toValue : r.toValue.HoldsHalf ↔ r.HoldsHalf := by
  have hOutcome : ¬ (Value.text r.outcome.text).HoldsHalf := by
    rw [Value.holdsHalf_text]
    exact Text.not_holdsHalf_whole _
  -- a message that is left out is empty
  have hShown {m : Text} (h : m.HoldsHalf) : (Value.text m).isTruthy = true := by
    cases m with
    | whole s => cases h
    | broken => rfl
  rw [spreads_toValue fun _ => Value.holdsHalf_ofFields, HoldsHalf, or_iff_right hOutcome]
  refine or_congr_right (or_congr_right (exists_congr fun m => and_congr_right fun _ => ?_))
  rw [Value.holdsHalf_text]
  exact ⟨And.right, fun h => ⟨hShown h, h⟩⟩

/-- **A report holds a half** exactly if one of its results does. -/
theorem holdsHalf_report {results : List TestResult} :
    (report results).HoldsHalf ↔ ∃ r ∈ results, r.HoldsHalf := by
  rw [spreads_report fun _ => Value.holdsHalf_list]
  simp only [holdsHalf_toValue]

/-- **When a report cannot be written**: the style is strict, and an id or a name in it holds a
number that is not finite. -/
theorem write_report_eq_error_iff (style : Json.Style) {results : List TestResult}
    {as : List Assertion} (hHeads : results.map head = as.map Assertion.head)
    (hPlain : ∀ a ∈ as, a.IsPlain) {c : Crash} :
    Json.write style (report results) = .error c ↔
      c = .notFinite ∧ style.strict = true ∧ ∃ a ∈ as, a.HoldsNonFinite := by
  have hReport : (report results).Plain := by
    refine .list fun v hv => ?_
    obtain ⟨r, hr, rfl⟩ := List.mem_map.mp hv
    -- a result is reported under what its assertion is
    obtain ⟨a, ha, hHead⟩ := (exists_head_iff hHeads (· = r.head)).mp ⟨r, hr, rfl⟩
    obtain ⟨hId, hName⟩ := Prod.mk.inj hHead
    exact plain_toValue (hId ▸ (hPlain a ha).1) (hName ▸ (hPlain a ha).2)
  refine (hReport.failsIff_writeAt style 0 c).trans (and_congr_right fun _ =>
    and_congr_right fun _ => ?_)
  rw [spreads_report fun _ => Value.holdsNonFinite_list]
  simp only [holdsNonFinite_toValue]
  exact exists_head_iff hHeads fun head => head.1.HoldsNonFinite ∨ head.2.HoldsNonFinite

end TestResult

namespace Endpoint

/-! ## Answers -/

/-- A posted test gives what the test gives, with the same trace: neither line of the log about
it matters. -/
theorem run_runPosted (t : TestDefinition) (o : RunOptions) (w : World) :
    ((runPosted t o).run w).1 = ((runTest o t).run w).1 ∧
      ((runPosted t o).run w).2.trace = ((runTest o t).run w).2.trace := by
  -- the line logged first changes nothing about the run but what has been logged
  obtain ⟨hResult, log, hLeft⟩ := runTest_addLog o t w
    [⟨.info, "Received test '" ++ t.name ++ s!"' with {o.trackers.length} tracker(s)"⟩]
  have hTrace := congrArg World.trace hLeft
  rw [runPosted, RunM.run_bind, RunM.run_log]
  simp only []
  rw [← hResult, show ((runTest o t).run w).2.trace = _ from hTrace.symm, RunM.run_tryCatch]
  rcases (runTest o t).run (w.addLog _) with ⟨f | results, v⟩
  · simp only []
    -- a failure is logged once more or not, and handed on in both cases
    split
    · exact ⟨rfl, rfl⟩
    · exact ⟨rfl, rfl⟩
  · exact ⟨rfl, rfl⟩

/-- What is refused is answered without starting a browser. -/
theorem answer_of_refusal {page : Page} {r : Request} {refusal : Refusal}
    (h : parse r = .error refusal) : answer page r = (refusal.response, { page }) := by
  unfold answer
  rw [h]

/-- A test that is accepted is run, and answered by what its run gives. -/
theorem answer_of_test {page : Page} {r : Request} {t : TestDefinition} {o : RunOptions}
    (h : parse r = .ok (t, o)) :
    (answer page r).1 = reportOn ((runTest o t).run (.before page o)).1 ∧
      (answer page r).2.trace = ((runTest o t).run (.before page o)).2.trace := by
  obtain ⟨hResult, hTrace⟩ := run_runPosted t o (.before page o)
  rw [← hResult, ← hTrace]
  unfold answer
  rw [h]
  exact ⟨rfl, rfl⟩

/-- The request posts the test, which returns results when it is run on the page. -/
def Returns (page : Page) (r : Request) (t : TestDefinition) (results : List TestResult) : Prop :=
  ∃ o, Accepts r t o ∧ ((runTest o t).run (.before page o)).1 = .ok results

/-- Only what is posted returns anything. -/
theorem Returns.isPost {page : Page} {r : Request} {t : TestDefinition}
    {results : List TestResult} (h : Returns page r t results) : r.method = "POST" := by
  obtain ⟨o, ⟨test, options, hPosts, -⟩, -⟩ := h
  exact hPosts.isPost

/-- Only what is posted is read. -/
theorem Fails.isPost {r : Request} {failure : InputFailure} (h : Fails r failure) :
    r.method = "POST" := by
  cases h with
  | test hPosts => exact hPosts.isPost
  | options hPosts => exact hPosts.isPost

/-- What is to be sent to answer a request, with its status: the report of its test, or a detail
that says why what is posted cannot be read or why its run failed. -/
inductive Sends (page : Page) (r : Request) : Nat → Text → Prop
  | report {t : TestDefinition} {results : List TestResult} {text : Text}
      (hReturns : Returns page r t results)
      (hText : Json.write .compact (TestResult.report results) = .ok text) : Sends page r 200 text
  | unreadable {e : InputError} (hFails : Fails r (.refused e)) :
      Sends page r 400 (detailText e.message)
  | failed {t : TestDefinition} {o : RunOptions} {f : Failure} (hAccepts : Accepts r t o)
      (hRun : ((runTest o t).run (.before page o)).1 = .error f) :
      Sends page r 400 (detailText (failureText f))

/-- Only to a post a report or a detail is sent. -/
theorem Sends.isPost {page : Page} {r : Request} {status : Nat} {text : Text}
    (h : Sends page r status text) : r.method = "POST" := by
  cases h with
  | report hReturns => exact hReturns.isPost
  | unreadable hFails => exact hFails.isPost
  | failed hAccepts =>
    obtain ⟨test, options, hPosts, -⟩ := hAccepts
    exact hPosts.isPost

/-- What is sent is a report or the detail of a bad request. -/
theorem Sends.status_cases {page : Page} {r : Request} {status : Nat} {text : Text}
    (h : Sends page r status text) : status = 200 ∨ status = 400 := by
  cases h with
  | report => exact .inl rfl
  | unreadable => exact .inr rfl
  | failed => exact .inr rfl

/-- What is to be sent holds a half: it is in the id, the name or the message of a result, or in
what is said of a failure. -/
inductive Unencodable (page : Page) (r : Request) : Prop
  | report {t : TestDefinition} {results : List TestResult} (hReturns : Returns page r t results)
      (hFinite : ∀ a ∈ t.assertions, ¬ a.HoldsNonFinite) (hHalf : ∃ x ∈ results, x.HoldsHalf)
  | unreadable {e : InputError} (hFails : Fails r (.refused e)) (hHalf : e.message.HoldsHalf)
  | failed {t : TestDefinition} {o : RunOptions} {f : Failure} (hAccepts : Accepts r t o)
      (hRun : ((runTest o t).run (.before page o)).1 = .error f)
      (hHalf : (failureText f).HoldsHalf)

/-- A detail holds a half exactly if its message does. -/
theorem holdsHalf_detailText {detail : Text} : (detailText detail).HoldsHalf ↔ detail.HoldsHalf := by
  rw [detailText, Text.holdsHalf_append, Text.holdsHalf_append, Json.holdsHalf_writeText,
    or_iff_right (Text.not_holdsHalf_whole _), or_iff_left (Text.not_holdsHalf_whole _)]

/-- An answer to a request, with what it is about. -/
inductive Answered (page : Page) (r : Request) : Response → Prop
  | sent {status : Nat} {text : Text} {body : String} (hSends : Sends page r status text)
      (hWhole : text = .whole body) : Answered page r ⟨status, some body, none⟩
  | broken {status : Nat} {text : Text} {halves : Utf8.Unpaired}
      (hSends : Sends page r status text) (hHalves : Utf8.writable text = .error halves) :
      Answered page r (crashed (.unencodable halves))
  | unwritable {t : TestDefinition} {results : List TestResult}
      (hReturns : Returns page r t results) (hNot : ∃ a ∈ t.assertions, a.HoldsNonFinite) :
      Answered page r (crashed .notFinite)
  | crashed {c : Crash} (hFails : Fails r (.crash c)) : Answered page r (crashed c)
  /-- The request is turned down before anything is read. -/
  | turnedDown {body : Option String} (hAccepts : ∀ t o, ¬ Accepts r t o)
      (hFails : ∀ failure, ¬ Fails r failure) : Answered page r ⟨400, body, none⟩

@[simp] theorem encoded_whole (status : Nat) (body : String) :
    encoded status body = ⟨status, some body, none⟩ := rfl

/-- A body that holds a half cannot be encoded, which is a crash. -/
theorem encoded_of_holdsHalf (status : Nat) {text : Text} (h : text.HoldsHalf) :
    ∃ halves, encoded status text = crashed (.unencodable halves) := by
  obtain ⟨halves, hHalves⟩ := Utf8.writable_eq_error_iff.mpr h
  exact ⟨halves, by rw [encoded, hHalves]⟩

/-- What is to be sent is the answer if it can be encoded. -/
theorem Sends.answered {page : Page} {r : Request} {status : Nat} {text : Text}
    (h : Sends page r status text) : Answered page r (encoded status text) := by
  unfold encoded
  cases hText : Utf8.writable text with
  | ok body => exact .sent h (Utf8.writable_eq_ok_iff.mp hText)
  | error halves => exact .broken h hText

section Known

variable {page : Page} {r : Request} (hMethod : r.method ∈ methods) (hPath : r.path ∈ paths)

include hMethod hPath

/-- A request is accepted as one test under one set of options. -/
theorem Accepts.unique {t t' : TestDefinition} {o o' : RunOptions} (h : Accepts r t o)
    (h' : Accepts r t' o') : t' = t ∧ o' = o := by
  have hParse := (parse_eq_ok_iff hMethod hPath).mpr h
  rw [(parse_eq_ok_iff hMethod hPath).mpr h'] at hParse
  exact Prod.mk.inj (Except.ok.inj hParse)

/-- A run on a page returns one list of results. -/
theorem Returns.unique {t t' : TestDefinition} {results results' : List TestResult}
    (h : Returns page r t results) (h' : Returns page r t' results') :
    t' = t ∧ results' = results := by
  obtain ⟨o, hAccepts, hRun⟩ := h
  obtain ⟨o', hAccepts', hRun'⟩ := h'
  obtain ⟨rfl, rfl⟩ := hAccepts.unique hMethod hPath hAccepts'
  rw [hRun] at hRun'
  exact ⟨rfl, (Except.ok.inj hRun').symm⟩

/-- A request fails to be read in one way. -/
theorem Fails.unique {failure failure' : InputFailure} (h : Fails r failure)
    (h' : Fails r failure') : failure' = failure := by
  have hParse := (parse_eq_error_iff hMethod hPath).mpr h
  rw [(parse_eq_error_iff hMethod hPath).mpr h'] at hParse
  exact Refusal.ofInput_injective (Except.error.inj hParse)

/-- What fails to be read is not accepted. -/
theorem Fails.not_accepts {failure : InputFailure} (h : Fails r failure) {t : TestDefinition}
    {o : RunOptions} : ¬ Accepts r t o := by
  intro hAccepts
  have hParse := (parse_eq_error_iff hMethod hPath).mpr h
  rw [(parse_eq_ok_iff hMethod hPath).mpr hAccepts] at hParse
  cases hParse

/-- A test that is posted and returns is neither unreadable nor does it fail. -/
theorem Returns.text_of_sends {t : TestDefinition} {results : List TestResult} {status : Nat}
    {text : Text} (h : Returns page r t results) (hSends : Sends page r status text) :
    status = 200 ∧ Json.write .compact (TestResult.report results) = .ok text := by
  cases hSends with
  | report hReturns hText =>
    obtain ⟨rfl, rfl⟩ := h.unique hMethod hPath hReturns
    exact ⟨rfl, hText⟩
  -- the two other ways to send a text belong to requests whose run gives no results
  | unreadable hFails =>
    obtain ⟨o, hAccepts, -⟩ := h
    exact absurd hAccepts (hFails.not_accepts hMethod hPath)
  | failed hAccepts hRun =>
    obtain ⟨o, hAccepts', hRun'⟩ := h
    obtain ⟨rfl, rfl⟩ := hAccepts.unique hMethod hPath hAccepts'
    rw [hRun] at hRun'
    cases hRun'

/-- Where reading crashes nothing is sent. -/
theorem Sends.not_fails_crash {status : Nat} {text : Text} (h : Sends page r status text)
    (c : Crash) : ¬ Fails r (.crash c) := by
  intro hFails
  cases h with
  | report hReturns =>
    obtain ⟨o, hAccepts, -⟩ := hReturns
    exact hFails.not_accepts hMethod hPath hAccepts
  | unreadable hFails' => cases hFails.unique hMethod hPath hFails'
  | failed hAccepts => exact hFails.not_accepts hMethod hPath hAccepts

omit hMethod hPath in
/-- Where nothing is accepted and nothing is read there is nothing to send. -/
theorem not_sends (hAccepts : ∀ t o, ¬ Accepts r t o) (hFails : ∀ failure, ¬ Fails r failure)
    (status : Nat) (text : Text) : ¬ Sends page r status text := by
  intro h
  cases h with
  | report hReturns =>
    obtain ⟨o, h, -⟩ := hReturns
    exact hAccepts _ _ h
  | unreadable h => exact hFails _ h
  | failed h => exact hAccepts _ _ h

/-- There is one thing to send. -/
theorem Sends.unique {status status' : Nat} {text text' : Text} (h : Sends page r status text)
    (h' : Sends page r status' text') : status' = status ∧ text' = text := by
  -- a request is of one of the three kinds only, so that nine cases come down to the three in which
  -- both are of the same kind
  cases h with
  | report hReturns hText =>
    obtain ⟨rfl, hText'⟩ := hReturns.text_of_sends hMethod hPath h'
    rw [hText] at hText'
    exact ⟨rfl, (Except.ok.inj hText').symm⟩
  | unreadable hFails =>
    cases h' with
    | report hReturns =>
      obtain ⟨o, hAccepts, -⟩ := hReturns
      exact absurd hAccepts (hFails.not_accepts hMethod hPath)
    | unreadable hFails' =>
      cases hFails.unique hMethod hPath hFails'
      exact ⟨rfl, rfl⟩
    | failed hAccepts => exact absurd hAccepts (hFails.not_accepts hMethod hPath)
  | failed hAccepts hRun =>
    cases h' with
    | report hReturns hText =>
      obtain ⟨o, hAccepts', hRun'⟩ := hReturns
      obtain ⟨rfl, rfl⟩ := hAccepts.unique hMethod hPath hAccepts'
      rw [hRun] at hRun'
      cases hRun'
    | unreadable hFails => exact absurd hAccepts (hFails.not_accepts hMethod hPath)
    | failed hAccepts' hRun' =>
      obtain ⟨rfl, rfl⟩ := hAccepts.unique hMethod hPath hAccepts'
      rw [hRun] at hRun'
      cases hRun'
      exact ⟨rfl, rfl⟩

omit hMethod hPath in
/-- The report of a posted test cannot be written exactly if an id or a name of its assertions
holds a number that is not finite. -/
theorem Returns.write_eq_error_iff {t : TestDefinition} {results : List TestResult}
    (h : Returns page r t results) {c : Crash} :
    Json.write .compact (TestResult.report results) = .error c ↔
      c = .notFinite ∧ ∃ a ∈ t.assertions, a.HoldsNonFinite := by
  obtain ⟨o, hAccepts, hRun⟩ := h
  refine (TestResult.write_report_eq_error_iff .compact (heads_of_runTest hRun)
    hAccepts.plain).trans ?_
  simp only [Json.Style.compact, true_and]

omit hMethod hPath in
/-- The report of a posted test can be written unless an id or a name holds a number that is not
finite. -/
theorem Returns.write_eq_ok_iff {t : TestDefinition} {results : List TestResult}
    (h : Returns page r t results) :
    (∃ text, Json.write .compact (TestResult.report results) = .ok text) ↔
      ∀ a ∈ t.assertions, ¬ a.HoldsNonFinite := by
  cases hText : Json.write .compact (TestResult.report results) with
  | error c =>
    obtain ⟨-, a, ha, hHolds⟩ := h.write_eq_error_iff.mp hText
    exact iff_of_false nofun fun hFinite => hFinite a ha hHolds
  | ok text =>
    refine iff_of_true ⟨text, rfl⟩ fun a ha hHolds => ?_
    rw [h.write_eq_error_iff.mpr ⟨rfl, a, ha, hHolds⟩] at hText
    cases hText

omit hMethod hPath in
/-- What is written about an accepted test. -/
theorem Accepts.answered {t : TestDefinition} {o : RunOptions} (h : Accepts r t o) :
    Answered page r (reportOn ((runTest o t).run (.before page o)).1) := by
  -- the run decides what there is to answer, and then writing it decides whether it can be
  cases hRun : ((runTest o t).run (.before page o)).1 with
  | error f => exact (Sends.failed h hRun).answered
  | ok results =>
    have hReturns : Returns page r t results := ⟨o, h, hRun⟩
    cases hText : Json.write .compact (TestResult.report results) with
    | error c =>
      obtain ⟨rfl, hNot⟩ := hReturns.write_eq_error_iff.mp hText
      simp only [reportOn, hText]
      exact .unwritable hReturns hNot
    | ok text =>
      simp only [reportOn, hText]
      exact (Sends.report hReturns hText).answered

/-- Each request on a known route is answered in one of these ways. -/
theorem answered_answer : Answered page r (answer page r).1 := by
  cases hParse : parse r with
  | ok p =>
    obtain ⟨t, o⟩ := p
    rw [(answer_of_test hParse).1]
    exact ((parse_eq_ok_iff hMethod hPath).mp hParse).answered
  | error refusal =>
    rw [answer_of_refusal hParse]
    by_cases hRead : ∃ failure, Fails r failure
    -- what the reader failed with is sent as a detail if it is a refusal, and raised if it is a
    -- crash
    · obtain ⟨failure, hFails⟩ := hRead
      rw [(parse_eq_error_iff hMethod hPath).mpr hFails] at hParse
      cases hParse
      cases failure with
      | refused e => exact (Sends.unreadable hFails).answered
      | crash c => exact .crashed hFails
    -- none of the readers has failed, so that the request was turned down before them
    · have hFails (failure : InputFailure) : ¬ Fails r failure := fun h => hRead ⟨failure, h⟩
      obtain ⟨body, hResponse⟩ := response_of_refused hMethod hPath hParse hFails
      rw [hResponse]
      refine .turnedDown (fun t o hAccepts => ?_) hFails
      rw [(parse_eq_ok_iff hMethod hPath).mpr hAccepts] at hParse
      cases hParse

omit hMethod hPath in
/-- A body with a half is one of the three that can hold one: a report, the message of a refusal, or
the message of a run that failed. -/
theorem exists_sends_holdsHalf_iff :
    (∃ status text, Sends page r status text ∧ text.HoldsHalf) ↔ Unencodable page r := by
  constructor
  · rintro ⟨status, text, hSends, hHalf⟩
    cases hSends with
    -- a report holds a half exactly where one of its results does
    | report hReturns hText =>
      rw [Json.holdsHalf_write hText, TestResult.holdsHalf_report] at hHalf
      exact .report hReturns (hReturns.write_eq_ok_iff.mp ⟨_, hText⟩) hHalf
    | unreadable hFails => exact .unreadable hFails (holdsHalf_detailText.mp hHalf)
    | failed hAccepts hRun => exact .failed hAccepts hRun (holdsHalf_detailText.mp hHalf)
  · intro h
    cases h with
    | report hReturns hFinite hHalf =>
      obtain ⟨text, hText⟩ := hReturns.write_eq_ok_iff.mpr hFinite
      refine ⟨_, _, .report hReturns hText, ?_⟩
      rwa [Json.holdsHalf_write hText, TestResult.holdsHalf_report]
    | unreadable hFails hHalf => exact ⟨_, _, .unreadable hFails, holdsHalf_detailText.mpr hHalf⟩
    | failed hAccepts hRun hHalf =>
      exact ⟨_, _, .failed hAccepts hRun, holdsHalf_detailText.mpr hHalf⟩

end Known

namespace Answered

variable {page : Page} {r : Request} {response : Response}

/-- Without a post there is nothing in the body that matters. -/
theorem withoutBody (h : Answered page r response) (hMethod : r.method ≠ "POST") :
    Answered page r { response with body := none } := by
  cases h with
  | sent hSends => exact absurd hSends.isPost hMethod
  | broken hSends => exact absurd hSends.isPost hMethod
  | unwritable hReturns => exact absurd hReturns.isPost hMethod
  | crashed hFails => exact absurd hFails.isPost hMethod
  | turnedDown hAccepts hFails => exact .turnedDown hAccepts hFails

theorem status_cases (h : Answered page r response) :
    response.status = 200 ∨ response.status = 400 ∨ response.status = 500 := by
  cases h with
  | sent hSends =>
    rcases hSends.status_cases with rfl | rfl
    · exact .inl rfl
    · exact .inr (.inl rfl)
  | broken => exact .inr (.inr rfl)
  | unwritable => exact .inr (.inr rfl)
  | crashed => exact .inr (.inr rfl)
  | turnedDown => exact .inr (.inl rfl)

/-- A server error is always a crash that was raised, and the other way round. -/
theorem status_eq_error_iff (h : Answered page r response) :
    response.status = 500 ↔ ∃ c, response.raised = some c := by
  cases h with
  | sent hSends =>
    rcases hSends.status_cases with rfl | rfl
    · exact iff_of_false nofun nofun
    · exact iff_of_false nofun nofun
  | broken => exact iff_of_true rfl ⟨_, rfl⟩
  | unwritable => exact iff_of_true rfl ⟨_, rfl⟩
  | crashed => exact iff_of_true rfl ⟨_, rfl⟩
  | turnedDown => exact iff_of_false nofun nofun

variable (hMethod : r.method ∈ methods) (hPath : r.path ∈ paths)

include hMethod hPath

/-- The answer to a test that returns is its report, unless that cannot be written or encoded. -/
theorem of_returns (h : Answered page r response) {t : TestDefinition}
    {results : List TestResult} (hReturns : Returns page r t results) :
    (∃ text : String, Json.write .compact (TestResult.report results) = .ok text ∧
        response = ⟨200, some text, none⟩) ∨
      (∃ text halves, Json.write .compact (TestResult.report results) = .ok text ∧
        Utf8.writable text = .error halves ∧
        response = Endpoint.crashed (.unencodable halves)) ∨
      (∃ a ∈ t.assertions, a.HoldsNonFinite) ∧ response = Endpoint.crashed .notFinite := by
  have hAccepts : ∃ o, Accepts r t o := hReturns.imp fun _ h => h.1
  -- the results are determined by the request, so that every answer to it is about them
  cases h with
  | sent hSends hWhole =>
    obtain ⟨rfl, hText⟩ := hReturns.text_of_sends hMethod hPath hSends
    exact .inl ⟨_, hWhole ▸ hText, rfl⟩
  | broken hSends hHalves =>
    obtain ⟨-, hText⟩ := hReturns.text_of_sends hMethod hPath hSends
    exact .inr (.inl ⟨_, _, hText, hHalves, rfl⟩)
  | unwritable hReturns' hNot =>
    obtain ⟨rfl, -⟩ := hReturns.unique hMethod hPath hReturns'
    exact .inr (.inr ⟨hNot, rfl⟩)
  | crashed hFails =>
    obtain ⟨o, hAccepts⟩ := hAccepts
    exact absurd hAccepts (hFails.not_accepts hMethod hPath)
  | turnedDown hNone =>
    obtain ⟨o, hAccepts⟩ := hAccepts
    exact absurd hAccepts (hNone t o)

/-- A report is sent exactly if it can be written and encoded. -/
theorem status_eq_ok_iff (h : Answered page r response) :
    response.status = 200 ↔ ∃ t results, Returns page r t results ∧
      (∀ a ∈ t.assertions, ¬ a.HoldsNonFinite) ∧ ∀ x ∈ results, ¬ x.HoldsHalf := by
  have hWhole {results : List TestResult} {text : Text}
      (hText : Json.write .compact (TestResult.report results) = .ok text) :
      text.HoldsHalf ↔ ∃ x ∈ results, x.HoldsHalf := by
    rw [Json.holdsHalf_write hText, TestResult.holdsHalf_report]
  constructor
  · intro hStatus
    -- of the answers only a report that could be written and encoded has the status 200
    cases h with
    | sent hSends hBody =>
      cases hSends with
      | report hReturns hText =>
        refine ⟨_, _, hReturns, hReturns.write_eq_ok_iff.mp ⟨_, hText⟩, fun x hx hHalf => ?_⟩
        have hHolds := (hWhole hText).mpr ⟨x, hx, hHalf⟩
        rw [hBody] at hHolds
        exact Text.not_holdsHalf_whole _ hHolds
      | unreadable => cases hStatus
      | failed => cases hStatus
    | broken => cases hStatus
    | unwritable => cases hStatus
    | crashed => cases hStatus
    | turnedDown => cases hStatus
  · rintro ⟨t, results, hReturns, hFinite, hNone⟩
    -- conversely the results can be written, and their text can be encoded
    rcases h.of_returns hMethod hPath hReturns with
      ⟨text, -, rfl⟩ | ⟨text, halves, hText, hHalves, -⟩ | ⟨⟨a, ha, hHolds⟩, -⟩
    · rfl
    · obtain ⟨x, hx, hHalf⟩ := (hWhole hText).mp (Utf8.writable_eq_error_iff.mp ⟨_, hHalves⟩)
      exact absurd hHalf (hNone x hx)
    · exact absurd hHolds (hFinite a ha)

/-- With the status of success the body is the report of the run. -/
theorem body_of_ok (h : Answered page r response) {t : TestDefinition}
    {results : List TestResult} (hReturns : Returns page r t results)
    (hStatus : response.status = 200) :
    ∃ text : String, Json.write .compact (TestResult.report results) = .ok text ∧
      response.body = some text := by
  rcases h.of_returns hMethod hPath hReturns with
    ⟨text, hText, rfl⟩ | ⟨text, halves, -, -, rfl⟩ | ⟨-, rfl⟩
  · exact ⟨text, hText, rfl⟩
  · cases hStatus
  · cases hStatus

/-- What is raised: the crash of reading, the failure to write a number that is not finite, or the
failure to encode a half. -/
theorem raised_eq_some_iff (h : Answered page r response) (c : Crash) :
    response.raised = some c ↔
      Fails r (.crash c) ∧ c.IsUnmeasurable ∨
      (c = .notFinite ∧ ∃ t results, Returns page r t results ∧
        ∃ a ∈ t.assertions, a.HoldsNonFinite) ∨
      ∃ status text halves, Sends page r status text ∧
        Utf8.writable text = .error halves ∧ c = .unencodable halves := by
  constructor
  · intro hRaised
    cases h with
    | sent => cases hRaised
    | broken hSends hHalves =>
      exact .inr (.inr ⟨_, _, _, hSends, hHalves, (Option.some.inj hRaised).symm⟩)
    | unwritable hReturns hNot =>
      exact .inr (.inl ⟨(Option.some.inj hRaised).symm, _, _, hReturns, hNot⟩)
    | crashed hFails =>
      obtain rfl := Option.some.inj hRaised
      exact .inl ⟨hFails, hFails.isUnmeasurable⟩
    | turnedDown => cases hRaised
  · -- the answer is about the one thing that the request comes to
    rintro (⟨hFails, -⟩ | ⟨rfl, t, results, hReturns, hNot⟩ |
      ⟨status, text, halves, hSends, hHalves, rfl⟩)
    -- a reader that crashes leaves nothing to run
    · cases h with
      | sent hSends => exact absurd hFails (hSends.not_fails_crash hMethod hPath c)
      | broken hSends => exact absurd hFails (hSends.not_fails_crash hMethod hPath c)
      | unwritable hReturns =>
        obtain ⟨o, hAccepts, -⟩ := hReturns
        exact absurd hAccepts (hFails.not_accepts hMethod hPath)
      | crashed hFails' =>
        cases hFails.unique hMethod hPath hFails'
        rfl
      | turnedDown _ hNone => exact absurd hFails (hNone _)
    -- results that cannot be written are not sent
    · have hUnwritten : ¬ ∃ text, Json.write .compact (TestResult.report results) = .ok text :=
        fun hText => by
          obtain ⟨a, ha, hHolds⟩ := hNot
          exact hReturns.write_eq_ok_iff.mp hText a ha hHolds
      rcases h.of_returns hMethod hPath hReturns with
        ⟨text, hText, -⟩ | ⟨text, halves, hText, -⟩ | ⟨-, rfl⟩
      · exact absurd ⟨_, hText⟩ hUnwritten
      · exact absurd ⟨_, hText⟩ hUnwritten
      · rfl
    · cases h with
      | sent hSends' hBody =>
        obtain ⟨-, rfl⟩ := hSends.unique hMethod hPath hSends'
        rw [hBody] at hHalves
        cases hHalves
      | broken hSends' hHalves' =>
        obtain ⟨-, rfl⟩ := hSends.unique hMethod hPath hSends'
        rw [hHalves] at hHalves'
        rw [← Except.error.inj hHalves']
        rfl
      | unwritable hReturns hNot =>
        obtain ⟨-, hText⟩ := hReturns.text_of_sends hMethod hPath hSends
        obtain ⟨a, ha, hHolds⟩ := hNot
        exact absurd hHolds (hReturns.write_eq_ok_iff.mp ⟨_, hText⟩ a ha)
      | crashed hFails => exact absurd hFails (hSends.not_fails_crash hMethod hPath _)
      | turnedDown hAccepts hFails => exact absurd hSends (not_sends hAccepts hFails _ _)

end Answered

/-- A head request is answered like any other, but without its body. -/
theorem answered_respond {page : Page} {r : Request} (hMethod : r.method ∈ methods)
    (hPath : r.path ∈ paths) : Answered page r (respond page r).1 := by
  have hAnswered : Answered page r (answer page r).1 := answered_answer hMethod hPath
  have hRespond : (respond page r).1 =
      if r.method = "HEAD" then { (answer page r).1 with body := none } else (answer page r).1 :=
    rfl
  rw [hRespond]
  -- taking the body away changes neither the status nor what is raised
  split
  · next hHead =>
    refine hAnswered.withoutBody ?_
    rw [hHead]
    decide
  · exact hAnswered

/-- **What a request is answered with**, if its method and its path are known. The status is
200 exactly if a test is posted and accepted, returns results when it is run, neither the id nor
the name of one of its assertions is or holds an infinity or not-a-number, and no id, name or
message of the results holds a half of a surrogate pair; the body is the report then. The status
is 500, and a crash is raised, exactly if reading what is posted crashes at a duration that has no
integer part, if the test returns and an id or a name holds such a number, or if the report or the
detail that is to be sent holds a half. In every other case the status is 400. -/
theorem status_of_respond (page : Page) {r : Request} (hMethod : r.method ∈ methods)
    (hPath : r.path ∈ paths) :
    let response := (respond page r).1
    (response.status = 200 ∨ response.status = 400 ∨ response.status = 500) ∧
      (response.status = 200 ↔ ∃ t results, Returns page r t results ∧
        (∀ a ∈ t.assertions, ¬ a.HoldsNonFinite) ∧ ∀ x ∈ results, ¬ x.HoldsHalf) ∧
      (∀ t results, Returns page r t results → response.status = 200 →
        ∃ text : String, Json.write .compact (TestResult.report results) = .ok text ∧
          response.body = some text) ∧
      (response.status = 500 ↔
        (∃ c, Fails r (.crash c) ∧ c.IsUnmeasurable) ∨
        (∃ t results, Returns page r t results ∧ ∃ a ∈ t.assertions, a.HoldsNonFinite) ∨
        Unencodable page r) ∧
      (response.status = 500 ↔ ∃ c, response.raised = some c) ∧
      ∀ c, response.raised = some c ↔
        Fails r (.crash c) ∧ c.IsUnmeasurable ∨
        (c = .notFinite ∧ ∃ t results, Returns page r t results ∧
          ∃ a ∈ t.assertions, a.HoldsNonFinite) ∨
        ∃ status text halves, Sends page r status text ∧
          Utf8.writable text = .error halves ∧ c = .unencodable halves := by
  intro response
  have hAnswered : Answered page r response := answered_respond hMethod hPath
  have hRaised := hAnswered.raised_eq_some_iff hMethod hPath
  refine ⟨hAnswered.status_cases, hAnswered.status_eq_ok_iff hMethod hPath,
    fun t results hReturns => hAnswered.body_of_ok hMethod hPath hReturns, ?_,
    hAnswered.status_eq_error_iff, hRaised⟩
  -- the status is 500 exactly where something is raised, so that the three reasons are those of
  -- raising
  rw [hAnswered.status_eq_error_iff, ← exists_sends_holdsHalf_iff]
  simp only [hRaised, ← Utf8.writable_eq_error_iff]
  constructor
  · rintro ⟨c, hFails | ⟨-, hNot⟩ | ⟨status, text, halves, hSends, hHalves, -⟩⟩
    · exact .inl ⟨c, hFails⟩
    · exact .inr (.inl hNot)
    · exact .inr (.inr ⟨status, text, hSends, halves, hHalves⟩)
  · rintro (⟨c, hFails⟩ | hNot | ⟨status, text, hSends, halves, hHalves⟩)
    · exact ⟨c, .inl hFails⟩
    · exact ⟨_, .inr (.inl ⟨rfl, hNot⟩)⟩
    · exact ⟨_, .inr (.inr ⟨status, text, halves, hSends, hHalves, rfl⟩)⟩

/-- A test of the event layer is posted, and its report is the answer. -/
theorem status_of_respond_reported :
    let page : Page := { layers := [("dataLayer", .list [.ofFields [("v", .int 1)]])] }
    let r : Request := { body :=
      ("\x7b\"test\":\x7b\"steps\":[\x7b\"action\":\"test\",\"test\":\x7b\"id\":1," ++
        "\"name\":\"cart\",\"type\":\"matchDataLayerKeyValue\"," ++
        "\"key\":\"v\",\"value\":1\x7d\x7d]\x7d\x7d").toUTF8.toList }
    let report := "[\x7b\"test\":\x7b\"id\":1,\"name\":\"cart\",\"result\":\"PASS\"\x7d\x7d]"
    r.method ∈ methods ∧ r.path ∈ paths ∧ (respond page r).1 = ⟨200, some report, none⟩ ∧
      ∃ t results, Returns page r t results ∧ (∀ a ∈ t.assertions, ¬ a.HoldsNonFinite) ∧
        ∀ x ∈ results, ¬ x.HoldsHalf := by
  intro page r report
  have hMethod : r.method ∈ methods := by decide
  have hPath : r.path ∈ paths := by decide
  have hResponse : (respond page r).1 = ⟨200, some report, none⟩ := by decide +kernel
  refine ⟨hMethod, hPath, hResponse, ?_⟩
  exact (status_of_respond page hMethod hPath).2.1.mp (by rw [hResponse])

/-- A timeout can be infinite and an id can be not-a-number: the one keeps the options from
being read, the other keeps the results of the same test from being reported. Both end in a
server error. -/
theorem server_error_for_non_finite :
    let infinite : Request := { body :=
      ("\x7b\"test\":\x7b\"steps\":[]\x7d," ++
        "\"options\":\x7b\"timeout\":Infinity\x7d\x7d").toUTF8.toList }
    let unwritable : Request := { body :=
      ("\x7b\"test\":\x7b\"steps\":[\x7b\"action\":\"test\",\"test\":\x7b\"id\":NaN," ++
        "\"name\":\"cart\",\"type\":\"matchDataLayerKeyValue\"," ++
        "\"key\":\"v\",\"value\":1\x7d\x7d]\x7d\x7d").toUTF8.toList }
    (respond {} infinite).1 = crashed .infinityToInteger ∧
      (respond {} unwritable).1 = crashed .notFinite := by
  intro infinite unwritable
  constructor
  · decide +kernel
  · decide +kernel

end Endpoint

end BeaconCheck
