import Mathlib
import BeaconCheck.Proofs.CommandLine.JsonFiles
import BeaconCheck.Proofs.Endpoint.Status

/-!
# The command line and the endpoint agree

A document can be posted to the endpoint, and the command that runs a test can be given a file
with the same document. The two look at the document in different orders and have messages of
their own, but they accept the same documents, run the same test under the same options, and
report the same results. What holds a half of a surrogate pair they run as well, but neither can
report it: a report with a half is lost on both sides, and where only a message has the half the
endpoint fails and the command, which logs the message, does not.

* `RunCommand.request_eq_ok_iff`   — what the command reads from a document with a test.
* `Agreement.accepts_iff_request`  — the endpoint accepts what the command does.
* `Agreement.BothRefuse`, `BothRun`, `Reports` — what agreement is.
* `execute_agrees_with_respond`    — they agree on every document without numbers that are not
  finite.
-/

namespace BeaconCheck

open FieldReading

/-! ## What the command reads -/

namespace RunCommand

variable {files : FileTree} {path : String} {data : Object} {test : Value}

/-- A document with a test is read as the test, and as the options beside it. -/
theorem request_of_document (hFile : files.document path = .ok (.object data))
    (hTest : Value.field? data "test" = some test) :
    request { testFile := path } files = (do
      let t ← TestDefinition.ofValue test
      let o ← RunOptions.ofValue (Value.field data "options")
      return (t, o)) := by
  -- with a test in it the document is not taken for a test itself
  have hSplit : split (.object data) = (test, Value.field data "options") := by
    unfold split
    simp only [Value.entries?, hTest]
  have hParse : request { testFile := path } files = parse (.object data) none false := by
    unfold request
    simp only [hFile]
    rfl
  rw [hParse, parse, hSplit]
  rfl

/-- From a document with a test the command reads both the test and the options beside it. -/
theorem request_eq_ok_iff (hFile : files.document path = .ok (.object data))
    (hTest : Value.field? data "test" = some test) {t : TestDefinition} {o : RunOptions} :
    request { testFile := path } files = .ok (t, o) ↔
      TestDefinition.ofValue test = .ok t ∧
        RunOptions.ofValue (Value.field data "options") = .ok o := by
  rw [request_of_document hFile hTest]
  simp only [bind_eq_ok]
  constructor
  · rintro ⟨t', hReadTest, o', hReadOptions, hPair⟩
    cases hPair
    exact ⟨hReadTest, hReadOptions⟩
  · rintro ⟨hReadTest, hReadOptions⟩
    exact ⟨t, hReadTest, o, hReadOptions, rfl⟩

/-- What crashes is the reading of the test or of the options. -/
theorem crash_of_request (hFile : files.document path = .ok (.object data))
    (hTest : Value.field? data "test" = some test) {c : Crash}
    (h : request { testFile := path } files = .error (.crash c)) :
    TestDefinition.ofValue test = .error (.crash c) ∨
      RunOptions.ofValue (Value.field data "options") = .error (.crash c) := by
  rw [request_of_document hFile hTest, bind_eq_error] at h
  rcases h with hCrash | ⟨t, -, h⟩
  · exact .inl hCrash
  · rcases bind_eq_error.mp h with hCrash | ⟨o, -, hPair⟩
    · exact .inr hCrash
    · cases hPair

/-! ## What the command makes of a run -/

variable {page : Page} {t : TestDefinition} {o : RunOptions}

/-- The results of a test are published. -/
theorem run_of_ok (c : RunCommand) (files : FileTree) {results : List TestResult}
    (hRun : ((runTest o t).run (.before page o)).1 = .ok results) :
    c.run page files t o = c.publish files ((runTest o t).run (.before page o)).2 results := by
  have hPair : (runTest o t).run (.before page o) =
      (.ok results, ((runTest o t).run (.before page o)).2) := Prod.ext hRun rfl
  rw [run, hPair]

/-- A failure that is an error of the run's own is logged, and another one escapes. -/
theorem run_of_failed (c : RunCommand) (files : FileTree) {f : Failure}
    (hRun : ((runTest o t).run (.before page o)).1 = .error f) :
    c.run page files t o =
      let w := ((runTest o t).run (.before page o)).2
      if f.kind?.isSome then
        { result := .ok 1, files, world := w.addLog [⟨.error, "Run failed: " ++ f.message⟩] }
      else { result := .error f, files, world := w } := by
  have hPair : (runTest o t).run (.before page o) =
      (.error f, ((runTest o t).run (.before page o)).2) := Prod.ext hRun rfl
  rw [run, hPair]

/-- The printed report is what the results are written as, on a line of its own. -/
theorem reportText_eq_ok_iff {results : List TestResult} {printed : String} :
    reportText results = .ok printed ↔ ∃ text : String,
      Json.write .page (TestResult.report results) = .ok text ∧ printed = text ++ "\n" := by
  rw [reportText]
  constructor
  · intro h
    obtain ⟨report, hReport, h⟩ := bind_eq_ok.mp h
    obtain ⟨text, hText, hPrinted⟩ := bind_eq_ok.mp h
    obtain rfl := Utf8.writable_eq_ok_iff.mp (mapError_eq_ok_iff.mp hText)
    exact ⟨text, hReport, (Except.ok.inj hPrinted).symm⟩
  · rintro ⟨text, hReport, rfl⟩
    rw [hReport]
    rfl

/-- A report that holds a half is not printed. -/
theorem reportText_of_holdsHalf {results : List TestResult} {report : Text}
    (hReport : Json.write .page (TestResult.report results) = .ok report)
    (hHalf : report.HoldsHalf) : ∃ halves, reportText results = .error (.unencodable halves) := by
  obtain ⟨halves, hHalves⟩ := Utf8.writable_eq_error_iff.mpr hHalf
  refine ⟨halves, bind_eq_error.mpr (.inr ⟨report, hReport, bind_eq_error.mpr (.inl ?_)⟩)⟩
  rw [hHalves]
  rfl

end RunCommand

/-! ## What both accept -/

namespace Agreement

open Endpoint

variable {r : Request} {files : FileTree} {path : String} {data : Object} {test : Value}

/-- What is posted are the fields of the document. -/
theorem fields_of_posts (hBody : Json.ofBody? r.body = some (.object data)) {test options : Value}
    (h : Posts r test options) :
    Value.field data "test" = test ∧ Value.field data "options" = options := by
  obtain ⟨data', hBody', hTest, hOptions⟩ := h.body
  rw [hBody] at hBody'
  obtain rfl := Value.object.inj (Option.some.inj hBody')
  exact ⟨hTest, hOptions⟩

/-- **The endpoint accepts what the command does**, as the same test under the same options. -/
theorem accepts_iff_request (hMethod : r.method = "POST")
    (hBody : Json.ofBody? r.body = some (.object data))
    (hFile : files.document path = .ok (.object data))
    (hTest : Value.field? data "test" = some test) {t : TestDefinition} {o : RunOptions} :
    Accepts r t o ↔ RunCommand.request { testFile := path } files = .ok (t, o) := by
  have hField := Value.field_of_field? hTest
  rw [RunCommand.request_eq_ok_iff hFile hTest]
  constructor
  · rintro ⟨test', options, hPosts, hReadTest, hReadOptions⟩
    obtain ⟨hSame, rfl⟩ := fields_of_posts hBody hPosts
    obtain rfl : test = test' := hField.symm.trans hSame
    exact ⟨hReadTest, hReadOptions⟩
  · rintro ⟨hReadTest, hReadOptions⟩
    -- only objects are read as tests, and as options only objects and null, so that what the
    -- endpoint checks before it reads holds of both
    have hPlain := Json.plain_of_ofBody? hBody
    have hTestPlain : test.Plain := hField ▸ hPlain.field rfl "test"
    have hOptionsPlain := hPlain.field rfl "options"
    obtain ⟨testData, _, hTestData, -⟩ := ((TestDefinition.reads_ofValue test).ok t).mp hReadTest
    refine ⟨test, _, ⟨hMethod, ⟨data, hBody, hField, rfl⟩, ⟨_, hTestPlain.eq_object hTestData⟩,
      ?_⟩, hReadTest, hReadOptions⟩
    cases ((RunOptions.reads_ofValue _).ok o).mp hReadOptions with
    | missing hNull => exact .inl hNull
    | given hOptionsData => exact .inr ⟨_, hOptionsPlain.eq_object hOptionsData⟩

/-- The command does not crash on a document whose numbers are all finite. -/
theorem request_not_crash (hBody : Json.ofBody? r.body = some (.object data))
    (hFile : files.document path = .ok (.object data))
    (hTest : Value.field? data "test" = some test)
    (hFinite : ¬ (Value.object data).HoldsNonFinite) (c : Crash) :
    RunCommand.request { testFile := path } files ≠ .error (.crash c) := by
  have hOrdinary := (Json.plain_of_ofBody? hBody).isOrdinary hFinite
  intro hCrash
  -- both parts of the file are ordinary, and readers of ordinary values do not crash
  rcases RunCommand.crash_of_request hFile hTest hCrash with hCrash | hCrash
  · have hTestOrdinary : test.IsOrdinary :=
      Value.field_of_field? hTest ▸ hOrdinary.field rfl "test"
    exact hTestOrdinary.not_crashesTest (((TestDefinition.reads_ofValue test).crash c).mp hCrash)
  · exact (hOrdinary.field rfl "options").not_crashesOptions
      (((RunOptions.reads_ofValue _).crash c).mp hCrash)

/-- Nor does the endpoint. -/
theorem not_crashes (hBody : Json.ofBody? r.body = some (.object data))
    (hFinite : ¬ (Value.object data).HoldsNonFinite) (c : Crash) :
    ¬ Fails r (.crash c) := by
  have hOrdinary := (Json.plain_of_ofBody? hBody).isOrdinary hFinite
  intro hCrash
  cases hCrash with
  | test hPosts hTest =>
    obtain ⟨rfl, -⟩ := fields_of_posts hBody hPosts
    exact (hOrdinary.field rfl "test").not_crashesTest
      (((TestDefinition.reads_ofValue _).crash c).mp hTest)
  | options hPosts _ hOptions =>
    obtain ⟨-, rfl⟩ := fields_of_posts hBody hPosts
    exact (hOrdinary.field rfl "options").not_crashesOptions
      (((RunOptions.reads_ofValue _).crash c).mp hOptions)

/-- What an accepted test is reported under can be written in every style. -/
theorem reportable (hBody : Json.ofBody? r.body = some (.object data))
    (hFinite : ¬ (Value.object data).HoldsNonFinite) {t : TestDefinition} {o : RunOptions}
    (h : Accepts r t o) : ∀ a ∈ t.assertions, a.IsPlain ∧ ¬ a.HoldsNonFinite := by
  have hOrdinary := (Json.plain_of_ofBody? hBody).isOrdinary hFinite
  intro a ha
  refine ⟨h.plain a ha, ?_⟩
  obtain ⟨test, options, hPosts, hRead, -⟩ := h
  obtain ⟨rfl, -⟩ := fields_of_posts hBody hPosts
  have hBecomes := ((TestDefinition.reads_ofValue _).ok t).mp hRead
  -- ids and names are values out of the document, which holds no such number
  obtain ⟨hId, hName⟩ :=
    Value.IsOrdinary.passesDown.test (hOrdinary.field rfl "test") hBecomes a ha
  rintro (hHolds | hHolds)
  · exact hId.not_holdsNonFinite hHolds
  · exact hName.not_holdsNonFinite hHolds

/-! ## Refusals and runs -/

/-- What a test gives when it is run on a page. -/
abbrev outcome (page : Page) (t : TestDefinition) (o : RunOptions) :
    Except Failure (List TestResult) :=
  ((runTest o t).run (.before page o)).1

/-- What a test leaves on record when it is run on a page. -/
abbrev trace (page : Page) (t : TestDefinition) (o : RunOptions) : List TraceEntry :=
  ((runTest o t).run (.before page o)).2.trace

/-- Both refuse what they are given, and nothing is asked of a browser. The endpoint's message is
sent, and cannot be if it holds a half. -/
structure BothRefuse (r : Request) (answered : Response × World) (execution : Execution) :
    Prop where
  status : (∀ e, Fails r (.refused e) → ¬ e.message.HoldsHalf) →
    answered.1.status = 400 ∧ answered.1.raised = none
  broken : ∀ e, Fails r (.refused e) → e.message.HoldsHalf →
    ∃ halves, answered.1 = crashed (.unencodable halves)
  exit : execution.result = .ok 2 ∧ execution.printed = ""
  untouched : answered.2.trace = [] ∧ execution.world.trace = []

/-- What is refused is not answered with success. -/
theorem BothRefuse.status_ne_ok {answered : Response × World} {execution : Execution}
    (h : BothRefuse r answered execution) : answered.1.status ≠ 200 := by
  by_cases hHalf : ∃ e, Fails r (.refused e) ∧ e.message.HoldsHalf
  · obtain ⟨e, hFails, hHalf⟩ := hHalf
    obtain ⟨halves, hCrashed⟩ := h.broken e hFails hHalf
    rw [hCrashed]
    exact (by decide : 500 ≠ 200)
  · rw [(h.status fun e hFails hHolds => hHalf ⟨e, hFails, hHolds⟩).1]
    decide

/-- Both report the results, which are the same value, written in one style and in the other. If
one of them holds a half, neither can. -/
structure Reports (results : List TestResult) (response : Response) (execution : Execution) :
    Prop where
  whole : (∀ x ∈ results, ¬ x.HoldsHalf) → ∃ compact paged : String,
    Json.write .compact (TestResult.report results) = .ok compact ∧
    Json.write .page (TestResult.report results) = .ok paged ∧
    response = ⟨200, some compact, none⟩ ∧ execution.printed = paged ++ "\n" ∧
    execution.result = .ok (if ∀ x ∈ results, x.outcome = .pass then 0 else 1)
  broken : (∃ x ∈ results, x.HoldsHalf) →
    (∃ halves, response = crashed (.unencodable halves)) ∧
    (∃ halves, execution.result = .error (.crash (.unencodable halves))) ∧
    execution.printed = ""

/-- Both run the test on the page, and both report what it gives. -/
structure BothRun (page : Page) (t : TestDefinition) (o : RunOptions)
    (answered : Response × World) (execution : Execution) : Prop where
  sameTrace : answered.2.trace = trace page t o ∧ execution.world.trace = trace page t o
  reported : ∀ results, outcome page t o = .ok results → Reports results answered.1 execution
  failed : ∀ f, outcome page t o = .error f → f.kind?.isSome →
    (∀ detail : String, detailText f.message = detail →
      answered.1 = ⟨400, some detail, none⟩) ∧
    (f.message.HoldsHalf → ∃ halves, answered.1 = crashed (.unencodable halves)) ∧
    execution.result = .ok 1 ∧ execution.printed = ""

/-- The exit code says whether all assertions passed. -/
theorem exitCode_eq (results : List TestResult) :
    RunCommand.exitCode results = if ∀ r ∈ results, r.outcome = .pass then 0 else 1 := by
  unfold RunCommand.exitCode
  simp only [List.all_eq_true, beq_iff_eq]

/-- A run that returns is reported by the command, if the report can be printed. -/
theorem run_of_results (path : String) (files : FileTree) {page : Page} {t : TestDefinition}
    {o : RunOptions} {results : List TestResult} {paged : String}
    (hRun : outcome page t o = .ok results)
    (hPaged : Json.write .page (TestResult.report results) = .ok paged) :
    (RunCommand.run { testFile := path } page files t o).result =
        .ok (RunCommand.exitCode results) ∧
      (RunCommand.run { testFile := path } page files t o).printed = paged ++ "\n" := by
  rw [RunCommand.run_of_ok _ files hRun, RunCommand.publish,
    RunCommand.reportText_eq_ok_iff.mpr ⟨paged, hPaged, rfl⟩]
  exact ⟨rfl, rfl⟩

/-- Publishing the results of a run adds nothing to its trace. -/
theorem trace_of_results (path : String) (files : FileTree) {page : Page} {t : TestDefinition}
    {o : RunOptions} {results : List TestResult} (hRun : outcome page t o = .ok results) :
    (RunCommand.run { testFile := path } page files t o).world.trace = trace page t o := by
  rw [RunCommand.run_of_ok _ files hRun, RunCommand.publish]
  cases RunCommand.reportText results <;> rfl

/-- A run that fails with an error of its own ends the command with 1, and nothing is printed. -/
theorem run_of_failure (path : String) (files : FileTree) {page : Page} {t : TestDefinition}
    {o : RunOptions} {f : Failure} (hRun : outcome page t o = .error f) :
    (f.kind?.isSome →
      (RunCommand.run { testFile := path } page files t o).result = .ok 1) ∧
      (RunCommand.run { testFile := path } page files t o).printed = "" ∧
      (RunCommand.run { testFile := path } page files t o).world.trace = trace page t o := by
  rw [RunCommand.run_of_failed _ files hRun]
  simp only []
  split
  · exact ⟨fun _ => rfl, rfl, rfl⟩
  · next hForeign => exact ⟨fun h => absurd h hForeign, rfl, rfl⟩

/-- Results that can be written in both styles are reported by both or, with a half, by none. -/
theorem reports_of_ok (path : String) (files : FileTree) {page : Page} {t : TestDefinition}
    {o : RunOptions} {results : List TestResult} (hRun : outcome page t o = .ok results)
    (hReportable : ∀ a ∈ t.assertions, a.IsPlain ∧ ¬ a.HoldsNonFinite) :
    Reports results (reportOn (.ok results))
      (RunCommand.run { testFile := path } page files t o) := by
  -- the results are reported under what the assertions are, so they can be written in both styles
  have hWritten (style : Json.Style) : ∃ text,
      Json.write style (TestResult.report results) = .ok text ∧
        (text.HoldsHalf ↔ ∃ x ∈ results, x.HoldsHalf) := by
    cases hText : Json.write style (TestResult.report results) with
    | ok text =>
      refine ⟨text, rfl, ?_⟩
      rw [Json.holdsHalf_write hText, TestResult.holdsHalf_report]
    | error c =>
      have hFails := TestResult.write_report_eq_error_iff style (heads_of_runTest hRun)
        (fun a ha => (hReportable a ha).1) (c := c)
      obtain ⟨-, -, a, ha, hHolds⟩ := hFails.mp hText
      exact absurd hHolds (hReportable a ha).2
  obtain ⟨compact, hCompact, hCompactHalf⟩ := hWritten .compact
  obtain ⟨paged, hPaged, hPagedHalf⟩ := hWritten .page
  have hResponse : reportOn (.ok results) = encoded 200 compact := by
    simp only [reportOn, hCompact]
  rw [hResponse]
  refine ⟨fun hWhole => ?_, fun hHalf => ⟨?_, ?_⟩⟩
  · have hNone : ¬ ∃ x ∈ results, x.HoldsHalf := by
      rintro ⟨x, hx, hHalf⟩
      exact hWhole x hx hHalf
    obtain ⟨compact, rfl⟩ := Text.not_holdsHalf_iff.mp (mt hCompactHalf.mp hNone)
    obtain ⟨paged, rfl⟩ := Text.not_holdsHalf_iff.mp (mt hPagedHalf.mp hNone)
    obtain ⟨hExit, hPrinted⟩ := run_of_results path files hRun hPaged
    refine ⟨compact, paged, hCompact, hPaged, encoded_whole 200 compact, hPrinted, ?_⟩
    rw [hExit, exitCode_eq]
  · exact encoded_of_holdsHalf 200 (hCompactHalf.mpr hHalf)
  · obtain ⟨halves, hLost⟩ := RunCommand.reportText_of_holdsHalf hPaged (hPagedHalf.mpr hHalf)
    rw [RunCommand.run_of_ok _ files hRun, RunCommand.publish, hLost]
    exact ⟨⟨halves, rfl⟩, rfl⟩

/-- An accepted test is run by both. -/
theorem bothRun {page : Page} {t : TestDefinition} {o : RunOptions}
    (hParse : Endpoint.parse r = .ok (t, o))
    (hReportable : ∀ a ∈ t.assertions, a.IsPlain ∧ ¬ a.HoldsNonFinite) :
    BothRun page t o (answer page r)
      (RunCommand.run { testFile := path } page files t o) := by
  have hAnswer : (answer page r).1 = reportOn (outcome page t o) ∧
      (answer page r).2.trace = trace page t o := answer_of_test hParse
  obtain ⟨hResponse, hTrace⟩ := hAnswer
  cases hRun : outcome page t o with
  | error f =>
    obtain ⟨hExit, hPrinted, hLeft⟩ := run_of_failure path files hRun
    refine ⟨⟨hTrace, hLeft⟩, fun results h => ?_, fun f' h hKnown => ?_⟩
    · rw [hRun] at h
      cases h
    · rw [hRun] at h
      obtain rfl := Except.error.inj h
      -- of a failure of a known kind the detail is the message alone
      have hDetail : (answer page r).1 = encoded 400 (detailText f.message) := by
        obtain ⟨kind, hKind⟩ := Option.isSome_iff_exists.mp hKnown
        rw [hResponse, hRun]
        simp only [reportOn, Refusal.response, failureText, hKind, detailed]
      rw [hDetail]
      refine ⟨fun detail hWhole => ?_, fun hHalf => ?_, hExit hKnown, hPrinted⟩
      · rw [hWhole, encoded_whole]
      · exact encoded_of_holdsHalf 400 (holdsHalf_detailText.mpr hHalf)
  | ok results =>
    refine ⟨⟨hTrace, trace_of_results path files hRun⟩, fun results' h => ?_, fun f h => ?_⟩
    · rw [hRun] at h
      obtain rfl := Except.ok.inj h
      rw [hResponse, hRun]
      exact reports_of_ok path files hRun hReportable
    · rw [hRun] at h
      cases h

/-- What the command refuses is refused by the endpoint, and neither crashes when it reads. -/
theorem refusal_of_request (hMethod : r.method = "POST") (hPath : r.path ∈ paths)
    (hBody : Json.ofBody? r.body = some (.object data))
    (hFile : files.document path = .ok (.object data))
    (hTest : Value.field? data "test" = some test)
    (hFinite : ¬ (Value.object data).HoldsNonFinite) {failure : InputFailure}
    (hRequest : RunCommand.request { testFile := path } files = .error failure) :
    (∃ e, failure = .refused e) ∧ ∃ refusal, Endpoint.parse r = .error refusal ∧
      ((∀ failure, ¬ Fails r failure) ∨ ∃ e, Fails r (.refused e) ∧ refusal = .input e) := by
  have hKnown : r.method ∈ methods := hMethod ▸ by decide
  constructor
  · cases failure with
    | refused e => exact ⟨e, rfl⟩
    | crash c => exact absurd hRequest (request_not_crash hBody hFile hTest hFinite c)
  · cases hParse : Endpoint.parse r with
    | ok accepted =>
      -- the command would have accepted it as well
      obtain ⟨t, o⟩ := accepted
      have hAccepts := (Endpoint.parse_eq_ok_iff hKnown hPath).mp hParse
      have hSame := (accepts_iff_request hMethod hBody hFile hTest).mp hAccepts
      rw [hRequest] at hSame
      cases hSame
    | error refusal =>
      refine ⟨refusal, rfl, ?_⟩
      by_cases hRead : ∃ failure, Fails r failure
      · obtain ⟨failure, hFails⟩ := hRead
        cases failure with
        | refused e =>
          rw [(parse_eq_error_iff hKnown hPath).mpr hFails] at hParse
          exact .inr ⟨e, hFails, (Except.error.inj hParse).symm⟩
        | crash c => exact absurd hFails (not_crashes hBody hFinite c)
      · exact .inl fun failure hFails => hRead ⟨failure, hFails⟩

/-- A document that both refuse. -/
theorem bothRefuse {page : Page} (hMethod : r.method = "POST") (hPath : r.path ∈ paths)
    {refusal : Refusal} (hParse : Endpoint.parse r = .error refusal)
    (hWhy : (∀ failure, ¬ Fails r failure) ∨ ∃ e, Fails r (.refused e) ∧ refusal = .input e)
    (e : InputError) :
    BothRefuse r (answer page r)
      { result := .ok 2, files, world := World.addLog {} [⟨.error, e.message⟩] } := by
  have hKnown : r.method ∈ methods := hMethod ▸ by decide
  rw [answer_of_refusal hParse]
  -- the request is turned down before anything is read, or by one of the readers
  rcases hWhy with hNone | ⟨e', hFails, rfl⟩
  · obtain ⟨body, hResponse⟩ := response_of_refused hKnown hPath hParse hNone
    rw [hResponse]
    exact ⟨fun _ => ⟨rfl, rfl⟩, fun e' hFails => absurd hFails (hNone _), ⟨rfl, rfl⟩, rfl, rfl⟩
  · have hResponse : (Refusal.input e').response = encoded 400 (detailText e'.message) := rfl
    rw [hResponse]
    -- only the detail that a reader gives can hold a half, and then it cannot be sent
    refine ⟨fun hWhole => ?_, fun e'' hFails' hHalf => ?_, ⟨rfl, rfl⟩, rfl, rfl⟩
    · obtain ⟨detail, hDetail⟩ := Text.not_holdsHalf_iff.mp
        (mt holdsHalf_detailText.mp (hWhole e' hFails))
      rw [hDetail, encoded_whole]
      exact ⟨rfl, rfl⟩
    · cases hFails.unique hKnown hPath hFails'
      exact encoded_of_holdsHalf 400 (holdsHalf_detailText.mpr hHalf)

end Agreement

open Agreement in
/-- **The command line and the endpoint agree** on every JSON document with a test and without
numbers that are not finite. Either both refuse it before a browser is started, or both run the
same test under the same options with the same trace; results are then reported as the same
value, and a failure of the run's own is told by the endpoint and by the exit code. The exception
are halves of surrogate pairs: results that hold one are reported by neither, and a message that
holds one cannot be sent. -/
theorem execute_agrees_with_respond (page : Page) {r : Request} {files : FileTree}
    {path : String} {data : Object} (hMethod : r.method = "POST")
    (hPath : r.path ∈ Endpoint.paths) (hBody : Json.ofBody? r.body = some (.object data))
    (hFile : files.document path = .ok (.object data))
    (hTest : (Value.field? data "test").isSome)
    (hFinite : ¬ (Value.object data).HoldsNonFinite) :
    let c : RunCommand := { testFile := path }
    let answered := Endpoint.respond page r
    let execution := Command.execute page files (.run c)
    BothRefuse r answered execution ∨
      ∃ t o, Endpoint.parse r = .ok (t, o) ∧ c.request files = .ok (t, o) ∧
        BothRun page t o answered execution := by
  intro c answered execution
  obtain ⟨test, hTest⟩ := Option.isSome_iff_exists.mp hTest
  have hKnown : r.method ∈ Endpoint.methods := hMethod ▸ by decide
  have hNotHead : r.method ≠ "HEAD" := hMethod ▸ by decide
  have hAnswered : answered = Endpoint.answer page r := by
    simp only [answered, Endpoint.respond, if_neg hNotHead]
  have hExecution : execution = c.execute page files := rfl
  rw [hAnswered, hExecution, RunCommand.execute]
  -- what the command makes of the file decides: the endpoint makes the same of the body
  cases hRequest : c.request files with
  | ok accepted =>
    obtain ⟨t, o⟩ := accepted
    have hAccepts := (accepts_iff_request hMethod hBody hFile hTest).mpr hRequest
    have hParse := (Endpoint.parse_eq_ok_iff hKnown hPath).mpr hAccepts
    exact .inr ⟨t, o, hParse, rfl, bothRun hParse (reportable hBody hFinite hAccepts)⟩
  | error failure =>
    obtain ⟨⟨e, rfl⟩, refusal, hParse, hWhy⟩ :=
      refusal_of_request hMethod hPath hBody hFile hTest hFinite hRequest
    exact .inl (bothRefuse hMethod hPath hParse hWhy e)

/-! ## Documents for both -/

namespace Agreement

/-- A test that waits for five milliseconds, as a JSON text, which is a YAML text as well. -/
def pauseText : String :=
  "\x7b\"test\":\x7b\"steps\":[\x7b\"action\":\"wait\",\"value\":5\x7d]\x7d\x7d"

/-- The entries of the document that the text is of. -/
def pauseData : Object :=
  [(.text "test", .ofFields [("steps", .list [
    .ofFields [("action", .text "wait"), ("value", .int 5)]])])]

/-- A file with the text. -/
def pauseFiles : FileTree :=
  { files := [(["shop.yaml"], pauseText.toUTF8.toList)] }

theorem document_pauseFiles : pauseFiles.document "shop.yaml" = .ok (.object pauseData) := by
  -- the stages of reading a file, one by one: its place, its bytes, tokens, the value
  have hParts : FileTree.parts "shop.yaml" = ["shop.yaml"] := by
    rw [FileTree.parts, String.splitOn, if_neg (by decide)]
    iterate 9 rw [String.splitOnAux, if_neg (by decide), if_neg (by decide)]
    rw [String.splitOnAux, if_pos (by decide)]
    rfl
  have hRead : pauseFiles.read "shop.yaml" = .ok pauseText.toUTF8.toList := by
    have hStart : pauseFiles.start "shop.yaml" = [] := ite_self []
    rw [FileTree.read, FileTree.target, hParts, hStart]
    rfl
  have hEncodes : Yaml.Document.Encodes pauseText.toUTF8.toList pauseText.toList :=
    ⟨by decide +kernel, by decide +kernel⟩
  have hLines : Yaml.Document.unifyLineEnds pauseText.toList = pauseText.toList := by
    decide +kernel
  have hScan : Yaml.Token.scan pauseText.toList =
      ([.flowMappingStart, .key, .scalar "test" false, .value,
        .flowMappingStart, .key, .scalar "steps" false, .value, .flowSequenceStart,
        .flowMappingStart, .key, .scalar "action" false, .value, .scalar "wait" false,
        .flowEntry, .key, .scalar "value" false, .value, .scalar "5" true, .flowMappingEnd,
        .flowSequenceEnd, .flowMappingEnd, .flowMappingEnd], none) := by cbv
  have hValue : Yaml.Node.toValue (.mapping .mapping [(.scalar .string "test",
      .mapping .mapping [(.scalar .string "steps", .sequence .sequence [
        .mapping .mapping [(.scalar .string "action", .scalar .string "wait"),
          (.scalar .string "value", .scalar .int "5")]])])]) = .ok (.object pauseData) := by cbv
  exact (FileTree.document_eq_ok (by simp) hRead).mpr
    (Yaml.Document.ofBytes_of_node hEncodes (hLines.symm ▸ hScan) rfl hValue)

end Agreement

open Agreement in
/-- Posted and given as a file, the test is run by both. -/
theorem execute_agrees_with_respond_pause :
    let r : Request := { body := pauseText.toUTF8.toList }
    let c : RunCommand := { testFile := "shop.yaml" }
    Json.ofBody? r.body = some (.object pauseData) ∧
      pauseFiles.document c.testFile = .ok (.object pauseData) ∧
      ¬ (Value.object pauseData).HoldsNonFinite ∧
      ∃ t o, Endpoint.parse r = .ok (t, o) ∧ c.request pauseFiles = .ok (t, o) ∧
        BothRun {} t o (Endpoint.respond {} r) (Command.execute {} pauseFiles (.run c)) := by
  intro r c
  have hBody : Json.ofBody? r.body = some (.object pauseData) := by cbv
  have hFinite : ¬ (Value.object pauseData).HoldsNonFinite := by
    simp [pauseData, Value.ofFields, Value.holdsNonFinite_object, Value.holdsNonFinite_list,
      Value.not_holdsNonFinite_text, Value.not_holdsNonFinite_int]
  refine ⟨hBody, document_pauseFiles, hFinite, ?_⟩
  -- both run it, as the answer is not a refusal
  have hAgree := execute_agrees_with_respond {} (r := r) rfl (by decide) hBody document_pauseFiles
    (by decide) hFinite
  refine hAgree.resolve_left fun hRefuse => ?_
  have hStatus : (Endpoint.respond {} r).1.status = 200 := by decide +kernel
  exact hRefuse.status_ne_ok hStatus

namespace Agreement

/-- A test of one assertion, whose id is the escape of a half of a surrogate pair. -/
def halfText : String :=
  "\x7b\"test\":\x7b\"steps\":[\x7b\"action\":\"test\",\"test\":\x7b\"id\":\"\\ud800\"," ++
    "\"type\":\"matchDataLayerKeyValue\",\"key\":\"v\",\"value\":1\x7d\x7d]\x7d\x7d"

/-- The half. -/
def half : Text :=
  .ofLetters [.ofCode 0xd800]

/-- The entries of the document that the text is of. -/
def halfData : Object :=
  [(.text "test", .ofFields [("steps", .list [
    .ofFields [("action", .text "test"), ("test", .ofFields [("id", .text half),
      ("type", .text "matchDataLayerKeyValue"), ("key", .text "v"), ("value", .int 1)])]])])]

/-- What the test is read as. -/
def halfTest : TestDefinition :=
  ⟨"", [.check ⟨.text half, .text "", .null, .event "v" (.int 1)⟩]⟩

/-- A page with the value in its event layer. -/
def layerPage : Page :=
  { layers := [("dataLayer", .list [.ofFields [("v", .int 1)]])] }

set_option maxRecDepth 2000 in
theorem document_half : (FileTree.ofText halfText).document "t" = .ok (.object halfData) := by
  -- the tokens first, then the value, each evaluated by itself
  have hScan : Yaml.Token.scan halfText.toList =
      ([.flowMappingStart, .key, .scalar "test" false, .value,
        .flowMappingStart, .key, .scalar "steps" false, .value, .flowSequenceStart,
        .flowMappingStart, .key, .scalar "action" false, .value, .scalar "test" false,
        .flowEntry, .key, .scalar "test" false, .value, .flowMappingStart,
        .key, .scalar "id" false, .value, .scalar half false, .flowEntry,
        .key, .scalar "type" false, .value, .scalar "matchDataLayerKeyValue" false, .flowEntry,
        .key, .scalar "key" false, .value, .scalar "v" false, .flowEntry,
        .key, .scalar "value" false, .value, .scalar "1" true, .flowMappingEnd, .flowMappingEnd,
        .flowSequenceEnd, .flowMappingEnd, .flowMappingEnd], none) := by cbv
  have hValue : Yaml.Node.toValue (.mapping .mapping [(.scalar .string "test",
      .mapping .mapping [(.scalar .string "steps", .sequence .sequence [
        .mapping .mapping [(.scalar .string "action", .scalar .string "test"),
          (.scalar .string "test", .mapping .mapping [(.scalar .string "id", .scalar .string half),
            (.scalar .string "type", .scalar .string "matchDataLayerKeyValue"),
            (.scalar .string "key", .scalar .string "v"),
            (.scalar .string "value", .scalar .int "1")])]])])]) =
      .ok (.object halfData) := by cbv
  exact FileTree.document_ofText (by decide +kernel) (by decide +kernel) hScan rfl hValue

end Agreement

set_option maxRecDepth 2000 in
open Agreement in
/-- The results of an assertion whose id is a half are reported by neither, although the run
returns them and the assertion passes: the endpoint crashes, and so does the command. -/
theorem execute_reports_no_half :
    let r : Request := { body := halfText.toList.flatMap String.utf8EncodeChar }
    let c : RunCommand := { testFile := "t" }
    let files := FileTree.ofText halfText
    Json.ofBody? r.body = some (.object halfData) ∧
      files.document c.testFile = .ok (.object halfData) ∧
      Endpoint.parse r = .ok (halfTest, {}) ∧ c.request files = .ok (halfTest, {}) ∧
      outcome layerPage halfTest {} = .ok [⟨.text half, .text "", .pass, none⟩] ∧
      (∃ halves, (Endpoint.respond layerPage r).1 = Endpoint.crashed (.unencodable halves)) ∧
      ∃ halves, (Command.execute layerPage files (.run c)).result =
        .error (.crash (.unencodable halves)) := by
  intro r c files
  have hBody : Json.ofBody? r.body = some (.object halfData) := by cbv
  have hRequest : c.request files = .ok (halfTest, {}) := by
    rw [RunCommand.request, document_half]
    rfl
  have hFinite : ¬ (Value.object halfData).HoldsNonFinite := by
    simp [halfData, Value.ofFields, Value.holdsNonFinite_object,
      Value.holdsNonFinite_list, Value.not_holdsNonFinite_text, Value.not_holdsNonFinite_int]
  have hAccepts := (accepts_iff_request (r := r) rfl hBody document_half rfl).mpr hRequest
  have hParse := (Endpoint.parse_eq_ok_iff (by decide) (by decide)).mpr hAccepts
  -- the run is evaluated in two parts, up to the page and behind it
  have hRun : outcome layerPage halfTest {} = .ok [⟨.text half, .text "", .pass, none⟩] := by
    have hEntered : ((Session.enter {}).run (.before layerPage {})).1 = .ok () :=
      RunM.eq_ok_of_isOk (by decide +kernel)
    have hExecuted : ((Executor.executeAll ⟨{}, true⟩ 0 halfTest.steps).run
        (((Session.enter {}).run (.before layerPage {})).2.announcing halfTest)).1 =
        .ok [⟨.text half, .text "", .pass, none⟩] := rfl
    show ((runTest {} halfTest).run (.before layerPage {})).1 = _
    rw [runTest_result halfTest hEntered, hExecuted]
    rfl
  -- from here on the general theorem about runs that both sides report
  have hBoth : BothRun layerPage halfTest {} (Endpoint.answer layerPage r)
      (c.run layerPage files halfTest {}) :=
    bothRun hParse (reportable hBody hFinite hAccepts)
  obtain ⟨hAnswer, hExecution, -⟩ := (hBoth.reported _ hRun).broken
    ⟨_, List.mem_singleton_self _, .inl (Value.holdsHalf_text.mpr rfl)⟩
  have hAnswered : Endpoint.respond layerPage r = Endpoint.answer layerPage r := by
    have hNotHead : r.method ≠ "HEAD" := by decide
    simp only [Endpoint.respond, if_neg hNotHead]
  have hExecuted : Command.execute layerPage files (.run c) = c.run layerPage files halfTest {} := by
    show c.execute layerPage files = _
    rw [RunCommand.execute, hRequest]
  rw [hAnswered, hExecuted]
  exact ⟨hBody, document_half, hParse, hRequest, hRun, hAnswer, hExecution⟩

end BeaconCheck
