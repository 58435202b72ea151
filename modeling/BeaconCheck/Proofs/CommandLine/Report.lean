import BeaconCheck.Proofs.CommandLine.JsonFiles
import BeaconCheck.Proofs.CommandLine.Outcome
import BeaconCheck.Proofs.Json.Obstacles

/-!
# Which completed runs are reported

The id and the name of an assertion are carried from the document to the report as they are. When
all steps of a test are completed, its results are written twice: on one line for the log, and on
several for the terminal. Either fails at what JSON has no form for. Then the results are lost: the
failure escapes, and nothing is printed. A half of a surrogate pair fits the log, but the terminal
and the file have no bytes for it; such results are returned by the run, and lost by the command.

* `Assertion.Obstacle`          — what is in an id or a name that cannot be written.
* `TestResult.failsAt_report`   — a report cannot be written exactly for such a thing.
* `Completes`                   — all steps of a test are completed.
* `report_of_completed_run`     — whether the results are reported, and what the command does.
-/

namespace BeaconCheck

open Agreement (outcome half layerPage)

/-- What keeps an assertion from being reported: it is in its id or in its name. -/
def Assertion.Obstacle (strict : Bool) (a : Assertion) (c : Crash) : Prop :=
  a.id.Obstacle strict c ∨ a.name.Obstacle strict c

/-- The assertion can be reported under its id and its name, to the log and to the terminal. -/
def Assertion.IsReportable (a : Assertion) : Prop :=
  ∀ c, ¬ a.Obstacle false c

namespace TestResult

variable {r : TestResult} {strict : Bool} {c : Crash}

/-- What keeps a result from being written is in its id or its name. -/
theorem obstacle_toValue :
    r.toValue.Obstacle strict c ↔ r.id.Obstacle strict c ∨ r.name.Obstacle strict c := by
  have hText (s : Text) : ¬ (Value.text s).Obstacle strict c := by
    rw [Value.obstacle_scalar]
    nofun
  have hMessage : ¬ ((r.message.map Value.text).getD .null).Obstacle strict c := by
    cases r.message with
    | none =>
      show ¬ Value.null.Obstacle strict c
      rw [Value.obstacle_scalar]
      nofun
    | some s => exact hText s
  -- of the fields of a result only the id and the name are not texts
  rw [toValue, entry, Value.obstacle_ofFields]
  simp only [List.mem_singleton, exists_eq_left, Value.obstacle_ofFields, List.mem_append]
  constructor
  · rintro ⟨p, hAlways | hShown, h⟩
    · simp only [List.mem_cons, List.not_mem_nil, or_false] at hAlways
      rcases hAlways with rfl | rfl | rfl
      · exact .inl h
      · exact .inr h
      · exact absurd h (hText _)
    · split at hShown
      · obtain rfl := List.mem_singleton.mp hShown
        exact absurd h hMessage
      · cases hShown
  · rintro (h | h)
    · exact ⟨_, .inl List.mem_cons_self, h⟩
    · exact ⟨_, .inl (List.mem_cons_of_mem _ List.mem_cons_self), h⟩

/-- **A report cannot be written** exactly if an id or a name in it cannot be. -/
theorem failsAt_report (style : Json.Style) {results : List TestResult} {as : List Assertion}
    (hHeads : results.map head = as.map Assertion.head) :
    FailsAt (Json.write style (report results)) fun c => ∃ a ∈ as, a.Obstacle style.strict c := by
  -- what a result is reported under is what its assertion is
  have hMem {head : Value × Value} :
      (∃ r ∈ results, r.head = head) ↔ ∃ a ∈ as, a.head = head := by
    rw [← List.mem_map, hHeads, List.mem_map]
  refine (Json.failsAt_write style (report results)).congr fun c => ?_
  rw [report, Value.obstacle_list]
  constructor
  · rintro ⟨v, hv, h⟩
    obtain ⟨r, hr, rfl⟩ := List.mem_map.mp hv
    obtain ⟨a, ha, hHead⟩ := hMem.mp ⟨r, hr, rfl⟩
    obtain ⟨hId, hName⟩ := Prod.mk.inj hHead
    rw [obstacle_toValue, ← hId, ← hName] at h
    exact ⟨a, ha, h⟩
  · rintro ⟨a, ha, h⟩
    obtain ⟨r, hr, hHead⟩ := hMem.mpr ⟨a, ha, rfl⟩
    obtain ⟨hId, hName⟩ := Prod.mk.inj hHead
    refine ⟨r.toValue, List.mem_map_of_mem hr, ?_⟩
    rw [obstacle_toValue, hId, hName]
    exact h

end TestResult

/-! ## Completed runs -/

/-- The session can be started on the page, and all steps of the test are completed in it. -/
structure Completes (page : Page) (t : TestDefinition) (o : RunOptions)
    (results : List TestResult) : Prop where
  entered : ((Session.enter o).run (.before page o)).1 = .ok ()
  executed : ((Executor.executeAll ⟨o, true⟩ 0 t.steps).run
    (((Session.enter o).run (.before page o)).2.announcing t)).1 = .ok results

namespace Completes

variable {page : Page} {t : TestDefinition} {o : RunOptions} {results : List TestResult}

/-- The results stand under the ids and names of the assertions. -/
theorem heads (h : Completes page t o results) :
    results.map TestResult.head = t.assertions.map Assertion.head :=
  Executor.executeAll_heads _ 0 t.steps _ _ h.executed

/-- All that can go wrong behind the steps is the line of the log with the results. -/
theorem outcome_eq (h : Completes page t o results) :
    outcome page t o = Session.reported results := by
  show ((runTest o t).run (.before page o)).1 = _
  rw [runTest_result t h.entered, h.executed]
  rfl

/-- The results of assertions that can be reported are returned. -/
theorem outcome_of_reportable (h : Completes page t o results)
    (hReportable : ∀ a ∈ t.assertions, a.IsReportable) : outcome page t o = .ok results := by
  obtain ⟨line, hLine⟩ := (TestResult.failsAt_report .line h.heads).exists_ok_iff.mpr
    fun c ⟨a, ha, hObstacle⟩ => hReportable a ha c hObstacle
  rw [h.outcome_eq, Session.reported, hLine]
  rfl

/-- Where one of them cannot be, what escapes is the failure at something in its id or name. -/
theorem outcome_of_obstacle (h : Completes page t o results) {a : Assertion} {c : Crash}
    (ha : a ∈ t.assertions) (hObstacle : a.Obstacle false c) :
    ∃ crash, (∃ a ∈ t.assertions, a.Obstacle false crash) ∧
      outcome page t o = .error (.crash crash) := by
  have hFails := TestResult.failsAt_report .line h.heads
  obtain ⟨crash, hCrash⟩ := hFails.fails ⟨c, a, ha, hObstacle⟩
  refine ⟨crash, hFails.only crash hCrash, ?_⟩
  rw [h.outcome_eq, Session.reported, hCrash]
  rfl

end Completes

/-! ## Commands -/

namespace RunCommand

variable (c : RunCommand) {page : Page} (files : FileTree) {t : TestDefinition} {o : RunOptions}

/-- A crash of the run escapes from the command. -/
theorem run_of_crash {crash : Crash} (hRun : outcome page t o = .error (.crash crash)) :
    (c.run page files t o).result = .error (.crash crash) ∧
      (c.run page files t o).printed = "" ∧ (c.run page files t o).files = files := by
  refine ⟨?_, (c.run_of_error files hRun 1).2⟩
  rw [run_of_failed c files hRun]
  rfl

/-- A report that can be written is printed, also where the file that it is asked for in cannot
be written. -/
theorem printed_publish {results : List TestResult} {text : String} (w : World)
    (hText : Json.write .page (TestResult.report results) = .ok text) :
    (c.publish files w results).printed = text ++ "\n" := by
  rw [publish, reportText_eq_ok_iff.mpr ⟨text, hText, rfl⟩]
  simp only []
  split
  · rfl
  · split <;> rfl

/-- A report with a half in it is lost, and nothing is printed. -/
theorem publish_of_holdsHalf {results : List TestResult} {text : Text} (w : World)
    (hText : Json.write .page (TestResult.report results) = .ok text)
    (hHalf : ∃ r ∈ results, r.HoldsHalf) :
    (∃ halves, (c.publish files w results).result = .error (.crash (.unencodable halves))) ∧
      (c.publish files w results).printed = "" ∧ (c.publish files w results).files = files := by
  rw [← TestResult.holdsHalf_report, ← Json.holdsHalf_write hText] at hHalf
  obtain ⟨halves, hLost⟩ := reportText_of_holdsHalf hText hHalf
  rw [publish, hLost]
  exact ⟨⟨halves, rfl⟩, rfl, rfl⟩

end RunCommand

/-- **Which completed runs are reported.** When all steps of a test are completed there is a result
for each assertion, under the id and the name that the document has for it. If all ids and names
can be written, the results are returned. If then no result holds a half of a surrogate pair, the
command prints their report; it ends with 0 if all of them pass and with 1 if not, provided that the
file that is asked for, if any, can be written. If one does, the command fails for want of bytes for
the half, and nothing is printed. And if an id or a name cannot be written, the results are lost at
once: a failure at something in an id or a name escapes from the run and from the command. -/
theorem report_of_completed_run {c : RunCommand} {files : FileTree} {page : Page}
    {t : TestDefinition} {o : RunOptions} {results : List TestResult}
    (hAccepts : c.Accepts files t o) (hCompletes : Completes page t o results) :
    let ended := Command.execute page files (.run c)
    results.map TestResult.head = t.assertions.map Assertion.head ∧
    ((∀ a ∈ t.assertions, a.IsReportable) →
      outcome page t o = .ok results ∧
      ((∀ r ∈ results, ¬ r.HoldsHalf) →
        (∃ text : String, Json.write .page (TestResult.report results) = .ok text ∧
          ended.printed = text ++ "\n") ∧
        ((∀ path, c.outputFile = some path → ∃ files',
            files.write path (Utf8.encode ended.printed.toList) = .ok files') →
          ended.result = .ok (if ∀ r ∈ results, r.outcome = .pass then 0 else 1))) ∧
      ((∃ r ∈ results, r.HoldsHalf) →
        (∃ halves, ended.result = .error (.crash (.unencodable halves))) ∧ ended.printed = "" ∧
          ended.files = files)) ∧
    ((¬ ∀ a ∈ t.assertions, a.IsReportable) →
      ∃ crash, (∃ a ∈ t.assertions, a.Obstacle false crash) ∧
        outcome page t o = .error (.crash crash) ∧
        ended.result = .error (.crash crash) ∧ ended.printed = "" ∧ ended.files = files) := by
  intro ended
  have hEnded : ended = c.run page files t o := RunCommand.execute_of_accepts page hAccepts
  refine ⟨hCompletes.heads, fun hReportable => ?_, fun hNot => ?_⟩
  -- nothing of the assertions keeps the report from being written, so that halves are all that can
  -- keep it from being printed
  · have hRun := hCompletes.outcome_of_reportable hReportable
    obtain ⟨text, hText⟩ := (TestResult.failsAt_report .page hCompletes.heads).exists_ok_iff.mpr
      fun crash ⟨a, ha, hObstacle⟩ => hReportable a ha crash hObstacle
    rw [hEnded, c.run_of_ok files hRun]
    refine ⟨hRun, fun hWhole => ?_, c.publish_of_holdsHalf files _ hText⟩
    obtain ⟨text, rfl⟩ : ∃ s, text = .whole s := by
      rw [← Text.not_holdsHalf_iff, Json.holdsHalf_write hText, TestResult.holdsHalf_report]
      exact fun ⟨r, hr, hHalf⟩ => hWhole r hr hHalf
    have hPrinted := c.printed_publish files ((runTest o t).run (.before page o)).2 hText
    refine ⟨⟨text, hText, hPrinted⟩, fun hOutput => ?_⟩
    rw [hPrinted] at hOutput
    rw [← Agreement.exitCode_eq]
    -- the code is returned behind the writing of the file, if there is one
    refine (c.publish_spec files _ results _).1.mpr ⟨⟨text ++ "\n", ?_, hOutput⟩, rfl⟩
    exact RunCommand.reportText_eq_ok_iff.mpr ⟨text, hText, rfl⟩
  -- the first obstacle ends the run when its results are logged, before anything is published
  · simp only [Assertion.IsReportable, not_forall, not_not] at hNot
    obtain ⟨a, ha, crash, hObstacle⟩ := hNot
    obtain ⟨crash, hAt, hRun⟩ := hCompletes.outcome_of_obstacle ha hObstacle
    rw [hEnded]
    exact ⟨crash, hAt, hRun, c.run_of_crash files hRun⟩

/-! ## A test whose assertion has an id -/

namespace Cart

open Yaml

/-- A test that looks for a value in the event layer, and has a number as its id. -/
def numbered : String :=
  "steps: [\x7baction: test, test: \x7bid: 7, " ++
    "type: matchDataLayerKeyValue, key: v, value: 1\x7d\x7d]"

/-- The same test with a date as its id. -/
def dated : String :=
  "steps: [\x7baction: test, test: \x7bid: 2024-01-01, " ++
    "type: matchDataLayerKeyValue, key: v, value: 1\x7d\x7d]"

/-- The same test with a half of a surrogate pair as its id. -/
def halved : String :=
  "steps: [\x7baction: test, test: \x7bid: \"\\ud800\", " ++
    "type: matchDataLayerKeyValue, key: v, value: 1\x7d\x7d]"

/-- The tokens of the test with an id. -/
def tokens (id : Token) : List Token :=
  [.blockMappingStart, .key, .scalar "steps" true, .value, .flowSequenceStart, .flowMappingStart,
    .key, .scalar "action" true, .value, .scalar "test" true, .flowEntry,
    .key, .scalar "test" true, .value, .flowMappingStart,
    .key, .scalar "id" true, .value, id, .flowEntry,
    .key, .scalar "type" true, .value, .scalar "matchDataLayerKeyValue" true, .flowEntry,
    .key, .scalar "key" true, .value, .scalar "v" true, .flowEntry,
    .key, .scalar "value" true, .value, .scalar "1" true,
    .flowMappingEnd, .flowMappingEnd, .flowSequenceEnd, .blockEnd]

/-- The nodes of the test with an id. -/
def node (tag : Tag) (id : Text) : Node :=
  .mapping .mapping [(.scalar .string "steps", .sequence .sequence [.mapping .mapping [
    (.scalar .string "action", .scalar .string "test"),
    (.scalar .string "test", .mapping .mapping [
      (.scalar .string "id", .scalar tag id),
      (.scalar .string "type", .scalar .string "matchDataLayerKeyValue"),
      (.scalar .string "key", .scalar .string "v"),
      (.scalar .string "value", .scalar .int "1")])]])]

/-- The value of the test with an id. -/
def data (id : Value) : Value :=
  .ofFields [("steps", .list [.ofFields [("action", .text "test"), ("test", .ofFields [
    ("id", id), ("type", .text "matchDataLayerKeyValue"), ("key", .text "v"),
    ("value", .int 1)])]])]

/-- What the value is read as. -/
def test (id : Value) : TestDefinition :=
  ⟨"", [.check ⟨id, .text "", .null, .event "v" (.int 1)⟩]⟩

theorem document_numbered : (FileTree.ofText numbered).document "t" = .ok (data (.int 7)) := by
  have hScan : Token.scan numbered.toList = (tokens (.scalar "7" true), none) := by cbv
  have hValue : (node .int "7").toValue = .ok (data (.int 7)) := by cbv
  exact FileTree.document_ofText (by decide +kernel) (by decide +kernel) hScan rfl hValue

theorem document_dated :
    (FileTree.ofText dated).document "t" = .ok (data (.scalar (.stamp (.date 2024 1 1)))) := by
  have hScan : Token.scan dated.toList = (tokens (.scalar "2024-01-01" true), none) := by cbv
  have hValue : (node .timestamp "2024-01-01").toValue =
      .ok (data (.scalar (.stamp (.date 2024 1 1)))) := by cbv
  exact FileTree.document_ofText (by decide +kernel) (by decide +kernel) hScan rfl hValue

theorem document_halved :
    (FileTree.ofText halved).document "t" = .ok (data (.text half)) := by
  have hScan : Token.scan halved.toList = (tokens (.scalar half false), none) := by cbv
  have hValue : (node .string half).toValue = .ok (data (.text half)) := by cbv
  exact FileTree.document_ofText (by decide +kernel) (by decide +kernel) hScan rfl hValue

/-- The report of the test with the number. -/
def report : String :=
  "[\n  \x7b\n    \"test\": \x7b\n      \"id\": 7,\n      \"name\": \"\",\n" ++
    "      \"result\": \"PASS\"\n    \x7d\n  \x7d\n]"

/-- Whatever the id is, the assertion passes on the page. -/
theorem completes (id : Value) : Completes layerPage (test id) {} [⟨id, .text "", .pass, none⟩] :=
  ⟨RunM.eq_ok_of_isOk (by decide +kernel), rfl⟩

theorem accepts {files : FileTree} {id : Value} (h : files.document "t" = .ok (data id)) :
    RunCommand.Accepts { testFile := "t" } files (test id) {} :=
  ⟨_, _, _, _, h, .test fun _ hData => by cases hData; rfl, .beside rfl, rfl, rfl⟩

theorem reportable_numbered :
    Assertion.IsReportable ⟨.int 7, .text "", .null, .event "v" (.int 1)⟩ := by
  have hShort : ¬ digitBound ≤ 7 := by decide +kernel
  rintro crash (h | h)
  · cases Value.obstacle_scalar.mp h with
    | number h =>
      cases h with
      | long hLong => exact hShort hLong
  · cases Value.obstacle_scalar.mp h

theorem reportable_halved :
    Assertion.IsReportable ⟨.text half, .text "", .null, .event "v" (.int 1)⟩ := by
  rintro crash (h | h)
  · cases Value.obstacle_scalar.mp h
  · cases Value.obstacle_scalar.mp h

theorem whole_numbered : ¬ TestResult.HoldsHalf ⟨.int 7, .text "", .pass, none⟩ := by
  rintro (h | h | ⟨_, ⟨⟩, -⟩)
  · cases Value.holdsHalf_scalar.mp h
  · cases Value.holdsHalf_scalar.mp h

/-- Nothing but the date keeps the assertion from being reported. -/
theorem obstacle_dated {crash : Crash} :
    Assertion.Obstacle false ⟨.scalar (.stamp (.date 2024 1 1)), .text "", .null,
      .event "v" (.int 1)⟩ crash ↔ crash = .notWritable "date" := by
  constructor
  · rintro (h | h)
    · exact Scalar.obstacle_stamp.mp (Value.obstacle_scalar.mp h)
    · cases Value.obstacle_scalar.mp h
  · rintro rfl
    exact .inl (.scalar (.stamp _))

end Cart

open Cart

/-- With a number as its id the assertion is reported. -/
theorem report_of_completed_run_cart :
    let c : RunCommand := { testFile := "t" }
    let ended := Command.execute layerPage (FileTree.ofText numbered) (.run c)
    c.Accepts (FileTree.ofText numbered) (test (.int 7)) {} ∧
    Completes layerPage (test (.int 7)) {} [⟨.int 7, .text "", .pass, none⟩] ∧
    ended.result = .ok 0 ∧ ended.printed = report ++ "\n" := by
  intro c ended
  have hAccepts := accepts document_numbered
  obtain ⟨-, hReported, -⟩ := report_of_completed_run hAccepts (completes (.int 7))
  obtain ⟨-, hWhole, -⟩ := hReported (List.forall_mem_singleton.mpr reportable_numbered)
  obtain ⟨⟨text, hText, hPrinted⟩, hCode⟩ := hWhole (List.forall_mem_singleton.mpr whole_numbered)
  -- the theorem gives some text; which one it is has to be evaluated
  have hWritten : Json.write .page (TestResult.report [⟨.int 7, .text "", .pass, none⟩]) =
      .ok report := by decide +kernel
  rw [hWritten] at hText
  obtain rfl := Text.whole.inj (Except.ok.inj hText)
  exact ⟨hAccepts, completes _, hCode nofun, hPrinted⟩

/-- With a date as its id the result is lost, although the assertion passes as well: the date fits
no line of the log. -/
theorem report_lost_for_date :
    let c : RunCommand := { testFile := "t" }
    let date : Value := .scalar (.stamp (.date 2024 1 1))
    let ended := Command.execute layerPage (FileTree.ofText dated) (.run c)
    (FileTree.ofText dated).document "t" = .ok (data date) ∧
    TestDefinition.ofValue (data date) = .ok (test date) ∧
    Completes layerPage (test date) {} [⟨date, .text "", .pass, none⟩] ∧
    outcome layerPage (test date) {} = .error (.crash (.notWritable "date")) ∧
    ended.result = .error (.crash (.notWritable "date")) ∧ ended.printed = "" := by
  intro c date ended
  have hEnded : ended = c.run layerPage (FileTree.ofText dated) (test date) {} :=
    RunCommand.execute_of_accepts layerPage (accepts document_dated)
  -- the date is the only obstacle there is, so that the crash is about it
  obtain ⟨crash, ⟨a, ha, hAt⟩, hRun⟩ := (completes date).outcome_of_obstacle
    (List.mem_singleton.mpr rfl) (obstacle_dated.mpr rfl)
  obtain rfl := List.mem_singleton.mp ha
  obtain rfl := obstacle_dated.mp hAt
  obtain ⟨hResult, hPrinted, -⟩ := c.run_of_crash (FileTree.ofText dated) hRun
  rw [hEnded]
  exact ⟨document_dated, rfl, completes date, hRun, hResult, hPrinted⟩

/-- With a half of a surrogate pair as its id the result is returned, but there are no bytes to
print it with. -/
theorem report_lost_for_half :
    let c : RunCommand := { testFile := "t" }
    let results : List TestResult := [⟨.text half, .text "", .pass, none⟩]
    let ended := Command.execute layerPage (FileTree.ofText halved) (.run c)
    (FileTree.ofText halved).document "t" = .ok (data (.text half)) ∧
    Completes layerPage (test (.text half)) {} results ∧
    outcome layerPage (test (.text half)) {} = .ok results ∧
    (∃ halves, ended.result = .error (.crash (.unencodable halves))) ∧ ended.printed = "" := by
  intro c results ended
  have hEnded : ended = c.run layerPage (FileTree.ofText halved) (test (.text half)) {} :=
    RunCommand.execute_of_accepts layerPage (accepts document_halved)
  -- a line of the log may hold the half, so that the run itself returns
  have hRun := (completes (.text half)).outcome_of_reportable
    (List.forall_mem_singleton.mpr reportable_halved)
  obtain ⟨text, hText⟩ := (TestResult.failsAt_report .page (completes (.text half)).heads).exists_ok_iff.mpr
    fun crash ⟨a, ha, hObstacle⟩ => by
      obtain rfl := List.mem_singleton.mp ha
      exact reportable_halved crash hObstacle
  obtain ⟨hLost, hPrinted, -⟩ := c.publish_of_holdsHalf (FileTree.ofText halved)
    ((runTest {} (test (.text half))).run (.before layerPage {})).2 hText
    ⟨_, List.mem_singleton_self _, .inl (Value.holdsHalf_text.mpr rfl)⟩
  rw [hEnded, c.run_of_ok _ hRun]
  exact ⟨document_halved, completes _, hRun, hLost, hPrinted⟩

end BeaconCheck
