import BeaconCheck.CommandLine.Execution
import BeaconCheck.Proofs.Endpoint.Status

/-!
# When a browser is started

A test is run by starting a session, and this begins with a call to the browser, so every run
leaves a trace. What is refused leaves none: both entries read their whole input before they run
anything. A browser is therefore started exactly for the input that can be read, whether the run
then succeeds, fails, or ends in something that escapes.

* `Session.calls_of_run`             — the first call of every run starts the driver.
* `Endpoint.parse_eq_ok_iff_accepts` — which requests of any method and path are accepted.
* `RunCommand.Accepts`               — the files and switches are those of a test with options.
* `RunCommand.request_iff_accepts`   — which commands are accepted.
* `trace_iff_accepted`               — both entries, and bodies that are never looked at.
-/

namespace BeaconCheck

/-! ## The first call of a run -/

namespace Session

open World

/-- Whether or not it can be finished, starting a session makes the call for the driver first. -/
theorem start_stage (o : RunOptions) (w : World) :
    ∃ made rest, Stage w made ((start o).run w).2 ∧
      made.map AnsweredCall.call = .start :: rest := by
  obtain ⟨made, hStage, -, -, hEnd⟩ := start_ends o w
  -- starting the driver is the first of the calls that set a session up
  obtain ⟨others, hSetup⟩ : ∃ others, setupCalls o = .start :: others := ⟨_, rfl⟩
  rcases hEnd with ⟨-, rfl⟩ | ⟨done, c, rest, e, -, hCalls, rfl⟩
  · -- all calls were made
    refine ⟨_, others, hStage, ?_⟩
    rw [List.map_map, ← hSetup]
    exact List.map_id _
  · -- those up to the one that failed, which is the first of them or one behind it
    cases done with
    | nil =>
      obtain rfl : Call.start = c := (List.cons.inj (hSetup.symm.trans hCalls)).1
      exact ⟨_, [], hStage, rfl⟩
    | cons d done =>
      obtain rfl : Call.start = d := (List.cons.inj (hSetup.symm.trans hCalls)).1
      exact ⟨_, _, hStage, rfl⟩

/-- Closing is a stage. -/
theorem close_stage (w : World) : ∃ made, Stage w made (close.run w).2 := by
  cases h : w.closed with
  | true =>
    rw [close_of_closed h]
    exact ⟨[], .refl w⟩
  | false =>
    obtain ⟨made, hStage, -⟩ := close_of_open h
    exact ⟨made, hStage⟩

/-- **The first call of every run starts the driver**, however the run ends. -/
theorem calls_of_run (o : RunOptions) (t : TestDefinition) (w : World) :
    ∃ rest, ((runTest o t).run w).2.calls = w.calls ++ .start :: rest := by
  obtain ⟨made, rest, hStage, hFirst⟩ := start_stage o w
  -- what comes behind the start of the session only adds to its calls
  have hBehind : ∃ more, Stage w (made ++ more) ((runTest o t).run w).2 := by
    rw [run_runTest, run_enter]
    rcases hStart : (start o).run w with ⟨f | _, v⟩
    · rw [hStart] at hStage
      obtain ⟨closings, hClose⟩ := close_stage v
      exact ⟨closings, hStage.trans hClose⟩
    · rw [hStart] at hStage
      obtain ⟨calls, hCourse, -, -⟩ := run_ends o t v
      obtain ⟨closings, hClose⟩ := close_stage ((run o t).run v).2
      exact ⟨calls ++ closings, hStage.trans ((Stage.course hCourse).trans hClose)⟩
  obtain ⟨more, hRun⟩ := hBehind
  rw [hRun.calls_eq, List.map_append, hFirst]
  exact ⟨rest ++ more.map AnsweredCall.call, rfl⟩

/-- A run leaves a trace. -/
theorem trace_ne_nil (o : RunOptions) (t : TestDefinition) (w : World) :
    ((runTest o t).run w).2.trace ≠ [] := by
  intro hNone
  obtain ⟨rest, hCalls⟩ := calls_of_run o t w
  rw [World.calls, hNone, List.filterMap_nil] at hCalls
  exact absurd hCalls.symm (List.append_ne_nil_of_right_ne_nil _ (List.cons_ne_nil _ _))

end Session

/-! ## Requests -/

namespace Endpoint

variable {r : Request}

/-- A request of any method to any path is accepted exactly if it posts what can be read to one of
the endpoint's paths. -/
theorem parse_eq_ok_iff_accepts {t : TestDefinition} {o : RunOptions} :
    parse r = .ok (t, o) ↔ r.path ∈ paths ∧ Accepts r t o := by
  by_cases hPath : r.path ∈ paths
  · by_cases hMethod : r.method ∈ methods
    · rw [parse_eq_ok_iff hMethod hPath]
      exact (and_iff_right hPath).symm
    -- a method that is not known is not the one that posts
    · have hRoute : checkRoute r = .error .unknownMethod := by
        rw [checkRoute, if_pos (List.contains_iff_mem.mpr hPath),
          if_neg (mt List.contains_iff_mem.mp hMethod)]
      have hNotPost : r.method ≠ "POST" := by
        intro hPost
        rw [hPost] at hMethod
        exact hMethod (by decide)
      rw [parse, hRoute]
      exact iff_of_false nofun fun ⟨_, _, _, hPosts, _⟩ => hNotPost hPosts.isPost
  · have hRoute : ∃ refusal, checkRoute r = .error refusal := by
      rw [checkRoute, if_neg (mt List.contains_iff_mem.mp hPath)]
      split <;> exact ⟨_, rfl⟩
    obtain ⟨refusal, hRoute⟩ := hRoute
    rw [parse, hRoute]
    exact iff_of_false nofun fun h => hPath h.1

/-- **A browser is started for a request exactly if it is accepted.** -/
theorem trace_respond_iff (page : Page) (r : Request) :
    (respond page r).2.trace ≠ [] ↔ r.path ∈ paths ∧ ∃ t o, Accepts r t o := by
  have hWorld : (respond page r).2 = (answer page r).2 := rfl
  rw [hWorld]
  cases hParse : parse r with
  | error refusal =>
    -- a refusal is answered in the world as it was before
    rw [answer_of_refusal hParse]
    refine iff_of_false (fun h => h rfl) ?_
    rintro ⟨hPath, t, o, hAccepts⟩
    rw [parse_eq_ok_iff_accepts.mpr ⟨hPath, hAccepts⟩] at hParse
    cases hParse
  | ok read =>
    obtain ⟨t, o⟩ := read
    obtain ⟨hPath, hAccepts⟩ := parse_eq_ok_iff_accepts.mp hParse
    rw [(answer_of_test hParse).2]
    exact iff_of_true (Session.trace_ne_nil o t _) ⟨hPath, t, o, hAccepts⟩

/-- A request that is not posted is answered without a look at its body. -/
theorem respond_of_not_posted (page : Page) (hMethod : r.method ≠ "POST") (body : List UInt8) :
    respond page { r with body } = respond page r := by
  have hRoute : checkRoute { r with body } = checkRoute r := rfl
  -- the request is turned down by its method or its path, before its body is looked at
  have hRefused : ∃ refusal, checkRoute r = .error refusal := by
    unfold checkRoute
    rw [if_neg hMethod]
    split
    · split <;> exact ⟨_, rfl⟩
    · split <;> exact ⟨_, rfl⟩
  obtain ⟨refusal, hRefused⟩ := hRefused
  have hParse (s : Request) (hs : checkRoute s = .error refusal) : parse s = .error refusal := by
    rw [parse, hs]
    rfl
  rw [respond, respond, answer_of_refusal (hParse r hRefused),
    answer_of_refusal (hParse { r with body } (hRoute.trans hRefused))]

end Endpoint

/-! ## Commands -/

namespace RunCommand

variable {c : RunCommand} {files : FileTree} {document test beside : Value}

/-- What a document is read as: a test by itself, or a test with options beside it if there is an
entry for a test. -/
inductive Holds (document : Value) : Value → Value → Prop
  | test (h : ∀ data, document.entries? = some data → Value.field? data "test" = none) :
      Holds document document .null
  | both {data : List (Scalar × Value)} {test : Value} (hData : document.entries? = some data)
      (hTest : Value.field? data "test" = some test) :
      Holds document test (Value.field data "options")

/-- The options that a command chooses: those of its file if it names one, otherwise those beside
the test. -/
inductive Chooses (c : RunCommand) (files : FileTree) (beside : Value) : Value → Prop
  | beside (h : c.optionsFile = none) : Chooses c files beside beside
  | file {path : String} {options : Value} (h : c.optionsFile = some path)
      (hFile : files.document path = .ok options) : Chooses c files beside options

/-- The options in force: those that were chosen, with a window if one is asked for. -/
def inForce (c : RunCommand) (options : Value) : Value :=
  if c.headful then withWindow options else options

/-- The files of the command hold a test, and options in force, that can be read. -/
def Accepts (c : RunCommand) (files : FileTree) (t : TestDefinition) (o : RunOptions) : Prop :=
  ∃ document test beside options,
    files.document c.testFile = .ok document ∧ Holds document test beside ∧
      c.Chooses files beside options ∧ TestDefinition.ofValue test = .ok t ∧
      RunOptions.ofValue (c.inForce options) = .ok o

/-- A document is split as it is described. -/
theorem holds_split (document : Value) : Holds document (split document).1 (split document).2 := by
  unfold split
  -- only an object can hold a test beside options, and only if it has an entry for it
  cases hData : document.entries? with
  | none =>
    refine .test fun data h => ?_
    rw [hData] at h
    cases h
  | some data =>
    simp only []
    cases hTest : Value.field? data "test" with
    | none =>
      refine .test fun data' h => ?_
      rw [hData] at h
      cases h
      exact hTest
    | some test => exact .both hData hTest

/-- There is only one way to split a document. -/
theorem Holds.split_eq (h : Holds document test beside) : split document = (test, beside) := by
  unfold split
  cases h with
  | test h =>
    cases hData : document.entries? with
    | none => rfl
    | some data => simp only [h data hData]
  | both hData hTest => simp only [hData, hTest]

/-- Options are chosen when the file that a command names for them was read. -/
theorem chooses_of_read {others : Option Value}
    (h : c.optionsFile.mapM files.document = .ok others) :
    c.Chooses files beside (others.getD beside) := by
  -- options come from the file that is named, and otherwise from beside the test
  cases hNamed : c.optionsFile with
  | none =>
    rw [hNamed] at h
    cases h
    exact .beside hNamed
  | some path =>
    rw [hNamed] at h
    obtain ⟨options, hRead, hOthers⟩ := bind_eq_ok.mp h
    cases hOthers
    exact .file hNamed hRead

/-- The file that a command names for its options was read when they are chosen. -/
theorem Chooses.read {options : Value} (h : c.Chooses files beside options) :
    ∃ others, c.optionsFile.mapM files.document = .ok others ∧ others.getD beside = options := by
  cases h with
  | beside hNone =>
    rw [hNone]
    exact ⟨none, rfl, rfl⟩
  | file hNamed hRead =>
    rw [hNamed]
    exact ⟨some options, bind_eq_ok.mpr ⟨options, hRead, rfl⟩, rfl⟩

/-- **A command is accepted exactly if its files hold a test and options that can be read.** -/
theorem request_iff_accepts {t : TestDefinition} {o : RunOptions} :
    c.request files = .ok (t, o) ↔ c.Accepts files t o := by
  -- reading the two parts comes last and is the same for every document
  have hParse (document : Value) (others : Option Value) :
      parse document others c.headful = .ok (t, o) ↔
        TestDefinition.ofValue (split document).1 = .ok t ∧
          RunOptions.ofValue (c.inForce (others.getD (split document).2)) = .ok o := by
    unfold parse
    simp only [bind_eq_ok]
    constructor
    · rintro ⟨t', hTest, o', hOptions, ⟨⟩⟩
      exact ⟨hTest, hOptions⟩
    · rintro ⟨hTest, hOptions⟩
      exact ⟨t, hTest, o, hOptions, rfl⟩
  unfold request
  simp only [bind_eq_ok, hParse]
  constructor
  · rintro ⟨document, hDocument, others, hOthers, hTest, hOptions⟩
    exact ⟨document, _, _, _, hDocument, holds_split document, chooses_of_read hOthers, hTest,
      hOptions⟩
  -- conversely each relation determines what its reader gives
  · rintro ⟨document, test, beside, options, hDocument, hHolds, hChooses, hTest, hOptions⟩
    obtain ⟨others, hOthers, rfl⟩ := hChooses.read
    refine ⟨document, hDocument, others, hOthers, ?_⟩
    rw [hHolds.split_eq]
    exact ⟨hTest, hOptions⟩

/-- Nothing that is done with the results adds to the trace. -/
theorem trace_publish (c : RunCommand) (files : FileTree) (w : World)
    (results : List TestResult) : (c.publish files w results).world.trace = w.trace := by
  unfold publish
  split
  · rfl
  · split
    · rfl
    · split <;> rfl

/-- Behind the run of a test the command makes no more calls. -/
theorem trace_run (c : RunCommand) (page : Page) (files : FileTree) (t : TestDefinition)
    (o : RunOptions) :
    (c.run page files t o).world.trace = ((runTest o t).run (.before page o)).2.trace := by
  unfold run
  rcases (runTest o t).run (.before page o) with ⟨f | results, w⟩
  · simp only []
    split <;> rfl
  · exact trace_publish c files w results

/-- **A browser is started for a command exactly if it is accepted.** -/
theorem trace_execute_iff (c : RunCommand) (page : Page) (files : FileTree) :
    (c.execute page files).world.trace ≠ [] ↔ ∃ t o, c.Accepts files t o := by
  unfold execute
  -- only a request that is accepted is run, and every run begins with a call
  rcases hRequest : c.request files with (e | e) | ⟨t, o⟩
  · refine iff_of_false (fun h => h rfl) ?_
    rintro ⟨t, o, hAccepts⟩
    rw [request_iff_accepts.mpr hAccepts] at hRequest
    cases hRequest
  · refine iff_of_false (fun h => h rfl) ?_
    rintro ⟨t, o, hAccepts⟩
    rw [request_iff_accepts.mpr hAccepts] at hRequest
    cases hRequest
  · simp only []
    rw [trace_run]
    exact iff_of_true (Session.trace_ne_nil o t _) ⟨t, o, request_iff_accepts.mp hRequest⟩

end RunCommand

/-! ## Both entries -/

/-- **A browser is started exactly for accepted input**, and a request that is not posted is
answered the same whatever its body is. -/
theorem trace_iff_accepted (page : Page) :
    (∀ r : Request, (Endpoint.respond page r).2.trace ≠ [] ↔
      r.path ∈ Endpoint.paths ∧ ∃ t o, Endpoint.Accepts r t o) ∧
    (∀ (c : RunCommand) (files : FileTree),
      (Command.execute page files (.run c)).world.trace ≠ [] ↔ ∃ t o, c.Accepts files t o) ∧
    ∀ r : Request, r.method ≠ "POST" → ∀ body,
      Endpoint.respond page { r with body } = Endpoint.respond page r :=
  ⟨Endpoint.trace_respond_iff page, fun c => c.trace_execute_iff page,
    fun _ hMethod => Endpoint.respond_of_not_posted page hMethod⟩

/-- A posted test without steps is accepted; the same body has no effect on any other method. -/
theorem trace_iff_accepted_idle :
    let body := "\x7b\"test\":\x7b\"steps\":[]\x7d\x7d".toUTF8.toList
    let posted : Request := { body }
    let fetched : Request := { method := "GET" }
    fetched.method ≠ "POST" ∧
      (posted.path ∈ Endpoint.paths ∧ ∃ t o, Endpoint.Accepts posted t o) ∧
      Endpoint.respond {} { fetched with body } = Endpoint.respond {} fetched := by
  intro body posted fetched
  have hMethod : fetched.method ≠ "POST" := by decide
  have hTrace : (Endpoint.respond {} posted).2.trace ≠ [] := by decide +kernel
  exact ⟨hMethod, ((trace_iff_accepted {}).1 posted).mp hTrace,
    (trace_iff_accepted {}).2.2 fetched hMethod body⟩

end BeaconCheck
