import BeaconCheck.Proofs.CommandLine.Agreement
import BeaconCheck.Proofs.CommandLine.Start
import BeaconCheck.Proofs.CommandLine.Writing

/-!
# What running a command leaves behind

The exit code of a command that runs a test says how far it came. It is 2 if the files were
refused, before anything was done; 1 if the run failed with an error of its own, or not every
assertion passed; and 0 if the report is printed and good throughout. A report that is also asked
for in a file can be read there as it was printed.

* `RunCommand.Refuses`  — why the files of a command are refused, stage by stage.
* `RunCommand.Returns`  — when a command returns an exit code, and which.
* `RunCommand.Delivers` — what a report leaves behind.
* `exit_code_of_run`    — a command returns that code and leaves that behind.
-/

namespace BeaconCheck

namespace RunCommand

open Agreement (outcome)

variable {c : RunCommand} {files : FileTree}

/-! ## Refusals -/

/-- Why the files of a command are refused: the first of its stages that refuses says so. -/
inductive Refuses (c : RunCommand) (files : FileTree) : InputError → Prop
  | testFile {e : InputError} (hFile : files.document c.testFile = .error (.refused e)) :
      Refuses c files e
  | optionsFile {document : Value} {path : String} {e : InputError}
      (hDocument : files.document c.testFile = .ok document) (hNamed : c.optionsFile = some path)
      (hFile : files.document path = .error (.refused e)) : Refuses c files e
  | test {document test beside options : Value} {e : InputError}
      (hDocument : files.document c.testFile = .ok document) (hHolds : Holds document test beside)
      (hChooses : c.Chooses files beside options)
      (hTest : TestDefinition.ofValue test = .error (.refused e)) : Refuses c files e
  | options {document test beside options : Value} {t : TestDefinition} {e : InputError}
      (hDocument : files.document c.testFile = .ok document) (hHolds : Holds document test beside)
      (hChooses : c.Chooses files beside options) (hTest : TestDefinition.ofValue test = .ok t)
      (hOptions : RunOptions.ofValue (c.inForce options) = .error (.refused e)) : Refuses c files e

/-- Reading a file of options fails as the file does, if one is named. -/
theorem mapM_document_eq_error_iff {f : InputFailure} :
    c.optionsFile.mapM files.document = .error f ↔
      ∃ path, c.optionsFile = some path ∧ files.document path = .error f := by
  cases hNamed : c.optionsFile with
  | none => exact iff_of_false nofun fun ⟨_, h, _⟩ => nomatch h
  | some path =>
    -- what was read is passed on, which does not fail
    refine Iff.trans bind_eq_error ⟨?_, ?_⟩
    · rintro (h | ⟨v, -, h⟩)
      · exact ⟨path, rfl, h⟩
      · cases h
    · rintro ⟨_, ⟨⟩, h⟩
      exact .inl h

/-- **A command is refused exactly for these reasons.** -/
theorem request_eq_refused_iff {e : InputError} :
    c.request files = .error (.refused e) ↔ c.Refuses files e := by
  have hParse (document : Value) (others : Option Value) :
      parse document others c.headful = .error (.refused e) ↔
        TestDefinition.ofValue (split document).1 = .error (.refused e) ∨
          ∃ t, TestDefinition.ofValue (split document).1 = .ok t ∧
            RunOptions.ofValue (c.inForce (others.getD (split document).2)) =
              .error (.refused e) := by
    unfold parse
    simp only [bind_eq_error]
    refine or_congr_right (exists_congr fun t => and_congr_right fun _ => or_iff_left ?_)
    rintro ⟨o, -, h⟩
    cases h
  unfold request
  simp only [bind_eq_error, mapM_document_eq_error_iff, hParse]
  -- one case for each stage: the test file, the file of options, the test, the options
  constructor
  · rintro (hFile | ⟨document, hDocument, ⟨path, hNamed, hFile⟩ |
      ⟨others, hOthers, hTest | ⟨t, hTest, hOptions⟩⟩⟩)
    · exact .testFile hFile
    · exact .optionsFile hDocument hNamed hFile
    · exact .test hDocument (holds_split document) (chooses_of_read hOthers) hTest
    · exact .options hDocument (holds_split document) (chooses_of_read hOthers) hTest hOptions
  · intro h
    cases h with
    | testFile hFile => exact .inl hFile
    | optionsFile hDocument hNamed hFile =>
      exact .inr ⟨_, hDocument, .inl ⟨_, hNamed, hFile⟩⟩
    | test hDocument hHolds hChooses hTest =>
      obtain ⟨others, hOthers, -⟩ := hChooses.read
      refine .inr ⟨_, hDocument, .inr ⟨others, hOthers, .inl ?_⟩⟩
      rwa [hHolds.split_eq]
    | options hDocument hHolds hChooses hTest hOptions =>
      obtain ⟨others, hOthers, rfl⟩ := hChooses.read
      refine .inr ⟨_, hDocument, .inr ⟨others, hOthers, .inr ?_⟩⟩
      rw [hHolds.split_eq]
      exact ⟨_, hTest, hOptions⟩

/-- What is accepted is not refused. -/
theorem Accepts.not_refuses {t : TestDefinition} {o : RunOptions} (h : c.Accepts files t o)
    (e : InputError) : ¬ c.Refuses files e := by
  intro hRefuses
  have hRefused := request_eq_refused_iff.mpr hRefuses
  rw [request_iff_accepts.mpr h] at hRefused
  cases hRefused

/-! ## Reports -/

/-- What a report leaves behind. It is printed; if it is asked for in a file, this holds just what
was printed, and every other file is what it was. -/
structure Delivers (c : RunCommand) (files : FileTree) (results : List TestResult)
    (ended : Execution) : Prop where
  printed : ∃ text : String, Json.write .page (TestResult.report results) = .ok text ∧
    ended.printed = text ++ "\n"
  unasked : c.outputFile = none → ended.files = files
  asked : ∀ path, c.outputFile = some path → ∃ there,
    files.Puts ended.files there (Utf8.encode ended.printed.toList) ∧
      ended.files.read (FileTree.plain path) = .ok (Utf8.encode ended.printed.toList)

/-- A report can be delivered: it can be written, and the file that it is asked for in can be,
too. -/
def CanDeliver (c : RunCommand) (files : FileTree) (results : List TestResult) : Prop :=
  ∃ printed, reportText results = .ok printed ∧ ∀ path, c.outputFile = some path →
    ∃ files', files.write path (Utf8.encode printed.toList) = .ok files'

/-- **Publishing returns a code** if the report can be delivered, and then it is. -/
theorem publish_spec (c : RunCommand) (files : FileTree) (w : World) (results : List TestResult)
    (code : Nat) :
    ((c.publish files w results).result = .ok code ↔
        c.CanDeliver files results ∧ code = exitCode results) ∧
      ((c.publish files w results).result = .ok code →
        c.Delivers files results (c.publish files w results)) := by
  rw [publish, CanDeliver]
  cases hText : reportText results with
  | error crash =>
    -- without a text there is nothing to deliver
    refine ⟨iff_of_false (fun h => by cases h) ?_, fun h => by cases h⟩
    rintro ⟨⟨_, h, -⟩, -⟩
    cases h
  | ok printed =>
    have hPrinted := reportText_eq_ok_iff.mp hText
    cases hOutput : c.outputFile with
    | none =>
      refine ⟨?_, fun _ => ⟨hPrinted, fun _ => rfl, fun path h => ?_⟩⟩
      · simp [eq_comm]
      · rw [hOutput] at h
        cases h
    | some path =>
      simp only []
      cases hWrite : files.write path (Utf8.encode printed.toList) with
      | error crash =>
        -- what is printed cannot be written to the file
        refine ⟨iff_of_false (fun h => by cases h) ?_, fun h => by cases h⟩
        rintro ⟨⟨_, ⟨⟩, h⟩, -⟩
        obtain ⟨files', h⟩ := h path rfl
        rw [hWrite] at h
        cases h
      | ok files' =>
        refine ⟨?_, fun _ => ⟨hPrinted, fun h => ?_, fun other h => ?_⟩⟩
        · simp [hWrite, eq_comm]
        · rw [hOutput] at h
          cases h
        · rw [hOutput] at h
          obtain rfl := Option.some.inj h
          exact FileTree.exists_of_write hWrite

/-! ## Exit codes -/

/-- When a command returns an exit code, and which. -/
inductive Returns (c : RunCommand) (page : Page) (files : FileTree) : Nat → Prop
  | refused {e : InputError} (hRefuses : c.Refuses files e) : Returns c page files 2
  | failed {t : TestDefinition} {o : RunOptions} {f : Failure} (hAccepts : c.Accepts files t o)
      (hRun : outcome page t o = .error f) (hKnown : f.kind?.isSome) : Returns c page files 1
  | reported {t : TestDefinition} {o : RunOptions} {results : List TestResult}
      (hAccepts : c.Accepts files t o) (hRun : outcome page t o = .ok results)
      (hDelivers : c.CanDeliver files results) : Returns c page files (exitCode results)

/-- A test that fails ends the command with 1 if the failure is an error of the run's own; it
leaves nothing behind. -/
theorem run_of_error (c : RunCommand) {page : Page} (files : FileTree) {t : TestDefinition}
    {o : RunOptions} {f : Failure} (hRun : outcome page t o = .error f) (code : Nat) :
    ((c.run page files t o).result = .ok code ↔ f.kind?.isSome ∧ code = 1) ∧
      (c.run page files t o).printed = "" ∧ (c.run page files t o).files = files := by
  rw [run_of_failed c files hRun]
  simp only []
  split
  · next hKnown => exact ⟨by simp [hKnown, eq_comm], rfl, rfl⟩
  · next hForeign =>
    refine ⟨⟨fun h => ?_, fun h => absurd h.1 hForeign⟩, rfl, rfl⟩
    cases h

/-- A command that is refused is logged, and ends with 2. -/
theorem execute_of_refuses {e : InputError} (page : Page) (h : c.Refuses files e) :
    c.execute page files =
      { result := .ok 2, files, world := World.addLog {} [⟨.error, e.message⟩] } := by
  rw [execute, request_eq_refused_iff.mpr h]

/-- A command that is accepted runs its test. -/
theorem execute_of_accepts {t : TestDefinition} {o : RunOptions} (page : Page)
    (h : c.Accepts files t o) : c.execute page files = c.run page files t o := by
  rw [execute, request_iff_accepts.mpr h]

/-- **A command returns an exit code** exactly where it is described. -/
theorem execute_returns_iff (c : RunCommand) (page : Page) (files : FileTree) (code : Nat) :
    (c.execute page files).result = .ok code ↔ c.Returns page files code := by
  constructor
  · intro h
    -- the stages of a command in their order: reading what is asked for, running it, publishing
    rcases hRequest : c.request files with (e | crash) | ⟨t, o⟩
    · have hRefuses := request_eq_refused_iff.mp hRequest
      rw [execute_of_refuses page hRefuses] at h
      obtain rfl := Except.ok.inj h
      exact .refused hRefuses
    · -- a crash escapes, so no code is returned
      rw [execute, hRequest] at h
      cases h
    · have hAccepts := request_iff_accepts.mp hRequest
      rw [execute_of_accepts page hAccepts] at h
      cases hRun : outcome page t o with
      | error f =>
        obtain ⟨hKnown, rfl⟩ := (c.run_of_error files hRun code).1.mp h
        exact .failed hAccepts hRun hKnown
      | ok results =>
        rw [c.run_of_ok files hRun] at h
        obtain ⟨hDelivers, rfl⟩ := (c.publish_spec files _ results code).1.mp h
        exact .reported hAccepts hRun hDelivers
  · intro h
    -- each way to return a code was the way of one stage
    cases h with
    | refused hRefuses => rw [execute_of_refuses page hRefuses]
    | failed hAccepts hRun hKnown =>
      rw [execute_of_accepts page hAccepts]
      exact (c.run_of_error files hRun 1).1.mpr ⟨hKnown, rfl⟩
    | reported hAccepts hRun hDelivers =>
      rw [execute_of_accepts page hAccepts, c.run_of_ok files hRun]
      exact (c.publish_spec files _ _ _).1.mpr ⟨hDelivers, rfl⟩

end RunCommand

open RunCommand in
open Agreement (outcome) in
/-- **What running a command leaves behind.** A command returns an exit code exactly if its files
are refused, or the run fails with an error of its own, or the report of the results can be
delivered. The code is 2 exactly if the test, or the options in force, are refused when they are
loaded or read; then nothing is printed or written, and no call is made to a browser. Otherwise
they are accepted and the test is run. If it fails the code is 1, and nothing is printed or
written. If it has results, the code is 0 if all of them pass, and 1 if not; their report is
printed, and the file that is asked for holds just what was printed. -/
theorem exit_code_of_run (c : RunCommand) (page : Page) (files : FileTree) :
    let ended := Command.execute page files (.run c)
    (∀ code, ended.result = .ok code ↔ c.Returns page files code) ∧
    ∀ code, ended.result = .ok code →
      (code = 2 ↔ ∃ e, c.Refuses files e) ∧
      (code = 2 → ended.printed = "" ∧ ended.files = files ∧ ended.world.trace = []) ∧
      (code ≠ 2 → ∃ t o, c.Accepts files t o ∧
        ((∃ f, outcome page t o = .error f ∧ f.kind?.isSome ∧
            code = 1 ∧ ended.printed = "" ∧ ended.files = files) ∨
          ∃ results, outcome page t o = .ok results ∧
            code = (if ∀ r ∈ results, r.outcome = .pass then 0 else 1) ∧
            c.Delivers files results ended)) := by
  intro ended
  have hEnded : ended = c.execute page files := rfl
  rw [hEnded]
  refine ⟨c.execute_returns_iff page files, fun code hCode => ?_⟩
  -- what is said of a code is read off the way in which it was returned
  cases (c.execute_returns_iff page files code).mp hCode with
  | refused hRefuses =>
    refine ⟨iff_of_true rfl ⟨_, hRefuses⟩, fun _ => ?_, fun h => absurd rfl h⟩
    rw [execute_of_refuses page hRefuses]
    exact ⟨rfl, rfl, rfl⟩
  | @failed t o f hAccepts hRun hKnown =>
    refine ⟨iff_of_false (by decide) fun ⟨e, he⟩ => hAccepts.not_refuses e he, nofun, fun _ => ?_⟩
    obtain ⟨-, hPrinted, hFiles⟩ := c.run_of_error files hRun 1
    rw [execute_of_accepts page hAccepts]
    exact ⟨t, o, hAccepts, .inl ⟨f, hRun, hKnown, rfl, hPrinted, hFiles⟩⟩
  | @reported t o results hAccepts hRun _ =>
    -- the verdicts give 0 or 1, so that 2 is left to what is refused
    have hNotTwo : exitCode results ≠ 2 := by
      rw [exitCode]
      split <;> decide
    refine ⟨iff_of_false hNotTwo fun ⟨e, he⟩ => hAccepts.not_refuses e he,
      fun h => absurd h hNotTwo, fun _ => ?_⟩
    rw [execute_of_accepts page hAccepts, c.run_of_ok files hRun] at hCode ⊢
    exact ⟨t, o, hAccepts, .inr ⟨results, hRun, Agreement.exitCode_eq results,
      (c.publish_spec files _ results _).2 hCode⟩⟩

open Agreement in
/-- The test that waits for five milliseconds has no assertions, so all of them pass; its report is
asked for in a file. -/
theorem exit_code_of_run_pause :
    let c : RunCommand := { testFile := "shop.yaml", outputFile := some "report.json" }
    let ended := Command.execute {} pauseFiles (.run c)
    ended.result = .ok 0 ∧ ended.printed = "[]\n" ∧
      ended.files.read (FileTree.plain "report.json") = .ok (Utf8.encode "[]\n".toList) := by
  intro c ended
  have hParts : FileTree.parts "report.json" = ["report.json"] := by
    rw [FileTree.parts, String.splitOn, if_neg (by decide)]
    iterate 11 rw [String.splitOnAux, if_neg (by decide), if_neg (by decide)]
    rw [String.splitOnAux, if_pos (by decide)]
    rfl
  have hPlain : FileTree.plain "report.json" = "report.json" := by
    rw [FileTree.plain, hParts]
    decide +kernel
  have hTarget : pauseFiles.target "report.json" = .vacant ["report.json"] := by
    have hStart : pauseFiles.start "report.json" = [] := ite_self []
    rw [FileTree.target, hParts, hStart]
    rfl
  have hDelivers : c.CanDeliver pauseFiles [] := by
    refine ⟨"[]\n", rfl, fun path hPath => ?_⟩
    obtain rfl := Option.some.inj hPath
    refine ⟨{ pauseFiles with
      files := pauseFiles.files ++ [(["report.json"], Utf8.encode "[]\n".toList)] }, ?_⟩
    rw [FileTree.write, if_neg (by simp), hPlain]
    simp only [hTarget]
  have hAccepts : c.Accepts pauseFiles ⟨"", [.pause (.int 5)]⟩ {} :=
    ⟨_, _, _, _, document_pauseFiles, .both rfl rfl, .beside rfl, rfl, rfl⟩
  have hRun : outcome {} ⟨"", [.pause (.int 5)]⟩ {} = .ok [] := by
    have hNone : (outcome {} ⟨"", [.pause (.int 5)]⟩ {}).map List.length = .ok 0 := by
      decide +kernel
    cases hOutcome : outcome {} ⟨"", [.pause (.int 5)]⟩ {} with
    | error f => rw [hOutcome] at hNone; cases hNone
    | ok results =>
      rw [hOutcome] at hNone
      exact congrArg Except.ok (List.length_eq_zero_iff.mp (Except.ok.inj hNone))
  obtain ⟨hReturns, hLeaves⟩ := exit_code_of_run c {} pauseFiles
  have hCode : ended.result = .ok 0 := (hReturns 0).mpr (.reported hAccepts hRun hDelivers)
  obtain ⟨-, -, hRan⟩ := hLeaves 0 hCode
  obtain ⟨t, o, hAccepts', hEnds⟩ := hRan (by decide)
  -- the test that was run is the only one that the files hold
  obtain ⟨rfl, rfl⟩ : ⟨"", [.pause (.int 5)]⟩ = t ∧ ({} : RunOptions) = o := by
    have hSame := (RunCommand.request_iff_accepts.mpr hAccepts).symm.trans
      (RunCommand.request_iff_accepts.mpr hAccepts')
    exact Prod.mk.inj (Except.ok.inj hSame)
  rcases hEnds with ⟨f, hFailed, -⟩ | ⟨results, hResults, -, hDelivered⟩
  · rw [hRun] at hFailed
    cases hFailed
  · obtain rfl : [] = results := Except.ok.inj (hRun.symm.trans hResults)
    obtain ⟨text, hText, hPrinted⟩ := hDelivered.printed
    obtain rfl : "[]" = text := Text.whole.inj (Except.ok.inj hText)
    obtain ⟨there, -, hRead⟩ := hDelivered.asked "report.json" rfl
    rw [hPrinted] at hRead
    exact ⟨hCode, hPrinted, hRead⟩

end BeaconCheck
