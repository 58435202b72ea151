import BeaconCheck.Proofs.CommandLine.Agreement
import BeaconCheck.Proofs.CommandLine.Outcome
import BeaconCheck.Proofs.Definition.Fields
import BeaconCheck.Proofs.Session.Window

/-!
# Asking for a window

The switch that asks for a window rewrites the options before they are read: where there are none,
it makes some. Whatever form they had, as long as they could be read they are then read as the same
options with a window. From there on the two commands run alike, and leave the same behind except
for the call that starts the browser.

* `RunOptions.ofValue_withWindow` — options with a window.
* `Accepts.withWindow`            — what is run when a window is asked for.
* `execute_headful`               — the two commands.
-/

namespace BeaconCheck

open FieldReading

/-! ## Options with a window -/

section Options

variable {data : Object} {o : RunOptions}

/-- The settings of an object in which the entry about the window is given. -/
theorem Value.DescribesSettings.withWindow (h : DescribesSettings data o) :
    DescribesSettings (Entries.insert data (.text "headless") (.bool false)) o.windowed := by
  -- every other field is what it was
  have hField? {name : String} (hName : name ≠ "headless") :
      Value.field? (Entries.insert data (.text "headless") (.bool false)) name =
        Value.field? data name := by
    rw [Value.field?_insert, if_neg fun hSame => hName (Text.whole.inj hSame)]
  have hField {name : String} (hName : name ≠ "headless") :
      Value.field (Entries.insert data (.text "headless") (.bool false)) name =
        Value.field data name := by
    rw [Value.field, hField? hName, Value.field]
  have hDuration {name : String} {default d : Nat} (hName : name ≠ "headless")
      (h : HasDuration data name default d) :
      HasDuration (Entries.insert data (.text "headless") (.bool false)) name default d := by
    cases h with
    | missing h => exact .missing ((hField hName).trans h)
    | given h hValue hAtLeast => exact .given ((hField hName).trans h) hValue hAtLeast
  have hLayer {name : Text} (h : Value.DescribesLayer data name) :
      Value.DescribesLayer (Entries.insert data (.text "headless") (.bool false)) name := by
    cases h with
    | missing h => exact .missing ((hField? (by decide)).trans h)
    | given h => exact .given ⟨(hField (by decide)).trans h.1, h.2⟩
  refine ⟨hLayer h.layerName, ?_, ?_, hDuration (by decide) h.settleDelay, hDuration (by decide) h.typeDelay,
    hDuration (by decide) h.timeout⟩
  · refine .given ?_
    rw [Value.field_insert, if_pos rfl]
    rfl
  · rw [hField (by decide)]
    exact h.trackers

/-- **Options that can be read**, in whatever form they are given, can be read with a window, and
are the same in all other respects. -/
theorem RunOptions.ofValue_withWindow {v : Value} (h : RunOptions.ofValue v = .ok o) :
    RunOptions.ofValue (RunCommand.withWindow v) = .ok o.windowed := by
  refine ((RunOptions.reads_ofValue _).ok _).mpr ?_
  cases ((RunOptions.reads_ofValue v).ok o).mp h with
  | missing hNull =>
    -- there were no options, so all others are the defaults
    obtain rfl := hNull
    have hSettings : Value.DescribesSettings [] {} :=
      ⟨.missing rfl, .missing rfl, .missing rfl, .missing rfl, .missing rfl, .missing rfl⟩
    exact .given rfl hSettings.withWindow
  | given hData hSettings =>
    have hNull : v.isNull = false := by
      cases hCase : v.isNull with
      | false => rfl
      | true =>
        rw [Value.eq_null_of_isNull hCase] at hData
        cases hData
    rw [RunCommand.withWindow, hNull, hData]
    exact .given rfl hSettings.withWindow

end Options

/-! ## The two commands -/

namespace RunCommand

variable {c : RunCommand} {files : FileTree}

/-- What is run when a window is asked for as well. -/
theorem Accepts.withWindow {t : TestDefinition} {o : RunOptions}
    (h : Accepts { c with headful := false } files t o) :
    Accepts { c with headful := true } files t o.windowed := by
  obtain ⟨document, test, beside, options, hDocument, hHolds, hChooses, hTest, hOptions⟩ := h
  refine ⟨document, test, beside, options, hDocument, hHolds, ?_, hTest,
    RunOptions.ofValue_withWindow hOptions⟩
  -- the options are chosen without a look at the switch
  cases hChooses with
  | beside hNone => exact .beside hNone
  | file hNamed hFile => exact .file hNamed hFile

end RunCommand

/-- What is left behind, but the browser had a window whenever it was started. -/
def Execution.windowed (e : Execution) : Execution :=
  { e with world := e.world.windowed }

namespace RunCommand

variable (c : RunCommand) (files : FileTree)

/-- A report is the same with a window. -/
theorem publish_windowed (w : World) (results : List TestResult) :
    c.publish files w.windowed results = (c.publish files w results).windowed := by
  unfold publish
  split
  · rfl
  · split
    · rfl
    · split <;> rfl

/-- So is what the command makes of a run. -/
theorem run_windowed (page : Page) (t : TestDefinition) (o : RunOptions) :
    c.run page files t o.windowed = (c.run page files t o).windowed := by
  have hBefore : World.before page o.windowed = (World.before page o).windowed := rfl
  unfold run
  rw [hBefore, runTest_windowed]
  rcases (runTest o t).run (.before page o) with ⟨f | results, w⟩
  · simp only []
    split <;> rfl
  · exact c.publish_windowed files w results

end RunCommand

/-- **Asking for a window changes nothing but the window.** Where the files of a command hold a test
and options that can be read, the command that asks for a window as well returns the same code, or
lets the same failure escape; it prints and writes the same and leaves the same log. Its trace is
the same, too, except that the browser is started with a window. -/
theorem execute_headful {c : RunCommand} {files : FileTree} {t : TestDefinition} {o : RunOptions}
    (hAccepts : RunCommand.Accepts { c with headful := false } files t o) (page : Page) :
    let plain := Command.execute page files (.run { c with headful := false })
    let shown := Command.execute page files (.run { c with headful := true })
    shown.result = plain.result ∧ shown.printed = plain.printed ∧ shown.files = plain.files ∧
      shown.served = plain.served ∧ shown.world.log = plain.world.log ∧
      shown.world.trace = plain.world.trace.map TraceEntry.windowed := by
  intro plain shown
  have hPlain : plain = c.run page files t o :=
    RunCommand.execute_of_accepts page hAccepts
  have hShown : shown = c.run page files t o.windowed :=
    RunCommand.execute_of_accepts page hAccepts.withWindow
  -- both commands come down to one run, with the window as the only difference of its options
  have hWindowed : shown = plain.windowed := by
    rw [hShown, hPlain, RunCommand.run_windowed]
  rw [hWindowed]
  exact ⟨rfl, rfl, rfl, rfl, rfl, rfl⟩

open Agreement in
/-- The test that waits for five milliseconds has no options at all beside it. -/
theorem execute_headful_pause :
    let c : RunCommand := { testFile := "shop.yaml" }
    let plain := Command.execute {} pauseFiles (.run { c with headful := false })
    let shown := Command.execute {} pauseFiles (.run { c with headful := true })
    RunCommand.Accepts { c with headful := false } pauseFiles ⟨"", [.pause (.int 5)]⟩ {} ∧
      shown.result = plain.result ∧ shown.printed = plain.printed ∧
      plain.world.trace = [.start, .launch true, .newContext, .newPage, .waitForTimeout (.int 5),
        .closePage, .closeContext, .closeBrowser, .stop].map TraceEntry.call ∧
      shown.world.trace = [.start, .launch false, .newContext, .newPage, .waitForTimeout (.int 5),
        .closePage, .closeContext, .closeBrowser, .stop].map TraceEntry.call := by
  intro c plain shown
  have hAccepts : RunCommand.Accepts { c with headful := false } pauseFiles
      ⟨"", [.pause (.int 5)]⟩ {} :=
    ⟨_, _, _, _, document_pauseFiles, .both rfl rfl, .beside rfl, rfl, rfl⟩
  -- only the trace without a window is evaluated; the other one follows from the theorem
  have hPlain : plain.world.trace = [.start, .launch true, .newContext, .newPage,
      .waitForTimeout (.int 5), .closePage, .closeContext, .closeBrowser,
      .stop].map TraceEntry.call := by
    show (RunCommand.execute { c with headful := false } {} pauseFiles).world.trace = _
    rw [RunCommand.execute_of_accepts {} hAccepts, RunCommand.trace_run]
    decide +kernel
  obtain ⟨hResult, hPrinted, -, -, -, hTrace⟩ := execute_headful hAccepts {}
  refine ⟨hAccepts, hResult, hPrinted, hPlain, ?_⟩
  rw [hTrace, hPlain]
  rfl

end BeaconCheck
