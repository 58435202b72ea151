import BeaconCheck.CommandLine.Command
import BeaconCheck.CommandLine.FileTree
import BeaconCheck.Definition.Reader
import BeaconCheck.Run.Session

/-!
# Executing commands

Running a test reads the test and its options from files, runs it, and prints the report.
It ends with 0 if every assertion passes, with 1 if one does not or the run is stopped,
and with 2 if the files are refused, before a browser is started. A failure that is none
of the run's own escapes. So does a report that cannot be printed: the standard output
takes UTF-8 only.

* `RunCommand.request` reads what is to be run.
* `RunCommand.execute` runs it and says what is left behind.
-/

namespace BeaconCheck

/-- What the execution of a command leaves behind. -/
structure Execution where
  /-- The exit code, or what escaped. -/
  result : Except Failure Nat
  printed : String := ""
  files : FileTree
  world : World := {}
  /-- The address and the port that are served. -/
  served : Option (String × Int) := none

/-- The document in a file. -/
def FileTree.document (files : FileTree) (path : String) : Except InputFailure Value :=
  if path.contains '\x00' then .error (.crash .nullInPath)
  else
    match files.read path with
    | .error _ => .error (.refused (.unreadable path))
    | .ok bytes =>
      match Yaml.Document.ofBytes (files.supply bytes) bytes with
      | .error .unreadable => .error (.refused (.unreadable path))
      | .error (.crash c) => .error (.crash c)
      | .ok v => .ok v

namespace RunCommand

/-- The test of a document and the options beside it. A document without the key is a test
by itself. -/
def split (document : Value) : Value × Value :=
  match document.entries? with
  | none => (document, .null)
  | some entries =>
    match Value.field? entries "test" with
    | none => (document, .null)
    | some test => (test, Value.field entries "options")

/-- Options under which the browser has a window. What is no options stays what it is. -/
def withWindow (options : Value) : Value :=
  if options.isNull then .object [(.text "headless", .bool false)]
  else
    match options.entries? with
    | none => options
    | some entries => .object (Entries.insert entries (.text "headless") (.bool false))

/-- The test and the options as they are in a document, or the options of another one. -/
def parse (document : Value) (others : Option Value) (headful : Bool) :
    Except InputFailure (TestDefinition × RunOptions) := do
  let (test, beside) := split document
  let options := others.getD beside
  let t ← TestDefinition.ofValue test
  let o ← RunOptions.ofValue (if headful then withWindow options else options)
  return (t, o)

/-- Reads the test and the options from files. -/
def request (c : RunCommand) (files : FileTree) :
    Except InputFailure (TestDefinition × RunOptions) := do
  let document ← files.document c.testFile
  let others ← c.optionsFile.mapM files.document
  parse document others c.headful

/-- The exit code of a test that was run. -/
def exitCode (results : List TestResult) : Nat :=
  if results.all fun r => r.outcome == .pass then 0 else 1

/-- The printed report. -/
def reportText (results : List TestResult) : Except Crash String := do
  let report ← Json.write .page (TestResult.report results)
  let printed ← (Utf8.writable report).mapError .unencodable
  return printed ++ "\n"

/-- Prints the report of a test, and writes it to a file if one is asked for. -/
def publish (c : RunCommand) (files : FileTree) (w : World) (results : List TestResult) :
    Execution :=
  match reportText results with
  | .error e => { result := .error (.crash e), files, world := w }
  | .ok printed =>
    match c.outputFile with
    | none => { result := .ok (exitCode results), printed, files, world := w }
    | some path =>
      match files.write path (Utf8.encode printed.toList) with
      | .error e => { result := .error (.crash e), printed, files, world := w }
      | .ok files =>
        { result := .ok (exitCode results), printed, files,
          world := w.addLog [⟨.info, s!"Results written to {path}"⟩] }

/-- Runs a test on a page. -/
def run (c : RunCommand) (page : Page) (files : FileTree) (t : TestDefinition)
    (o : RunOptions) : Execution :=
  match (runTest o t).run (World.before page o) with
  | (.ok results, w) => c.publish files w results
  | (.error f, w) =>
    if f.kind?.isSome then
      { result := .ok 1, files, world := w.addLog [⟨.error, "Run failed: " ++ f.message⟩] }
    else { result := .error f, files, world := w }

/-- Executes the command on a page. -/
def execute (c : RunCommand) (page : Page) (files : FileTree) : Execution :=
  match c.request files with
  | .ok (t, o) => c.run page files t o
  | .error (.refused e) =>
    { result := .ok 2, files, world := World.addLog {} [⟨.error, e.message⟩] }
  | .error (.crash e) => { result := .error (.crash e), files }

end RunCommand

/-- Executes a command on a page. -/
def Command.execute (page : Page) (files : FileTree) : Command → Execution
  | .run c => c.execute page files
  | .serve host port => { result := .ok 0, files, served := some (host, port) }

end BeaconCheck
