import BeaconCheck.CommandLine.Execution
import BeaconCheck.Endpoint

/-!
# The program

Reads the files that a command names, executes it on an empty page, prints and writes what
it leaves behind, and shows the log. A served endpoint answers the bodies that come as
lines of standard input.
-/

namespace BeaconCheck.Program

/-- How the arguments are to be given. -/
def usageText : String :=
  "usage: beaconcheck [-h] [--verbose] run [--options FILE] [--headful] [--output FILE] TEST\n" ++
    "       beaconcheck [-h] [--verbose] serve [--host HOST] [--port PORT]"

/-- The file at a path, if it can be read. -/
def readFile (tree : FileTree) (path : String) : IO (List (List String × List UInt8)) := do
  try
    let bytes ← IO.FS.readBinFile path
    return [(tree.place path, bytes.toList)]
  catch _ => return []

/-- There is a folder at a path. -/
def isFolder (path : String) : IO Bool := do
  try
    discard (IO.FS.realPath (path ++ "/."))
    return true
  catch _ => return false

/-- The folders on the way along a path. -/
def foldersOn (tree : FileTree) (path : String) : IO (List (List String)) := do
  let parts := FileTree.parts path
  let starts := (List.range parts.length).map fun n => "/".intercalate (parts.take n)
  return ((← starts.filterM isFolder).map tree.place)

/-- The files and folders as far as a command can see them. -/
def readFiles (c : RunCommand) : IO FileTree := do
  let here ← IO.currentDir
  let tree : FileTree := { here := FileTree.place {} s!"{here}" }
  let paths := c.testFile :: c.optionsFile.toList ++ c.outputFile.toList
  let files ← paths.mapM (readFile tree)
  let folders ← paths.mapM (foldersOn tree)
  return { tree with files := files.flatten, folders := folders.flatten }

/-- Shows records of the log. -/
def showLog (verbose : Bool) (records : List LogRecord) : IO Unit := do
  for r in LogRecord.atLeast (if verbose then .debug else .info) records do
    IO.eprintln s!"{r.level.name} {r.message.shown}"

/-- Prints and writes what an execution leaves behind, and gives the exit code. -/
def finish (verbose : Bool) (before : FileTree) (e : Execution) : IO UInt32 := do
  showLog verbose e.world.log
  IO.print e.printed
  for (path, bytes) in e.files.files do
    if before.files.lookup path != some bytes then
      IO.FS.writeBinFile ("/" ++ "/".intercalate path) bytes.toByteArray
  match e.result with
  | .ok code => return code.toUInt32
  | .error f =>
    IO.eprintln s!"{f.className}: {f.message.shown}"
    return 1

/-- Answers request bodies until there are no more. -/
partial def serve (verbose : Bool) (input : IO.FS.Stream) : IO Unit := do
  let line ← input.getLine
  if line.isEmpty then return ()
  let (response, w) := Endpoint.respond {} { body := line.toUTF8.toList }
  showLog verbose w.log
  IO.println (toString response.status ++ " " ++ response.body.getD "")
  serve verbose input

/-- Does what the arguments ask for. -/
def start (arguments : List String) : IO UInt32 := do
  match Invocation.ofArguments arguments with
  | .ok { command := .run c, verbose } =>
    let files ← readFiles c
    finish verbose files (c.execute {} files)
  | .ok { command := .serve .., verbose } =>
    serve verbose (← IO.getStdin)
    return 0
  | .error e =>
    if e.exitCode = 0 then IO.println usageText else IO.eprintln usageText
    return e.exitCode.toUInt32

end BeaconCheck.Program

/-- Runs the program. -/
def main (arguments : List String) : IO UInt32 := BeaconCheck.Program.start arguments
