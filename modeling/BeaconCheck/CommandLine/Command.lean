import BeaconCheck.CommandLine.Argument
import BeaconCheck.Definition.Basic

/-!
# Commands

The program has a command that runs a test and one that serves the endpoint.
`Invocation.ofArguments` reads the arguments of the program.
-/

namespace BeaconCheck

/-- Running the test of a file. -/
structure RunCommand where
  testFile : String
  /-- A file with the options, which replace those beside the test. -/
  optionsFile : Option String := none
  /-- The browser has a window, whatever the options say. -/
  headful : Bool := false
  /-- A file that the report is written to as well. -/
  outputFile : Option String := none
deriving DecidableEq, Repr, Inhabited

/-- What the program is asked to do. -/
inductive Command where
  | run (c : RunCommand)
  | serve (host : String) (port : Int)
deriving DecidableEq, Repr, Inhabited

/-- A command, and whether the log is to be shown in full. -/
structure Invocation where
  command : Command
  verbose : Bool := false
deriving DecidableEq, Repr, Inhabited

namespace Invocation

/-- The spellings of the switch for help, which every command has. -/
def helpSwitches : List Switch := [⟨"-h", .help⟩, ⟨"--help", .help⟩]

/-- The switches in front of the command. -/
def generalSwitches : List Switch := helpSwitches ++ [⟨"--verbose", .flag⟩]

/-- The switches of running a test. -/
def runSwitches : List Switch :=
  helpSwitches ++ [⟨"--options", .text⟩, ⟨"--headful", .flag⟩, ⟨"--output", .text⟩]

/-- The switches of serving the endpoint. -/
def serveSwitches : List Switch := helpSwitches ++ [⟨"--host", .text⟩, ⟨"--port", .integer⟩]

/-- A path that was given; an empty one counts as none. -/
def pathOf (a : Arguments) (spelling : String) : Option String :=
  (a.value? spelling).filter (· != "")

/-- The integer that the value of a switch spells. -/
def integerOf (a : Arguments) (spelling : String) : Option Int :=
  match (a.value? spelling).map fun value => Numeral.integer 10 value.toList with
  | some (.value i) => some i
  | _ => none

/-- The arguments of a command that is to run a test. -/
def runOf (a : Arguments) : Option Command :=
  a.operand.map fun testFile => .run {
    testFile
    optionsFile := pathOf a "--options"
    headful := (a.value? "--headful").isSome
    outputFile := pathOf a "--output" }

/-- The arguments of a command that is to serve the endpoint. -/
def serveOf (a : Arguments) : Option Command :=
  some (.serve ((a.value? "--host").getD Default.host)
    ((integerOf a "--port").getD Default.port))

/-- The command of a name with its arguments, and whether something is left over. -/
def commandOf (name : String) (texts : List String) : Except EarlyEnd (Command × Bool) := do
  let (a, command) ←
    match name with
    | "run" => do
      let a ← Arguments.read runSwitches true texts
      pure (a, runOf a)
    | "serve" => do
      let a ← Arguments.read serveSwitches false texts
      pure (a, serveOf a)
    | _ => throw .misuse
  match command with
  | none => throw .misuse
  | some c => return (c, a.surplus)

/-- The argument is neither an operand nor the mark. -/
def isSwitch : Argument → Bool
  | .operand _ | .mark => false
  | _ => true

/-- Reads the arguments of the program. Those from the first operand on are the command's
own; that something was left over only counts when they have been read. -/
def ofArguments (texts : List String) : Except EarlyEnd Invocation := do
  let some arguments := Argument.ofTexts? generalSwitches texts | throw .misuse
  let before := arguments.takeWhile isSwitch
  let general ← Arguments.readFrom false {} before
  match texts.drop before.length with
  | [] => throw .misuse
  | name :: rest =>
    let (command, surplus) ← commandOf name rest
    if general.surplus || surplus then throw .misuse
    return { command, verbose := (general.value? "--verbose").isSome }

end Invocation

end BeaconCheck
