import BeaconCheck.Number.Numeral

/-!
# Arguments of a command

The arguments of a command are switches and operands. A switch can be shortened as long as
it stays the only one that starts so, and its value follows it or is attached with an
equals sign. Behind the mark `--` all arguments are operands.

* `Argument.ofText?` says what an argument is.
* `Arguments.read` reads the arguments of a command up to the first thing that ends it.
-/

namespace BeaconCheck

/-- What a switch does. -/
inductive SwitchRole where
  /-- Asks for help, which ends the program. -/
  | help
  /-- Is on if it is given. -/
  | flag
  /-- Has a text as its value. -/
  | text
  /-- Has an integer as its value. -/
  | integer
deriving DecidableEq, Repr, Inhabited

/-- A spelling of a switch. -/
structure Switch where
  spelling : String
  role : SwitchRole
deriving DecidableEq, Repr, Inhabited

/-- An argument. -/
inductive Argument where
  | operand (text : String)
  /-- A switch with the value that an equals sign attaches to it. -/
  | switch (s : Switch) (attached : Option String)
  /-- A switch of one letter with letters behind it that fit no switch. -/
  | refused
  /-- A switch that is not known. -/
  | unknown
  /-- The mark behind which all are operands. -/
  | mark
deriving DecidableEq, Repr, Inhabited

/-- Why reading arguments ends early. -/
inductive EarlyEnd where
  | help
  | misuse
deriving DecidableEq, Repr, Inhabited

/-- The exit code of a program that ends so. -/
def EarlyEnd.exitCode : EarlyEnd → Nat
  | .help => 0
  | .misuse => 2

/-- The switch has a value. -/
def Switch.hasValue (s : Switch) : Bool := s.role = .text || s.role = .integer

namespace Argument

/-- The text up to the first equals sign, and the text behind it if there is one. -/
def splitValue (text : List Char) : List Char × Option (List Char) :=
  match text.dropWhile (· != '=') with
  | [] => (text, none)
  | _ :: value => (text.takeWhile (· != '='), some value)

/-- A switch with an attached value. -/
def ofSwitch (s : Switch) (attached : Option (List Char)) : Argument :=
  .switch s (attached.map String.ofList)

/-- Digits at the end of a text, at least one. A line feed may follow. -/
def isDigits (text : List Char) : Bool :=
  match text.dropWhile isDigit with
  | [] => !text.isEmpty
  | ['\n'] => text != ['\n']
  | _ => false

/-- A minus sign and a number, with a point or without. -/
def isNegativeNumber : List Char → Bool
  | '-' :: rest =>
    isDigits rest ||
      match rest.dropWhile isDigit with
      | '.' :: fraction => isDigits fraction
      | _ => false
  | _ => false

/-- What can stand behind a letter that asks for help: the letter again, or any other one,
which no longer matters. -/
def lettersFit (letter : Char) : List Char → Bool
  | [] => true
  | '-' :: _ => false
  | [_] => true
  | c :: '=' :: _ => c != letter
  | c :: rest => c != letter || lettersFit letter rest

/-- A switch of one letter with a text behind it, which is its value if it has one. -/
def ofLetter (s : Switch) (letter : Char) (behind : List Char) : Argument :=
  if s.hasValue then ofSwitch s (some behind)
  else if lettersFit letter behind then .switch s none
  else .refused

/-- The switches that a text can stand for in a shortened form. -/
def shortened (switches : List Switch) (text : List Char) : List Argument :=
  match text with
  | '-' :: '-' :: _ =>
    let (start, value) := splitValue text
    (switches.filter fun s => start.isPrefixOf s.spelling.toList).map (ofSwitch · value)
  | dash :: letter :: behind =>
    switches.filterMap fun s =>
      if s.spelling.toList = [dash, letter] then some (ofLetter s letter behind)
      else if text.isPrefixOf s.spelling.toList then some (ofSwitch s none)
      else none
  | _ => []

/-- What an argument in front of the mark is; `none` if it can stand for several switches. -/
def ofText? (switches : List Switch) (argument : String) : Option Argument :=
  let text := argument.toList
  let exactly (spelling : List Char) := switches.find? fun s => s.spelling.toList = spelling
  if text.head? ≠ some '-' || text = ['-'] then some (.operand argument)
  else
    match exactly text, splitValue text with
    | some s, _ => some (.switch s none)
    | none, (start, value) =>
      match if value.isSome then exactly start else none with
      | some s => some (ofSwitch s value)
      | none =>
        match shortened switches text with
        | [a] => some a
        | _ :: _ :: _ => none
        | [] =>
          -- no switch looks like a number, or has a space in it
          if isNegativeNumber text || text.contains ' ' then some (.operand argument)
          else some .unknown

/-- What each of several arguments is. -/
def ofTexts? (switches : List Switch) : List String → Option (List Argument)
  | [] => some []
  | a :: rest =>
    if a = "--" then some (.mark :: rest.map .operand)
    else do
      let first ← ofText? switches a
      let others ← ofTexts? switches rest
      return first :: others

end Argument

/-- The arguments of a command. -/
structure Arguments where
  /-- The switches that were given, with their values; the value of a flag is empty. -/
  given : List (String × String) := []
  operand : Option String := none
  /-- Something is left over. -/
  surplus : Bool := false
deriving DecidableEq, Repr, Inhabited

namespace Arguments

/-- The value of a switch; the last one counts. -/
def value? (a : Arguments) (spelling : String) : Option String :=
  a.given.reverse.lookup spelling

/-- Something is left over. -/
def leave (a : Arguments) : Arguments := { a with surplus := true }

/-- A switch without a value is given. -/
def giveFlag (a : Arguments) (s : Switch) : Except EarlyEnd Arguments :=
  match s.role with
  | .help => .error .help
  | _ => .ok { a with given := a.given ++ [(s.spelling, "")] }

/-- A switch is given with a value. -/
def giveValue (a : Arguments) (s : Switch) (value : String) : Except EarlyEnd Arguments :=
  match s.role, Numeral.integer 10 value.toList with
  | .integer, .notAnInteger => .error .misuse
  | .integer, .tooLong _ => .error .misuse
  | _, _ => .ok { a with given := a.given ++ [(s.spelling, value)] }

/-- Goes through arguments from left to right. A command may take one operand. -/
def readFrom (takesOperand : Bool) (a : Arguments) : List Argument → Except EarlyEnd Arguments
  | [] => .ok a
  | .refused :: _ => .error .misuse
  | .unknown :: rest => readFrom takesOperand a.leave rest
  | .switch s (some value) :: rest =>
    if s.hasValue then do readFrom takesOperand (← a.giveValue s value) rest
    else .error .misuse
  | .switch s none :: .operand value :: rest =>
    if s.hasValue then do readFrom takesOperand (← a.giveValue s value) rest
    else do readFrom takesOperand (← a.giveFlag s) (.operand value :: rest)
  | .switch s none :: rest =>
    if s.hasValue then .error .misuse
    else do readFrom takesOperand (← a.giveFlag s) rest
  | .mark :: .operand value :: rest =>
    if takesOperand && a.operand.isNone then
      readFrom takesOperand { a with operand := some value } rest
    else .ok a.leave
  | .mark :: _ => .ok a.leave
  | .operand value :: .mark :: rest =>
    if takesOperand && a.operand.isNone then
      readFrom takesOperand { a with operand := some value } rest
    else .ok a.leave
  | .operand value :: rest =>
    if takesOperand && a.operand.isNone then
      readFrom takesOperand { a with operand := some value } rest
    else readFrom takesOperand a.leave rest

/-- Reads the arguments of a command. -/
def read (switches : List Switch) (takesOperand : Bool) (texts : List String) :
    Except EarlyEnd Arguments :=
  match Argument.ofTexts? switches texts with
  | none => .error .misuse
  | some arguments => readFrom takesOperand {} arguments

end Arguments

end BeaconCheck
