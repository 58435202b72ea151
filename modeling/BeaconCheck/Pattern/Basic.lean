import BeaconCheck.Crash

/-!
# Patterns

The syntax of the pattern language of request assertions: a sequence of nodes, each of
which matches a stretch of text. Letters are kept as code points, because a pattern may
hold or name a code point that no text it is looked for in can hold.

`PatternProblem` lists what can be wrong with a pattern, and `PatternError.message`
words it, with the place where it was noticed.
-/

namespace BeaconCheck

namespace Pattern

/-- Classes of characters that have an escape of their own. -/
inductive CharClass where
  | digit
  | blank
  | word
deriving DecidableEq, Repr, Inhabited

/-- A member of a character set. -/
inductive SetItem where
  | char (point : Nat)
  | range (low high : Nat)
  | cls (c : CharClass) (negated : Bool)
deriving DecidableEq, Repr, Inhabited

/-- Places in a text that match without taking characters. -/
inductive Anchor where
  | lineStart
  | lineEnd
  | textStart
  | textEnd
  | boundary
  | nonBoundary
deriving DecidableEq, Repr, Inhabited

/-- How a repetition chooses the number of its iterations: as many as possible, as few
as possible, or as many as possible without giving any back. -/
inductive Greed where
  | greedy
  | lazy
  | possessive
deriving DecidableEq, Repr, Inhabited

/-- Switches that a pattern can turn on for itself or for a group. -/
structure Flags where
  ignoreCase : Bool := false
  multiline : Bool := false
  dotAll : Bool := false
  verbose : Bool := false
  ascii : Bool := false
  unicode : Bool := false
  template : Bool := false
deriving DecidableEq, Repr, Inhabited

/-- One element of a pattern. -/
inductive Node where
  | char (point : Nat)
  | any
  | set (negated : Bool) (items : List SetItem)
  | anchor (a : Anchor)
  | branch (alternatives : List (List Node))
  | loop (min : Nat) (max : Option Nat) (greed : Greed) (body : List Node)
  | group (index : Option Nat) (on off : Flags) (body : List Node)
  | atomic (body : List Node)
  | look (ahead negated : Bool) (body : List Node)
  | backref (group : Nat)
  | conditional (group : Nat) (yes : List Node) (no : Option (List Node))
deriving Repr, Inhabited

/-- What the message about an incomplete or wrong group name calls it. -/
inductive NameKind where
  | group
  | character
deriving DecidableEq, Repr, Inhabited

/-- What can be wrong with a pattern. -/
inductive PatternProblem where
  | loneBackslash
  | incompleteEscape (text : String)
  | octalTooLarge (text : String)
  | badEscape (text : String)
  | missingBrace
  | unknownCharacter (name : Text)
  | missingName (kind : NameKind)
  | unterminatedName (terminator : Char)
  | badGroupName (name : Text)
  | unknownGroup (name : String)
  | redefinedGroup (name : String) (group earlier : Nat)
  | openGroup
  | groupOfLookbehind
  | invalidReference (group : Nat)
  | badGroupNumber
  | unterminatedSet
  | badRange (low high : Text)
  | minAboveMax
  | nothingToRepeat
  | multipleRepeat
  | unexpectedEnd
  | unknownExtension (text : Text)
  | unterminatedComment
  | unterminatedGroup
  | tooManyBranches
  | flagsNotAtStart
  | localeFlag
  | incompatibleFlags
  | missingFlagEnd
  | unknownFlag
  | missingFlag
  | missingColon
  | turnsOffType
  | turnsOnGlobal
  | turnsOffGlobal
  | turnedOnAndOff
  | unbalancedParenthesis
  | variableLookbehind
  | templateRepeat (greed : Greed)
deriving DecidableEq, Repr, Inhabited

def NameKind.text : NameKind → String
  | .group => "group name"
  | .character => "character name"

def PatternProblem.message : PatternProblem → Text
  | .loneBackslash => "bad escape (end of pattern)"
  | .incompleteEscape text => s!"incomplete escape {text}"
  | .octalTooLarge text => s!"octal escape value {text} outside of range 0-0o377"
  | .badEscape text => s!"bad escape {text}"
  | .missingBrace => "missing \x7b"
  | .unknownCharacter name => s!"undefined character name {quoted name}"
  | .missingName kind => s!"missing {kind.text}"
  | .unterminatedName terminator => s!"missing {terminator}, unterminated name"
  | .badGroupName name => s!"bad character in group name {quoted name}"
  | .unknownGroup name => s!"unknown group name {quoted name}"
  | .redefinedGroup name group earlier =>
    s!"redefinition of group name {quoted name} as group {group}; was group {earlier}"
  | .openGroup => "cannot refer to an open group"
  | .groupOfLookbehind =>
    "cannot refer to group defined in the same lookbehind subpattern"
  | .invalidReference group => s!"invalid group reference {group}"
  | .badGroupNumber => "bad group number"
  | .unterminatedSet => "unterminated character set"
  | .badRange low high => "bad character range " ++ low ++ "-" ++ high
  | .minAboveMax => "min repeat greater than max repeat"
  | .nothingToRepeat => "nothing to repeat"
  | .multipleRepeat => "multiple repeat"
  | .unexpectedEnd => "unexpected end of pattern"
  | .unknownExtension text => "unknown extension ?" ++ text
  | .unterminatedComment => "missing ), unterminated comment"
  | .unterminatedGroup => "missing ), unterminated subpattern"
  | .tooManyBranches => "conditional backref with more than two branches"
  | .flagsNotAtStart => "global flags not at the start of the expression"
  | .localeFlag => "bad inline flags: cannot use 'L' flag with a str pattern"
  | .incompatibleFlags =>
    "bad inline flags: flags 'a', 'u' and 'L' are incompatible"
  | .missingFlagEnd => "missing -, : or )"
  | .unknownFlag => "unknown flag"
  | .missingFlag => "missing flag"
  | .missingColon => "missing :"
  | .turnsOffType => "bad inline flags: cannot turn off flags 'a', 'u' and 'L'"
  | .turnsOnGlobal => "bad inline flags: cannot turn on global flag"
  | .turnsOffGlobal => "bad inline flags: cannot turn off global flag"
  | .turnedOnAndOff => "bad inline flags: flag turned on and off"
  | .unbalancedParenthesis => "unbalanced parenthesis"
  | .variableLookbehind => "look-behind requires fixed-width pattern"
  | .templateRepeat .greedy => "internal: unsupported template operator MAX_REPEAT"
  | .templateRepeat .lazy => "internal: unsupported template operator MIN_REPEAT"
  | .templateRepeat .possessive =>
    "internal: unsupported template operator POSSESSIVE_REPEAT"

end Pattern

/-- Why a pattern is refused, and where in it this was noticed. -/
structure PatternError where
  problem : Pattern.PatternProblem
  position : Option Nat
deriving DecidableEq, Repr, Inhabited

/-- The text of a refusal. In a pattern of several lines the place is also given as a
line and a column. -/
def PatternError.message (pattern : Text) (e : PatternError) : Text :=
  match e.position with
  | none => e.problem.message
  | some position =>
    let place := e.problem.message ++ s!" at position {position}"
    let text := pattern.letters
    let lineEnd : Letter := '\n'
    if text.contains lineEnd then
      let front := text.take position
      let line := front.count lineEnd + 1
      let column := (front.reverse.takeWhile (· != lineEnd)).length + 1
      place ++ s!" (line {line}, column {column})"
    else place

/-- What keeps a pattern from being compiled: it is refused, or reading it crashes. -/
inductive PatternFailure where
  | refused (e : PatternError)
  | crash (c : Crash)
deriving DecidableEq, Repr, Inhabited

end BeaconCheck
