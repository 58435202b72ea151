import BeaconCheck.Pattern.Escape
import BeaconCheck.Text.Identifier
import BeaconCheck.Text.Word

/-!
# Reading patterns

A pattern is a choice between sequences of elements. `Pattern.read` reads a whole text
as one and gives the nodes with the switches that hold for all of it.

* `setItems` reads a character set, `bounds?` the counts of a repetition, `flagNames`
  the switches of a group.
* `alternatives`, `sequence`, `group` and the readers of the groups with a question mark
  call each other; every call takes a token or goes one step down, so the number of
  tokens bounds them.
-/

namespace BeaconCheck.Pattern

open ReadM

/-! ## Switches -/

namespace Flags

/-- The switch of a letter. -/
def ofLetter? : Char → Option Flags
  | 'i' => some { ignoreCase := true }
  | 'm' => some { multiline := true }
  | 's' => some { dotAll := true }
  | 'x' => some { verbose := true }
  | 'a' => some { ascii := true }
  | 'u' => some { unicode := true }
  | 't' => some { template := true }
  | _ => none

/-- The switches of either. -/
def or (a b : Flags) : Flags where
  ignoreCase := a.ignoreCase || b.ignoreCase
  multiline := a.multiline || b.multiline
  dotAll := a.dotAll || b.dotAll
  verbose := a.verbose || b.verbose
  ascii := a.ascii || b.ascii
  unicode := a.unicode || b.unicode
  template := a.template || b.template

/-- The switches of both. -/
def and (a b : Flags) : Flags where
  ignoreCase := a.ignoreCase && b.ignoreCase
  multiline := a.multiline && b.multiline
  dotAll := a.dotAll && b.dotAll
  verbose := a.verbose && b.verbose
  ascii := a.ascii && b.ascii
  unicode := a.unicode && b.unicode
  template := a.template && b.template

/-- One of the two switches that say which characters are letters and digits. -/
def isType (f : Flags) : Bool := f.ascii || f.unicode

end Flags

/-- A letter that is no switch where one or a mark was expected. -/
def unknownFlag {α : Type} (t : Token) (otherwise : PatternProblem) : ReadM α :=
  let letter :=
    match t with
    | .letter l => l.satisfies isLetter
    | .escape _ => false
  failBack (if letter then .unknownFlag else otherwise) t.size

/-- The switch of a token; `L` is never allowed. -/
def flagOf (t : Token) (otherwise : PatternProblem) : ReadM Flags := do
  match t with
  | .char 'L' => failBack .localeFlag 0
  | .char c =>
    match Flags.ofLetter? c with
    | some flag => return flag
    | none => unknownFlag t otherwise
  | _ => unknownFlag t otherwise

/-- The switches that are turned on, starting with a token that was taken, and the mark
that ends them. -/
def flagsOn : (limit : Nat) → (on : Flags) → Token → ReadM (Flags × Char)
  | 0, _, _ => failBack .missingFlagEnd 0
  | limit + 1, on, t => do
    let flag ← flagOf t .missingFlagEnd
    let on := on.or flag
    if flag.isType && on.ascii && on.unicode then failBack .incompatibleFlags 0
    match ← take? with
    | none => failBack .missingFlagEnd 0
    | some (.char ')') => return (on, ')')
    | some (.char ':') => return (on, ':')
    | some (.char '-') => return (on, '-')
    | some t => flagsOn limit on t

/-- A letter of a switch that can be turned off. -/
def flagOffOf (t : Token) (otherwise : PatternProblem) : ReadM Flags := do
  let flag ←
    match t with
    | .char 'L' => failBack .turnsOffType 0
    | .char c =>
      match Flags.ofLetter? c with
      | some flag => pure flag
      | none => unknownFlag t otherwise
    | _ => unknownFlag t otherwise
  if flag.isType then failBack .turnsOffType 0
  return flag

/-- The switches that are turned off, up to the colon. -/
def flagsOff : (limit : Nat) → (off : Flags) → (first : Bool) → Token → ReadM Flags
  | 0, _, _, _ => failBack .missingColon 0
  | limit + 1, off, first, t => do
    let flag ← flagOffOf t (if first then .missingFlag else .missingColon)
    let off := off.or flag
    match ← take? with
    | none => failBack .missingColon 0
    | some (.char ':') => return off
    | some t => flagsOff limit off false t

/-- The switches of a group, starting with a token that was taken: those turned on and
those turned off, or `none` if they were turned on for the whole pattern. -/
def flagNames (t : Token) : ReadM (Option (Flags × Flags)) := do
  let limit := (← left) + 1
  let (on, mark) ←
    if t = .char '-' then pure (({} : Flags), '-') else flagsOn limit {} t
  if mark = ')' then
    modify fun r => { r with flags := r.flags.or on }
    return none
  if on.template then failBack .turnsOnGlobal 1
  let off ←
    if mark = '-' then
      match ← take? with
      | none => failBack .missingFlag 0
      | some t => flagsOff limit {} true t
    else pure {}
  if off.template then failBack .turnsOffGlobal 1
  if on.and off ≠ {} then failBack .turnedOnAndOff 1
  return some (on, off)

/-! ## Character sets -/

/-- The item that a token writes inside a set. -/
def setItem : Token → ReadM SetItem
  | .letter l => return .char l.code
  | .escape l => setEscape l

/-- A token as it was written. -/
def Token.written (t : Token) : Text := .ofLetters t.text

/-- A range between two items that were taken as tokens. -/
def rangeOf (t u : Token) (low high : SetItem) : ReadM SetItem := do
  let problem := PatternProblem.badRange t.written u.written
  match low, high with
  | .char a, .char b =>
    if b < a then failBack problem (t.size + 1 + u.size) else return .range a b
  | _, _ => failBack problem (t.size + 1 + u.size)

/-- The items of a set that starts at a place, up to the closing bracket. A bracket in
the first position is an item. -/
def setItems (start : Nat) : (limit : Nat) → List SetItem → ReadM (List SetItem)
  | 0, _ => failAt start .unterminatedSet
  | limit + 1, items => do
    match ← take? with
    | none => failAt start .unterminatedSet
    | some t =>
      if t = .char ']' && !items.isEmpty then return items
      let low ← setItem t
      if !(← accept '-') then setItems start limit (items ++ [low])
      else
        match ← take? with
        | none => failAt start .unterminatedSet
        | some (.char ']') => return items ++ [low, .char '-'.toNat]
        | some u =>
          let high ← setItem u
          setItems start limit (items ++ [← rangeOf t u low high])

/-- A character set whose opening bracket was taken. -/
def characterSet : ReadM Node := do
  let start := (← get).place - 1
  let negated ← accept '^'
  let items ← setItems start ((← left) + 1) []
  return .set negated items

/-! ## Repetitions -/

/-- A count of a repetition. -/
def countOf (digits : List Char) : ReadM Nat := do
  if 4300 < digits.length then throw (.crash (.tooLongToRead digits.length))
  let n := numberOf 10 digits
  if Width.limit ≤ n then throw (.crash .repetitionTooLarge)
  return n

/-- The counts of a repetition whose opening brace was taken; `none` where the brace
stands for itself, and then nothing more is taken. -/
def bounds? : ReadM (Option (Nat × Option Nat)) := do
  if ← isAhead (· == '\x7d') then return none
  let start ← get
  let limit ← left
  let low ← takeWhile (isAsciiDigit 10) limit
  let high ← if ← accept ',' then takeWhile (isAsciiDigit 10) limit else pure low
  if !(← accept '\x7d') then
    -- no repetition after all: what was taken is given back
    set start
    return none
  let least ← if low.isEmpty then pure 0 else countOf low
  if high.isEmpty then return some (least, none)
  let most ← countOf high
  if most < least then failAt start.place .minAboveMax
  return some (least, some most)

/-- The mark behind a repetition that says how greedy it is. -/
def greed : ReadM Greed := do
  if ← accept '?' then return .lazy
  if ← accept '+' then return .possessive
  return .greedy

/-- Repeats the last of the nodes read so far, which are in reverse order. The sign of
the repetition starts at a place. -/
def repeatLast (place least : Nat) (most : Option Nat) :
    List Node → ReadM (List Node)
  | [] => failAt place .nothingToRepeat
  | node :: before => do
    match node with
    | .anchor _ => failAt place .nothingToRepeat
    | .loop .. => failAt place .multipleRepeat
    | _ => pure ()
    return .loop least most (← greed) [node] :: before

/-! ## Groups -/

/-- The letters are a name that a group can have, which holds no half of a surrogate
pair. -/
def groupName? (name : List Letter) : Option String :=
  if isIdentifier (name.map Letter.glyph) then (Text.ofLetters name).string? else none

/-- A name of a new group, up to its terminator. -/
def newName : ReadM String := do
  let name ← name '>' .group
  match groupName? name with
  | some name => return name
  | none => failBack (.badGroupName (.ofLetters name)) (name.length + 1)

/-- The group of a name. -/
def groupNamed (name : String) : ReadM Nat := do
  match (← get).names.lookup name with
  | some group => return group
  | none => failBack (.unknownGroup name) (name.length + 1)

/-- A reference by name, up to its closing parenthesis. -/
def namedReference : ReadM Node := do
  let name ← name ')' .group
  let some known := groupName? name
    | failBack (.badGroupName (.ofLetters name)) (name.length + 1)
  let group ← groupNamed known
  if !(← isClosed group) then failBack .openGroup (name.length + 1)
  checkLookbehind group
  return .backref group

/-- The group that a conditional asks for, by name or number. -/
def condition : ReadM Nat := do
  let name ← name ')' .group
  let group ←
    match groupName? name with
    | some name => groupNamed name
    | none =>
      match Numeral.integer 10 (name.map Letter.glyph) with
      | .value (.ofNat group) =>
        if group = 0 then failBack .badGroupNumber (name.length + 1)
        else if 1073741823 ≤ group then
          failBack (.invalidReference group) (name.length + 1)
        else do
          -- the group may come later, so whether there is one is looked at in the end
          if ((← get).asked.lookup group).isNone then
            modify fun r =>
              { r with asked := r.asked ++ [(group, r.place - name.length - 1)] }
          pure group
      | _ => failBack (.badGroupName (.ofLetters name)) (name.length + 1)
  checkLookbehind group
  return group

/-- Takes the closing parenthesis of a group that starts at a place. -/
def close (start : Nat) : ReadM Unit := do
  if !(← accept ')') then failAt start .unterminatedGroup

/-- Takes the rest of a comment that starts at a place. -/
def comment (start : Nat) : (limit : Nat) → ReadM Unit
  | 0 => failAt start .unterminatedComment
  | limit + 1 => do
    match ← take? with
    | none => failAt start .unterminatedComment
    | some t => if t = .char ')' then return () else comment start limit

/-- Takes the rest of a line, which is a comment in a verbose pattern. -/
def lineComment : (limit : Nat) → ReadM Unit
  | 0 => return ()
  | limit + 1 => do
    match ← take? with
    | none => return ()
    | some t => if t = .char '\n' then return () else lineComment limit

/-- Blank space that a verbose pattern ignores. -/
def isIgnored (c : Char) : Bool :=
  c == ' ' || c == '\t' || c == '\n' || c == '\r' || c == '\x0b' || c == '\x0c'

/-- Takes the token that says what a group with a question mark is. -/
def groupKind : ReadM Token := do
  match ← take? with
  | some t => return t
  | none => failBack .unexpectedEnd 0

/-- Refuses a kind of group. -/
def unknownExtension {α : Type} (before : List Letter) (t : Token) : ReadM α :=
  failBack (.unknownExtension (.ofLetters (before ++ t.text))) (t.size + 1 + before.length)

/-- What has been read of a sequence: its nodes in reverse order, and whether blank
space is ignored from here on. -/
structure Progress where
  nodes : List Node := []
  verbose : Bool

mutual

/-- Reads a choice between sequences. At the top of the pattern, the switches that a
sequence turned on hold for the sequences after it. -/
def alternatives : Nat → (top verbose : Bool) → ReadM (List Node)
  | 0, _, _ => failBack .unexpectedEnd 0
  | fuel + 1, top, verbose => do
    let first ← sequence fuel top { verbose }
    if ← accept '|' then
      let flags := (← get).flags
      let verbose := if top then flags.verbose else verbose
      let more ← moreAlternatives fuel top verbose
      return [.branch (first :: more)]
    else return first

/-- Reads the sequences behind the first bar. -/
def moreAlternatives : Nat → (top verbose : Bool) → ReadM (List (List Node))
  | 0, _, _ => failBack .unexpectedEnd 0
  | fuel + 1, top, verbose => do
    let next ← sequence fuel false { verbose }
    if ← accept '|' then
      let flags := (← get).flags
      let verbose := if top then flags.verbose else verbose
      let more ← moreAlternatives fuel top verbose
      return next :: more
    else return [next]

/-- Reads elements up to a bar, a closing parenthesis or the end. In the `first`
sequence of the pattern, switches may be turned on for all of it. -/
def sequence : Nat → (first : Bool) → Progress → ReadM (List Node)
  | 0, _, _ => failBack .unexpectedEnd 0
  | fuel + 1, first, p => do
    if ← isAhead (fun c => c == '|' || c == ')') then return p.nodes.reverse
    match ← take? with
    | none => return p.nodes.reverse
    | some t =>
      let p ← element fuel first p t
      sequence fuel first p

/-- Reads the element that starts with a token. -/
def element : Nat → (first : Bool) → Progress → Token → ReadM Progress
  | 0, _, _, _ => failBack .unexpectedEnd 0
  | _, _, p, .escape l => do
    return { p with nodes := (← nodeEscape l) :: p.nodes }
  | _, _, p, .letter (.half place) =>
    return { p with nodes := .char (Letter.half place).code :: p.nodes }
  | fuel + 1, first, p, .char c => do
    if p.verbose && isIgnored c then return p
    if p.verbose && c = '#' then
      lineComment ((← left) + 1)
      return p
    let place := (← get).place - 1
    match c with
    | '.' => return { p with nodes := .any :: p.nodes }
    | '^' => return { p with nodes := .anchor .lineStart :: p.nodes }
    | '$' => return { p with nodes := .anchor .lineEnd :: p.nodes }
    | '[' => return { p with nodes := (← characterSet) :: p.nodes }
    | '(' =>
      if ← accept '?' then special fuel first p place
      else return { p with nodes := (← capture fuel p.verbose place none) :: p.nodes }
    | '*' => return { p with nodes := ← repeatLast place 0 none p.nodes }
    | '+' => return { p with nodes := ← repeatLast place 1 none p.nodes }
    | '?' => return { p with nodes := ← repeatLast place 0 (some 1) p.nodes }
    | '\x7b' =>
      match ← bounds? with
      | none => return { p with nodes := .char c.toNat :: p.nodes }
      | some (least, most) =>
        return { p with nodes := ← repeatLast place least most p.nodes }
    | _ => return { p with nodes := .char c.toNat :: p.nodes }

/-- Reads the rest of a group that can be referred to. -/
def capture : Nat → (verbose : Bool) → (start : Nat) → Option String → ReadM Node
  | 0, _, _, _ => failBack .unexpectedEnd 0
  | fuel + 1, verbose, start, name => do
    let group ← openGroup name
    let body ← alternatives fuel false verbose
    close start
    closeGroup group body
    return .group (some group) {} {} body

/-- Reads the rest of a group that starts with a question mark. -/
def special : Nat → (first : Bool) → Progress → (start : Nat) → ReadM Progress
  | 0, _, _, _ => failBack .unexpectedEnd 0
  | fuel + 1, first, p, start => do
    let add (node : Node) : Progress := { p with nodes := node :: p.nodes }
    let t ← groupKind
    match t with
    | .char 'P' =>
      if ← accept '<' then
        return add (← capture fuel p.verbose start (some (← newName)))
      else if ← accept '=' then return add (← namedReference)
      else unknownExtension ['P'] (← groupKind)
    | .char ':' => return add (← switched fuel p.verbose start {} {})
    | .char '#' =>
      comment start ((← left) + 1)
      return p
    | .char '=' => return add (← look fuel p.verbose start true false)
    | .char '!' => return add (← look fuel p.verbose start true true)
    | .char '<' =>
      match ← groupKind with
      | .char '=' => return add (← look fuel p.verbose start false false)
      | .char '!' => return add (← look fuel p.verbose start false true)
      | t => unknownExtension ['<'] t
    | .char '(' => return add (← conditional fuel p.verbose start)
    | .char '>' =>
      let body ← alternatives fuel false p.verbose
      close start
      return add (.atomic body)
    | .char c =>
      if c = '-' || c = 'L' || (Flags.ofLetter? c).isSome then
        match ← flagNames t with
        | some (on, off) => return add (← switched fuel p.verbose start on off)
        | none =>
          -- switches for the whole pattern count only in front of everything else
          if !first || !p.nodes.isEmpty then failAt start .flagsNotAtStart
          return { p with verbose := (← get).flags.verbose }
      else unknownExtension [] t
    | _ => unknownExtension [] t

/-- Reads the rest of a group that cannot be referred to and may change switches. -/
def switched : Nat → (verbose : Bool) → (start : Nat) → (on off : Flags) → ReadM Node
  | 0, _, _, _, _ => failBack .unexpectedEnd 0
  | fuel + 1, verbose, start, on, off => do
    let body ← alternatives fuel false ((verbose || on.verbose) && !off.verbose)
    close start
    return .group none on off body

/-- Reads the rest of a lookahead or lookbehind. -/
def look : Nat → (verbose : Bool) → (start : Nat) → (ahead negated : Bool) → ReadM Node
  | 0, _, _, _, _ => failBack .unexpectedEnd 0
  | fuel + 1, verbose, start, ahead, negated => do
    -- the outermost lookbehind says which groups can be referred to inside
    let outer := (← get).lookbehind
    if !ahead && outer.isNone then
      let group ← nextGroup
      modify fun r => { r with lookbehind := some group }
    let body ← alternatives fuel false verbose
    if !ahead && outer.isNone then modify fun r => { r with lookbehind := none }
    close start
    return .look ahead negated body

/-- Reads the rest of a choice by whether a group took part. -/
def conditional : Nat → (verbose : Bool) → (start : Nat) → ReadM Node
  | 0, _, _ => failBack .unexpectedEnd 0
  | fuel + 1, verbose, start => do
    let group ← condition
    let yes ← sequence fuel false { verbose }
    let no ←
      if ← accept '|' then
        let body ← sequence fuel false { verbose }
        if ← isAhead (· == '|') then failBack .tooManyBranches 0
        pure (some body)
      else pure none
    close start
    return .conditional group yes no

end

/-! ## Whole patterns -/

/-- Reads a pattern that takes the whole text. -/
def whole (fuel : Nat) : ReadM (List Node) := do
  let text := (← get).rest
  lookAt 0 text
  let nodes ← alternatives fuel true false
  let r ← get
  if r.flags.ascii && r.flags.unicode then throw (.crash .incompatiblePatternFlags)
  if r.ahead.isSome then failBack .unbalancedParenthesis 0
  match r.asked.find? fun p => r.widths.length ≤ p.1 with
  | some (group, place) => failAt place (.invalidReference group)
  | none => return nodes

/-- Reads a pattern. -/
def read (text : List Letter) : Except PatternFailure Pattern := do
  let (nodes, r) ← (whole (5 * text.length + 10)).run { rest := text }
  return { nodes, flags := r.flags, widths := r.widths }

end BeaconCheck.Pattern
