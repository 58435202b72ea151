import BeaconCheck.Pattern.Basic
import BeaconCheck.Pattern.Width

/-!
# Tokens of a pattern

A pattern is read one token ahead: a token is a letter, or a backslash with the letter
behind it. A backslash at the very end is refused as soon as it is the token
ahead. The reader also keeps what the whole pattern accumulates: the switches, the
groups with their names, and the places where conditionals refer to groups.

Places are counted in letters from the start of the pattern.
-/

namespace BeaconCheck.Pattern

/-- A letter, or a backslash with the letter behind it. -/
inductive Token where
  | letter (l : Letter)
  | escape (l : Letter)
deriving DecidableEq, Repr, Inhabited

namespace Token

/-- A token that is a character. -/
@[match_pattern] abbrev char (c : Char) : Token := .letter (.char c)

/-- The letters of a token. -/
def text : Token → List Letter
  | .letter l => [l]
  | .escape l => ['\\', l]

/-- The number of letters. -/
def size (t : Token) : Nat := t.text.length

end Token

/-- A pattern while it is read. -/
structure Reader where
  /-- The token ahead, where there is one. -/
  ahead : Option Token := none
  /-- The text behind the token ahead. -/
  rest : List Letter
  /-- The place of the token ahead. -/
  place : Nat := 0
  /-- The switches that the pattern has turned on for all of itself. -/
  flags : Flags := {}
  /-- The widths of the groups, the whole pattern first; open groups have none yet. -/
  widths : List (Option Width) := [none]
  /-- The names of the groups. -/
  names : List (String × Nat) := []
  /-- The number of the first group inside the outermost lookbehind. -/
  lookbehind : Option Nat := none
  /-- The groups that conditionals ask for, with the place of the first. -/
  asked : List (Nat × Nat) := []

/-- Reading a pattern changes the reader and can fail. -/
abbrev ReadM := StateT Reader (Except PatternFailure)

namespace ReadM

/-- Fails at a place. -/
def failAt {α : Type} (place : Nat) (problem : PatternProblem) : ReadM α :=
  throw (.refused ⟨problem, some place⟩)

/-- Fails some letters before the token ahead. -/
def failBack {α : Type} (problem : PatternProblem) (back : Nat) : ReadM α := do
  failAt ((← get).place - back) problem

/-- Finds the token ahead of a place. -/
def lookAt (place : Nat) (text : List Letter) : ReadM Unit := do
  match text with
  | [] => modify fun r => { r with ahead := none, rest := [], place }
  | [.char '\\'] => failAt place .loneBackslash
  | .char '\\' :: l :: rest =>
    modify fun r => { r with ahead := some (.escape l), rest, place }
  | l :: rest => modify fun r => { r with ahead := some (.letter l), rest, place }

/-- Takes the token ahead. -/
def take? : ReadM (Option Token) := do
  let r ← get
  match r.ahead with
  | none => return none
  | some t =>
    lookAt (r.place + t.size) r.rest
    return some t

/-- Takes the token ahead if it is the character. -/
def accept (c : Char) : ReadM Bool := do
  if (← get).ahead = some (.char c) then
    let _ ← take?
    return true
  else return false

/-- The token ahead is a character of which `p` holds. -/
def isAhead (p : Char → Bool) : ReadM Bool := do
  match (← get).ahead with
  | some (.char c) => return p c
  | _ => return false

/-- Takes at most `limit` characters of which `p` holds. -/
def takeWhile (p : Char → Bool) : (limit : Nat) → ReadM (List Char)
  | 0 => return []
  | limit + 1 => do
    match (← get).ahead with
    | some (.char c) =>
      if p c then
        let _ ← take?
        return c :: (← takeWhile p limit)
      else return []
    | _ => return []

/-- An upper bound of the number of tokens that are left. -/
def left : ReadM Nat := do
  return (← get).rest.length + 1

/-- Takes the tokens up to the terminator, which has to come before `limit` tokens. -/
def takeUntil (terminator : Char) (kind : NameKind) :
    (limit : Nat) → (taken : List Letter) → ReadM (List Letter)
  | 0, _ => failBack (.unterminatedName terminator) 0
  | limit + 1, taken => do
    match ← take? with
    | none =>
      if taken.isEmpty then failBack (.missingName kind) 0
      else failBack (.unterminatedName terminator) taken.length
    | some t =>
      if t = .char terminator then
        if taken.isEmpty then failBack (.missingName kind) 1 else return taken
      else takeUntil terminator kind limit (taken ++ t.text)

/-- A name up to its terminator, which is taken, too. -/
def name (terminator : Char) (kind : NameKind) : ReadM (List Letter) := do
  takeUntil terminator kind ((← left) + 1) []

/-- The number of the next group. -/
def nextGroup : ReadM Nat := do
  return (← get).widths.length

/-- The group exists and is closed. -/
def isClosed (group : Nat) : ReadM Bool := do
  return (((← get).widths[group]?).bind id).isSome

/-- Opens a group; a name must be new. -/
def openGroup (name : Option String) : ReadM Nat := do
  let group ← nextGroup
  modify fun r => { r with widths := r.widths ++ [none] }
  match name with
  | none => return group
  | some name =>
    match (← get).names.lookup name with
    | some earlier => failBack (.redefinedGroup name group earlier) (name.length + 1)
    | none =>
      modify fun r => { r with names := r.names ++ [(name, group)] }
      return group

/-- Closes a group with what it holds. -/
def closeGroup (group : Nat) (body : List Node) : ReadM Unit :=
  modify fun r => { r with widths := r.widths.set group (some (widthOf r.widths body)) }

/-- Inside a lookbehind only groups from before it can be referred to. -/
def checkLookbehind (group : Nat) : ReadM Unit := do
  match (← get).lookbehind with
  | none => return ()
  | some first =>
    if !(← isClosed group) then failBack .openGroup 0
    if first ≤ group then failBack .groupOfLookbehind 0

end ReadM

end BeaconCheck.Pattern
