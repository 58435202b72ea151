import BeaconCheck.Pattern.Reader
import BeaconCheck.Text.Blank

/-!
# Finding patterns in text

A pattern is found in a text if it matches somewhere in it. Matching tries the choices
of a pattern in their order and goes back to the last one when the rest does not match:
`Node.run` takes what has to follow as a function and calls it with every way to match
the node, until one succeeds.

* `Matcher.matchesPoint` and its kin say which characters an element takes.
* `Step.greedy`, `Step.lazy` and `Step.possessive` iterate a step. An iteration that takes
  nothing is the last one.
* `Pattern.compile` refuses what can be read but not matched, `Pattern.occursIn`
  searches.
-/

namespace BeaconCheck.Pattern

/-! ## Characters -/

/-- The switches that matter for matching characters. -/
structure Mode where
  ignoreCase : Bool
  multiline : Bool
  dotAll : Bool
  ascii : Bool
deriving DecidableEq, Repr, Inhabited

namespace Mode

/-- The mode of the switches of a whole pattern. -/
def ofFlags (f : Flags) : Mode := ⟨f.ignoreCase, f.multiline, f.dotAll, f.ascii⟩

/-- The mode inside a group that turns switches on and off. -/
def switch (m : Mode) (on off : Flags) : Mode where
  ignoreCase := (m.ignoreCase || on.ignoreCase) && !off.ignoreCase
  multiline := (m.multiline || on.multiline) && !off.multiline
  dotAll := (m.dotAll || on.dotAll) && !off.dotAll
  ascii := if on.isType then on.ascii else m.ascii

/-- The character is in the class. -/
def inClass (m : Mode) (cls : CharClass) (c : Char) : Bool :=
  match cls with
  | .digit => if m.ascii then isAsciiDigit 10 c else isDigit c
  | .blank => if m.ascii then isIgnored c else CharSet.blank.contains c
  | .word =>
    if m.ascii then isAsciiDigit 10 c || isAsciiLetter c || c == '_' else isWordChar c

/-- The lower case of a character. -/
def lower (m : Mode) (c : Char) : Char :=
  if m.ascii then lowerAscii c else lowerCase c

/-- The code points that are the same letter as a character. -/
def forms (m : Mode) (c : Char) : List Nat :=
  if m.ascii then
    let l := (lowerAscii c).toNat
    if isAsciiLetter c then [l, l - 32] else [l]
  else
    let l := (lowerCase c).toNat
    let letters := (sharedCapitals.find? (·.contains l)).getD [l]
    letters ++ letters.flatMap (CaseRun.origins lowerRuns)

/-- The code point is the character, or the same letter where case is ignored. -/
def matchesPoint (m : Mode) (point : Nat) (c : Char) : Bool :=
  c.toNat == point || (m.ignoreCase && (m.forms c).contains point)

/-- The character is in the range, or is the same letter as one that is. -/
def matchesRange (m : Mode) (low high : Nat) (c : Char) : Bool :=
  (low ≤ c.toNat && c.toNat ≤ high) ||
    (m.ignoreCase && (m.forms c).any fun point => low ≤ point && point ≤ high)

/-- The character is what the item of a set stands for. -/
def matchesItem (m : Mode) (item : SetItem) (c : Char) : Bool :=
  match item with
  | .char point => m.matchesPoint point c
  | .range low high => m.matchesRange low high c
  | .cls cls negated => m.inClass cls c != negated

end Mode

/-! ## Places -/

/-- A place in a text, with the groups that took part so far. -/
structure Cursor where
  /-- The text before the place, last character first. -/
  before : List Char := []
  /-- The text from the place on. -/
  after : List Char
  /-- The number of characters before the place. -/
  place : Nat := 0
  /-- Where each group last started. -/
  starts : List (Nat × Nat) := []
  /-- Where each group last ended. -/
  ends : List (Nat × Nat) := []
deriving Repr, Inhabited

namespace Cursor

/-- The place behind the next character, if `p` holds of it. -/
def take? (p : Char → Bool) (s : Cursor) : Option Cursor :=
  match s.after with
  | c :: rest =>
    if p c then some { s with before := c :: s.before, after := rest, place := s.place + 1 }
    else none
  | [] => none

/-- The place some characters before. -/
def back? : Nat → Cursor → Option Cursor
  | 0, s => some s
  | n + 1, s =>
    match s.before with
    | c :: rest => back? n { s with before := rest, after := c :: s.after, place := s.place - 1 }
    | [] => none

/-- The whole text. -/
def text (s : Cursor) : List Char := s.before.reverse ++ s.after

/-- The text that a group last took, if it took part. -/
def group? (s : Cursor) (group : Nat) : Option (List Char) := do
  let start ← s.starts.lookup group
  let stop ← s.ends.lookup group
  if start ≤ stop then return (s.text.drop start).take (stop - start) else none

/-- A group starts here. -/
def start (s : Cursor) (group : Nat) : Cursor :=
  { s with starts := (group, s.place) :: s.starts.filter (·.1 != group) }

/-- A group ends here. -/
def stop (s : Cursor) (group : Nat) : Cursor :=
  { s with ends := (group, s.place) :: s.ends.filter (·.1 != group) }

/-- The same place with the groups of another. -/
def withGroups (s other : Cursor) : Cursor :=
  { s with starts := other.starts, ends := other.ends }

/-- The next character is one of a word. -/
def atWord (m : Mode) : List Char → Bool
  | c :: _ => m.inClass .word c
  | [] => false

/-- An anchor holds here. Nothing is a boundary in an empty text, and nothing is not. -/
def atAnchor (m : Mode) (s : Cursor) : Anchor → Bool
  | .lineStart => s.before.isEmpty || (m.multiline && s.before.head? == some '\n')
  | .lineEnd =>
    s.after.isEmpty || s.after == ['\n'] || (m.multiline && s.after.head? == some '\n')
  | .textStart => s.before.isEmpty
  | .textEnd => s.after.isEmpty
  | .boundary =>
    !(s.before.isEmpty && s.after.isEmpty) && atWord m s.before != atWord m s.after
  | .nonBoundary =>
    !(s.before.isEmpty && s.after.isEmpty) && atWord m s.before == atWord m s.after

/-- The place behind a text that has to come next. -/
def takeText? (m : Mode) : List Char → Cursor → Option Cursor
  | [], s => some s
  | c :: rest, s =>
    let same (d : Char) : Bool := if m.ignoreCase then m.lower c == m.lower d else c == d
    (s.take? same).bind (takeText? m rest)

end Cursor

/-! ## Steps -/

/-- What has to follow: `none` if it does not match from a place. -/
abbrev Follow := Cursor → Option Cursor

/-- A way to match part of a pattern, given what has to follow. -/
abbrev Step := Cursor → Follow → Option Cursor

namespace Step

/-- Iterates a step exactly `n` times. -/
def times (step : Step) : Nat → Step
  | 0, s, k => k s
  | n + 1, s, k => step s fun s => times step n s k

/-- Another iteration is possible: there is room for it and the last one took
something. -/
def mayRepeat (room : Option Nat) (last : Option Nat) (s : Cursor) : Bool :=
  room != some 0 && last != some s.place

/-- One iteration less. -/
def less (room : Option Nat) : Option Nat := room.map (· - 1)

/-- Iterates a step as often as possible, then fewer times. -/
def greedy (step : Step) : (fuel : Nat) → (room last : Option Nat) → Step
  | 0, _, _, s, k => k s
  | fuel + 1, room, last, s, k =>
    if mayRepeat room last s then
      -- where the iteration started tells whether it took anything
      (step s fun t => greedy step fuel (less room) (some s.place) t k) <|> k s
    else k s

/-- Iterates a step as rarely as possible, then more often. -/
def lazy (step : Step) : (fuel : Nat) → (room last : Option Nat) → Step
  | 0, _, _, s, k => k s
  | fuel + 1, room, last, s, k =>
    k s <|>
      (if mayRepeat room last s then
        step s fun t => lazy step fuel (less room) (some s.place) t k
      else none)

/-- Iterates a step as often as possible, each time in the first way that matches. -/
def possessive (step : Step) : (fuel : Nat) → (room last : Option Nat) → Cursor → Cursor
  | 0, _, _, s => s
  | fuel + 1, room, last, s =>
    if mayRepeat room last s then
      match step s some with
      | some t => possessive step fuel (less room) (some s.place) t
      | none => s
    else s

/-- Iterates a step exactly `n` times, each time in the first way that matches. -/
def firstTimes (step : Step) : Nat → Cursor → Option Cursor
  | 0, s => some s
  | n + 1, s => (step s some).bind (firstTimes step n)

/-- Iterates a step. Every iteration that is not the last takes a character, so the text
that is left bounds their number. -/
def loop (step : Step) (least : Nat) (most : Option Nat) : Greed → Step
  | .greedy, s, k =>
    times step least s fun s =>
      greedy step (s.after.length + 2) (most.map (· - least)) none s k
  | .lazy, s, k =>
    times step least s fun s =>
      lazy step (s.after.length + 2) (most.map (· - least)) none s k
  | .possessive, s, k =>
    (firstTimes step least s).bind fun s =>
      k (possessive step (s.after.length + 2) (most.map (· - least)) none s)

/-- Looks ahead or, some characters back, behind. What is found keeps its groups. -/
def look (step : Step) (back : Nat) (negated : Bool) : Step := fun s k =>
  match (s.back? back).bind fun t => step t some with
  | some t => if negated then none else k (s.withGroups t)
  | none => if negated then k s else none

end Step

/-! ## Nodes -/

mutual

/-- Matches a node, where `groups` tells the widths of the groups. -/
def Node.run (groups : List (Option Width)) (m : Mode) : Node → Step
  | .char point, s, k => (s.take? (m.matchesPoint point)).bind k
  | .any, s, k => (s.take? fun c => m.dotAll || c != '\n').bind k
  | .set negated items, s, k =>
    (s.take? fun c => (items.any fun item => m.matchesItem item c) != negated).bind k
  | .anchor a, s, k => if s.atAnchor m a then k s else none
  | .branch alternatives, s, k => runAny groups m alternatives s k
  | .loop least most greed body, s, k =>
    Step.loop (fun s k => runAll groups m body s k) least most greed s k
  | .group none on off body, s, k => runAll groups (m.switch on off) body s k
  | .group (some index) on off body, s, k =>
    runAll groups (m.switch on off) body (s.start index) fun s => k (s.stop index)
  | .atomic body, s, k => (runAll groups m body s some).bind k
  | .look true negated body, s, k =>
    Step.look (fun s k => runAll groups m body s k) 0 negated s k
  | .look false negated body, s, k =>
    Step.look (fun s k => runAll groups m body s k) (widthOf groups body).least negated s k
  | .backref group, s, k =>
    ((s.group? group).bind fun text => s.takeText? m text).bind k
  | .conditional group yes no, s, k =>
    if (s.group? group).isSome then runAll groups m yes s k
    else runElse groups m no s k

/-- Matches nodes one after the other. -/
def runAll (groups : List (Option Width)) (m : Mode) : List Node → Step
  | [], s, k => k s
  -- what follows the node is the rest of the sequence, and then what follows that
  | node :: rest, s, k => node.run groups m s fun s => runAll groups m rest s k

/-- Matches one of several sequences, the first that does. -/
def runAny (groups : List (Option Width)) (m : Mode) : List (List Node) → Step
  | [], _, _ => none
  | first :: rest, s, k => (runAll groups m first s k) <|> runAny groups m rest s k

/-- Matches the alternative for a group that took no part; nothing where there is
none. -/
def runElse (groups : List (Option Width)) (m : Mode) : Option (List Node) → Step
  | none, s, k => k s
  | some body, s, k => runAll groups m body s k

end

/-! ## Patterns that cannot be matched -/

/-- A problem without a place. -/
def unplaced (problem : PatternProblem) : Except PatternFailure Unit :=
  .error (.refused ⟨problem, none⟩)

mutual

/-- Refuses lookbehinds of changing width, and repetitions if `template` is on. -/
def Node.check (groups : List (Option Width)) (template : Bool) :
    Node → Except PatternFailure Unit
  | .char _ | .any | .set .. | .anchor _ | .backref _ => .ok ()
  | .branch alternatives => checkAny groups template alternatives
  | .loop _ _ greed body =>
    if template then unplaced (.templateRepeat greed) else checkAll groups template body
  | .group _ _ _ body | .atomic body | .look true _ body => checkAll groups template body
  | .look false negated body =>
    let width := widthOf groups body
    if width.least ≠ width.most ∧ !(negated && body.isEmpty) then
      unplaced .variableLookbehind
    else checkAll groups template body
  | .conditional _ yes no => do
    checkAll groups template yes
    checkElse groups template no

/-- Checks the nodes of a sequence. -/
def checkAll (groups : List (Option Width)) (template : Bool) :
    List Node → Except PatternFailure Unit
  | [] => .ok ()
  | node :: rest => do
    node.check groups template
    checkAll groups template rest

/-- Checks the sequences of a choice. -/
def checkAny (groups : List (Option Width)) (template : Bool) :
    List (List Node) → Except PatternFailure Unit
  | [] => .ok ()
  | first :: rest => do
    checkAll groups template first
    checkAny groups template rest

/-- Checks the alternative of a conditional. -/
def checkElse (groups : List (Option Width)) (template : Bool) :
    Option (List Node) → Except PatternFailure Unit
  | none => .ok ()
  | some body => checkAll groups template body

end

/-- Reads a pattern that can be matched. -/
def compile (text : Text) : Except PatternFailure Pattern := do
  let p ← read text.letters
  checkAll p.widths p.flags.template p.nodes
  return p

/-! ## Search -/

/-- The pattern matches from one of the places of the cursor's text from it on. -/
def occursFrom (p : Pattern) (before : List Char) (place : Nat) : List Char → Bool
  -- the end of the text is a place, too
  | [] => (matchAt before place []).isSome
  | c :: rest =>
    (matchAt before place (c :: rest)).isSome || occursFrom p (c :: before) (place + 1) rest
where
  /-- The place where the pattern, started at a place, first ends. -/
  matchAt (before : List Char) (place : Nat) (after : List Char) : Option Cursor :=
    runAll p.widths (.ofFlags p.flags) p.nodes { before, after, place } some

/-- The pattern is found in the text. -/
def occursIn (p : Pattern) (text : String) : Bool :=
  p.occursFrom [] 0 text.toList

end BeaconCheck.Pattern
