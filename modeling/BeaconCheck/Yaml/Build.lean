import BeaconCheck.Yaml.Literal
import BeaconCheck.Yaml.Node

/-!
# The value of a node

Nodes become values under their tags. A mapping takes in the entries of the mappings
under its merge keys, before its own, and of several values for one key the last counts.

Of several things wrong with a document, the one nearest to the root is told, and of
several as near the leftmost. So a collection that is wrong as a whole counts as deep as
its items, and a key that has parts is wrong before anything inside of it.

* `Node.toValue` is the value of a node.
-/

namespace BeaconCheck.Yaml

/-- A failure, and how deep below a node it is. -/
structure Setback where
  depth : Nat
  cause : DocumentFailure
deriving DecidableEq, Repr, Inhabited

/-- What a node gives: a value, or a failure. -/
abbrev Built (α : Type) := Except Setback α

namespace Built

/-- The node is wrong. -/
def wrong {α : Type} : Built α := .error ⟨0, .unreadable⟩

/-- The node is wrong, which shows when its items are looked at. -/
def wrongInside {α : Type} : Built α := .error ⟨1, .unreadable⟩

/-- The value of a literal. -/
def ofLiteral {α : Type} (r : Except Crash α) : Built α :=
  r.mapError fun c => ⟨0, .crash c⟩

/-- Two results, or the failure that comes first. -/
def both {α β : Type} : Built α → Built β → Built (α × β)
  | .ok a, .ok b => .ok (a, b)
  | .error e, .ok _ => .error e
  | .ok _, .error e => .error e
  | .error e, .error f => .error (if f.depth < e.depth then f else e)

/-- All results, or the failure that comes first. -/
def all {α : Type} : List (Built α) → Built (List α)
  | [] => .ok []
  | r :: rest => (both r (all rest)).map fun p => p.1 :: p.2

/-- The result of something inside of a node, as it counts for the node. -/
def inside {α : Type} (r : Built α) : Built α :=
  r.mapError fun e => { e with depth := e.depth + 1 }

/-- A key, which must be a scalar. -/
def key : Built Value → Built Scalar
  | .ok (.scalar s) => .ok s
  | .ok _ => wrong
  -- what fails further inside has parts, and so is no key
  | .error e => if e.depth = 0 then .error e else wrong

end Built

/-- The value of a scalar under a tag. -/
def scalarValue (tag : Tag) (text : Text) : Built Value :=
  match tag with
  | .null => .ok .null
  | .bool => Built.ofLiteral ((Literal.boolean text).map .bool)
  | .int => Built.ofLiteral ((Literal.integer text).map .int)
  | .float => Built.ofLiteral ((Literal.float text).map .float)
  | .timestamp => Built.ofLiteral ((Literal.stamp text).map fun t => .scalar (.stamp t))
  | .binary =>
    match Literal.bytes? text with
    | some bytes => .ok (.scalar (.bytes bytes))
    | none => Built.wrong
  | .string => .ok (.text text)
  | .sequence | .mapping | .set | .orderedMapping | .pairs => Built.wrongInside
  | .merge | .value | .unknown => Built.wrong

/-- The text of a node that should be a scalar. A mapping has the text of its value under
the value key. -/
def Node.text? : Node → Option Text
  | .scalar _ text => some text
  | .mapping _ entries => ofEntries entries
  | _ => none
where
  /-- The text under the value key. -/
  ofEntries : List (Node × Node) → Option Text
    | [] => none
    | (k, v) :: rest => if k.tag = .value then v.text? else ofEntries rest

/-- The value of a collection under the tag of a scalar. A time is looked for in the collection
itself, even if it has a text. -/
def asScalar (n : Node) (tag : Tag) : Built Value :=
  match n.text? with
  | some text =>
    if tag = .timestamp then Built.ofLiteral (.error .timeOfCollection) else scalarValue tag text
  | none => scalarValue .unknown ""

/-- The object of some entries. -/
def objectOf (entries : List (Scalar × Value)) : Value :=
  .object (Entries.ofPairs entries)

/-- The set of some keys. -/
def setOf (entries : List (Scalar × Value)) : Value :=
  .set ((Entries.ofPairs entries).map (·.1))

/-- The entries of a mapping: those of the mappings merged into it, and its own. -/
structure Flattened where
  merged : List (Built (Scalar × Value)) := []
  own : List (Built (Scalar × Value)) := []

/-- All entries in the order in which they count. -/
def Flattened.entries (f : Flattened) : List (Built (Scalar × Value)) := f.merged ++ f.own

mutual

/-- The value of a node. -/
def Node.build : Node → Built Value
  | .scalar tag text => scalarValue tag text
  | .sequence tag items =>
    match tag with
    | .sequence => (Built.all (buildItems items)).inside.map .list
    | .orderedMapping | .pairs => (Built.all (buildPairs items)).inside.map .list
    | .mapping | .set => Built.wrongInside
    | _ => Built.wrong
  | .mapping tag entries =>
    match tag with
    | .mapping => (buildEntries entries).map objectOf
    | .set => (buildEntries entries).map setOf
    | .sequence | .orderedMapping | .pairs => Built.wrongInside
    | tag => asScalar (.mapping tag entries) tag
  | .enclosing _ target => .ok (.enclosing (target.build.toOption.getD .null))

/-- The values of items. -/
def buildItems : List Node → List (Built Value)
  | [] => []
  | n :: rest => n.build :: buildItems rest

/-- The pairs of items that are mappings of one entry. -/
def buildPairs : List Node → List (Built Value)
  | [] => []
  | .mapping _ [(k, v)] :: rest =>
    (Built.both k.build v.build).map (fun p => .pair p.1 p.2) :: buildPairs rest
  | _ :: rest => Built.wrong :: buildPairs rest

/-- The entries of a mapping with what is merged into it. -/
def buildEntries (entries : List (Node × Node)) : Built (List (Scalar × Value)) :=
  match flatten entries with
  | none => Built.wrongInside
  | some f => (Built.all f.entries).inside

/-- The entries of a mapping; `none` where something else than mappings is to be merged
into it. -/
def flatten : List (Node × Node) → Option Flattened
  | [] => some {}
  | (k, v) :: rest =>
    if k.tag = .merge then do
      let first ← mergedEntries v
      let others ← flatten rest
      -- what is merged counts as in front of the own entries, wherever its key stands
      return { others with merged := first ++ others.merged }
    else do
      let keyValue := if k.tag = .value then (asScalar k .string) else k.build
      let entry := Built.both keyValue.key v.build
      let others ← flatten rest
      return { others with own := entry :: others.own }

/-- The entries of what is to be merged: of a mapping, or of a sequence of mappings, where
the first counts most and so comes last. -/
def mergedEntries : Node → Option (List (Built (Scalar × Value)))
  | .mapping _ entries => (flatten entries).map Flattened.entries
  | .sequence _ items => (mergedItems items).map fun lists => lists.reverse.flatten
  | .enclosing _ target => mergedEntries target
  | .scalar .. => none

/-- The entries of each of several mappings. -/
def mergedItems : List Node → Option (List (List (Built (Scalar × Value))))
  | [] => some []
  | .mapping _ entries :: rest => do
    let f ← flatten entries
    let others ← mergedItems rest
    return f.entries :: others
  | .enclosing _ (.mapping _ entries) :: rest => do
    let f ← flatten entries
    let others ← mergedItems rest
    return f.entries :: others
  | _ :: _ => none

end

/-- The value of a node. -/
def Node.toValue (n : Node) : Except DocumentFailure Value :=
  n.build.mapError (·.cause)

end BeaconCheck.Yaml
