import BeaconCheck.Value.Basic
import BeaconCheck.Yaml.Lexer
import BeaconCheck.Yaml.Tag

/-!
# Nodes of a document

The tokens of a document are read as a tree of nodes: scalars, sequences and mappings,
each with a tag. An anchor names a node and an alias stands for a copy of it. An alias
inside the collection that it names stands for that collection, which is unfolded as deep
as anything is read from it: `Node.unfolded`.

* `Node.ofTokens` reads the only document of a stream; an empty stream has none.

A collection is in block style, where each item has a token of its own, or in flow style,
between brackets. Where a node is left out, an empty scalar stands. Loops are bounded by
the number of tokens.
-/

namespace BeaconCheck.Yaml

/-- A node of a document. -/
inductive Node where
  | scalar (tag : Tag) (text : Text)
  | sequence (tag : Tag) (items : List Node)
  | mapping (tag : Tag) (entries : List (Node × Node))
  /-- The node stands for a collection that it is inside of. -/
  | enclosing (anchor : String) (target : Node)
deriving Repr, Inhabited

namespace Node

/-- The scalar that stands for a node that is left out. -/
def empty : Node := .scalar .null ""

/-- The tag of a node. -/
def tag : Node → Tag
  | .scalar tag _ => tag
  | .sequence tag _ => tag
  | .mapping tag _ => tag
  | .enclosing _ target => target.tag

mutual

/-- Puts a target in the place of those that an alias inside of a collection has. -/
def fill (anchor : String) (target : Node) : Node → Node
  | .scalar tag text => .scalar tag text
  | .sequence tag items => .sequence tag (fillItems anchor target items)
  | .mapping tag entries => .mapping tag (fillEntries anchor target entries)
  | .enclosing name inner =>
    if name = anchor then .enclosing name target
    else .enclosing name (fill anchor target inner)

@[inherit_doc fill]
def fillItems (anchor : String) (target : Node) : List Node → List Node
  | [] => []
  | n :: rest => fill anchor target n :: fillItems anchor target rest

@[inherit_doc fill]
def fillEntries (anchor : String) (target : Node) : List (Node × Node) → List (Node × Node)
  | [] => []
  | (k, v) :: rest =>
    (fill anchor target k, fill anchor target v) :: fillEntries anchor target rest

end

/-- How deep a collection is unfolded inside of itself. A definition has fewer layers than
this in which anything is looked for. -/
def layers : Nat := 7

/-- A collection, with copies of it in the places of the aliases inside of it. -/
def unfolded (n : Node) (anchor : String) : Nat → Node
  | 0 => n
  | depth + 1 => fill anchor (n.unfolded anchor depth) n

end Node

/-- What is left of a document, and what was read of it that counts further on. -/
structure NodeReader where
  tokens : List Token
  /-- What comes when the tokens are used up: a failure, or the end of the stream. -/
  ending : Option DocumentFailure := none
  /-- The handles of tags with what they stand for. -/
  handles : List (String × String) := []
  anchors : List (String × Node) := []

/-- Reading nodes takes tokens and can fail. -/
abbrev NodeM := StateT NodeReader (Except DocumentFailure)

namespace NodeM

/-- The tokens are no document. -/
def fail {α : Type} : NodeM α := throw .unreadable

/-- The next token; `none` at the end of the stream. -/
def peek : NodeM (Option Token) := do
  let s ← get
  match s.tokens, s.ending with
  | t :: _, _ => return some t
  | [], none => return none
  | [], some failure => throw failure

/-- Takes the next token. -/
def take : NodeM Unit :=
  modify fun s => { s with tokens := s.tokens.tail }

/-- Takes the next token if it is this one. -/
def takeIf (t : Token) : NodeM Bool := do
  if (← peek) = some t then
    take
    return true
  else return false

/-- Takes the next token, which must be this one. -/
def expect (t : Token) : NodeM Unit := do
  if !(← takeIf t) then fail

/-! ## Anchors and tags -/

/-- What stands in front of a node. -/
structure Properties where
  anchor : Option String := none
  tag : Option String := none

/-- The full name of a tag. -/
def tagName (handle : Option String) (suffix : String) : NodeM String := do
  match handle with
  | none => return suffix
  | some handle =>
    match (← get).handles.lookup handle with
    | some start => return start ++ suffix
    | none => fail

/-- The anchor and the tag in front of a node, in either order. -/
def properties : NodeM Properties := do
  match ← peek with
  | some (.anchor name) =>
    take
    match ← peek with
    | some (.tag handle suffix) =>
      take
      return { anchor := some name, tag := some (← tagName handle suffix) }
    | _ => return { anchor := some name }
  | some (.tag handle suffix) =>
    take
    match ← peek with
    | some (.anchor name) =>
      take
      return { anchor := some name, tag := some (← tagName handle suffix) }
    | _ => return { tag := some (← tagName handle suffix) }
  | _ => return {}

/-- The tag of a collection; an exclamation mark by itself says nothing. -/
def collectionTag (p : Properties) (usual : Tag) : Tag :=
  match p.tag with
  | none => usual
  | some name => if name = "!" then usual else .ofName name

/-- The tag of a scalar. Where there is none, and the scalar is plain, its text decides;
an exclamation mark by itself makes any scalar count as plain. -/
def scalarTag (p : Properties) (text : Text) (plain : Bool) : Tag :=
  match p.tag with
  | none => if plain then .ofText text else .string
  | some name => if name = "!" then .ofText text else .ofName name

/-- The node under a name. -/
def aliased (name : String) : NodeM Node := do
  match (← get).anchors.lookup name with
  | some n => return n
  | none => fail

/-- Names a node, which no other node may be named by. -/
def anchorNew (p : Properties) (n : Node) : NodeM Unit := do
  match p.anchor with
  | none => return ()
  | some name =>
    let s ← get
    if (s.anchors.lookup name).isSome then fail
    set { s with anchors := (name, n) :: s.anchors }

/-- Unfolds a collection that has been read to its end, here and in what was named inside of
it. -/
def anchorAgain (p : Properties) (n : Node) : NodeM Node := do
  match p.anchor with
  | none => return n
  | some name =>
    -- the nodes named inside of the collection hold aliases of it, too
    let n := n.unfolded name Node.layers
    modify fun s =>
      { s with anchors := (name, n) :: s.anchors.map fun q => (q.1, Node.fill name n q.2) }
    return n

/-- Reads a collection, which can be named inside of it. Until it is read to its end, its
name stands for an empty one. -/
def collectionOf {α : Type} (p : Properties) (build : List α → Node) (parts : NodeM (List α)) :
    NodeM Node := do
  anchorNew p (.enclosing (p.anchor.getD "") (build []))
  anchorAgain p (build (← parts))

/-- Reads a sequence. -/
def sequenceOf (p : Properties) (items : NodeM (List Node)) : NodeM Node :=
  collectionOf p (.sequence (collectionTag p .sequence)) items

/-- Reads a mapping. -/
def mappingOf (p : Properties) (entries : NodeM (List (Node × Node))) : NodeM Node :=
  collectionOf p (.mapping (collectionTag p .mapping)) entries

/-- Names a scalar. -/
def scalarOf (p : Properties) (text : Text) (plain : Bool) : NodeM Node := do
  let n := Node.scalar (scalarTag p text plain) text
  anchorNew p n
  return n

/-- Reads a node, unless a token comes before which it is left out. -/
def unlessBefore (stops : List Token) (read : NodeM Node) : NodeM Node := do
  match ← peek with
  | none => read
  | some t => if stops.contains t then return .empty else read

/-- Reads the value of an entry, which may be left out. -/
def valueUnlessBefore (stops : List Token) (read : NodeM Node) : NodeM Node := do
  if ← takeIf .value then unlessBefore stops read else return .empty

/-! ## Nodes -/

/-- What stands at the end of an entry in a block mapping. -/
def entryStops : List Token := [.key, .value, .blockEnd]

mutual

/-- A node. Blocks can be left out of consideration, and a sequence can stand in a mapping
without being indented. -/
def node (block indentless : Bool) : Nat → NodeM Node
  | 0 => fail
  | fuel + 1 => do
    match ← peek with
    | some (.alias name) =>
      take
      aliased name
    | _ =>
      let p ← properties
      match ← peek with
      | some (.scalar text plain) =>
        take
        scalarOf p text plain
      | some .flowSequenceStart =>
        take
        sequenceOf p (flowItems true fuel)
      | some .flowMappingStart =>
        take
        mappingOf p (flowEntries true fuel)
      | next =>
        if indentless && next == some .blockEntry then sequenceOf p (blockItems true fuel)
        else if block && next == some .blockSequenceStart then
          take
          sequenceOf p (blockItems false fuel)
        else if block && next == some .blockMappingStart then
          take
          mappingOf p (blockEntries fuel)
        -- an anchor or a tag with nothing behind it is that of an empty scalar
        else if p.anchor.isSome || p.tag.isSome then scalarOf p "" p.tag.isNone
        else fail

/-- The items of a block sequence. One that is not indented has no token for its end. -/
def blockItems (indentless : Bool) : Nat → NodeM (List Node)
  | 0 => fail
  | fuel + 1 => do
    if ← takeIf .blockEntry then
      let stops := if indentless then .blockEntry :: entryStops else [.blockEntry, .blockEnd]
      let item ← unlessBefore stops (node true false fuel)
      let items ← blockItems indentless fuel
      return item :: items
    else
      if !indentless then expect .blockEnd
      return []

/-- The entries of a block mapping. -/
def blockEntries : Nat → NodeM (List (Node × Node))
  | 0 => fail
  | fuel + 1 => do
    if ← takeIf .key then
      let key ← unlessBefore entryStops (node true true fuel)
      let value ← valueUnlessBefore entryStops (node true true fuel)
      let entries ← blockEntries fuel
      return (key, value) :: entries
    else
      expect .blockEnd
      return []

/-- The items between square brackets. An entry with a key is a mapping by itself. -/
def flowItems (first : Bool) : Nat → NodeM (List Node)
  | 0 => fail
  | fuel + 1 => do
    if ← takeIf .flowSequenceEnd then return []
    if !first then expect .flowEntry
    -- a comma can stand behind the last item
    if ← takeIf .flowSequenceEnd then return []
    let stops := [.flowEntry, .flowSequenceEnd]
    let item ←
      if ← takeIf .key then do
        let key ← unlessBefore (.value :: stops) (node false false fuel)
        let value ← valueUnlessBefore stops (node false false fuel)
        pure (Node.mapping .mapping [(key, value)])
      else node false false fuel
    let items ← flowItems false fuel
    return item :: items

/-- The entries between braces. -/
def flowEntries (first : Bool) : Nat → NodeM (List (Node × Node))
  | 0 => fail
  | fuel + 1 => do
    if ← takeIf .flowMappingEnd then return []
    if !first then expect .flowEntry
    -- a comma can stand behind the last entry
    if ← takeIf .flowMappingEnd then return []
    let stops := [.flowEntry, .flowMappingEnd]
    let entry ←
      if ← takeIf .key then do
        let key ← unlessBefore (.value :: stops) (node false false fuel)
        let value ← valueUnlessBefore stops (node false false fuel)
        pure (key, value)
      else do
        let key ← node false false fuel
        pure (key, Node.empty)
    let entries ← flowEntries false fuel
    return entry :: entries

end

/-! ## Documents -/

/-- The handles that need no directive. -/
def usualHandles : List (String × String) := [("!", "!"), ("!!", Tag.commonStart)]

/-- The directives in front of a document: one version at most, and no handle twice. -/
def directives : Nat → (versioned : Bool) → NodeM Unit
  | 0, _ => fail
  | fuel + 1, versioned => do
    match ← peek with
    | some (.directive d) =>
      take
      match d with
      | .version major =>
        if versioned || major != 1 then fail
        directives fuel true
      | .tag handle start =>
        let s ← get
        if (s.handles.lookup handle).isSome then fail
        set { s with handles := (handle, start) :: s.handles }
        directives fuel versioned
      | .other => directives fuel versioned
    | _ => modify fun s => { s with handles := s.handles ++ usualHandles }

/-- Takes the marks of a document's end. -/
def documentEnds : Nat → NodeM Unit
  | 0 => fail
  | fuel + 1 => do
    if ← takeIf .documentEnd then documentEnds fuel

/-- The node of a document that a directive or a mark starts. It can be left out. -/
def markedDocument (fuel : Nat) : NodeM Node := do
  directives fuel false
  expect .documentStart
  match ← peek with
  | none => return .empty
  | some (.directive _) => return .empty
  | _ => unlessBefore [.documentStart, .documentEnd] (node true false fuel)

/-- The node of a document without a mark. -/
def bareDocument (fuel : Nat) : NodeM Node := do
  modify fun s => { s with handles := usualHandles }
  node true false fuel

/-- The node of the only document; `none` if there is none. -/
def document (fuel : Nat) : NodeM (Option Node) := do
  let n ←
    match ← peek with
    | none => return none
    | some (.directive _) => markedDocument fuel
    | some .documentStart => markedDocument fuel
    | _ => bareDocument fuel
  documentEnds fuel
  match ← peek with
  | none => return some n
  -- a second document is refused, even an empty one
  | some _ => fail

end NodeM

/-- The node of the only document of a text's tokens; `none` if there is none. -/
def Node.ofTokens (tokens : List Token) (ending : Option DocumentFailure) :
    Except DocumentFailure (Option Node) :=
  ((NodeM.document (2 * tokens.length + 4)).run { tokens, ending }).map (·.1)

end BeaconCheck.Yaml
