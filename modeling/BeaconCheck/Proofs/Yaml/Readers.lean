import BeaconCheck.Yaml.Node

/-!
# All readers of nodes

The readers of nodes are built from a few steps: looking at the next token, taking it, and using
anchors and handles of tags. A property that these steps have, and that is kept where one is done
after another, is a property of every reader.

* `NodeM.Local`         — steps that take no token.
* `NodeM.Closed`        — the steps have a property, and sequences of steps keep it.
* `Closed.readers`      — then the readers of nodes have it,
* `Closed.document`      — and so has that of documents.
-/

namespace BeaconCheck.Yaml.NodeM

/-! ## Steps that take no token -/

/-- Neither the tokens nor what comes behind them plays a part: only the handles of tags and the
anchors are used, and if that fails something is unreadable. -/
def Local {α : Type} (m : NodeM α) : Prop :=
  ∀ handles anchors,
    (∃ a handles' anchors', ∀ tokens ending, m ⟨tokens, ending, handles, anchors⟩ =
      .ok (a, ⟨tokens, ending, handles', anchors'⟩)) ∨
    ∀ tokens ending, m ⟨tokens, ending, handles, anchors⟩ = .error .unreadable

section Local

variable {α : Type}

theorem local_pure (a : α) : Local (pure a : NodeM α) :=
  fun handles anchors => .inl ⟨a, handles, anchors, fun _ _ => rfl⟩

theorem local_fail : Local (fail : NodeM α) :=
  fun _ _ => .inr fun _ _ => rfl

theorem get_bind_apply (f : NodeReader → NodeM α) (s : NodeReader) : (get >>= f) s = f s s := rfl

/-- The name of a tag is looked up among the handles. -/
theorem local_tagName (handle : Option String) (suffix : String) : Local (tagName handle suffix) := by
  intro handles anchors
  cases handle with
  | none => exact local_pure suffix handles anchors
  | some handle =>
    -- a handle that is not declared is refused, whatever the tokens are
    cases hLookup : handles.lookup handle with
    | none =>
      refine .inr fun tokens ending => ?_
      simp only [tagName, get_bind_apply, hLookup]
      rfl
    | some start =>
      refine .inl ⟨start ++ suffix, handles, anchors, fun tokens ending => ?_⟩
      simp only [tagName, get_bind_apply, hLookup]
      rfl

/-- An alias is looked up among the anchors. -/
theorem local_aliased (name : String) : Local (aliased name) := by
  intro handles anchors
  cases hLookup : anchors.lookup name with
  | none =>
    refine .inr fun tokens ending => ?_
    simp only [aliased, get_bind_apply, hLookup]
    rfl
  | some n =>
    refine .inl ⟨n, handles, anchors, fun tokens ending => ?_⟩
    simp only [aliased, get_bind_apply, hLookup]
    rfl

/-- An anchor is remembered without taking a token. -/
theorem local_anchorNew (p : Properties) (n : Node) : Local (anchorNew p n) := by
  unfold anchorNew
  split
  · exact local_pure ()
  · next name _ =>
    intro handles anchors
    -- an anchor may be given once only
    by_cases hTaken : (anchors.lookup name).isSome
    · refine .inr fun tokens ending => ?_
      show (if (anchors.lookup name).isSome then _ else _ : NodeM Unit) _ = _
      rw [if_pos hTaken]
      rfl
    · refine .inl ⟨(), handles, (name, n) :: anchors, fun tokens ending => ?_⟩
      show (if (anchors.lookup name).isSome then _ else _ : NodeM Unit) _ = _
      rw [if_neg hTaken]
      rfl

/-- So it is when its collection is complete. -/
theorem local_anchorAgain (p : Properties) (n : Node) : Local (anchorAgain p n) := by
  unfold anchorAgain
  split
  · exact local_pure n
  · next name _ =>
    let whole := n.unfolded name Node.layers
    let others (anchors : List (String × Node)) := anchors.map fun q => (q.1, Node.fill name whole q.2)
    exact fun handles anchors =>
      .inl ⟨whole, handles, (name, whole) :: others anchors, fun _ _ => rfl⟩

theorem local_withHandles (f : List (String × String) → List (String × String)) :
    Local (modify fun s => { s with handles := f s.handles } : NodeM Unit) :=
  fun handles anchors => .inl ⟨(), f handles, anchors, fun _ _ => rfl⟩

/-- Declares a handle, which no directive before may have declared. -/
def declare (handle start : String) : NodeM Unit := fun s =>
  if (s.handles.lookup handle).isSome then .error .unreadable
  else .ok ((), { s with handles := (handle, start) :: s.handles })

/-- A handle is declared at most once. -/
theorem local_declare (handle start : String) : Local (declare handle start) := by
  intro handles anchors
  by_cases hTaken : (handles.lookup handle).isSome
  · exact .inr fun _ _ => if_pos hTaken
  · exact .inl ⟨(), (handle, start) :: handles, anchors, fun _ _ => if_neg hTaken⟩

theorem declare_bind (handle start : String) (m : NodeM Unit) :
    (do
      let s ← get
      if (s.handles.lookup handle).isSome then fail
      set { s with handles := (handle, start) :: s.handles }
      m) = declare handle start >>= fun _ => m := by
  funext s
  show (if (s.handles.lookup handle).isSome then _ else _ : NodeM Unit) s =
    (declare handle start s >>= fun p => m p.2)
  rw [declare]
  split <;> rfl

end Local

/-! ## Properties of all readers -/

/-- The property is one of all steps, and what is done after another keeps it. -/
structure Closed (P : (α : Type) → NodeM α → Prop) : Prop where
  ofLocal {α : Type} {m : NodeM α} (h : Local m) : P α m
  peek : P (Option Token) peek
  take : P Unit take
  bind {α β : Type} {m : NodeM α} {f : α → NodeM β} (h : P α m) (hNext : ∀ a, P β (f a)) :
    P β (m >>= f)

namespace Closed

variable {P : (α : Type) → NodeM α → Prop}

/-- A choice between two readers is one. -/
theorem ite (_ : Closed P) {α : Type} {p : Prop} [Decidable p] {m n : NodeM α} (hThen : P α m)
    (hElse : P α n) : P α (if p then m else n) := by
  split
  · exact hThen
  · exact hElse

variable (c : Closed P)
include c

theorem pure {α : Type} (a : α) : P α (Pure.pure a) :=
  c.ofLocal (local_pure a)

theorem fail {α : Type} : P α fail :=
  c.ofLocal local_fail

theorem takeIf (t : Token) : P Bool (takeIf t) :=
  c.bind c.peek fun _ => c.ite (c.bind c.take fun _ => c.pure true) (c.pure false)

theorem expect (t : Token) : P Unit (NodeM.expect t) :=
  c.bind (c.takeIf t) fun _ => c.ite c.fail (c.pure ())

/-- An anchor and a tag may stand in front of a node, in any order. -/
theorem properties : P Properties properties := by
  unfold NodeM.properties
  refine c.bind c.peek fun t => ?_
  split
  · refine c.bind c.take fun _ => c.bind c.peek fun t => ?_
    split
    · exact c.bind c.take fun _ => c.bind (c.ofLocal (local_tagName _ _)) fun _ => c.pure _
    · exact c.pure _
  · refine c.bind c.take fun _ => c.bind c.peek fun t => ?_
    split
    · exact c.bind c.take fun _ => c.bind (c.ofLocal (local_tagName _ _)) fun _ => c.pure _
    · exact c.bind (c.ofLocal (local_tagName _ _)) fun _ => c.pure _
  · exact c.pure _

/-- A collection is read as its parts are, and anchored. -/
theorem collectionOf {α : Type} (p : Properties) (build : List α → Node) {parts : NodeM (List α)}
    (h : P _ parts) : P Node (collectionOf p build parts) :=
  c.bind (c.ofLocal (local_anchorNew p _)) fun _ => c.bind h fun _ =>
    c.ofLocal (local_anchorAgain p _)

theorem sequenceOf (p : Properties) {items : NodeM (List Node)} (h : P _ items) :
    P Node (sequenceOf p items) :=
  c.collectionOf p _ h

theorem mappingOf (p : Properties) {entries : NodeM (List (Node × Node))} (h : P _ entries) :
    P Node (mappingOf p entries) :=
  c.collectionOf p _ h

theorem scalarOf (p : Properties) (text : Text) (plain : Bool) : P Node (scalarOf p text plain) :=
  c.bind (c.ofLocal (local_anchorNew p _)) fun _ => c.pure _

/-- In front of a token that ends an entry an empty node is read. -/
theorem unlessBefore (stops : List Token) {read : NodeM Node} (h : P _ read) :
    P Node (unlessBefore stops read) := by
  unfold NodeM.unlessBefore
  refine c.bind c.peek fun t => ?_
  split
  · exact h
  · exact c.ite (c.pure _) h

/-- The same for a value, if there is a colon at all. -/
theorem valueUnlessBefore (stops : List Token) {read : NodeM Node} (h : P _ read) :
    P Node (valueUnlessBefore stops read) :=
  c.bind (c.takeIf .value) fun _ => c.ite (c.unlessBefore stops h) (c.pure _)

end Closed

/-! ## Nodes -/

/-- All readers of nodes have the property. -/
structure Readers (P : (α : Type) → NodeM α → Prop) (fuel : Nat) : Prop where
  node (block indentless : Bool) : P _ (node block indentless fuel)
  blockItems (indentless : Bool) : P _ (blockItems indentless fuel)
  blockEntries : P _ (blockEntries fuel)
  flowItems (first : Bool) : P _ (flowItems first fuel)
  flowEntries (first : Bool) : P _ (flowEntries first fuel)

namespace Readers

variable {P : (α : Type) → NodeM α → Prop} {fuel : Nat} (h : Readers P fuel) (c : Closed P)
include h c

/-- A node is an alias, a scalar or a collection. -/
theorem node_succ (block indentless : Bool) : P _ (NodeM.node block indentless (fuel + 1)) := by
  rw [NodeM.node]
  refine c.bind c.peek fun t => ?_
  -- an alias, or properties and then what the next token begins
  split
  · exact c.bind c.take fun _ => c.ofLocal (local_aliased _)
  · refine c.bind c.properties fun p => c.bind c.peek fun t => ?_
    split
    · exact c.bind c.take fun _ => c.scalarOf _ _ _
    · exact c.bind c.take fun _ => c.sequenceOf _ (h.flowItems true)
    · exact c.bind c.take fun _ => c.mappingOf _ (h.flowEntries true)
    · exact c.ite (c.sequenceOf _ (h.blockItems true)) <|
        c.ite (c.bind c.take fun _ => c.sequenceOf _ (h.blockItems false)) <|
        c.ite (c.bind c.take fun _ => c.mappingOf _ h.blockEntries) <|
        c.ite (c.scalarOf _ _ _) c.fail

/-- Items of a block are read one after the other. -/
theorem blockItems_succ (indentless : Bool) : P _ (NodeM.blockItems indentless (fuel + 1)) := by
  rw [NodeM.blockItems]
  refine c.bind (c.takeIf _) fun _ => c.ite ?_ ?_
  · exact c.bind (c.unlessBefore _ (h.node true false)) fun _ =>
      c.bind (h.blockItems indentless) fun _ => c.pure _
  · exact c.ite (c.bind (c.expect _) fun _ => c.pure _) (c.pure _)

/-- Entries of a block are read one after the other. -/
theorem blockEntries_succ : P _ (NodeM.blockEntries (fuel + 1)) := by
  rw [NodeM.blockEntries]
  refine c.bind (c.takeIf _) fun _ => c.ite ?_ (c.bind (c.expect _) fun _ => c.pure _)
  exact c.bind (c.unlessBefore _ (h.node true true)) fun _ =>
    c.bind (c.valueUnlessBefore _ (h.node true true)) fun _ =>
      c.bind h.blockEntries fun _ => c.pure _

/-- Items between brackets are read with commas between them. -/
theorem flowItems_succ (first : Bool) : P _ (NodeM.flowItems first (fuel + 1)) := by
  have hRest (item : Node) : P _ (NodeM.flowItems false fuel >>= fun ns => pure (item :: ns)) :=
    c.bind (h.flowItems false) fun _ => c.pure _
  rw [NodeM.flowItems]
  refine c.bind (c.takeIf _) fun _ => c.ite (c.pure _) (c.ite (c.bind (c.expect _) fun _ => ?_) ?_)
  all_goals
    -- behind the comma, if there must be one
    refine c.bind (c.takeIf _) fun _ => c.ite (c.pure _) (c.bind (c.takeIf _) fun _ => c.ite ?_ ?_)
    · exact c.bind (c.unlessBefore _ (h.node false false)) fun _ =>
        c.bind (c.valueUnlessBefore _ (h.node false false)) fun _ => hRest _
    · exact c.bind (h.node false false) fun _ => hRest _

/-- Entries between braces are read with commas between them. -/
theorem flowEntries_succ (first : Bool) : P _ (NodeM.flowEntries first (fuel + 1)) := by
  have hRest (entry : Node × Node) :
      P _ (NodeM.flowEntries false fuel >>= fun es => pure (entry :: es)) :=
    c.bind (h.flowEntries false) fun _ => c.pure _
  rw [NodeM.flowEntries]
  refine c.bind (c.takeIf _) fun _ => c.ite (c.pure _) (c.ite (c.bind (c.expect _) fun _ => ?_) ?_)
  all_goals
    refine c.bind (c.takeIf _) fun _ => c.ite (c.pure _) (c.bind (c.takeIf _) fun _ => c.ite ?_ ?_)
    · exact c.bind (c.unlessBefore _ (h.node false false)) fun _ =>
        c.bind (c.valueUnlessBefore _ (h.node false false)) fun _ => hRest _
    · exact c.bind (h.node false false) fun _ => hRest _

end Readers

namespace Closed

variable {P : (α : Type) → NodeM α → Prop} (c : Closed P)
include c

/-- **The readers of nodes have every property** that the steps have and that sequences keep. -/
theorem readers : ∀ fuel, Readers P fuel
  | 0 => ⟨fun _ _ => c.fail, fun _ => c.fail, c.fail, fun _ => c.fail, fun _ => c.fail⟩
  | fuel + 1 =>
    have h := readers fuel
    ⟨h.node_succ c, h.blockItems_succ c, h.blockEntries_succ c, h.flowItems_succ c,
      h.flowEntries_succ c⟩

/-! ## Documents -/

/-- Directives stand in front of a document. -/
theorem directives : ∀ fuel versioned, P Unit (directives fuel versioned)
  -- by recursion on the fuel, one directive at a time
  | 0, _ => c.fail
  | fuel + 1, versioned => by
    rw [NodeM.directives]
    refine c.bind c.peek fun t => ?_
    split
    · refine c.bind c.take fun _ => ?_
      split
      · exact c.ite (c.bind c.fail fun _ => directives fuel true) (directives fuel true)
      · rw [declare_bind]
        exact c.bind (c.ofLocal (local_declare _ _)) fun _ => directives fuel versioned
      · exact directives fuel versioned
    · exact c.ofLocal (local_withHandles (· ++ usualHandles))

theorem documentEnds : ∀ fuel, P Unit (documentEnds fuel)
  | 0 => c.fail
  | fuel + 1 => c.bind (c.takeIf _) fun _ => c.ite (documentEnds fuel) (c.pure _)

theorem markedDocument (fuel : Nat) : P Node (markedDocument fuel) := by
  refine c.bind (c.directives fuel false) fun _ => c.bind (c.expect _) fun _ =>
    c.bind c.peek fun t => ?_
  split
  · exact c.pure _
  · exact c.pure _
  · exact c.unlessBefore _ ((c.readers fuel).node true false)

theorem bareDocument (fuel : Nat) : P Node (bareDocument fuel) :=
  c.bind (c.ofLocal (local_withHandles fun _ => usualHandles)) fun _ => (c.readers fuel).node true false

/-- Behind a document comes nothing but marks of its end. -/
theorem last (fuel : Nat) (n : Node) : P (Option Node) (NodeM.documentEnds fuel >>= fun _ =>
    NodeM.peek >>= fun t => match t with | none => Pure.pure (some n) | some _ => NodeM.fail) := by
  refine c.bind (c.documentEnds fuel) fun _ => c.bind c.peek fun t => ?_
  split
  · exact c.pure _
  · exact c.fail

/-- A stream holds at most one document. -/
theorem document (fuel : Nat) : P (Option Node) (document fuel) := by
  refine c.bind c.peek fun t => ?_
  split
  · exact c.pure _
  · exact c.bind (c.markedDocument fuel) (c.last fuel)
  · exact c.bind (c.markedDocument fuel) (c.last fuel)
  · exact c.bind (c.bareDocument fuel) (c.last fuel)

end Closed

end BeaconCheck.Yaml.NodeM
