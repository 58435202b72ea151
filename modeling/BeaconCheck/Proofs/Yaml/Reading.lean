import BeaconCheck.Proofs.Yaml.Cutting
import BeaconCheck.Proofs.Yaml.Ending

/-!
# The nodes of a JSON text

The tokens of a JSON text are read as the nodes of its tree. Only a name that is no key cannot be
read: behind it a comma is expected where the mark of the value stands.

* `Json.Source.node?`    — the node of a value.
* `Yaml.Yields`          — what a reader gives, and where it comes to.
* `Yaml.yields_source`   — the node of a value is read off its tokens.
* `Yaml.Node.ofTokens_eq` — the node of a whole text.
-/

namespace BeaconCheck

open Yaml

/-! ## The nodes of a tree -/

namespace Json

/-- The node of a plain scalar. -/
def plainNode (text : List Char) : Node :=
  .scalar (Tag.ofText (String.ofList text)) (String.ofList text)

/-- The node of a string. -/
def Piece.node (pieces : List Piece) : Node :=
  .scalar .string (.ofLetters ((Piece.folded pieces).getD []))

mutual

/-- The node of a value in a document; `none` if a name in it is no key. -/
def Source.node? : Source → Option Node
  | .word w => some (plainNode w.text)
  | .number n => some (plainNode n.text)
  | .string pieces => some (Piece.node pieces)
  | .emptyList _ => some (.sequence .sequence [])
  | .list items => items.nodes?.map (.sequence .sequence)
  | .emptyObject _ => some (.mapping .mapping [])
  | .object members => members.nodes?.map (.mapping .mapping)

/-- The nodes of items. -/
def Items.nodes? : Items → Option (List Node)
  | .last _ item _ => item.node?.bind fun n => some [n]
  | .more _ item _ rest => item.node?.bind fun n => rest.nodes?.bind fun others => some (n :: others)

/-- The nodes of entries. -/
def Members.nodes? : Members → Option (List (Node × Node))
  | .last name item _ =>
    if name.isKey then item.node?.bind fun n => some [(Piece.node name.pieces, n)] else none
  | .more name item _ rest =>
    if name.isKey then
      item.node?.bind fun n => rest.nodes?.bind fun others =>
        some ((Piece.node name.pieces, n) :: others)
    else none

end

end Json

namespace Yaml

open Json NodeM

/-! ## What readers give -/

/-- A reader gives this and comes to a place, or fails where there is nothing to give. -/
def Yields {α : Type} (result : Except DocumentFailure (α × NodeReader)) (found : Option α)
    (behind : NodeReader) : Prop :=
  match found with
  | some a => result = .ok (a, behind)
  | none => ∃ failure, result = .error failure

section Yields

variable {α β : Type} {m : NodeM α} {f : α → NodeM β} {s s' s'' : NodeReader}

/-- What two readers in turn yield. -/
theorem Yields.bind {found : Option α} {g : α → Option β} (h : Yields (m s) found s')
    (hNext : ∀ a, Yields (f a s') (g a) s'') : Yields ((m >>= f) s) (found.bind g) s'' := by
  cases found with
  | none =>
    obtain ⟨failure, hFailure⟩ := h
    exact ⟨failure, by simp only [Bind.bind, StateT.bind, Except.bind, hFailure]⟩
  | some a =>
    have hOk : m s = .ok (a, s') := h
    -- what is found is handed on, along with the tokens behind it
    have hBind : (m >>= f) s = f a s' := by
      simp only [Bind.bind, StateT.bind, Except.bind, hOk]
    rw [hBind]
    exact hNext a

theorem Yields.pure (a : α) (s : NodeReader) : Yields ((Pure.pure a : NodeM α) s) (some a) s := rfl

theorem Yields.of_eq_ok {result : Except DocumentFailure (α × NodeReader)} {a : α}
    (h : result = .ok (a, s)) : Yields result (some a) s := h

/-- What is made of what a reader yields. -/
theorem Yields.map {result : Except DocumentFailure (α × NodeReader)} {found : Option α}
    (h : Yields result found s) (f : α → β) :
    Yields (result.map fun p => (f p.1, p.2)) (found.map f) s := by
  cases found with
  | none =>
    obtain ⟨failure, hFailure⟩ := h
    exact ⟨failure, by rw [hFailure]; rfl⟩
  | some a =>
    have hOk : result = .ok (a, s) := h
    rw [hOk]
    rfl

end Yields

/-! ## Tokens -/

/-- What is left of the tokens. -/
def NodeReader.at (s : NodeReader) (tokens : List Token) : NodeReader := { s with tokens }

variable {s : NodeReader} {t : Token} {tokens : List Token}

/-- A token is taken exactly if it is the one that is looked for. -/
theorem takeIf_eq (other : Token) : takeIf other (s.at (t :: tokens)) =
    if some t = some other then .ok (true, s.at tokens) else .ok (false, s.at (t :: tokens)) := by
  have hRead : takeIf other (s.at (t :: tokens)) =
      (if some t = some other then take >>= fun _ => pure true else pure false : NodeM Bool)
        (s.at (t :: tokens)) := rfl
  rw [hRead]
  split <;> rfl

theorem takeIf_same : takeIf t (s.at (t :: tokens)) = .ok (true, s.at tokens) :=
  (takeIf_eq t).trans (if_pos rfl)

theorem takeIf_other {other : Token} (h : t ≠ other) :
    takeIf other (s.at (t :: tokens)) = .ok (false, s.at (t :: tokens)) :=
  (takeIf_eq other).trans (if_neg fun hSame => h (Option.some.inj hSame))

theorem expect_same : NodeM.expect t (s.at (t :: tokens)) = .ok ((), s.at tokens) := by
  simp only [NodeM.expect, bind, StateT.bind, takeIf_same, Except.bind, Bool.not_true, Bool.false_eq_true,
    if_false]
  rfl

/-- Another token than the one that has to follow makes the text unreadable. -/
theorem expect_other {other : Token} (h : t ≠ other) :
    NodeM.expect other (s.at (t :: tokens)) = .error .unreadable := by
  simp only [NodeM.expect, bind, StateT.bind, takeIf_other h, Except.bind, Bool.not_false, if_true]
  rfl

/-- The tokens that nodes of JSON begin with. -/
inductive StartsNode : Token → Prop where
  | scalar (text : Text) (plain : Bool) : StartsNode (.scalar text plain)
  | sequence : StartsNode .flowSequenceStart
  | mapping : StartsNode .flowMappingStart

/-- A scalar is a node; in quotes it is a text, and else its text tells its tag. -/
theorem node_scalar (block : Bool) (fuel : Nat) (text : Text) (plain : Bool) :
    node block false (fuel + 1) (s.at (.scalar text plain :: tokens)) =
      .ok (.scalar (if plain then Tag.ofText text else .string) text, s.at tokens) := by
  rw [node]
  rfl

theorem sequenceOf_eq (items : NodeM (List Node)) :
    sequenceOf {} items s = (items s).map fun p => (.sequence .sequence p.1, p.2) := by
  have hStart : sequenceOf {} items s = (items >>= fun ns => pure (.sequence .sequence ns)) s := rfl
  rw [hStart]
  simp only [bind, StateT.bind, Except.bind]
  cases items s <;> rfl

theorem mappingOf_eq (entries : NodeM (List (Node × Node))) :
    mappingOf {} entries s = (entries s).map fun p => (.mapping .mapping p.1, p.2) := by
  have hStart : mappingOf {} entries s = (entries >>= fun es => pure (.mapping .mapping es)) s := rfl
  rw [hStart]
  simp only [bind, StateT.bind, Except.bind]
  cases entries s <;> rfl

/-- Behind an opening bracket the items of a sequence are read. -/
theorem node_sequence (block : Bool) (fuel : Nat) :
    node block false (fuel + 1) (s.at (.flowSequenceStart :: tokens)) =
      (flowItems true fuel (s.at tokens)).map fun p => (.sequence .sequence p.1, p.2) := by
  rw [node, ← sequenceOf_eq]
  rfl

/-- Behind an opening brace the entries of a mapping are read. -/
theorem node_mapping (block : Bool) (fuel : Nat) :
    node block false (fuel + 1) (s.at (.flowMappingStart :: tokens)) =
      (flowEntries true fuel (s.at tokens)).map fun p => (.mapping .mapping p.1, p.2) := by
  rw [node, ← mappingOf_eq]
  rfl

/-! ## Collections -/

/-- The comma in front of an item that is not the first. -/
def commaBefore (first : Bool) : List Token := if first then [] else [.flowEntry]

/-- A closing bracket ends the items. -/
theorem flowItems_end (first : Bool) (fuel : Nat) :
    flowItems first (fuel + 1) (s.at (.flowSequenceEnd :: tokens)) = .ok ([], s.at tokens) := by
  rw [flowItems]
  simp only [bind, StateT.bind, takeIf_same, Except.bind, if_true]
  rfl

/-- A closing brace ends the entries. -/
theorem flowEntries_end (first : Bool) (fuel : Nat) :
    flowEntries first (fuel + 1) (s.at (.flowMappingEnd :: tokens)) = .ok ([], s.at tokens) := by
  rw [flowEntries]
  simp only [bind, StateT.bind, takeIf_same, Except.bind, if_true]
  rfl

/-- An item, and those behind it. -/
theorem flowItems_item (first : Bool) (fuel : Nat) (h : StartsNode t) :
    flowItems first (fuel + 1) (s.at (commaBefore first ++ t :: tokens)) =
      (node false false fuel >>= fun n => flowItems false fuel >>= fun others =>
        pure (n :: others)) (s.at (t :: tokens)) := by
  have hEnd : t ≠ .flowSequenceEnd := by cases h <;> exact Token.noConfusion
  have hKey : t ≠ .key := by cases h <;> exact Token.noConfusion
  rw [flowItems]
  -- the first item has no comma in front of it
  cases first with
  | true =>
    simp only [commaBefore, if_true, List.nil_append, bind, StateT.bind, takeIf_other hEnd,
      takeIf_other hKey, Except.bind, Bool.false_eq_true, if_false, Bool.not_true]
  | false =>
    have hComma : Token.flowEntry ≠ .flowSequenceEnd := Token.noConfusion
    simp only [commaBefore, if_false, List.cons_append, List.nil_append, bind, StateT.bind,
      takeIf_other hComma, expect_same, takeIf_other hEnd, takeIf_other hKey, Except.bind,
      Bool.false_eq_true, Bool.not_false, if_true]

/-- In front of any other token a node is read. -/
theorem unlessBefore_eq {stops : List Token} (h : t ∉ stops) (read : NodeM Node) :
    unlessBefore stops read (s.at (t :: tokens)) = read (s.at (t :: tokens)) := by
  have hNone : ¬stops.contains t = true := fun hStop => h (List.contains_iff_mem.mp hStop)
  have hRead : unlessBefore stops read (s.at (t :: tokens)) =
      (if stops.contains t = true then pure .empty else read) (s.at (t :: tokens)) := rfl
  rw [hRead, if_neg hNone]

/-- An entry with a key, and those behind it. -/
theorem flowEntries_key (first : Bool) (fuel : Nat) (h : StartsNode t) (text : Text) :
    flowEntries first (fuel + 2)
        (s.at (commaBefore first ++ .key :: .scalar text false :: .value :: t :: tokens)) =
      (node false false (fuel + 1) >>= fun n => flowEntries false (fuel + 1) >>= fun others =>
        pure ((Node.scalar .string text, n) :: others)) (s.at (t :: tokens)) := by
  have hKeyEnd : Token.key ≠ .flowMappingEnd := Token.noConfusion
  -- the key is a quoted scalar, and the value is what is read behind the colon
  have hKey {rest : List Token} : unlessBefore (.value :: [.flowEntry, .flowMappingEnd])
      (node false false (fuel + 1)) (s.at (.scalar text false :: rest)) =
        .ok (.scalar .string text, s.at rest) := by
    rw [unlessBefore_eq (by simp), node_scalar]
    rfl
  have hStop : t ∉ [Token.flowEntry, .flowMappingEnd] := by cases h <;> simp
  have hValue : valueUnlessBefore [.flowEntry, .flowMappingEnd] (node false false (fuel + 1))
      (s.at (.value :: t :: tokens)) = node false false (fuel + 1) (s.at (t :: tokens)) := by
    simp only [valueUnlessBefore, bind, StateT.bind, takeIf_same, Except.bind, if_true,
      unlessBefore_eq hStop]
  rw [flowEntries]
  cases first with
  | true =>
    simp only [commaBefore, if_true, List.nil_append, bind, StateT.bind, takeIf_other hKeyEnd,
      takeIf_same, hKey, hValue, Except.bind, Bool.false_eq_true, if_false, Bool.not_true]
    cases node false false (fuel + 1) (s.at (t :: tokens)) <;> rfl
  | false =>
    have hComma : Token.flowEntry ≠ .flowMappingEnd := Token.noConfusion
    simp only [commaBefore, if_false, List.cons_append, List.nil_append, bind, StateT.bind,
      takeIf_other hComma, expect_same, takeIf_other hKeyEnd, takeIf_same, hKey, hValue, Except.bind,
      Bool.false_eq_true, Bool.not_false, if_true]
    cases node false false (fuel + 1) (s.at (t :: tokens)) <;> rfl

/-- Behind an entry without a key there is no place for a value. -/
theorem flowEntries_value (first : Bool) (fuel : Nat) (text : Text) :
    flowEntries first (fuel + 2) (s.at (commaBefore first ++ .scalar text false :: .value :: tokens)) =
      .error .unreadable := by
  have hEnd : Token.scalar text false ≠ .flowMappingEnd := Token.noConfusion
  have hKey : Token.scalar text false ≠ .key := Token.noConfusion
  -- the colon stands where a comma or the brace has to
  have hRest : flowEntries false (fuel + 1) (s.at (.value :: tokens)) = .error .unreadable := by
    have hValue : Token.value ≠ .flowMappingEnd := Token.noConfusion
    have hComma : Token.value ≠ .flowEntry := Token.noConfusion
    rw [flowEntries]
    simp only [bind, StateT.bind, takeIf_other hValue, expect_other hComma, Except.bind,
      Bool.false_eq_true, if_false, Bool.not_false, if_true]
  have hBehind (f : List (Node × Node) → NodeM (List (Node × Node))) :
      (flowEntries false (fuel + 1) >>= f) (s.at (.value :: tokens)) = .error .unreadable := by
    simp only [bind, StateT.bind, hRest, Except.bind]
  rw [flowEntries]
  cases first with
  | true =>
    simp only [commaBefore, if_true, List.nil_append, bind, StateT.bind, takeIf_other hEnd,
      takeIf_other hKey, node_scalar, Except.bind, Bool.false_eq_true, if_false, Bool.not_true]
    exact hBehind fun others => pure ((.scalar .string text, .empty) :: others)
  | false =>
    have hComma : Token.flowEntry ≠ .flowMappingEnd := Token.noConfusion
    simp only [commaBefore, if_false, List.cons_append, List.nil_append, bind, StateT.bind,
      takeIf_other hComma, expect_same, takeIf_other hEnd, takeIf_other hKey, node_scalar,
      Except.bind, Bool.false_eq_true, Bool.not_false, if_true]
    exact hBehind fun others => pure ((.scalar .string text, .empty) :: others)

/-! ## The tokens of parts -/

/-- There are tokens of two parts if there are of each. -/
theorem join_eq_some {first second : Option (List Token)} (h : join first second = some tokens) :
    ∃ front behind, first = some front ∧ second = some behind ∧ tokens = front ++ behind := by
  obtain ⟨front, hFirst, h⟩ := Option.bind_eq_some_iff.mp h
  obtain ⟨behind, hSecond, rfl⟩ := Option.map_eq_some_iff.mp h
  exact ⟨front, behind, hFirst, hSecond, rfl⟩

/-- Blanks that can be cut are no tokens. -/
theorem eq_nil_of_blanks {b : Blanks} (h : b.tokens? = some tokens) : tokens = [] := by
  rw [Blanks.tokens?] at h
  split at h
  · cases h
  · exact (Option.some.inj h).symm

/-- Tokens between brackets are those inside, and the brackets. -/
theorem eq_of_enclosed {first last : Token} {inner : Option (List Token)}
    (h : enclosed first last inner = some tokens) :
    ∃ between, inner = some between ∧ tokens = first :: (between ++ [last]) := by
  obtain ⟨_, _, hFirst, hBehind, rfl⟩ := join_eq_some h
  obtain ⟨between, _, hInner, hLast, rfl⟩ := join_eq_some hBehind
  obtain rfl := Option.some.inj hFirst
  obtain rfl := Option.some.inj hLast
  exact ⟨between, hInner, rfl⟩

/-- A string that can be cut is one token. -/
theorem exists_of_quoted {pieces : List Piece} (h : Piece.tokens? pieces = some tokens) :
    ∃ text, Piece.node pieces = .scalar .string text ∧ tokens = [.scalar text false] := by
  obtain ⟨text, hFolded, rfl⟩ := Option.map_eq_some_iff.mp h
  exact ⟨.ofLetters text, by rw [Piece.node, hFolded, Option.getD_some], rfl⟩

/-- A name that can be cut is one token with the mark of a key in front, if it is taken for one. -/
theorem exists_of_name {n : Name} (h : n.tokens? = some tokens) :
    ∃ text, Piece.node n.pieces = .scalar .string text ∧
      tokens = (if n.isKey then [.key, .scalar text false] else [.scalar text false]) ++ [.value] := by
  obtain ⟨_, _, hBefore, hNamed, rfl⟩ := join_eq_some h
  obtain ⟨_, _, hColon, hBehind, rfl⟩ := join_eq_some hNamed
  obtain ⟨_, hScalar, rfl⟩ := Option.map_eq_some_iff.mp hColon
  obtain ⟨_, _, hPieces, hBetween, rfl⟩ := join_eq_some hScalar
  obtain ⟨text, hNode, rfl⟩ := exists_of_quoted hPieces
  refine ⟨text, hNode, ?_⟩
  rw [eq_nil_of_blanks hBefore, eq_nil_of_blanks hBetween, eq_nil_of_blanks hBehind]
  simp only [List.nil_append, List.append_nil]

theorem eq_of_blanks_join {b : Blanks} {second : Option (List Token)}
    (h : join b.tokens? second = some tokens) : second = some tokens := by
  obtain ⟨_, _, hBlanks, hSecond, rfl⟩ := join_eq_some h
  rw [eq_nil_of_blanks hBlanks]
  exact hSecond

theorem eq_of_join_blanks {b : Blanks} {first : Option (List Token)}
    (h : join first b.tokens? = some tokens) : first = some tokens := by
  obtain ⟨_, _, hFirst, hBlanks, rfl⟩ := join_eq_some h
  rw [eq_nil_of_blanks hBlanks, List.append_nil]
  exact hFirst

/-- The tokens of an item with a comma behind it, and of what comes then. -/
theorem exists_of_comma {b : Blanks} {item others : Option (List Token)}
    (h : join item (join b.tokens? (join (some [.flowEntry]) others)) = some tokens) :
    ∃ front behind, item = some front ∧ others = some behind ∧
      tokens = front ++ .flowEntry :: behind := by
  obtain ⟨front, _, hItem, hBehind, rfl⟩ := join_eq_some h
  obtain ⟨_, behind, hComma, hOthers, rfl⟩ := join_eq_some (eq_of_blanks_join hBehind)
  obtain rfl := Option.some.inj hComma
  exact ⟨front, behind, hItem, hOthers, rfl⟩

/-- The tokens of a value begin with one that a node begins with. -/
theorem startsNode_of_tokens? {v : Source} (h : v.tokens? = some tokens) :
    ∃ t more, tokens = t :: more ∧ StartsNode t := by
  -- a scalar is a token itself, and a collection begins with its opening mark
  cases v with
  | word | number =>
    obtain rfl := Option.some.inj h
    exact ⟨_, _, rfl, .scalar _ _⟩
  | string =>
    obtain ⟨text, -, rfl⟩ := exists_of_quoted h
    exact ⟨_, _, rfl, .scalar _ _⟩
  | emptyList | list =>
    obtain ⟨between, -, rfl⟩ := eq_of_enclosed h
    exact ⟨_, _, rfl, .sequence⟩
  | emptyObject | object =>
    obtain ⟨between, -, rfl⟩ := eq_of_enclosed h
    exact ⟨_, _, rfl, .mapping⟩

/-! ## Trees -/

section Trees

variable {block first : Bool} {fuel : Nat} {between behind : NodeReader}

/-- A list yields the sequence of its items. -/
theorem yields_sequence {items : Option (List Node)}
    (h : Yields (flowItems true fuel (s.at tokens)) items behind) :
    Yields (node block false (fuel + 1) (s.at (.flowSequenceStart :: tokens)))
      (items.map (.sequence .sequence)) behind := by
  rw [node_sequence]
  exact h.map (Node.sequence .sequence)

/-- An object yields the mapping of its members. -/
theorem yields_mapping {entries : Option (List (Node × Node))}
    (h : Yields (flowEntries true fuel (s.at tokens)) entries behind) :
    Yields (node block false (fuel + 1) (s.at (.flowMappingStart :: tokens)))
      (entries.map (.mapping .mapping)) behind := by
  rw [node_mapping]
  exact h.map (Node.mapping .mapping)

/-- An item is read, and then those behind it. -/
theorem yields_item {item : Option Node} {others : Option (List Node)} (hStart : StartsNode t)
    (hItem : Yields (node false false fuel (s.at (t :: tokens))) item between)
    (hOthers : Yields (flowItems false fuel between) others behind) :
    Yields (flowItems first (fuel + 1) (s.at (commaBefore first ++ t :: tokens)))
      (item.bind fun n => others.bind fun ns => some (n :: ns)) behind := by
  rw [flowItems_item first fuel hStart]
  exact hItem.bind fun n => hOthers.bind fun ns => .pure (n :: ns) behind

/-- An entry is read, and then those behind it. -/
theorem yields_entry {key : Text} {value : Option Node} {others : Option (List (Node × Node))}
    (hStart : StartsNode t)
    (hValue : Yields (node false false (fuel + 1) (s.at (t :: tokens))) value between)
    (hOthers : Yields (flowEntries false (fuel + 1) between) others behind) :
    Yields (flowEntries first (fuel + 2)
        (s.at (commaBefore first ++ .key :: .scalar key false :: .value :: t :: tokens)))
      (value.bind fun n => others.bind fun ns => some ((.scalar .string key, n) :: ns)) behind := by
  rw [flowEntries_key first fuel hStart]
  exact hValue.bind fun n => hOthers.bind fun ns => .pure ((.scalar .string key, n) :: ns) behind

end Trees

mutual

/-- **The node of a value is read off its tokens**, unless there is none. -/
theorem yields_source : ∀ (v : Source) {block : Bool} {fuel : Nat} {s : NodeReader}
    {tokens rest : List Token}, v.tokens? = some tokens → 2 * tokens.length ≤ fuel →
    Yields (node block false fuel (s.at (tokens ++ rest))) v.node? (s.at rest)
  | .word w, block, fuel, s, tokens, rest, h, hFuel => by
    obtain rfl := Option.some.inj h
    obtain ⟨fuel, rfl⟩ := Nat.exists_eq_add_of_le' (Nat.le_of_succ_le hFuel)
    exact node_scalar block fuel _ true
  | .number n, block, fuel, s, tokens, rest, h, hFuel => by
    obtain rfl := Option.some.inj h
    obtain ⟨fuel, rfl⟩ := Nat.exists_eq_add_of_le' (Nat.le_of_succ_le hFuel)
    exact node_scalar block fuel _ true
  | .string pieces, block, fuel, s, tokens, rest, h, hFuel => by
    obtain ⟨text, hNode, rfl⟩ := exists_of_quoted h
    obtain ⟨fuel, rfl⟩ := Nat.exists_eq_add_of_le' (Nat.le_of_succ_le hFuel)
    rw [Source.node?, hNode]
    exact node_scalar block fuel text false
  | .emptyList inner, block, fuel, s, tokens, rest, h, hFuel => by
    obtain ⟨between, hInner, rfl⟩ := eq_of_enclosed h
    obtain rfl := eq_nil_of_blanks hInner
    obtain ⟨fuel, rfl⟩ := Nat.exists_eq_add_of_le' (Nat.le_trans (by decide : 2 ≤ 4) hFuel)
    exact yields_sequence (.of_eq_ok (flowItems_end true fuel))
  | .list items, block, fuel, s, tokens, rest, h, hFuel => by
    obtain ⟨between, hInner, rfl⟩ := eq_of_enclosed h
    -- the brackets pay for the node, and the items have fuel for themselves
    simp only [List.length_cons, List.length_append, List.length_nil] at hFuel
    obtain ⟨fuel, rfl⟩ := Nat.exists_eq_add_of_le' (by omega : 1 ≤ fuel)
    rw [List.cons_append, List.append_assoc]
    exact yields_sequence (yields_items items true hInner (by omega))
  | .emptyObject inner, block, fuel, s, tokens, rest, h, hFuel => by
    obtain ⟨between, hInner, rfl⟩ := eq_of_enclosed h
    obtain rfl := eq_nil_of_blanks hInner
    obtain ⟨fuel, rfl⟩ := Nat.exists_eq_add_of_le' (Nat.le_trans (by decide : 2 ≤ 4) hFuel)
    exact yields_mapping (.of_eq_ok (flowEntries_end true fuel))
  | .object members, block, fuel, s, tokens, rest, h, hFuel => by
    obtain ⟨between, hInner, rfl⟩ := eq_of_enclosed h
    simp only [List.length_cons, List.length_append, List.length_nil] at hFuel
    obtain ⟨fuel, rfl⟩ := Nat.exists_eq_add_of_le' (by omega : 1 ≤ fuel)
    rw [List.cons_append, List.append_assoc]
    exact yields_mapping (yields_members members true hInner (by omega))

/-- The nodes of items are read up to the bracket. -/
theorem yields_items : ∀ (items : Items) (first : Bool) {fuel : Nat} {s : NodeReader}
    {tokens rest : List Token}, items.tokens? = some tokens → 2 * tokens.length + 1 ≤ fuel →
    Yields (flowItems first fuel (s.at (commaBefore first ++ (tokens ++ .flowSequenceEnd :: rest))))
      items.nodes? (s.at rest)
  -- by recursion on the items: each takes its own tokens, and the bracket ends them
  | .last before item after, first, fuel, s, tokens, rest, h, hFuel => by
    have hItem := eq_of_join_blanks (eq_of_blanks_join h)
    obtain ⟨t, more, rfl, hStart⟩ := startsNode_of_tokens? hItem
    rw [List.length_cons] at hFuel
    obtain ⟨fuel, rfl⟩ := Nat.exists_eq_add_of_le' (by omega : 2 ≤ fuel)
    exact yields_item hStart (yields_source item hItem (by rw [List.length_cons]; omega))
      (.of_eq_ok (flowItems_end false fuel))
  | .more before item after others, first, fuel, s, tokens, rest, h, hFuel => by
    obtain ⟨front, behind, hItem, hOthers, rfl⟩ := exists_of_comma (eq_of_blanks_join h)
    obtain ⟨t, more, rfl, hStart⟩ := startsNode_of_tokens? hItem
    simp only [List.length_cons, List.length_append] at hFuel
    obtain ⟨fuel, rfl⟩ := Nat.exists_eq_add_of_le' (by omega : 1 ≤ fuel)
    rw [List.append_assoc]
    exact yields_item hStart (yields_source item hItem (by rw [List.length_cons]; omega))
      (yields_items others false hOthers (by omega))

/-- The nodes of entries are read up to the brace. -/
theorem yields_members : ∀ (members : Members) (first : Bool) {fuel : Nat} {s : NodeReader}
    {tokens rest : List Token}, members.tokens? = some tokens → 2 * tokens.length + 1 ≤ fuel →
    Yields (flowEntries first fuel (s.at (commaBefore first ++ (tokens ++ .flowMappingEnd :: rest))))
      members.nodes? (s.at rest)
  | .last name item after, first, fuel, s, tokens, rest, h, hFuel => by
    obtain ⟨_, _, hName, hBehind, rfl⟩ := join_eq_some h
    have hItem := eq_of_join_blanks hBehind
    obtain ⟨key, hKey, rfl⟩ := exists_of_name hName
    obtain ⟨t, more, rfl, hStart⟩ := startsNode_of_tokens? hItem
    rw [Members.nodes?, hKey]
    simp only [List.length_cons, List.length_append, List.length_nil] at hFuel
    obtain ⟨fuel, rfl⟩ := Nat.exists_eq_add_of_le' (by omega : 2 ≤ fuel)
    -- behind a name that is no key the colon has no place
    cases hIsKey : name.isKey with
    | true =>
      rw [hIsKey] at hFuel
      simp only [if_true, List.length_cons, List.length_nil] at hFuel
      exact yields_entry hStart (yields_source item hItem (by rw [List.length_cons]; omega))
        (.of_eq_ok (flowEntries_end false fuel))
    | false => exact ⟨_, flowEntries_value first fuel key⟩
  | .more name item after others, first, fuel, s, tokens, rest, h, hFuel => by
    obtain ⟨_, _, hName, hBehind, rfl⟩ := join_eq_some h
    obtain ⟨front, behind, hItem, hOthers, rfl⟩ := exists_of_comma hBehind
    obtain ⟨key, hKey, rfl⟩ := exists_of_name hName
    obtain ⟨t, more, rfl, hStart⟩ := startsNode_of_tokens? hItem
    rw [Members.nodes?, hKey]
    simp only [List.length_cons, List.length_append, List.length_nil] at hFuel
    obtain ⟨fuel, rfl⟩ := Nat.exists_eq_add_of_le' (by omega : 2 ≤ fuel)
    cases hIsKey : name.isKey with
    | true =>
      rw [hIsKey] at hFuel
      simp only [if_true, List.length_cons, List.length_nil] at hFuel
      have hValue : Yields
          (node false false (fuel + 1)
            (s.at (t :: more ++ .flowEntry :: (behind ++ .flowMappingEnd :: rest))))
          item.node? (s.at (.flowEntry :: (behind ++ .flowMappingEnd :: rest))) :=
        yields_source item hItem (by rw [List.length_cons]; omega)
      have hRest : Yields
          (flowEntries false (fuel + 1) (s.at (.flowEntry :: (behind ++ .flowMappingEnd :: rest))))
          others.nodes? (s.at rest) :=
        yields_members others false hOthers (by omega)
      rw [List.append_assoc _ (_ ++ _), List.append_assoc (t :: more)]
      exact yields_entry hStart hValue hRest
    | false => exact ⟨_, flowEntries_value first fuel key⟩

end

/-! ## Documents -/

/-- A document that starts with a node is that node, up to the end of the stream. -/
theorem document_eq (fuel : Nat) (h : StartsNode t) :
    document fuel (s.at (t :: tokens)) =
      (node true false fuel >>= fun n => documentEnds fuel >>= fun _ => peek >>= fun last =>
        match last with
        | none => pure (some n)
        | some _ => fail) ({ s with handles := usualHandles }.at (t :: tokens)) := by
  cases h <;> rfl

/-- **The node of a JSON text is read off its tokens**, unless there is none. -/
theorem Node.ofTokens_eq {w : Whole} (h : w.tokens? = some tokens) :
    match w.source.node? with
    | none => ∃ failure, Node.ofTokens tokens none = .error failure
    | some n => Node.ofTokens tokens none = .ok (some n) := by
  have hSource := eq_of_join_blanks (eq_of_blanks_join h)
  obtain ⟨t, more, rfl, hStart⟩ := startsNode_of_tokens? hSource
  let s : NodeReader := { tokens := [], handles := usualHandles }
  have hNode : Yields (node true false (2 * (t :: more).length + 4) (s.at (t :: more ++ [])))
      w.source.node? (s.at []) :=
    yields_source w.source hSource (Nat.le_add_right _ 4)
  rw [List.append_nil] at hNode
  -- the stream is at its end behind the node
  have hEnd (n : Node) : Yields ((documentEnds (2 * (t :: more).length + 4) >>= fun _ =>
      peek >>= fun last =>
        match last with
        | none => pure (some n)
        | some _ => fail) (s.at [])) (some (some n)) (s.at []) := rfl
  have hAll := hNode.bind hEnd
  have hDocument : (document (2 * (t :: more).length + 4)).run { tokens := t :: more } = _ :=
    document_eq (s := { tokens := [] }) _ hStart
  rw [Node.ofTokens, hDocument]
  cases hFound : w.source.node? with
  | none =>
    rw [hFound] at hAll
    obtain ⟨failure, hFailure⟩ := hAll
    exact ⟨failure, congrArg (·.map (·.1)) hFailure⟩
  | some n =>
    rw [hFound] at hAll
    exact congrArg (·.map (·.1)) (hAll : _ = Except.ok _)

end Yaml

end BeaconCheck
