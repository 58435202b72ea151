import BeaconCheck.Proofs.Entries
import BeaconCheck.Proofs.Yaml.Reading

/-!
# The values of a JSON text in a document

A JSON text means in a document what it means by itself exactly if none of its parts is read
otherwise there. In an object this takes distinct names, since an entry that a later one replaces
may mean anything.

* `Json.portable`          — the parts that documents read as JSON does.
* `Yaml.build_sequence`, `Yaml.build_mapping` — the values of collections by those of their parts.
* `Json.kept_source`       — a value is kept exactly if its parts are portable.
-/

namespace BeaconCheck

open Yaml

namespace Json

/-- The parts that mean the same in a document: blanks without tabs, the words of the standard,
numbers as documents write them, strings that folding leaves alone and that escape no surrogate
pair, and such strings as names if they can be keys. -/
def portable : Traits where
  blanks b := '\t' ∉ b.text
  word w := w ∈ [.null, .yes, .no]
  number n := n.isCommon = true
  string pieces := Piece.folded pieces = some (pieces.map Piece.value)
  name n := ('\t' ∉ n.before.text ∧ '\t' ∉ n.between.text ∧ '\t' ∉ n.behind.text) ∧
    n.isKey = true ∧ Piece.folded n.pieces = some (n.pieces.map Piece.value)

/-- The names of each object are distinct. -/
def distinctNames : Traits where
  names names := names.Nodup

/-! ## Tokens there are -/

/-- Two parts are cut if each of them is. -/
theorem isSome_join {first second : Option (List Token)} :
    (join first second).isSome = true ↔ first.isSome = true ∧ second.isSome = true := by
  cases first with
  | none => exact iff_of_false Bool.false_ne_true fun h => Bool.false_ne_true h.1
  | some front => rw [join, Option.bind_some, Option.isSome_map, Option.isSome_some, eq_self, true_and]

/-- What stands between brackets is cut if the inside is. -/
theorem isSome_enclosed {first last : Token} {inner : Option (List Token)} :
    (enclosed first last inner).isSome = true ↔ inner.isSome = true := by
  simp only [enclosed, isSome_join, Option.isSome_some, true_and, and_true]

/-- Blanks are passed unless they hold a tab. -/
theorem isSome_blanks {b : Blanks} : b.tokens?.isSome = true ↔ '\t' ∉ b.text := by
  rw [Blanks.tokens?]
  split
  · next hTab => exact iff_of_false Bool.false_ne_true (not_not_intro hTab)
  · next hTab => exact iff_of_true rfl hTab

/-- A string is cut if it can be folded. -/
theorem isSome_string {pieces : List Piece} :
    (Piece.tokens? pieces).isSome = true ↔ (Piece.folded pieces).isSome = true := by
  rw [Piece.tokens?, Option.isSome_map]

/-- A key stands on one line. -/
theorem folded_of_isKey {n : Name} (h : n.isKey = true) :
    Piece.folded n.pieces = some (n.pieces.flatMap Piece.letters) := by
  refine Piece.folded_of_flat fun p hp c hc => ?_
  -- a key stands on one line, so that none of its pieces is a line end
  have hRaw : c ∈ p.text := by
    cases p with
    | char d _ => exact Option.some.inj hc ▸ List.mem_singleton_self _
    | _ => cases hc
  have hQuoted : c ∈ Piece.quoted n.pieces :=
    List.mem_cons_of_mem _ (List.mem_append_left _ (List.mem_flatMap.mpr ⟨p, hp, hRaw⟩))
  have hFlat := (Bool.and_eq_true_iff.mp h).1
  rw [Bool.not_eq_true', List.any_eq_false] at hFlat
  exact Bool.eq_false_iff.mpr (hFlat c (List.mem_append_left _ hQuoted))

/-- The name is cut, taken for a key and read as it is exactly if it is portable. -/
theorem portable_name_iff {n : Name} : portable.name n ↔ n.tokens?.isSome = true ∧
    n.isKey = true ∧ Piece.folded n.pieces = some (n.pieces.map Piece.value) := by
  have hFolded : n.isKey = true → (Piece.folded n.pieces).isSome = true := fun h => by
    rw [folded_of_isKey h]
    rfl
  simp only [Name.tokens?, isSome_join, isSome_blanks, Option.isSome_map, isSome_string, portable]
  tauto

end Json

namespace Yaml

open Json

/-! ## Values of nodes -/

namespace Built

variable {α β : Type}

/-- A pair is built of what both parts give. -/
theorem both_eq_ok {a : Built α} {b : Built β} {p : α × β} :
    both a b = .ok p ↔ a = .ok p.1 ∧ b = .ok p.2 := by
  cases a <;> cases b <;> simp [both, Prod.ext_iff]

theorem all_nil : all ([] : List (Built α)) = .ok [] := rfl

/-- A list is built item by item. -/
theorem all_cons_eq_ok {r : Built α} {rest : List (Built α)} {as : List α} :
    all (r :: rest) = .ok as ↔ ∃ a others, r = .ok a ∧ all rest = .ok others ∧ as = a :: others := by
  rw [all]
  cases r <;> cases all rest <;> simp [both, Except.map, eq_comm]

theorem all_cons_eq_ok_cons {r : Built α} {rest : List (Built α)} {a : α} {others : List α} :
    all (r :: rest) = .ok (a :: others) ↔ r = .ok a ∧ all rest = .ok others := by
  rw [all_cons_eq_ok]
  constructor
  · rintro ⟨_, _, hFirst, hOthers, ⟨⟩⟩
    exact ⟨hFirst, hOthers⟩
  · rintro ⟨hFirst, hOthers⟩
    exact ⟨a, others, hFirst, hOthers, rfl⟩

/-- What is built inside of something is the same as by itself. -/
theorem inside_map_eq_ok {r : Built α} {f : α → β} (hf : Function.Injective f) {a : α} :
    (inside r).map f = .ok (f a) ↔ r = .ok a := by
  cases r with
  | error e => exact iff_of_false nofun nofun
  | ok b => simp [inside, Except.mapError, Except.map, hf.eq_iff]

end Built

/-- A value is one that could be built. -/
theorem Node.toValue_eq_ok (n : Node) {v : Value} : n.toValue = .ok v ↔ n.build = .ok v := by
  rw [Node.toValue]
  cases n.build with
  | error e => exact iff_of_false nofun nofun
  | ok found => simp only [Except.mapError, Except.ok.injEq]

/-- The entries that keys and values give. -/
def ownEntries (es : List (Node × Node)) : List (Built (Scalar × Value)) :=
  es.map fun e => Built.both e.1.build.key e.2.build

/-- Items are built one by one. -/
theorem buildItems_eq (ns : List Node) : buildItems ns = ns.map Node.build := by
  induction ns with
  | nil => rw [buildItems, List.map_nil]
  | cons n ns ih => rw [buildItems, ih, List.map_cons]

/-- A list is built of the values of its items. -/
theorem build_sequence {ns : List Node} {vs : List Value} :
    (Node.sequence .sequence ns).build = .ok (.list vs) ↔ Built.all (ns.map Node.build) = .ok vs := by
  rw [Node.build, buildItems_eq]
  exact Built.inside_map_eq_ok fun _ _ => Value.list.inj

/-- Where all keys are strings, nothing is merged into a mapping. -/
theorem flatten_eq {es : List (Node × Node)} {names : List Text}
    (h : es.map Prod.fst = names.map (Node.scalar .string)) :
    flatten es = some { own := ownEntries es } := by
  -- by induction on the entries: a key that is a quoted text asks for no merging
  induction es generalizing names with
  | nil =>
    rw [flatten]
    rfl
  | cons e es ih =>
    obtain ⟨k, v⟩ := e
    cases names with
    | nil => cases h
    | cons name names =>
      obtain ⟨rfl, hRest⟩ := List.cons.inj h
      have hMerge : Node.tag (.scalar .string name) ≠ .merge := Tag.noConfusion
      have hValue : Node.tag (.scalar .string name) ≠ .value := Tag.noConfusion
      rw [flatten, if_neg hMerge, if_neg hValue, ih hRest]
      rfl

/-- Each item gives one value. -/
theorem Built.length_of_all {α : Type} {rs : List (Built α)} {as : List α}
    (h : Built.all rs = .ok as) : as.length = rs.length := by
  induction rs generalizing as with
  | nil =>
    cases h
    rfl
  | cons r rs ih =>
    obtain ⟨a, others, -, hOthers, rfl⟩ := Built.all_cons_eq_ok.mp h
    rw [List.length_cons, List.length_cons, ih hOthers]

/-- Names with their values are an object of as many entries exactly if they have the values. -/
theorem build_mapping {es : List (Node × Node)} {names : List Text} {pairs : List (Scalar × Value)}
    (hNames : es.map Prod.fst = names.map (Node.scalar .string)) (hLength : pairs.length = es.length)
    (hApart : Entries.ofPairs pairs = pairs) :
    (Node.mapping .mapping es).build = .ok (.object (Entries.ofPairs pairs)) ↔
      Built.all (ownEntries es) = .ok pairs := by
  rw [Node.build, buildEntries, flatten_eq hNames]
  simp only [Flattened.entries, List.nil_append]
  constructor
  · intro h
    cases hAll : Built.all (ownEntries es) with
    | error e =>
      rw [hAll] at h
      cases h
    | ok found =>
      rw [hAll] at h
      have hSame : Entries.ofPairs found = Entries.ofPairs pairs :=
        Value.object.inj (Except.ok.inj h)
      -- there are as many entries as names, so that no name has replaced another
      have hFound : found.length = es.length :=
        (Built.length_of_all hAll).trans (List.length_map _)
      have hAll : Entries.ofPairs found = found :=
        Entries.ofPairs_of_length (by rw [hSame, hApart, hLength, hFound])
      rw [← hAll, hSame, hApart]
  · intro h
    rw [h]
    rfl

end Yaml

namespace Json

/-! ## Trees -/

/-- The value is the same in a document. -/
def Source.Kept (v : Source) : Prop :=
  v.tokens?.isSome = true ∧ ∃ n, v.node? = some n ∧ n.build = .ok v.value

/-- The values of the items are the same in a document. -/
def Items.Kept (items : Items) : Prop :=
  items.tokens?.isSome = true ∧
    ∃ ns, items.nodes? = some ns ∧ Built.all (ns.map Node.build) = .ok items.values

/-- The entries are the same in a document. -/
def Members.Kept (members : Members) : Prop :=
  members.tokens?.isSome = true ∧
    ∃ es, members.nodes? = some es ∧ Built.all (ownEntries es) = .ok members.entries

/-- The node of a key is the text that its pieces are read as. -/
theorem node_of_isKey {n : Name} (h : n.isKey = true) :
    Piece.node n.pieces = .scalar .string (.ofLetters (n.pieces.flatMap Piece.letters)) := by
  rw [Piece.node, folded_of_isKey h]
  rfl

/-- The keys of the nodes are strings, one for each name. -/
theorem exists_names_of_nodes? : ∀ {members : Members} {es : List (Node × Node)},
    members.nodes? = some es → ∃ names : List Text,
      es.map Prod.fst = names.map (Node.scalar .string) ∧ members.entries.length = es.length
  -- by recursion on the members, each with a name that may be a key
  | .last name item after, es, h => by
    rw [Members.nodes?] at h
    split at h
    · next hKey =>
      obtain ⟨n, -, hLast⟩ := Option.bind_eq_some_iff.mp h
      obtain rfl := Option.some.inj hLast
      exact ⟨[_], by rw [List.map_singleton, node_of_isKey hKey]; rfl, rfl⟩
    · cases h
  | .more name item after rest, es, h => by
    rw [Members.nodes?] at h
    split at h
    · next hKey =>
      obtain ⟨n, -, hMore⟩ := Option.bind_eq_some_iff.mp h
      obtain ⟨others, hRest, hLast⟩ := Option.bind_eq_some_iff.mp hMore
      obtain rfl := Option.some.inj hLast
      obtain ⟨names, hNames, hLength⟩ := exists_names_of_nodes? hRest
      refine ⟨.ofLetters (name.pieces.flatMap Piece.letters) :: names, ?_,
        congrArg Nat.succ hLength⟩
      rw [List.map_cons, node_of_isKey hKey, hNames]
      rfl
    · cases h

/-- The keys of an object are the names of its members. -/
theorem names_of_entries : ∀ members : Members,
    members.entries.map Prod.fst = members.names.map Scalar.text
  | .last _ _ _ => rfl
  | .more name _ _ rest =>
    congrArg (Scalar.text (Piece.string name.pieces) :: ·) (names_of_entries rest)

/-- Distinct names are the keys of as many entries. -/
theorem ofPairs_entries {members : Members} (h : members.names.Nodup) :
    Entries.ofPairs members.entries = members.entries := by
  refine Entries.ofPairs_of_apart ?_
  rw [names_of_entries, List.pairwise_map]
  exact h.imp fun hNe => beq_eq_false_iff_ne.mpr hNe

/-- The words of JSON are kept, but for those of numbers that are not finite. -/
theorem kept_word (w : Word) : (Source.word w).Kept ↔ portable.word w := by
  have hBuild : (plainNode w.text).build = .ok (match w with
      | .null => .null
      | .yes => .bool true
      | .no => .bool false
      | w => .text (String.ofList w.text)) := by
    cases w <;> (rw [plainNode, Node.build]; rfl)
  have hWords : portable.word w ↔ w ∈ [Word.null, .yes, .no] := Iff.rfl
  rw [hWords]
  constructor
  · rintro ⟨-, n, hNode, hValue⟩
    obtain rfl := Option.some.inj hNode
    rw [hBuild] at hValue
    cases w
    case null | yes | no => decide
    -- the words for what is not finite are texts here
    case nan | infinity | minusInfinity => cases hValue
  · intro h
    refine ⟨rfl, _, rfl, hBuild.trans ?_⟩
    simp only [List.mem_cons, List.not_mem_nil, or_false] at h
    rcases h with rfl | rfl | rfl <;> rfl

/-- A number that is not common is a text in a document. -/
theorem build_number (n : NumberText) : (plainNode n.text).build =
    .ok (if n.isCommon then n.value else .text (String.ofList n.text)) := by
  rw [plainNode, Node.build]
  exact n.scalarValue_text

/-- A number is kept exactly if its form is common to both. -/
theorem kept_number (n : NumberText) : (Source.number n).Kept ↔ portable.number n := by
  -- a number that is not common is kept as a text, which is no number
  have hText (s : Text) : n.value ≠ .text s := by
    rw [NumberText.value]
    split <;> (intro h; cases h)
  constructor
  · rintro ⟨-, m, hNode, hValue⟩
    obtain rfl := Option.some.inj hNode
    rw [build_number] at hValue
    by_contra hRare
    have hRare : ¬n.isCommon = true := hRare
    rw [if_neg hRare] at hValue
    exact hText _ (Except.ok.inj hValue).symm
  · intro h
    exact ⟨rfl, _, rfl, (build_number n).trans (congrArg _ (if_pos h))⟩

/-- A string in a document has the letters that are left when it is folded. -/
theorem build_string {pieces : List Piece} {text : List Letter}
    (h : Piece.folded pieces = some text) :
    (Piece.node pieces).build = .ok (.text (.ofLetters text)) := by
  rw [Piece.node, h, Node.build]
  rfl

/-- A string is kept exactly if folding and reading escapes one by one leave it as it is. -/
theorem kept_string (pieces : List Piece) : (Source.string pieces).Kept ↔ portable.string pieces := by
  constructor
  · rintro ⟨hTokens, n, hNode, hValue⟩
    obtain rfl := Option.some.inj hNode
    obtain ⟨text, hText⟩ := Option.isSome_iff_exists.mp (isSome_string.mp hTokens)
    rw [build_string hText] at hValue
    have hSame : Text.ofLetters text = Piece.string pieces :=
      Scalar.text.inj (Value.scalar.inj (Except.ok.inj hValue))
    exact hText.trans (congrArg some (Text.ofLetters_injective hSame))
  · intro h
    exact ⟨isSome_string.mpr (by rw [h]; rfl), _, rfl, build_string h⟩

theorem kept_emptyList {inner : Blanks} : (Source.emptyList inner).Kept ↔ portable.blanks inner := by
  refine Iff.trans ?_ isSome_blanks
  refine Iff.trans (and_iff_left ⟨_, rfl, ?_⟩) isSome_enclosed
  exact build_sequence.mpr rfl

theorem kept_emptyObject {inner : Blanks} :
    (Source.emptyObject inner).Kept ↔ portable.blanks inner := by
  refine Iff.trans ?_ isSome_blanks
  refine Iff.trans (and_iff_left ⟨_, rfl, ?_⟩) isSome_enclosed
  have hNames : ([] : List (Node × Node)).map Prod.fst = ([] : List Text).map (.scalar .string) := rfl
  exact (build_mapping hNames rfl rfl).mpr rfl

/-- A list is kept if its items are. -/
theorem kept_list {items : Items} : (Source.list items).Kept ↔ items.Kept := by
  refine and_congr isSome_enclosed ?_
  cases hNodes : items.nodes? with
  | none => simp [Source.node?, hNodes]
  | some ns => simp [Source.node?, hNodes, Source.value, build_sequence]

/-- An object with distinct names is kept if its members are. -/
theorem kept_object {members : Members} (h : members.names.Nodup) :
    (Source.object members).Kept ↔ members.Kept := by
  refine and_congr isSome_enclosed ?_
  cases hNodes : members.nodes? with
  | none => simp [Source.node?, hNodes]
  | some es =>
    obtain ⟨names, hNames, hLength⟩ := exists_names_of_nodes? hNodes
    have hBuild := build_mapping hNames hLength (ofPairs_entries h)
    simp [Source.node?, hNodes, Source.value, hBuild]

theorem kept_last_item {before after : Blanks} {item : Source} :
    (Items.last before item after).Kept ↔
      '\t' ∉ before.text ∧ item.Kept ∧ '\t' ∉ after.text := by
  have hNodes : (∃ ns, (Items.last before item after).nodes? = some ns ∧
      Built.all (ns.map Node.build) = .ok (Items.last before item after).values) ↔
      ∃ n, item.node? = some n ∧ n.build = .ok item.value := by
    cases hNode : item.node? with
    | none => simp [Items.nodes?, hNode]
    | some n => simp [Items.nodes?, hNode, Items.values, Built.all_cons_eq_ok_cons, Built.all_nil]
  simp only [Items.Kept, Source.Kept, Items.tokens?, isSome_join, isSome_blanks, hNodes]
  tauto

theorem kept_more_items {before after : Blanks} {item : Source} {rest : Items} :
    (Items.more before item after rest).Kept ↔
      '\t' ∉ before.text ∧ item.Kept ∧ '\t' ∉ after.text ∧ rest.Kept := by
  -- the values are kept if those of the first item and those of the rest are
  have hNodes : (∃ ns, (Items.more before item after rest).nodes? = some ns ∧
      Built.all (ns.map Node.build) = .ok (Items.more before item after rest).values) ↔
      (∃ n, item.node? = some n ∧ n.build = .ok item.value) ∧
        ∃ ns, rest.nodes? = some ns ∧ Built.all (ns.map Node.build) = .ok rest.values := by
    cases hNode : item.node? with
    | none => simp [Items.nodes?, hNode]
    | some n =>
      cases hRest : rest.nodes? with
      | none => simp [Items.nodes?, hNode, hRest]
      | some ns => simp [Items.nodes?, hNode, hRest, Items.values, Built.all_cons_eq_ok_cons]
  simp only [Items.Kept, Source.Kept, Items.tokens?, isSome_join, isSome_blanks, hNodes,
    Option.isSome_some]
  tauto

/-- An entry has its name and its value exactly if the name is read as it is and its node has the
value. -/
theorem own_entry_eq_ok {name : Name} (hKey : name.isKey = true) {n : Node} {v : Value} :
    Built.both (Piece.node name.pieces).build.key n.build =
        .ok (.text (Piece.string name.pieces), v) ↔
      Piece.folded name.pieces = some (name.pieces.map Piece.value) ∧ n.build = .ok v := by
  rw [node_of_isKey hKey, Built.both_eq_ok, Node.build, folded_of_isKey hKey]
  refine and_congr_left' ⟨fun h => ?_, fun h => ?_⟩
  · exact congrArg some (Text.ofLetters_injective (Scalar.text.inj (Except.ok.inj h)))
  · rw [Option.some.inj h]
    rfl

theorem kept_last_member {name : Name} {item : Source} {after : Blanks} :
    (Members.last name item after).Kept ↔
      portable.name name ∧ item.Kept ∧ '\t' ∉ after.text := by
  -- the name has to be a key that is folded to what it says
  have hNodes : (∃ es, (Members.last name item after).nodes? = some es ∧
      Built.all (ownEntries es) = .ok (Members.last name item after).entries) ↔
      (name.isKey = true ∧ Piece.folded name.pieces = some (name.pieces.map Piece.value)) ∧
        ∃ n, item.node? = some n ∧ n.build = .ok item.value := by
    cases hKey : name.isKey with
    | false => simp [Members.nodes?, hKey]
    | true =>
      cases hNode : item.node? with
      | none => simp [Members.nodes?, hNode]
      | some n =>
        simp [Members.nodes?, hNode, hKey, Members.entries, ownEntries, Built.all_cons_eq_ok_cons,
          Built.all_nil, own_entry_eq_ok hKey]
  rw [portable_name_iff]
  simp only [Members.Kept, Source.Kept, Members.tokens?, isSome_join, isSome_blanks, hNodes]
  tauto

theorem kept_more_members {name : Name} {item : Source} {after : Blanks} {rest : Members} :
    (Members.more name item after rest).Kept ↔
      portable.name name ∧ item.Kept ∧ '\t' ∉ after.text ∧ rest.Kept := by
  -- as for the last member, with the rest of them besides
  have hNodes : (∃ es, (Members.more name item after rest).nodes? = some es ∧
      Built.all (ownEntries es) = .ok (Members.more name item after rest).entries) ↔
      (name.isKey = true ∧ Piece.folded name.pieces = some (name.pieces.map Piece.value)) ∧
        (∃ n, item.node? = some n ∧ n.build = .ok item.value) ∧
        ∃ es, rest.nodes? = some es ∧ Built.all (ownEntries es) = .ok rest.entries := by
    cases hKey : name.isKey with
    | false => simp [Members.nodes?, hKey]
    | true =>
      cases hNode : item.node? with
      | none => simp [Members.nodes?, hNode]
      | some n =>
        cases hRest : rest.nodes? with
        | none => simp [Members.nodes?, hNode, hRest]
        | some es =>
          simp [Members.nodes?, hNode, hRest, hKey, Members.entries, ownEntries,
            Built.all_cons_eq_ok_cons, own_entry_eq_ok hKey, and_assoc]
  rw [portable_name_iff]
  simp only [Members.Kept, Source.Kept, Members.tokens?, isSome_join, isSome_blanks, hNodes,
    Option.isSome_some]
  tauto

mutual

/-- **A value is kept exactly if its parts are portable.** -/
theorem kept_source : ∀ v : Source, v.Has distinctNames → (v.Kept ↔ v.Has portable)
  | .word w, _ => kept_word w
  | .number n, _ => kept_number n
  | .string pieces, _ => kept_string pieces
  | .emptyList _, _ => kept_emptyList
  | .list items, h => kept_list.trans (kept_items items h)
  | .emptyObject _, _ => kept_emptyObject
  | .object members, h =>
    (kept_object h.1).trans ((kept_members members h.2).trans (and_iff_right trivial).symm)

theorem kept_items : ∀ items : Items, items.Have distinctNames → (items.Kept ↔ items.Have portable)
  | .last _ item _, h =>
    kept_last_item.trans (and_congr_right' (and_congr_left' (kept_source item h.2.1)))
  | .more _ item _ rest, h =>
    kept_more_items.trans (and_congr_right' (and_congr (kept_source item h.2.1)
      (and_congr_right' (kept_items rest h.2.2.2))))

theorem kept_members : ∀ members : Members, members.Have distinctNames →
    (members.Kept ↔ members.Have portable)
  | .last _ item _, h =>
    kept_last_member.trans (and_congr_right' (and_congr_left' (kept_source item h.2.1)))
  | .more _ item _ rest, h =>
    kept_more_members.trans (and_congr_right' (and_congr (kept_source item h.2.1)
      (and_congr_right' (kept_members rest h.2.2.2))))

end

end Json

end BeaconCheck
