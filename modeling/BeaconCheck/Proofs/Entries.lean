import Mathlib.Data.List.Basic
import Mathlib.Data.List.Induction
import BeaconCheck.Entries

/-!
# Entries that pairs give

The entries made of a list of pairs have each key of a pair once, with the value of its last pair.
What holds of the pairs one by one holds of the entries.

* `Entries.forall_ofPairs`     — what holds of keys and values goes over to the entries.
* `Entries.nodup_keys_ofPairs` — no key is there twice.
* `Entries.ofPairs_of_apart`   — pairs of whose keys no two are alike stay as they are,
* `Entries.ofPairs_of_length`  — and so do pairs that give as many entries.
* `Entries.get?_ofPairs`       — the value of a key is that of its last pair.
-/

namespace BeaconCheck.Entries

variable {κ ν : Type} [BEq κ]

/-- The last pair is inserted last. -/
theorem ofPairs_concat (pairs : List (κ × ν)) (p : κ × ν) :
    ofPairs (pairs ++ [p]) = insert (ofPairs pairs) p.1 p.2 :=
  List.foldl_concat _ _ _ _

section Apart

/-- A key that is like none of those there goes to the end. -/
theorem insert_of_apart {entries : Entries κ ν} {key : κ}
    (h : ∀ k ∈ entries.map Prod.fst, (k == key) = false) (value : ν) :
    insert entries key value = entries ++ [(key, value)] := by
  induction entries with
  | nil => rfl
  | cons entry rest ih =>
    obtain ⟨k, v⟩ := entry
    obtain ⟨hKey, hRest⟩ := List.forall_mem_cons.mp h
    have hOther : ¬(k == key) = true := by
      rw [hKey]
      exact Bool.false_ne_true
    rw [insert, if_neg hOther, ih hRest]
    rfl

/-- Pairs of whose keys no two are alike are entries already. -/
theorem ofPairs_of_apart {pairs : List (κ × ν)}
    (h : (pairs.map Prod.fst).Pairwise fun a b => (a == b) = false) : ofPairs pairs = pairs := by
  induction pairs using List.reverseRecOn with
  | nil => rfl
  | append_singleton pairs p ih =>
    rw [List.map_append, List.pairwise_append] at h
    obtain ⟨hPairs, -, hApart⟩ := h
    have hNew : ∀ k ∈ pairs.map Prod.fst, (k == p.1) = false := fun k hk =>
      hApart k hk p.1 (List.mem_singleton_self _)
    rw [ofPairs_concat, ih hPairs, insert_of_apart hNew]

/-- A new entry goes to the end, or takes the place of one. -/
theorem insert_cases (entries : Entries κ ν) (key : κ) (value : ν) :
    insert entries key value = entries ++ [(key, value)] ∨
      (insert entries key value).length = entries.length := by
  induction entries with
  | nil => exact .inl rfl
  | cons entry rest ih =>
    obtain ⟨k, v⟩ := entry
    rw [insert]
    split
    · exact .inr rfl
    · exact ih.imp (congrArg _) (congrArg Nat.succ)

theorem length_ofPairs_le (pairs : List (κ × ν)) : (ofPairs pairs).length ≤ pairs.length := by
  induction pairs using List.reverseRecOn with
  | nil => exact Nat.le_refl _
  | append_singleton pairs p ih =>
    rw [ofPairs_concat, List.length_append]
    rcases insert_cases (ofPairs pairs) p.1 p.2 with h | h
    · rw [h, List.length_append]
      exact Nat.add_le_add_right ih _
    · rw [h]
      exact Nat.le_add_right_of_le ih

/-- Pairs that give as many entries have given one each. -/
theorem ofPairs_of_length {pairs : List (κ × ν)} (h : (ofPairs pairs).length = pairs.length) :
    ofPairs pairs = pairs := by
  induction pairs using List.reverseRecOn with
  | nil => rfl
  | append_singleton pairs p ih =>
    have hLess := length_ofPairs_le pairs
    rw [ofPairs_concat] at h ⊢
    rw [List.length_append, List.length_singleton] at h
    rcases insert_cases (ofPairs pairs) p.1 p.2 with hEnd | hSame
    · rw [hEnd, List.length_append, List.length_singleton] at h
      rw [hEnd, ih (Nat.add_right_cancel h)]
    · -- the last pair would have replaced an entry, and there would be too few
      omega

end Apart

section Members

variable {K : κ → Prop} {V : ν → Prop}

theorem forall_insert {entries : Entries κ ν} {key : κ} {value : ν}
    (hEntries : ∀ e ∈ entries, K e.1 ∧ V e.2) (hKey : K key) (hValue : V value) :
    ∀ e ∈ insert entries key value, K e.1 ∧ V e.2 := by
  -- by induction on the entries: the first has the key, or the insertion is made behind it
  induction entries with
  | nil =>
    intro e h
    obtain rfl := List.mem_singleton.mp h
    exact ⟨hKey, hValue⟩
  | cons p rest ih =>
    have hFirst := hEntries p List.mem_cons_self
    have hRest : ∀ e ∈ rest, K e.1 ∧ V e.2 := fun e h =>
      hEntries e (List.mem_cons_of_mem p h)
    intro e h
    unfold insert at h
    split at h
    · -- the key is there already, and its entry keeps it
      rcases List.mem_cons.mp h with rfl | h
      · exact ⟨hFirst.1, hValue⟩
      · exact hRest e h
    · rcases List.mem_cons.mp h with rfl | h
      · exact hFirst
      · exact ih hRest e h

/-- What holds of the keys and the values of some pairs holds of the entries they give. -/
theorem forall_ofPairs {pairs : List (κ × ν)} (hPairs : ∀ p ∈ pairs, K p.1 ∧ V p.2) :
    ∀ e ∈ ofPairs pairs, K e.1 ∧ V e.2 := by
  induction pairs using List.reverseRecOn with
  | nil => exact nofun
  | append_singleton pairs p ih =>
    have hLast : K p.1 ∧ V p.2 := hPairs p (List.mem_append_right _ List.mem_cons_self)
    rw [ofPairs_concat]
    exact forall_insert (ih fun q h => hPairs q (List.mem_append_left _ h)) hLast.1 hLast.2

end Members

section Keys

variable [LawfulBEq κ]

theorem mem_keys_insert {entries : Entries κ ν} {key other : κ} {value : ν} :
    other ∈ (insert entries key value).map Prod.fst ↔
      other = key ∨ other ∈ entries.map Prod.fst := by
  induction entries with
  | nil => simp [insert]
  | cons entry rest ih =>
    obtain ⟨k, v⟩ := entry
    rw [insert]
    split
    · next hKey =>
      rw [List.map_cons, List.map_cons, List.mem_cons, eq_of_beq hKey]
      simp
    · rw [List.map_cons, List.map_cons, List.mem_cons, List.mem_cons, ih]
      exact or_left_comm

/-- Insertion gives no key twice. -/
theorem nodup_keys_insert {entries : Entries κ ν} (h : (entries.map Prod.fst).Nodup) (key : κ)
    (value : ν) : ((insert entries key value).map Prod.fst).Nodup := by
  induction entries with
  | nil => simp [insert]
  | cons entry rest ih =>
    obtain ⟨k, v⟩ := entry
    obtain ⟨hNew, hRest⟩ := List.nodup_cons.mp h
    rw [insert]
    split
    · exact h
    · next hKey =>
      have hOther : k ∉ (insert rest key value).map Prod.fst := by
        rw [mem_keys_insert, not_or]
        exact ⟨fun hk => hKey (beq_iff_eq.mpr hk), hNew⟩
      exact List.nodup_cons.mpr ⟨hOther, ih hRest⟩

/-- Pairs with distinct keys are entries already. -/
theorem ofPairs_of_nodup {pairs : List (κ × ν)} (h : (pairs.map Prod.fst).Nodup) :
    ofPairs pairs = pairs :=
  ofPairs_of_apart (h.imp fun hNe => beq_eq_false_iff_ne.mpr hNe)

theorem nodup_keys_ofPairs (pairs : List (κ × ν)) : ((ofPairs pairs).map Prod.fst).Nodup := by
  induction pairs using List.reverseRecOn with
  | nil => exact List.nodup_nil
  | append_singleton pairs p ih =>
    rw [ofPairs_concat]
    exact nodup_keys_insert ih p.1 p.2

/-- Of several pairs with one key, the last gives the value. -/
theorem get?_ofPairs (pairs : List (κ × ν)) (key : κ) :
    get? (ofPairs pairs) key = ((pairs.filter (·.1 == key)).getLast?).map Prod.snd := by
  -- from the back: the last pair decides if it has the key, and changes nothing if it has not
  induction pairs using List.reverseRecOn with
  | nil => rfl
  | append_singleton pairs p ih =>
    rw [ofPairs_concat, List.filter_append]
    by_cases hKey : p.1 = key
    · rw [← hKey, get?_insert_self]
      simp
    · rw [get?_insert_of_ne _ _ (Ne.symm hKey), ih]
      simp [hKey]

end Keys

end BeaconCheck.Entries
