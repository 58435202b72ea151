import BeaconCheck.Capture
import BeaconCheck.Proofs.Entries

/-!
# What a request does to the store

The store of captured requests is looked up by the name of a tracker. The lemmas here say
what look-up sees after a request was received: a request adds, to the list of a name, one
copy of its parameters for every tracker that has the name and that the request is for. A
list is never shortened, reordered or made, so a name has a list exactly if a tracker has
the name.

* `occurs_iff_isInfix`  — the search for a text in a URL finds all occurrences.
* `get?_recordAll`      — look-up after a request was recorded for some trackers.
* `get?_receive`        — look-up after a request was received.
* `get?_ofTrackers`     — look-up before the first request.
* `action_eq_abort_iff` — when a request is aborted.
-/

namespace BeaconCheck

/-! ## Occurrence -/

/-- The search by position finds a text exactly where it is an infix. -/
theorem occurs_iff_isInfix (part text : List Letter) :
    occurs part text = true ↔ part <:+: text := by
  induction text with
  | nil => simp [occurs, List.isEmpty_iff]
  | cons c rest ih =>
    rw [occurs, Bool.or_eq_true, ih, List.isPrefixOf_iff_prefix, List.infix_cons_iff]

theorem Tracker.isFor_iff (t : Tracker) (url : String) :
    t.isFor url = true ↔ t.urlPart.letters <:+: Text.letters url :=
  occurs_iff_isInfix _ _

namespace Capture

/-- The parameters that are recorded for a request: none if its URL cannot be decoded. -/
def recordOf (url : String) : Params :=
  match Query.params url with
  | .ok params => params
  | .error _ => []

/-- The number of trackers with a name that a request is for. -/
def copies (trackers : List Tracker) (name : Text) (url : String) : Nat :=
  trackers.countP fun t => t.name == name && t.isFor url

/-- For a name that no tracker has no copies are taken. -/
theorem copies_of_not_mem {trackers : List Tracker} {name : Text}
    (h : name ∉ trackers.map Tracker.name) (url : String) : copies trackers name url = 0 := by
  refine List.countP_eq_zero.mpr fun t ht hBoth => h ?_
  have hName : t.name = name := by
    rw [Bool.and_eq_true, beq_iff_eq] at hBoth
    exact hBoth.1
  exact hName ▸ List.mem_map_of_mem ht

theorem decoded_fst (url : String) : (decoded url).1 = recordOf url := by
  unfold decoded recordOf
  cases Query.params url <;> rfl

/-! ## Recording -/

/-- Recording for one tracker appends to the list of its name and to no other list. -/
theorem get?_record (store : Entries Text (List Params)) (name other : Text)
    (params : Params) :
    Entries.get? (record store name params) other =
      if other = name then some ((Entries.get? store name).getD [] ++ [params])
      else Entries.get? store other := by
  unfold record
  split
  · next h => rw [h, Entries.get?_insert_self]
  · next h => rw [Entries.get?_insert_of_ne _ _ h]

/-- Recording for some trackers appends one copy for each of them that has the name. Their
names must have a list already, or recording would make one. -/
theorem get?_recordAll (params : Params) (trackers : List Tracker) {name : Text} :
    ∀ {store : Entries Text (List Params)},
      (name ∈ trackers.map Tracker.name → (Entries.get? store name).isSome) →
      Entries.get? (recordAll params trackers store).1 name =
        (Entries.get? store name).map fun earlier =>
          earlier ++ List.replicate (trackers.countP (·.name == name)) params := by
  induction trackers with
  | nil => intro store _; simp [recordAll]
  | cons t rest ih =>
    intro store hListed
    by_cases ht : t.name = name
    · obtain ⟨earlier, hEarlier⟩ := Option.isSome_iff_exists.mp (hListed (by simp [ht]))
      have hNext : Entries.get? (record store t.name params) name =
          some (earlier ++ [params]) := by
        rw [get?_record, if_pos ht.symm, ht, hEarlier]
        rfl
      -- its copy comes first, and the copies of the others are appended to it
      rw [recordAll, ih (by simp [hNext]), hNext, hEarlier,
        List.countP_cons_of_pos (by simp [ht])]
      simp [List.replicate_succ]
    · have hNext : Entries.get? (record store t.name params) name =
          Entries.get? store name := by
        rw [get?_record, if_neg (Ne.symm ht)]
      have hRest : name ∈ rest.map Tracker.name →
          (Entries.get? (record store t.name params) name).isSome := by
        intro h
        rw [hNext]
        exact hListed (List.mem_cons_of_mem _ h)
      rw [recordAll, ih hRest, hNext, List.countP_cons_of_neg (by simp [ht])]

/-! ## Receiving -/

/-- A request leaves the list of trackers alone. -/
theorem receive_trackers (c : Capture) (url : String) :
    (c.receive url).1.trackers = c.trackers := by
  simp only [receive]
  split <;> rfl

/-- The store after a request, whether or not it is for a tracker. -/
theorem receive_store (c : Capture) (url : String) :
    (c.receive url).1.store = (recordAll (recordOf url) (c.matched url) c.store).1 := by
  simp only [receive, ← decoded_fst]
  split
  -- a request that is for no tracker is not decoded, and recording it for none does nothing
  · next h => rw [List.isEmpty_iff.mp h]; rfl
  · rfl

/-- A request is recorded once for each tracker of the name that it is for. -/
theorem countP_matched (c : Capture) (name : Text) (url : String) :
    (c.matched url).countP (·.name == name) = copies c.trackers name url := by
  rw [matched, List.countP_filter, copies]

/-- **A request adds its copies to the list of a name**, and nothing else. -/
theorem get?_receive {c : Capture} {name : Text} (url : String)
    (hListed : name ∈ c.trackers.map Tracker.name → (Entries.get? c.store name).isSome) :
    Entries.get? (c.receive url).1.store name =
      (Entries.get? c.store name).map fun earlier =>
        earlier ++ List.replicate (copies c.trackers name url) (recordOf url) := by
  have hMatched : name ∈ (c.matched url).map Tracker.name →
      (Entries.get? c.store name).isSome := by
    intro h
    obtain ⟨t, ht, rfl⟩ := List.mem_map.mp h
    exact hListed (List.mem_map_of_mem (List.mem_filter.mp ht).1)
  rw [receive_store, get?_recordAll _ _ hMatched, countP_matched]

/-- A request is aborted exactly if a tracker that it is for asks for it. -/
theorem action_eq_abort_iff (c : Capture) (url : String) :
    c.action url = .abort ↔
      ∃ t ∈ c.trackers, t.urlPart.letters <:+: Text.letters url ∧ t.abort = true := by
  have hAny : (c.matched url).any Tracker.abort = true ↔
      ∃ t ∈ c.trackers, t.urlPart.letters <:+: Text.letters url ∧ t.abort = true := by
    simp only [List.any_eq_true, matched, List.mem_filter, Tracker.isFor_iff, and_assoc]
  rw [← hAny, action]
  split <;> simp_all

/-! ## The empty store -/

/-- Before the first request every name of a tracker has an empty list. -/
theorem get?_ofTrackers (trackers : List Tracker) (name : Text) :
    Entries.get? (ofTrackers trackers).store name =
      if name ∈ trackers.map Tracker.name then some [] else none := by
  -- by induction from the end, where the next entry is inserted
  induction trackers using List.reverseRecOn with
  | nil => rfl
  | append_singleton earlier t ih =>
    have hStore : (ofTrackers (earlier ++ [t])).store =
        Entries.insert (ofTrackers earlier).store t.name [] := by
      rw [ofTrackers, List.map_append]
      exact Entries.ofPairs_concat _ _
    rw [hStore]
    by_cases h : name = t.name
    · rw [h, Entries.get?_insert_self, if_pos (by simp)]
    · rw [Entries.get?_insert_of_ne _ _ h, ih]
      simp [h]

end Capture

end BeaconCheck
