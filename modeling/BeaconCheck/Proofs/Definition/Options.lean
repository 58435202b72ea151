import BeaconCheck.Proofs.Definition.Reading

/-!
# What options are read as

Reading options follows the grammar, and crashes only at a duration that has no integer part.

* `Tracker.reads_listOfValues`  — trackers, of which no two have one name.
* `RunOptions.reads_ofValue`    — options.
* `RunOptions.nodup_of_ofValue` — the names of accepted trackers are distinct.
-/

namespace BeaconCheck

open FieldReading

/-! ## Trackers -/

namespace Tracker

/-- What is read as a tracker is described as one, and reading it never crashes. -/
theorem reads_ofValue (v : Value) (index : Nat) :
    Reads (ofValue v index) v.DescribesTracker Never := by
  unfold ofValue
  simp only []
  split
  · next data hData =>
    -- one reader for each field, in the order in which they are read
    refine ((reads_text data "name" _).bind_never fun name _ =>
      (reads_text data "url" _).bind_never fun urlPart _ =>
        (reads_flag data "abortRequest" _ false).bind_never fun abort _ =>
          .pure (⟨name, urlPart, abort⟩ : Tracker)).congr (fun t => ?_) fun _ => Iff.rfl
    constructor
    · rintro ⟨name, hName, urlPart, hUrl, abort, hAbort, rfl⟩
      exact ⟨data, hData, hName, hUrl, hAbort⟩
    · rintro ⟨data', hData', hName, hUrl, hAbort⟩
      obtain rfl := Option.mem_unique hData' hData
      exact ⟨t.name, hName, t.urlPart, hUrl, t.abort, hAbort, rfl⟩
  · next hData => exact .of_refused (fun t ⟨data, h, _⟩ => hData data h) fun _ => id

/-- Behind trackers with names of their own: each is read as if it were alone, and no name
comes twice. -/
theorem reads_listOfValues (values : List Value) (earlier : List Text) (index : Nat) :
    Reads (listOfValues earlier index values)
      (fun trackers => List.Forall₂ Value.DescribesTracker values trackers ∧
        (trackers.map name).Nodup ∧ ∀ t ∈ trackers, t.name ∉ earlier) Never := by
  -- each tracker adds its name to the earlier ones, so these are arbitrary in the induction
  induction values generalizing earlier index with
  | nil =>
    refine .of_ok ⟨.nil, List.nodup_nil, nofun⟩ (fun trackers h => ?_) fun _ => id
    cases h.1
    rfl
  | cons v rest ih =>
    rw [listOfValues]
    -- what is read behind the first has names of its own, and the first has too
    refine ((reads_ofValue v index).bind_never (Q := fun first trackers => ∃ others,
      trackers = first :: others ∧ first.name ∉ earlier ∧
      List.Forall₂ Value.DescribesTracker rest others ∧ (others.map name).Nodup ∧
      ∀ t ∈ others, t.name ∉ first.name :: earlier) fun first _ => ?_).congr
      (fun trackers => ?_) fun _ => Iff.rfl
    · -- the name of the first decides before anything behind it is read
      by_cases hRepeated : earlier.contains first.name
      · rw [if_pos hRepeated]
        refine .of_refused (fun trackers ⟨_, _, hFresh, _⟩ => hFresh ?_) fun _ => id
        exact List.contains_iff_mem.mp hRepeated
      · rw [if_neg hRepeated]
        have hFresh : first.name ∉ earlier := fun h => hRepeated (List.contains_iff_mem.mpr h)
        refine ((ih (first.name :: earlier) (index + 1)).bind_never fun others _ =>
          .pure (first :: others)).congr (fun trackers => ?_) fun _ => Iff.rfl
        constructor
        · rintro ⟨others, hOthers, rfl⟩
          exact ⟨others, rfl, hFresh, hOthers⟩
        · rintro ⟨others, rfl, -, hOthers⟩
          exact ⟨others, hOthers, rfl⟩
    · -- names that are not among the earlier ones, the first included, are distinct names
      rw [List.forall₂_cons_left_iff]
      constructor
      · rintro ⟨first, hFirst, others, rfl, hFresh, hEach, hDistinct, hApart⟩
        refine ⟨⟨first, others, hFirst, hEach, rfl⟩, ?_, ?_⟩
        · rw [List.map_cons, List.nodup_cons]
          refine ⟨fun hMem => ?_, hDistinct⟩
          obtain ⟨t, ht, hName⟩ := List.mem_map.mp hMem
          exact hApart t ht (hName ▸ List.mem_cons_self)
        · rw [List.forall_mem_cons]
          exact ⟨hFresh, fun t ht hMem => hApart t ht (List.mem_cons_of_mem _ hMem)⟩
      · rintro ⟨⟨first, others, hFirst, hEach, rfl⟩, hDistinct, hApart⟩
        rw [List.map_cons, List.nodup_cons] at hDistinct
        rw [List.forall_mem_cons] at hApart
        refine ⟨first, hFirst, others, rfl, hApart.1, hEach, hDistinct.2, fun t ht hMem => ?_⟩
        rcases List.mem_cons.mp hMem with hName | hMem
        · exact hDistinct.1 (hName ▸ List.mem_map_of_mem ht)
        · exact hApart.2 t ht hMem

/-- The same for a list of trackers. -/
theorem reads_listOfValue (v : Value) : Reads (listOfValue v) v.DescribesTrackers Never := by
  unfold listOfValue
  split
  · next hNull =>
    obtain rfl := Value.eq_null_of_isNull hNull
    refine .of_ok (.missing rfl) (fun trackers h => ?_) fun _ => id
    cases h with
    | missing => rfl
    | given h => cases h
  · next hNull =>
    have hNotNull : v ≠ .null := fun h => hNull (h ▸ rfl)
    split
    · next items hItems =>
      -- no name is taken in front of the first tracker
      refine (reads_listOfValues items [] 0).congr (fun trackers => ?_) fun _ => Iff.rfl
      constructor
      · exact fun ⟨hEach, hDistinct, _⟩ => .given hItems hEach hDistinct
      · intro h
        cases h with
        | missing h => exact absurd h hNotNull
        | given hItems' hEach hDistinct =>
          obtain rfl := Option.mem_unique hItems' hItems
          exact ⟨hEach, hDistinct, fun _ _ => List.not_mem_nil⟩
    · next hItems =>
      refine .of_refused (fun trackers h => ?_) fun _ => id
      cases h with
      | missing h => exact hNotNull h
      | given h => rw [hItems] at h; cases h

end Tracker

/-! ## Options -/

namespace RunOptions

/-- The same for the name of the layer, which may be missing but not null. -/
theorem reads_layerNameOfFields (data : Object) :
    Reads (layerNameOfFields data) (Value.DescribesLayer data) Never := by
  unfold layerNameOfFields
  split
  · next hName =>
    refine .of_ok (.missing hName) (fun name h => ?_) fun _ => id
    cases h with
    | missing => rfl
    | given h =>
      have hText := h.1
      rw [Value.field, hName] at hText
      cases hText
  · next s hName =>
    have hOnly {name : Text} (h : HasText data "dataLayerName" name) : name = s :=
      Value.text_inj h.1 (Value.field_of_field? hName)
    split
    · next hEmpty =>
      -- an empty name is refused, although it is a text
      refine .of_refused (fun name h => ?_) fun _ => id
      cases h with
      | missing h => rw [hName] at h; cases h
      | given h => exact h.2 ((hOnly h).trans hEmpty)
    · next hSome =>
      refine .of_ok (.given ⟨Value.field_of_field? hName, hSome⟩) (fun name h => ?_) fun _ => id
      cases h with
      | missing h => rw [hName] at h; cases h
      | given h => exact hOnly h
  · next v hText hName =>
    refine .of_refused (fun name h => ?_) fun _ => id
    cases h with
    | missing h => rw [hName] at h; cases h
    | given h => exact hText name ((Value.field_of_field? hName).symm.trans h.1)

/-- Whether a field holds a duration does not depend on the default. -/
theorem exists_hasDuration {data : Object} {field : String} {default default' d : Nat}
    (h : HasDuration data field default d) : ∃ d', HasDuration data field default' d' := by
  cases h with
  | missing h => exact ⟨_, .missing h⟩
  | given h hValue hAtLeast => exact ⟨_, .given h hValue hAtLeast⟩

variable {v : Value} {data : Object} {c : Crash}

/-- Where one of the durations crashes, told one by one. -/
theorem crashesDurations_iff :
    (∃ before name behind, Value.durationNames = before ++ name :: behind ∧
      (∀ n ∈ before, ∃ d, HasDuration data n 0 d) ∧ HasUnmeasurable data name c) ↔
    HasUnmeasurable data "settleDelay" c ∨
      (∃ d, HasDuration data "settleDelay" Default.settleDelay d) ∧
        (HasUnmeasurable data "typeDelay" c ∨
          (∃ d, HasDuration data "typeDelay" Default.typeDelay d) ∧
            HasUnmeasurable data "timeout" c) := by
  -- the list of the names is taken apart one by one, until none is left
  have hEnd : ¬ ∃ before name behind, ([] : List String) = before ++ name :: behind ∧
      (∀ n ∈ before, ∃ d, HasDuration data n 0 d) ∧ HasUnmeasurable data name c := by
    rintro ⟨before, name, behind, h, -⟩
    cases before <;> cases h
  have hAny (field : String) (default : Nat) :
      (∃ d, HasDuration data field 0 d) ↔ ∃ d, HasDuration data field default d :=
    ⟨fun ⟨_, h⟩ => exists_hasDuration h, fun ⟨_, h⟩ => exists_hasDuration h⟩
  rw [Value.durationNames, exists_first_cons, exists_first_cons, exists_first_cons,
    hAny "settleDelay" Default.settleDelay, hAny "typeDelay" Default.typeDelay]
  simp only [hEnd, and_false, or_false]

/-- When reading an object crashes, by its fields. -/
theorem crashesOptions_iff (hData : v.entries? = some data) :
    v.CrashesOptions c ↔
      (∃ layerName, Value.DescribesLayer data layerName) ∧
        (∃ headless, HasFlag data "headless" Default.headless headless) ∧
        (∃ trackers, (Value.field data "trackRequests").DescribesTrackers trackers) ∧
        (HasUnmeasurable data "settleDelay" c ∨
          (∃ d, HasDuration data "settleDelay" Default.settleDelay d) ∧
            (HasUnmeasurable data "typeDelay" c ∨
              (∃ d, HasDuration data "typeDelay" Default.typeDelay d) ∧
                HasUnmeasurable data "timeout" c)) := by
  -- the three durations are read in turn, and the first that cannot be read crashes
  rw [← crashesDurations_iff]
  constructor
  · intro h
    cases h with
    | duration hData' hLayer hHeadless hTrackers hNames hBefore hDuration =>
      obtain rfl := Option.mem_unique hData' hData
      exact ⟨⟨_, hLayer⟩, ⟨_, hHeadless⟩, ⟨_, hTrackers⟩, _, _, _, hNames, hBefore, hDuration⟩
  · rintro ⟨⟨_, hLayer⟩, ⟨_, hHeadless⟩, ⟨_, hTrackers⟩, _, _, _, hNames, hBefore, hDuration⟩
    exact .duration hData hLayer hHeadless hTrackers hNames hBefore hDuration

/-- **What options are read as.** -/
theorem reads_ofValue (v : Value) : Reads (ofValue v) v.DescribesOptions v.CrashesOptions := by
  unfold ofValue
  split
  · next hNull =>
    obtain rfl := Value.eq_null_of_isNull hNull
    refine .of_ok (.missing rfl) (fun o h => ?_) fun c h => ?_
    · cases h with
      | missing => rfl
      | given h => cases h
    · cases h with
      | duration h => cases h
  · next hNull =>
    have hNotNull : v ≠ .null := fun h => hNull (h ▸ rfl)
    split
    · next data hData =>
      -- the fields are read in this order, which says what a crash presupposes
      refine ((reads_layerNameOfFields data).bind fun layerName _ =>
        (reads_flag data "headless" _ _).bind fun headless _ =>
        (Tracker.reads_listOfValue _).bind fun trackers _ =>
        (reads_duration data "settleDelay" _ _).bind fun settleDelay _ =>
        (reads_duration data "typeDelay" _ _).bind fun typeDelay _ =>
        (reads_duration data "timeout" _ _).bind fun timeout _ =>
          .pure (⟨headless, trackers, settleDelay, typeDelay, timeout, layerName⟩ :
            RunOptions)).congr (fun o => ?_) fun c => ?_
      · constructor
        · rintro ⟨layerName, hLayer, headless, hHeadless, trackers, hTrackers, settleDelay,
            hSettle, typeDelay, hType, timeout, hTimeout, rfl⟩
          exact .given hData ⟨hLayer, hHeadless, hTrackers, hSettle, hType, hTimeout⟩
        · intro h
          cases h with
          | missing h => exact absurd h hNotNull
          | given hData' hSettings =>
            obtain rfl := Option.mem_unique hData' hData
            exact ⟨_, hSettings.layerName, _, hSettings.headless, _, hSettings.trackers, _,
              hSettings.settleDelay, _, hSettings.typeDelay, _, hSettings.timeout, rfl⟩
      · rw [crashesOptions_iff hData]
        simp only [and_false, exists_false, or_false, false_or, exists_and_right]
    · next hData =>
      refine .of_refused (fun o h => ?_) fun c h => ?_
      · cases h with
        | missing h => exact hNotNull h
        | given h => exact hData _ h
      · cases h with
        | duration h => exact hData _ h

end RunOptions

/-- Trackers that are described have distinct names. -/
theorem Value.DescribesTrackers.nodup {v : Value} {trackers : List Tracker}
    (h : v.DescribesTrackers trackers) : (trackers.map Tracker.name).Nodup := by
  cases h with
  | missing => exact List.nodup_nil
  | given _ _ hDistinct => exact hDistinct

/-- **The trackers of accepted options have distinct names**, so that a name picks a tracker. -/
theorem RunOptions.nodup_of_ofValue {v : Value} {o : RunOptions} (h : ofValue v = .ok o) :
    (o.trackers.map Tracker.name).Nodup := by
  cases ((reads_ofValue v).ok o).mp h with
  | missing => exact List.nodup_nil
  | given _ hSettings => exact hSettings.trackers.nodup

end BeaconCheck
