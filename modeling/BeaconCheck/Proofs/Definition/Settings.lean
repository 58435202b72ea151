import BeaconCheck.Proofs.Capture.Operations
import BeaconCheck.Proofs.Definition.Options
import BeaconCheck.Proofs.Json.Plain

/-!
# Which options are accepted

Options are accepted by the form of their fields, each field for itself, and what is read from a
field depends on this field alone: the value, or the default where it is null or missing. The
names of the trackers are the one thing that is compared between fields. They are distinct, so a
capture has a list for each tracker, and no request is recorded twice in one.

* `Value.IsSettings`         — the form of options, field by field.
* `Value.settings`           — the options that a value gives, field by field.
* `Value.describesOptions_iff` — a value describes the options that it gives if it has the form.
* `RunOptions.ofValue_form`  — these are the options that are accepted, and what is captured.
-/

namespace BeaconCheck

open FieldReading

namespace Value

/-! ## The form of fields and what they give -/

/-- A text that is not empty. -/
def IsFilled (v : Value) : Prop :=
  ∃ s, v = .text s ∧ s ≠ ""

/-- Null, or a truth value. -/
def IsFlag (v : Value) : Prop :=
  v = .null ∨ ∃ b, v = .bool b

/-- Null, or a number that is not below zero. -/
def IsLength (v : Value) : Prop :=
  v = .null ∨ ∃ n r, v = .number n ∧ n.toRat? = some r ∧ 0 ≤ r

/-- The text, or the default if it is none. -/
def textOr (default : Text) : Value → Text
  | .text s => s
  | _ => default

/-- The truth value, or the default if it is none. -/
def flagOr (default : Bool) : Value → Bool
  | .bool b => b
  | _ => default

/-- The number without its fraction, or the default if it is none. -/
def lengthOr (default : Nat) : Value → Nat
  | .number n => ⌊n.toRat?.getD 0⌋₊
  | _ => default

variable {v : Value} {data : Object} {field : String}

/-- A text is filled, and is the one in its field. -/
theorem hasText_iff {s : Text} :
    HasText data field s ↔
      (Value.field data field).IsFilled ∧ s = textOr "" (Value.field data field) := by
  constructor
  · rintro ⟨hText, hSome⟩
    rw [hText]
    exact ⟨⟨s, rfl, hSome⟩, rfl⟩
  · rintro ⟨⟨s', hText, hSome⟩, rfl⟩
    rw [HasText, hText]
    exact ⟨rfl, hSome⟩

/-- A flag is the one in its field, or the default. -/
theorem hasFlag_iff {default b : Bool} :
    HasFlag data field default b ↔
      (Value.field data field).IsFlag ∧ b = flagOr default (Value.field data field) := by
  constructor
  · intro h
    cases h with
    | missing h => rw [h]; exact ⟨.inl rfl, rfl⟩
    | given h => rw [h]; exact ⟨.inr ⟨b, rfl⟩, rfl⟩
  · rintro ⟨h | ⟨b, h⟩, rfl⟩
    · rw [h]
      exact .missing h
    · rw [h]
      exact .given h

/-- A duration is the one in its field, or the default. -/
theorem hasDuration_iff {default d : Nat} :
    HasDuration data field default d ↔
      (Value.field data field).IsLength ∧ d = lengthOr default (Value.field data field) := by
  constructor
  · intro h
    cases h with
    | missing h => rw [h]; exact ⟨.inl rfl, rfl⟩
    | @given n r h hValue hAtLeast =>
      rw [h]
      exact ⟨.inr ⟨n, r, rfl, hValue, hAtLeast⟩, by rw [lengthOr, hValue, Option.getD_some]⟩
  · rintro ⟨h | ⟨n, r, h, hValue, hAtLeast⟩, rfl⟩
    · rw [h]
      exact .missing h
    · rw [h, lengthOr, hValue, Option.getD_some]
      exact .given h hValue hAtLeast

/-! ## Trackers -/

/-- An object with a name and a part of a URL, and maybe a truth value that tells to abort. -/
def IsTracker (v : Value) : Prop :=
  ∃ data, v.entries? = some data ∧ (Value.field data "name").IsFilled ∧
    (Value.field data "url").IsFilled ∧ (Value.field data "abortRequest").IsFlag

/-- The tracker that an object gives, field by field. -/
def tracker (v : Value) : Tracker where
  name := textOr "" (Value.field (v.entries?.getD []) "name")
  urlPart := textOr "" (Value.field (v.entries?.getD []) "url")
  abort := flagOr false (Value.field (v.entries?.getD []) "abortRequest")

/-- A tracker is described by an object that is one, and has its fields. -/
theorem describesTracker_iff {t : Tracker} :
    v.DescribesTracker t ↔ v.IsTracker ∧ t = v.tracker := by
  constructor
  · rintro ⟨data, hData, hName, hUrl, hAbort⟩
    obtain ⟨hName, hNameEq⟩ := hasText_iff.mp hName
    obtain ⟨hUrl, hUrlEq⟩ := hasText_iff.mp hUrl
    obtain ⟨hAbort, hAbortEq⟩ := hasFlag_iff.mp hAbort
    refine ⟨⟨data, hData, hName, hUrl, hAbort⟩, ?_⟩
    obtain ⟨name, urlPart, abort⟩ := t
    rw [tracker, hData, Option.getD_some, ← hNameEq, ← hUrlEq, ← hAbortEq]
  · rintro ⟨⟨data, hData, hName, hUrl, hAbort⟩, rfl⟩
    rw [DescribesTracker]
    refine ⟨data, hData, ?_⟩
    rw [tracker, hData, Option.getD_some]
    exact ⟨hasText_iff.mpr ⟨hName, rfl⟩, hasText_iff.mpr ⟨hUrl, rfl⟩, hasFlag_iff.mpr ⟨hAbort, rfl⟩⟩

/-- The trackers that a list gives, in its order. -/
def trackers (v : Value) : List Tracker :=
  (v.items?.getD []).map tracker

/-- Null, or a list of trackers with distinct names. -/
def IsTrackerList (v : Value) : Prop :=
  v = .null ∨ ∃ items, v.items? = some items ∧ (∀ item ∈ items, item.IsTracker) ∧
    (v.trackers.map Tracker.name).Nodup

/-- Each tracker is described by the item in its place. -/
theorem forall₂_describesTracker_iff {items : List Value} {ts : List Tracker} :
    List.Forall₂ DescribesTracker items ts ↔
      (∀ item ∈ items, item.IsTracker) ∧ ts = items.map tracker := by
  have hEq : List.Forall₂ (fun item t => tracker item = t) items ts ↔ ts = items.map tracker := by
    rw [← List.forall₂_map_left_iff, List.forall₂_eq_eq_eq, eq_comm]
  have hEach : DescribesTracker = fun item t => item.IsTracker ∧ tracker item = t := by
    funext item t
    rw [describesTracker_iff, eq_comm (b := item.tracker)]
  rw [hEach, List.forall₂_and_left, hEq]

/-- Trackers are described by a list of them, and are its items. -/
theorem describesTrackers_iff {ts : List Tracker} :
    v.DescribesTrackers ts ↔ v.IsTrackerList ∧ ts = v.trackers := by
  constructor
  · intro h
    cases h with
    | missing h => exact ⟨.inl h, by rw [h]; rfl⟩
    | given hItems hEach hDistinct =>
      obtain ⟨hEach, hTrackers⟩ := forall₂_describesTracker_iff.mp hEach
      -- the names are compared in the trackers that were read
      have hOwn : v.trackers = ts := by rw [trackers, hItems, Option.getD_some, hTrackers]
      exact ⟨.inr ⟨_, hItems, hEach, hOwn ▸ hDistinct⟩, hOwn.symm⟩
  · rintro ⟨h | ⟨items, hItems, hEach, hDistinct⟩, rfl⟩
    · rw [h]
      exact .missing rfl
    · refine .given hItems (forall₂_describesTracker_iff.mpr ⟨hEach, ?_⟩) hDistinct
      rw [trackers, hItems, Option.getD_some]

/-! ## Options -/

/-- The form of options, field by field. The name of the event layer may be missing but not
null. -/
structure IsSettings (data : Object) : Prop where
  layerName : field? data "dataLayerName" = none ∨ (Value.field data "dataLayerName").IsFilled
  headless : (Value.field data "headless").IsFlag
  settleDelay : (Value.field data "settleDelay").IsLength
  typeDelay : (Value.field data "typeDelay").IsLength
  timeout : (Value.field data "timeout").IsLength
  trackers : (Value.field data "trackRequests").IsTrackerList

/-- The options that the fields of an object give, each by itself. -/
def settings (data : Object) : RunOptions where
  headless := flagOr Default.headless (Value.field data "headless")
  trackers := (Value.field data "trackRequests").trackers
  settleDelay := lengthOr Default.settleDelay (Value.field data "settleDelay")
  typeDelay := lengthOr Default.typeDelay (Value.field data "typeDelay")
  timeout := lengthOr Default.timeout (Value.field data "timeout")
  layerName := textOr Default.layerName (Value.field data "dataLayerName")

/-- The name of the layer may be missing, but is filled where it is there. -/
theorem describesLayer_iff {name : Text} :
    DescribesLayer data name ↔
      (field? data "dataLayerName" = none ∨ (Value.field data "dataLayerName").IsFilled) ∧
        name = textOr Default.layerName (Value.field data "dataLayerName") := by
  constructor
  · intro h
    cases h with
    -- the name may be missing, but it may not be null
    | missing h => exact ⟨.inl h, by rw [Value.field, h]; rfl⟩
    | given h => exact ⟨.inr ⟨name, h⟩, by rw [h.1]; rfl⟩
  · rintro ⟨h | ⟨s, hText, hSome⟩, rfl⟩
    · rw [Value.field, h]
      exact .missing h
    · rw [hText]
      exact .given ⟨hText, hSome⟩

/-- Settings are described field by field. -/
theorem describesSettings_iff {o : RunOptions} :
    DescribesSettings data o ↔ IsSettings data ∧ o = settings data := by
  constructor
  · intro h
    -- each field is described on its own, by what its entry has to be and what is made of it
    obtain ⟨hLayer, hLayerEq⟩ := describesLayer_iff.mp h.layerName
    obtain ⟨hHeadless, hHeadlessEq⟩ := hasFlag_iff.mp h.headless
    obtain ⟨hTrackers, hTrackersEq⟩ := describesTrackers_iff.mp h.trackers
    obtain ⟨hSettle, hSettleEq⟩ := hasDuration_iff.mp h.settleDelay
    obtain ⟨hType, hTypeEq⟩ := hasDuration_iff.mp h.typeDelay
    obtain ⟨hTimeout, hTimeoutEq⟩ := hasDuration_iff.mp h.timeout
    refine ⟨⟨hLayer, hHeadless, hSettle, hType, hTimeout, hTrackers⟩, ?_⟩
    obtain ⟨headless, trackers, settleDelay, typeDelay, timeout, layerName⟩ := o
    rw [settings, ← hLayerEq, ← hHeadlessEq, ← hTrackersEq, ← hSettleEq, ← hTypeEq, ← hTimeoutEq]
  · rintro ⟨h, rfl⟩
    exact {
      layerName := describesLayer_iff.mpr ⟨h.layerName, rfl⟩
      headless := hasFlag_iff.mpr ⟨h.headless, rfl⟩
      trackers := describesTrackers_iff.mpr ⟨h.trackers, rfl⟩
      settleDelay := hasDuration_iff.mpr ⟨h.settleDelay, rfl⟩
      typeDelay := hasDuration_iff.mpr ⟨h.typeDelay, rfl⟩
      timeout := hasDuration_iff.mpr ⟨h.timeout, rfl⟩ }

/-- The form of what is accepted as options: null, or an object of the form of options. -/
def IsOptions (v : Value) : Prop :=
  v = .null ∨ ∃ data, v.entries? = some data ∧ IsSettings data

/-- **A value describes the options that its fields give**, if it has the form of options. Null has
no fields and gives the defaults. -/
theorem describesOptions_iff {o : RunOptions} :
    v.DescribesOptions o ↔ v.IsOptions ∧ o = settings (v.entries?.getD []) := by
  constructor
  · intro h
    cases h with
    | missing h => exact ⟨.inl h, by rw [h]; rfl⟩
    | given hData hSettings =>
      obtain ⟨hForm, hEq⟩ := describesSettings_iff.mp hSettings
      exact ⟨.inr ⟨_, hData, hForm⟩, by rw [hData, Option.getD_some, hEq]⟩
  · rintro ⟨h | ⟨data, hData, hForm⟩, rfl⟩
    · rw [h]
      exact .missing rfl
    · rw [hData, Option.getD_some]
      exact .given hData (describesSettings_iff.mpr ⟨hForm, rfl⟩)

/-- A number in a field that is not finite is one in the value. -/
theorem HoldsNonFinite.of_field (hData : v.entries? = some data)
    (h : (Value.field data field).HoldsNonFinite) : v.HoldsNonFinite := by
  rcases field_mem_or_null data field with hNull | ⟨e, hMem, hValue⟩
  · rw [hNull] at h
    cases h
  · rw [← hValue] at h
    have hObject : (Value.object data).HoldsNonFinite := .entry hMem h
    rcases entries?_eq_some_iff.mp hData with rfl | rfl
    · exact hObject
    · exact .target hObject

/-- Where every number is finite, reading options does not crash. -/
theorem not_crashesOptions_of_finite (h : ¬ v.HoldsNonFinite) (c : Crash) :
    ¬ v.CrashesOptions c := by
  intro hCrash
  -- what crashes is a duration, by a number that is not finite
  cases hCrash with
  | duration hData _ _ _ _ _ hDuration =>
    obtain ⟨n, hField, hUnmeasurable⟩ := hDuration
    have hNumber : (Value.number n).HoldsNonFinite := by
      cases hUnmeasurable with
      | nan => exact .number rfl
      | infinite => exact .number rfl
    rw [← hField] at hNumber
    exact h (hNumber.of_field hData)

end Value

/-! ## Capturing for the trackers that are read -/

namespace Capture

variable {trackers : List Tracker}

/-- With distinct names every tracker has one list, and none has an entry before the first
request. -/
theorem store_ofTrackers (hNodup : (trackers.map Tracker.name).Nodup) :
    (ofTrackers trackers).store = trackers.map fun t => (t.name, []) := by
  refine Entries.ofPairs_of_nodup ?_
  rw [List.map_map]
  exact hNodup

/-- Whatever is done with the captured requests, the list of a tracker whose name is its own has
the requests that were handled and are for it, each of them once. -/
theorem requests_playAll_of_nodup (hNodup : (trackers.map Tracker.name).Nodup) {t : Tracker}
    (ht : t ∈ trackers) (ops : List CaptureOp) :
    let w := CaptureOp.playAll (World.watching trackers) ops
    w.capture.requests t.name = .ok ((w.handled.filter t.isFor).map recordOf) := by
  intro w
  have hCourse : World.Course (World.watching trackers) [] w :=
    CaptureOp.playAll_course Nat.one_ne_zero ops
  have hTrackers : w.capture.trackers = trackers := hCourse.frame.trackers
  have hName : t.name ∈ w.capture.trackers.map Tracker.name := by
    rw [hTrackers]
    exact List.mem_map_of_mem ht
  have hFaithful : World.Faithful w := hCourse.faithful (.of_empty rfl rfl)
  -- with distinct names the history of a name is that of one tracker
  rw [hFaithful.requests_eq hName, hTrackers, historyOf_of_nodup hNodup ht]

end Capture

/-! ## Acceptance -/

/-- **The accepted options are those of the form**, if every number is finite: null, or an object
whose fields have it, each for itself. Everything else is refused. What is accepted has in each
place what the field for it gives, with the trackers in the order of the list. A capture for these
trackers begins with an empty list for each, and whatever is done with it, the list of a tracker has
the requests that were handled and are for it, each of them once. -/
theorem RunOptions.ofValue_form {v : Value} (h : ¬ v.HoldsNonFinite) :
    ((∃ o, ofValue v = .ok o) ↔ v.IsOptions) ∧
    (¬ v.IsOptions → ∃ e, ofValue v = .error (.refused e)) ∧
    ∀ o, ofValue v = .ok o →
      o = Value.settings (v.entries?.getD []) ∧
      (o.trackers.map Tracker.name).Nodup ∧
      (Capture.ofTrackers o.trackers).store = o.trackers.map (fun t => (t.name, [])) ∧
      ∀ ops : List CaptureOp, ∀ t ∈ o.trackers,
        let w := CaptureOp.playAll (World.watching o.trackers) ops
        w.capture.requests t.name = .ok ((w.handled.filter t.isFor).map Capture.recordOf) := by
  have hReads := reads_ofValue v
  -- what is read is described, and what is described is the settings of the entries
  have hDescribed : ∀ o, ofValue v = .ok o ↔
      v.IsOptions ∧ o = Value.settings (v.entries?.getD []) :=
    fun o => (hReads.ok o).trans Value.describesOptions_iff
  refine ⟨?_, fun hForm => ?_, fun o hRead => ?_⟩
  · constructor
    · rintro ⟨o, hRead⟩
      exact ((hDescribed o).mp hRead).1
    · exact fun hForm => ⟨_, (hDescribed _).mpr ⟨hForm, rfl⟩⟩
  -- without the form nothing is read, and only an infinite or undefined number could crash instead
  · cases hRead : ofValue v with
    | ok o => exact absurd ((hDescribed o).mp hRead).1 hForm
    | error f =>
      cases f with
      | refused e => exact ⟨e, rfl⟩
      | crash c => exact absurd ((hReads.crash c).mp hRead) (Value.not_crashesOptions_of_finite h c)
  -- names that differ give each tracker a list of its own
  · have hNodup : (o.trackers.map Tracker.name).Nodup := nodup_of_ofValue hRead
    exact ⟨((hDescribed o).mp hRead).2, hNodup, Capture.store_ofTrackers hNodup,
      fun ops t ht => Capture.requests_playAll_of_nodup hNodup ht ops⟩

/-- Options with two trackers and a delay that has a fraction, with a field that is null and
others that are missing. -/
def Value.shopOptions : Value :=
  ofFields [
    ("headless", .bool false), ("settleDelay", .float (.finite false 3001 (-1))),
    ("typeDelay", .null), ("trackRequests", .list [
      ofFields [("name", .text "ga"), ("url", .text "collect"), ("abortRequest", .bool true)],
      ofFields [("name", .text "fb"), ("url", .text "/tr")]])]

/-- They are accepted, and a request is recorded for the tracker that it is for. -/
theorem RunOptions.ofValue_form_shop :
    ¬ Value.shopOptions.HoldsNonFinite ∧ Value.shopOptions.IsOptions ∧
      ∃ o, ofValue Value.shopOptions = .ok o ∧
        o = {
          headless := false, settleDelay := 1500
          trackers := [⟨"ga", "collect", true⟩, ⟨"fb", "/tr", false⟩] } ∧
        (Capture.ofTrackers o.trackers).store = [(.whole "ga", []), (.whole "fb", [])] := by
  -- the delay is the only number with a fraction
  have hFinite : ¬ Value.shopOptions.HoldsNonFinite := by
    have hDelay : ¬ (Value.float (.finite false 3001 (-1))).HoldsNonFinite := by
      rw [Value.holdsNonFinite_float]
      nofun
    simpa [Value.shopOptions, Value.holdsNonFinite_ofFields, Value.holdsNonFinite_list] using
      ⟨nofun, hDelay, nofun, ⟨nofun, nofun, nofun⟩, nofun, nofun⟩
  have hRead : ofValue Value.shopOptions = .ok {
      headless := false, settleDelay := 1500
      trackers := [⟨"ga", "collect", true⟩, ⟨"fb", "/tr", false⟩] } := rfl
  obtain ⟨hAccepts, -, hGives⟩ := ofValue_form hFinite
  obtain ⟨-, -, hStore, -⟩ := hGives _ hRead
  exact ⟨hFinite, hAccepts.mp ⟨_, hRead⟩, _, hRead, rfl, hStore⟩

end BeaconCheck
