import BeaconCheck.Proofs.World.Course

/-!
# The store is the history

The requests that were handled are on record in the trace. What the store holds for a name
is determined by them alone: a copy of the parameters of each for every tracker that has
the name and that the request is for, in the order in which the requests came. This holds
at the start and is kept by every change, so it holds in every state of every run.

* `World.handled`             — the requests that were handled, in their order.
* `Capture.historyOf`         — what the store holds for a name after some requests.
* `Capture.historyOf_of_nodup` — the history of a tracker whose name is its own.
* `World.Faithful`            — the store is the history, and every action is right.
* `World.Course.faithful`     — a course keeps a world faithful.
* `World.Course.capture_eq`   — without a request that is handled the store stays.
-/

namespace BeaconCheck

/-- The URL of an entry for a request that was handled. -/
def TraceEntry.handled? : TraceEntry → Option String
  | .request url (some _) => some url
  | _ => none

/-- What is recorded under a name for some requests. -/
def Capture.historyOf (trackers : List Tracker) (name : Text) (urls : List String) :
    List Params :=
  urls.flatMap fun url => List.replicate (copies trackers name url) (recordOf url)

/-- The history goes on with each request. -/
theorem Capture.historyOf_append (trackers : List Tracker) (name : Text)
    (urls more : List String) :
    historyOf trackers name (urls ++ more) =
      historyOf trackers name urls ++ historyOf trackers name more :=
  List.flatMap_append

/-- Where names are distinct, a tracker takes one copy of each request that is for it. -/
theorem Capture.copies_of_nodup {trackers : List Tracker}
    (hNodup : (trackers.map Tracker.name).Nodup) {t : Tracker} (ht : t ∈ trackers)
    (url : String) : copies trackers t.name url = if t.isFor url then 1 else 0 := by
  -- by induction on the trackers: the first is the one in question, or it has another name
  induction trackers with
  | nil => cases ht
  | cons s rest ih =>
    obtain ⟨hFresh, hRest⟩ := List.nodup_cons.mp hNodup
    rw [copies, List.countP_cons]
    rcases List.mem_cons.mp ht with rfl | ht
    · -- the trackers behind it have other names
      have hNone : rest.countP (fun s => s.name == t.name && s.isFor url) = 0 :=
        copies_of_not_mem hFresh url
      rw [hNone]
      simp
    · have hOther : s.name ≠ t.name := fun h => hFresh (h ▸ List.mem_map_of_mem ht)
      have hCopies := ih hRest ht
      rw [copies] at hCopies
      rw [hCopies]
      simp [hOther]

/-- Where names are distinct, the history of a tracker is what the requests that are for it
say. -/
theorem Capture.historyOf_of_nodup {trackers : List Tracker}
    (hNodup : (trackers.map Tracker.name).Nodup) {t : Tracker} (ht : t ∈ trackers)
    (urls : List String) :
    historyOf trackers t.name urls = (urls.filter t.isFor).map recordOf := by
  -- by induction on the requests: each is recorded once or not at all
  induction urls with
  | nil => rfl
  | cons url rest ih =>
    have hFirst : historyOf trackers t.name (url :: rest) =
        List.replicate (copies trackers t.name url) (recordOf url) ++
          historyOf trackers t.name rest := List.flatMap_cons
    rw [hFirst, ih, copies_of_nodup hNodup ht, List.filter_cons]
    split <;> rfl

namespace World

/-- The requests that were handled, in the order in which they came. -/
def handled (w : World) : List String :=
  w.trace.filterMap TraceEntry.handled?

/-- The store is what the requests that were handled make of it, and each of these was
aborted exactly if a tracker that it is for asks for it. -/
structure Faithful (w : World) : Prop where
  listed : ∀ name, Entries.get? w.capture.store name =
    if name ∈ w.capture.trackers.map Tracker.name then
      some (Capture.historyOf w.capture.trackers name w.handled)
    else none
  acted : ∀ (url : String) action, .request url (some action) ∈ w.trace →
    (action = .abort ↔
      ∃ t ∈ w.capture.trackers, t.urlPart.letters <:+: Text.letters url ∧ t.abort = true)

/-- Before the first request the store is faithful. -/
theorem Faithful.of_empty {w : World} {trackers : List Tracker}
    (hCapture : w.capture = .ofTrackers trackers) (hTrace : w.trace = []) : Faithful w where
  listed name := by
    rw [hCapture, Capture.get?_ofTrackers, handled, hTrace]
    rfl
  acted url action h := by
    rw [hTrace] at h
    cases h

/-- The requests that a faithful world has for the name of a tracker. -/
theorem Faithful.requests_eq {w : World} (hw : Faithful w) {name : Text}
    (h : name ∈ w.capture.trackers.map Tracker.name) :
    w.capture.requests name =
      .ok (Capture.historyOf w.capture.trackers name w.handled) := by
  unfold Capture.requests
  rw [hw.listed, if_pos h]

/-- A faithful world has no requests for a name that no tracker has. -/
theorem Faithful.requests_of_not_mem {w : World} (hw : Faithful w) {name : Text}
    (h : name ∉ w.capture.trackers.map Tracker.name) :
    w.capture.requests name = .error (.unknownTracker name) := by
  unfold Capture.requests
  rw [hw.listed, if_neg h]

/-! ## Every change keeps the store faithful -/

@[simp] theorem handled_handle (w : World) (url : String) :
    (w.handle url).handled = w.handled ++ [url] := by
  rw [handled, handle_trace, List.filterMap_append]
  rfl

/-- A request that is handled is recorded and acted on. -/
theorem Faithful.handle {w : World} (hw : Faithful w) (url : String) :
    Faithful (w.handle url) where
  listed name := by
    -- the name of every tracker has a list, so recording makes no new one
    have hListed : name ∈ w.capture.trackers.map Tracker.name →
        (Entries.get? w.capture.store name).isSome := by
      intro h
      rw [hw.listed, if_pos h]
      rfl
    rw [handle_capture, Capture.receive_trackers, Capture.get?_receive url hListed,
      hw.listed, handled_handle, Capture.historyOf_append]
    split <;> simp [Capture.historyOf]
  acted other action h := by
    rw [handle_capture, Capture.receive_trackers]
    rw [handle_trace, List.mem_append, List.mem_singleton] at h
    -- a request on record before, or the one that is handled now
    rcases h with h | h
    · exact hw.acted other action h
    · cases h
      exact Capture.action_eq_abort_iff w.capture url

/-- What leaves the capture alone and records no request that was handled keeps a world
faithful. -/
theorem Faithful.congr {w w' : World} (hw : Faithful w) (hCapture : w'.capture = w.capture)
    (entries : List TraceEntry) (hTrace : w'.trace = w.trace ++ entries)
    (hEntries : ∀ e ∈ entries, e.handled? = none) : Faithful w' where
  listed name := by
    -- entries that are no handled requests do not change which were handled
    have hHandled : w'.handled = w.handled := by
      rw [handled, hTrace, List.filterMap_append, List.filterMap_eq_nil_iff.mpr hEntries,
        List.append_nil, handled]
    rw [hCapture, hHandled, hw.listed]
  acted url action h := by
    rw [hCapture]
    rw [hTrace, List.mem_append] at h
    rcases h with h | h
    · exact hw.acted url action h
    · exact absurd (hEntries _ h) (by simp [TraceEntry.handled?])

/-- A capture that is faithful to its history stays so with each change. -/
theorem Change.faithful {w w' : World} {made : List AnsweredCall} (h : Change w made w')
    (hw : Faithful w) : Faithful w' := by
  cases h with
  | logged records => exact hw.congr rfl [] (by simp [addLog]) (by simp)
  | answered h => exact hw.congr rfl _ rfl (by simp [TraceEntry.handled?])
  | failed h => exact hw.congr rfl _ rfl (by simp [TraceEntry.handled?])
  | handled h url => exact hw.handle url
  | ignored h url => exact hw.congr rfl _ rfl (by simp [TraceEntry.handled?])
  | pushed pushes => exact hw.congr rfl [] (by simp [pushAll]) (by simp)
  | timed now pending => exact hw.congr rfl [] (by simp) (by simp)

/-- **The store is the history in every state of a course.** -/
theorem Course.faithful {w w' : World} {made : List AnsweredCall} (h : Course w made w')
    (hw : Faithful w) : Faithful w' :=
  h.invariant Change.faithful hw

/-! ## Nothing else changes the store -/

/-- A change handles one request or leaves the capture alone. -/
theorem Change.capture_eq {w w' : World} {made : List AnsweredCall} (h : Change w made w') :
    (w'.handled = w.handled ∧ w'.capture = w.capture) ∨
      ∃ url, w'.handled = w.handled ++ [url] := by
  cases h with
  | handled _ url => exact .inr ⟨url, handled_handle w url⟩
  | answered | failed | ignored =>
    refine .inl ⟨?_, rfl⟩
    simp [World.handled, addTrace, withFailures, TraceEntry.handled?]
  | _ => exact .inl ⟨rfl, rfl⟩

/-- **Requests that are handled are the only change of the capture.** The record of them
only grows, and where it stays the same the capture does. -/
theorem Course.capture_eq {w w' : World} {made : List AnsweredCall} (h : Course w made w') :
    ∃ new, w'.handled = w.handled ++ new ∧ (new = [] → w'.capture = w.capture) := by
  induction h with
  | done w => exact ⟨[], by simp⟩
  | next first _ ih =>
    obtain ⟨new, hNew, hSame⟩ := ih
    -- the first change handles no request, or one
    rcases first.capture_eq with ⟨hHandled, hCapture⟩ | ⟨url, hUrl⟩
    · exact ⟨new, by rw [hNew, hHandled], fun h => (hSame h).trans hCapture⟩
    · refine ⟨url :: new, ?_, fun h => by cases h⟩
      rw [hNew, hUrl, List.append_assoc]
      rfl

end World

end BeaconCheck
