import BeaconCheck.Proofs.Capture.Operations

/-!
# Matching captured requests

A request assertion looks at the latest request of its tracker or at any of them. The list of a
tracker only grows at its end, so the requests that were once the latest are all of its
requests, and matching any of them is the same as having matched the latest at some point.

* `Capture.matchesRequest_of_requests` — what is matched once the requests are read.
* `Capture.Takes`                      — a tracker with a name takes a request.
* `Capture.any_historyOf`, `getLast?_historyOf` — the history at large, and its last entry.
* `matchesRequest_any_iff_latest`      — matching any is the history of matching the latest.
-/

namespace BeaconCheck

namespace Capture

/-! ## Matching what was read -/

/-- A request is recorded with a value for a key if its URL decodes to one. -/
theorem matches_recordOf {key : Text} {url : String} {p : Pattern} :
    (recordOf url).matches key p = true ↔
      ∃ params value, Query.params url = .ok params ∧ params.get? key = some value ∧
        p.occursIn value = true := by
  unfold recordOf Params.matches
  -- a query that cannot be decoded leaves an empty record, in which nothing is found
  cases hParams : Query.params url with
  | error e => cases key <;> simp [Params.get?, Entries.get?]
  | ok params =>
    simp only [Except.ok.injEq]
    cases hValue : params.get? key with
    | none => simp [hValue]
    | some value => simp [hValue]

/-- What is matched once the requests of the tracker are read. -/
theorem matchesRequest_of_requests {c : Capture} {tracker : Text} {captured : List Params}
    (h : c.requests tracker = .ok captured) (key pattern : Text) (any : Bool) :
    c.matchesRequest tracker key pattern any =
      match captured.getLast? with
      | none => .error (.assertion (.noRequests tracker))
      | some latest => requestMatches (if any then captured else [latest]) key pattern := by
  unfold matchesRequest candidates
  rw [h]
  simp only [RunM.mapError_ok, bind, Except.bind]
  cases captured.getLast? <;> rfl

/-- Nothing is matched for an unknown tracker. -/
theorem matchesRequest_of_unknown {c : Capture} {tracker : Text} {e : AssertionError}
    (h : c.requests tracker = .error e) (key pattern : Text) (any : Bool) :
    c.matchesRequest tracker key pattern any = .error (.assertion e) := by
  unfold matchesRequest
  rw [h]
  rfl

/-! ## The history of a name -/

/-- A tracker with the name takes the request. -/
def Takes (trackers : List Tracker) (name : Text) (url : String) : Prop :=
  ∃ t ∈ trackers, t.name = name ∧ t.urlPart.letters <:+: Text.letters url

/-- A request is recorded for a tracker exactly if it is taken for it. -/
theorem copies_pos_iff {trackers : List Tracker} {name : Text} {url : String} :
    0 < copies trackers name url ↔ Takes trackers name url := by
  unfold copies Takes
  rw [List.countP_pos_iff]
  simp only [Bool.and_eq_true, beq_iff_eq, Tracker.isFor_iff]

/-- A request that no tracker with the name takes has no copy. -/
theorem copies_eq_zero {trackers : List Tracker} {name : Text} {url : String}
    (h : ¬ Takes trackers name url) : copies trackers name url = 0 :=
  Nat.eq_zero_of_not_pos fun hPos => h (copies_pos_iff.mp hPos)

/-- What is not taken leaves no history. -/
theorem historyOf_eq_nil {trackers : List Tracker} {name : Text} {urls : List String}
    (h : ∀ url ∈ urls, ¬ Takes trackers name url) : historyOf trackers name urls = [] := by
  refine List.flatMap_eq_nil_iff.mpr fun url hUrl => ?_
  rw [copies_eq_zero (h url hUrl)]
  rfl

/-- Something holds of a record in the history if it holds of a request that was taken. -/
theorem any_historyOf {trackers : List Tracker} {name : Text} {urls : List String}
    {f : Params → Bool} :
    (historyOf trackers name urls).any f = true ↔
      ∃ url ∈ urls, Takes trackers name url ∧ f (recordOf url) = true := by
  -- the records of one request are copies of one record, if there are any
  have hCopies (url : String) : (∃ params ∈ List.replicate (copies trackers name url)
      (recordOf url), f params = true) ↔ Takes trackers name url ∧ f (recordOf url) = true := by
    rw [← copies_pos_iff, Nat.pos_iff_ne_zero]
    simp only [List.mem_replicate]
    constructor
    · rintro ⟨_, ⟨hPos, rfl⟩, hHolds⟩
      exact ⟨hPos, hHolds⟩
    · rintro ⟨hPos, hHolds⟩
      exact ⟨_, ⟨hPos, rfl⟩, hHolds⟩
  rw [historyOf, List.any_flatMap, List.any_eq_true]
  simp only [List.any_eq_true, hCopies]

/-- Each request that is taken is in the history. -/
theorem recordOf_mem_historyOf {trackers : List Tracker} {name : Text} {url : String} {urls : List String}
    (hUrl : url ∈ urls) (h : Takes trackers name url) :
    recordOf url ∈ historyOf trackers name urls := by
  refine List.mem_flatMap.mpr ⟨url, hUrl, List.mem_replicate.mpr ⟨?_, rfl⟩⟩
  exact Nat.ne_of_gt (copies_pos_iff.mpr h)

/-- A request that is taken is the latest in the history, whatever came before it. -/
theorem getLast?_historyOf {trackers : List Tracker} {name : Text} {url : String}
    (h : Takes trackers name url) (before : List String) :
    (historyOf trackers name (before ++ [url])).getLast? = some (recordOf url) := by
  have hCopies : copies trackers name url ≠ 0 := Nat.ne_of_gt (copies_pos_iff.mpr h)
  rw [historyOf_append, List.getLast?_append]
  simp [historyOf, List.getLast?_replicate, hCopies]

/-! ## Requests in turn -/

/-- The captured requests when the page has sent some requests, one after the other. -/
def after (trackers : List Tracker) (urls : List String) : Capture :=
  (CaptureOp.playAll (World.watching trackers) (urls.map .fire)).capture

theorem handled_playAll_fire (w : World) (urls : List String) :
    (CaptureOp.playAll w (urls.map .fire)).handled = w.handled ++ urls := by
  induction urls generalizing w with
  | nil => exact (List.append_nil _).symm
  | cons url rest ih =>
    show (CaptureOp.playAll (w.handle url) (rest.map .fire)).handled = _
    rw [ih, World.handled_handle, List.append_assoc]
    rfl

/-- The requests of a tracker are the history of what was sent. -/
theorem requests_after {trackers : List Tracker} {name : Text}
    (hName : name ∈ trackers.map Tracker.name) (urls : List String) :
    (after trackers urls).requests name = .ok (historyOf trackers name urls) := by
  have hCourse : World.Course (World.watching trackers) []
      (CaptureOp.playAll (World.watching trackers) (urls.map .fire)) :=
    CaptureOp.playAll_course Nat.one_ne_zero _
  have hTrackers : (after trackers urls).trackers = trackers := hCourse.frame.trackers
  have hRequests := (hCourse.faithful (.of_empty rfl rfl)).requests_eq (hTrackers ▸ hName)
  rw [show World.capture _ = after trackers urls from rfl, hTrackers, handled_playAll_fire]
    at hRequests
  exact hRequests

/-- What matching the requests gives behind some requests, for a pattern that compiles. -/
theorem matchesRequest_after {trackers : List Tracker} {name pattern : Text} {p : Pattern}
    (hName : name ∈ trackers.map Tracker.name) (hCompiles : Pattern.compile pattern = .ok p)
    (urls : List String) (key : Text) (any : Bool) :
    (after trackers urls).matchesRequest name key pattern any =
      match (historyOf trackers name urls).getLast? with
      | none => .error (.assertion (.noRequests name))
      | some latest =>
        .ok ((if any then historyOf trackers name urls else [latest]).any (·.matches key p)) := by
  have hPattern : compilePattern pattern = .ok p := by
    unfold compilePattern
    rw [hCompiles]
  -- what is recorded of the tracker is its history, of which both modes look at a part
  rw [matchesRequest_of_requests (requests_after hName urls)]
  cases (historyOf trackers name urls).getLast? with
  | none => rfl
  | some latest =>
    simp only [requestMatches, hPattern]
    rfl

end Capture

/-! ## Any and the latest -/

open Capture in
/-- **Matching any request is the history of matching the latest.** When a page has sent some
requests, a pattern is found in one of the requests of a tracker exactly if there was one of them
right behind which it was found in the latest. Both ways of matching give a verdict as soon as a
request was captured for the tracker, and the same error if none was. -/
theorem matchesRequest_any_iff_latest (trackers : List Tracker) (urls : List String)
    {name pattern : Text} {p : Pattern} (hName : name ∈ trackers.map Tracker.name)
    (hCompiles : Pattern.compile pattern = .ok p) (key : Text) :
    ((after trackers urls).matchesRequest name key pattern true = .ok true ↔
      ∃ before url rest, urls = before ++ url :: rest ∧ Takes trackers name url ∧
        (after trackers (before ++ [url])).matchesRequest name key pattern false = .ok true) ∧
    ((∃ url ∈ urls, Takes trackers name url) → ∀ any, ∃ verdict,
      (after trackers urls).matchesRequest name key pattern any = .ok verdict) ∧
    ((∀ url ∈ urls, ¬ Takes trackers name url) → ∀ any,
      (after trackers urls).matchesRequest name key pattern any =
        .error (.assertion (.noRequests name))) := by
  have hAfter (urls : List String) (any : Bool) :=
    matchesRequest_after hName hCompiles urls key any
  refine ⟨?_, fun hTaken any => ?_, fun hNone any => ?_⟩
  · -- on both sides the pattern is found in the record of a request that was taken
    have hAny : (after trackers urls).matchesRequest name key pattern true = .ok true ↔
        ∃ url ∈ urls, Takes trackers name url ∧ (recordOf url).matches key p = true := by
      rw [hAfter, ← any_historyOf (f := fun params => params.matches key p)]
      cases hLast : (historyOf trackers name urls).getLast? with
      | none =>
        rw [List.getLast?_eq_none_iff.mp hLast]
        simp
      | some latest => simp
    -- behind a prefix that ends with such a request it is the latest one
    have hLatest (before : List String) {url : String} (hTakes : Takes trackers name url) :
        (after trackers (before ++ [url])).matchesRequest name key pattern false = .ok true ↔
          (recordOf url).matches key p = true := by
      rw [hAfter, getLast?_historyOf hTakes]
      simp
    rw [hAny]
    constructor
    · rintro ⟨url, hUrl, hTakes, hFound⟩
      obtain ⟨before, rest, rfl⟩ := List.append_of_mem hUrl
      exact ⟨before, url, rest, rfl, hTakes, (hLatest before hTakes).mpr hFound⟩
    · rintro ⟨before, url, rest, rfl, hTakes, hFound⟩
      exact ⟨url, by simp, hTakes, (hLatest before hTakes).mp hFound⟩
  · obtain ⟨url, hUrl, hTakes⟩ := hTaken
    have hSome : (historyOf trackers name urls).any (fun _ => true) = true :=
      any_historyOf.mpr ⟨url, hUrl, hTakes, rfl⟩
    rw [hAfter]
    cases hLast : (historyOf trackers name urls).getLast? with
    | none =>
      rw [List.getLast?_eq_none_iff.mp hLast] at hSome
      cases hSome
    | some latest => exact ⟨_, rfl⟩
  · rw [hAfter, historyOf_eq_nil hNone]
    rfl

/-- A purchase that is followed by a view of a page, and by a request that cannot be decoded:
the latest request has no event, but one of the earlier ones is a purchase. -/
theorem matchesRequest_any_iff_latest_purchase :
    let trackers : List Tracker := [⟨"ga", "collect", false⟩, ⟨"ads", "pixel", true⟩]
    let urls := ["https://x/collect?ev=buy", "https://y/pixel?ev=view", "https://x/collect?ev=%ff"]
    let capture := Capture.after trackers urls
    Text.whole "ga" ∈ trackers.map Tracker.name ∧ (Pattern.compile "^buy$").isOk = true ∧
      capture.matchesRequest "ga" "ev" "^buy$" true = .ok true ∧
      ∃ before url rest, urls = before ++ url :: rest ∧ Capture.Takes trackers "ga" url ∧
        (Capture.after trackers (before ++ [url])).matchesRequest "ga" "ev" "^buy$" false =
          .ok true := by
  intro trackers urls capture
  have hName : Text.whole "ga" ∈ trackers.map Tracker.name := by decide
  have hOk : (Pattern.compile "^buy$").isOk = true := by decide +kernel
  have hFound : (capture.matchesRequest "ga" "ev" "^buy$" true).toOption = some true := by
    decide +kernel
  -- the verdict is evaluated as far as it can be decided, and then named
  have hAny : capture.matchesRequest "ga" "ev" "^buy$" true = .ok true := by
    cases hResult : capture.matchesRequest "ga" "ev" "^buy$" true with
    | error f =>
      rw [hResult] at hFound
      cases hFound
    | ok verdict =>
      rw [hResult] at hFound
      exact congrArg Except.ok (Option.some.inj hFound)
  refine ⟨hName, hOk, hAny, ?_⟩
  cases hCompiles : Pattern.compile "^buy$" with
  | error e =>
    rw [hCompiles] at hOk
    cases hOk
  | ok p => exact (matchesRequest_any_iff_latest trackers urls hName hCompiles "ev").1.mp hAny

end BeaconCheck
