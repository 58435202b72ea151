import Mathlib.Data.List.Forall2
import BeaconCheck.Proofs.Capture.History
import BeaconCheck.Proofs.Session.Alike

/-!
# Watching more trackers

Trackers do not get in each other's way. Where further trackers are watched, in any order, the
other trackers are given the same requests at the same moments, so a test that looks at no further
tracker ends alike. All that can be seen of a further tracker is that it has requests aborted.

Two runs are compared, one of them with more trackers. The worlds that they go through differ in
the capture and in what is on record of the requests; each is faithful to its own record, and the
records agree on which requests were handled. This is enough for a similarity.

* `TraceEntry.Tightened`      — what a further tracker can do to an entry of the trace.
* `World.Widened`             — two worlds, the second of which watches more trackers.
* `World.widened_similarity`  — a run that looks at no further tracker cannot tell them apart.
* `runTest_eq_of_trackers`    — a test reads its list of trackers only to see if there is any.
* `runTest_widened`           — the two runs of a test.
-/

namespace BeaconCheck

/-! ## The requests of the other trackers -/

namespace Capture

variable {few more extra : List Tracker} {name : Text}

/-- Trackers of other names take no copies for a name. -/
theorem copies_eq_of_perm (hMore : more.Perm (few ++ extra))
    (hName : name ∉ extra.map Tracker.name) (url : String) :
    copies more name url = copies few name url := by
  have hNone : extra.countP (fun t => t.name == name && t.isFor url) = 0 :=
    copies_of_not_mem hName url
  rw [copies, hMore.countP_eq, List.countP_append, hNone, copies, Nat.add_zero]

/-- The history of a tracker depends neither on the order of the trackers nor on others. -/
theorem historyOf_eq_of_perm (hMore : more.Perm (few ++ extra))
    (hName : name ∉ extra.map Tracker.name) (urls : List String) :
    historyOf more name urls = historyOf few name urls := by
  unfold historyOf
  congr 1
  funext url
  rw [copies_eq_of_perm hMore hName]

/-- A tracker is known with and without the others. -/
theorem mem_names_iff_of_perm (hMore : more.Perm (few ++ extra))
    (hName : name ∉ extra.map Tracker.name) :
    name ∈ more.map Tracker.name ↔ name ∈ few.map Tracker.name := by
  have hNames := (hMore.map Tracker.name).mem_iff (a := name)
  rw [List.map_append, List.mem_append] at hNames
  rw [hNames]
  exact or_iff_left hName

end Capture

/-! ## Entries of the trace -/

/-- An entry of a trace, and the entry that stands in its place where further trackers are
watched: the same, or that of a request that one of these has aborted. -/
inductive TraceEntry.Tightened (extra : List Tracker) : TraceEntry → TraceEntry → Prop
  | same (entry : TraceEntry) : Tightened extra entry entry
  | aborted {url : String} {t : Tracker} : t ∈ extra → t.urlPart.letters <:+: Text.letters url →
      t.abort = true → Tightened extra (.request url (some .forward)) (.request url (some .abort))

/-- A request that a further tracker has aborted is on record as handled all the same. -/
theorem TraceEntry.Tightened.handled? {extra : List Tracker} {e e' : TraceEntry}
    (h : Tightened extra e e') : e'.handled? = e.handled? := by
  cases h with
  | same => rfl
  | aborted => rfl

/-- So the same requests are on record as handled. -/
theorem TraceEntry.filterMap_handled_eq {extra : List Tracker} {es es' : List TraceEntry}
    (h : List.Forall₂ (Tightened extra) es es') :
    es'.filterMap TraceEntry.handled? = es.filterMap TraceEntry.handled? := by
  induction h with
  | nil => rfl
  | cons hEntry _ ih => rw [List.filterMap_cons, List.filterMap_cons, hEntry.handled?, ih]

/-- Further trackers can have more requests aborted, and no fewer. -/
theorem Capture.tightened_action {c c' : Capture} {extra : List Tracker}
    (hMore : c'.trackers.Perm (c.trackers ++ extra)) (url : String) :
    TraceEntry.Tightened extra (.request url (some (c.action url)))
      (.request url (some (c'.action url))) := by
  have hAbort := action_eq_abort_iff c url
  have hAbort' := action_eq_abort_iff c' url
  cases hFew : c.action url with
  | abort =>
    -- the tracker that asks for it is also among the many
    obtain ⟨t, ht, hAsks⟩ := hAbort.mp hFew
    have hStill : c'.action url = .abort :=
      hAbort'.mpr ⟨t, hMore.mem_iff.mpr (List.mem_append_left _ ht), hAsks⟩
    rw [hStill]
    exact .same _
  | forward =>
    cases hMany : c'.action url with
    | forward => exact .same _
    | abort =>
      obtain ⟨t, ht, hAsks⟩ := hAbort'.mp hMany
      rcases List.mem_append.mp (hMore.mem_iff.mp ht) with ht | ht
      · rw [hAbort.mpr ⟨t, ht, hAsks⟩] at hFew
        cases hFew
      · exact .aborted ht hAsks.1 hAsks.2

/-! ## The two worlds -/

/-- The same options, except for the trackers that are watched. -/
def RunOptions.watching (o : RunOptions) (trackers : List Tracker) : RunOptions :=
  { o with trackers }

namespace World

/-- The world without its capture and its records. -/
def bare (w : World) : World :=
  { w with capture := .ofTrackers [], trace := [], log := [] }

/-- The second world is the first with further trackers. -/
structure Widened (extra : List Tracker) (w v : World) : Prop where
  perm : v.capture.trackers.Perm (w.capture.trackers ++ extra)
  bare : w.bare = v.bare
  trace : List.Forall₂ (TraceEntry.Tightened extra) w.trace v.trace
  faithful : Faithful w
  faithful' : Faithful v

namespace Widened

variable {extra : List Tracker} {w v w' v' : World}

/-- The same requests were handled in both. -/
theorem handled (h : Widened extra w v) : v.handled = w.handled :=
  TraceEntry.filterMap_handled_eq h.trace

/-- What does not depend on the capture and the records is the same in both. -/
theorem same (h : Widened extra w v) {α : Type} (f : World → α) : f w.bare = f v.bare :=
  congrArg f h.bare

/-- The requests of a tracker that is not one of the further ones are the same in both. -/
theorem requests (h : Widened extra w v) {name : Text} (hName : name ∉ extra.map Tracker.name) :
    w.capture.requests name = v.capture.requests name := by
  have hWatched := Capture.mem_names_iff_of_perm h.perm hName
  by_cases hFew : name ∈ w.capture.trackers.map Tracker.name
  · rw [h.faithful.requests_eq hFew, h.faithful'.requests_eq (hWatched.mpr hFew), h.handled,
      Capture.historyOf_eq_of_perm h.perm hName]
  · rw [h.faithful.requests_of_not_mem hFew,
      h.faithful'.requests_of_not_mem (mt hWatched.mp hFew)]

/-- What happens to both alike and handles no request keeps them as they are to each other. -/
theorem congr (h : Widened extra w v) (f : World → World) (entries : List TraceEntry)
    (hEntries : ∀ e ∈ entries, e.handled? = none)
    (hw : w'.bare = f w.bare ∧ w'.capture = w.capture ∧ w'.trace = w.trace ++ entries)
    (hv : v'.bare = f v.bare ∧ v'.capture = v.capture ∧ v'.trace = v.trace ++ entries) :
    Widened extra w' v' where
  perm := by
    rw [hw.2.1, hv.2.1]
    exact h.perm
  bare := by rw [hw.1, hv.1, h.bare]
  trace := by
    rw [hw.2.2, hv.2.2]
    exact List.rel_append h.trace (List.forall₂_same.mpr fun e _ => .same e)
  faithful := h.faithful.congr hw.2.1 entries hw.2.2 hEntries
  faithful' := h.faithful'.congr hv.2.1 entries hv.2.2 hEntries

/-- What leaves the trace alone as well. -/
theorem quiet (h : Widened extra w v) (f : World → World)
    (hw : w'.bare = f w.bare ∧ w'.capture = w.capture ∧ w'.trace = w.trace)
    (hv : v'.bare = f v.bare ∧ v'.capture = v.capture ∧ v'.trace = v.trace) :
    Widened extra w' v' := by
  refine h.congr f [] (by simp) ?_ ?_
  · rw [List.append_nil]
    exact hw
  · rw [List.append_nil]
    exact hv

/-- An entry that is put to both traces, of no request that was handled. -/
theorem addTrace (h : Widened extra w v) {entry : TraceEntry} (hEntry : entry.handled? = none) :
    Widened extra (w.addTrace entry) (v.addTrace entry) := by
  have hEntries : ∀ e ∈ [entry], e.handled? = none := by
    intro e he
    rw [List.mem_singleton.mp he]
    exact hEntry
  exact h.congr id [entry] hEntries ⟨rfl, rfl, rfl⟩ ⟨rfl, rfl, rfl⟩

/-- A request that both handle. -/
theorem handle (h : Widened extra w v) (url : String) :
    Widened extra (w.handle url) (v.handle url) where
  perm := by
    rw [handle_capture, handle_capture, Capture.receive_trackers, Capture.receive_trackers]
    exact h.perm
  bare := h.bare
  trace := by
    -- the request is recorded on both sides, with an action that may have become an abort
    have hEntry := Capture.tightened_action h.perm url
    rw [handle_trace, handle_trace]
    exact List.rel_append h.trace (.cons hEntry .nil)
  faithful := h.faithful.handle url
  faithful' := h.faithful'.handle url

/-- Requests are recorded for the trackers of both worlds alike. -/
theorem handleTimes (h : Widened extra w v) (url : String) (n : Nat) :
    Widened extra (w.handleTimes url n) (v.handleTimes url n) := by
  induction n generalizing w v with
  | zero => exact h
  | succ n ih => exact ih (h.handle url)

/-- A request of the page is passed to the captures of both equally often. -/
theorem fire (h : Widened extra w v) (url : String) : Widened extra (w.fire url) (v.fire url) := by
  have hHandlers : w.handlers = v.handlers := h.same World.handlers
  unfold World.fire
  rw [hHandlers]
  split
  · exact h.addTrace rfl
  · exact h.handleTimes url v.handlers

end Widened

/-- **A run that looks at none of the further trackers** cannot tell whether they are watched. -/
theorem widened_similarity (extra : List Tracker) :
    ClosingSimilarity (fun _ => True) (fun name => name ∉ extra.map Tracker.name)
      (Widened extra) where
  layers h := h.same fun u => u.page.layers
  reactions h := h.same fun u => u.page.reactions
  now h := h.same World.now
  pending h := h.same World.pending
  requests h := h.requests
  logged h _ := h.quiet id ⟨rfl, rfl, rfl⟩ ⟨rfl, rfl, rfl⟩
  fired h url := h.fire url
  pushed h pushes := h.quiet (fun u => u.pushAll pushes) ⟨rfl, rfl, rfl⟩ ⟨rfl, rfl, rfl⟩
  timed h now pending _ :=
    h.quiet (fun u => { u with now, pending }) ⟨rfl, rfl, rfl⟩ ⟨rfl, rfl, rfl⟩
  held h := h.same World.held
  holding h held := h.quiet (fun u => { u with held }) ⟨rfl, rfl, rfl⟩ ⟨rfl, rfl, rfl⟩
  watching h := h.quiet (fun u => { u with handlers := u.handlers + 1 }) ⟨rfl, rfl, rfl⟩
    ⟨rfl, rfl, rfl⟩
  closings _ := trivial
  closed h := h.same World.closed
  closing h := h.quiet (fun u => { u with closed := true }) ⟨rfl, rfl, rfl⟩ ⟨rfl, rfl, rfl⟩
  called {w v} h {c} _ := by
    -- both pages fail at the same calls, since trackers are no part of the page
    have hFailures : w.page.failures = v.page.failures := h.same fun u => u.page.failures
    have hCalled : Widened extra (w.addTrace (.call c)) (v.addTrace (.call c)) := h.addTrace rfl
    cases hAnswer : Page.failAt c w.page.failures with
    | none => exact .answered hAnswer (hFailures ▸ hAnswer) hCalled
    | some p =>
      exact .failed hAnswer (hFailures ▸ hAnswer)
        (hCalled.quiet (fun u => u.withFailures p.2) ⟨rfl, rfl, rfl⟩ ⟨rfl, rfl, rfl⟩)

/-- Before a test nothing was handled, whatever is watched. -/
theorem widened_before {o : RunOptions} {more extra : List Tracker}
    (hMore : more.Perm (o.trackers ++ extra)) (page : Page) :
    Widened extra (.before page o) (.before page (o.watching more)) where
  perm := hMore
  bare := rfl
  trace := .nil
  faithful := .of_empty rfl rfl
  faithful' := .of_empty rfl rfl

end World

/-! ## The list of trackers in the options -/

/-- Steps are executed without a look at the list of trackers. -/
theorem Executor.executeAll_trackers (o : RunOptions) (more : List Tracker) (hasPage : Bool)
    (index : Nat) (steps : List Step) :
    (⟨o.watching more, hasPage⟩ : Executor).executeAll index steps =
      (⟨o, hasPage⟩ : Executor).executeAll index steps := by
  -- no step looks at the list of trackers in the options
  have hStep (i : Int) (step : Step) :
      (⟨o.watching more, hasPage⟩ : Executor).execute i step =
        (⟨o, hasPage⟩ : Executor).execute i step := by
    cases step with
    | check a =>
      obtain ⟨id, name, check⟩ := a
      cases check <;> rfl
    | _ => rfl
  induction steps generalizing index with
  | nil => rfl
  | cons step rest ih => rw [executeAll, executeAll, hStep, ih]

/-- **A test reads its list of trackers only to see if there is any.** What is recorded depends on
the capture of the world. -/
theorem runTest_eq_of_trackers {o : RunOptions} {more : List Tracker}
    (hEmpty : more.isEmpty = o.trackers.isEmpty) (t : TestDefinition) :
    runTest (o.watching more) t = runTest o t := by
  -- entering looks at the trackers only to see whether there are any, and running not at all
  have hStart : Session.start (o.watching more) = Session.start o := by
    have hHeadless : (o.watching more).headless = o.headless := rfl
    have hTrackers : (o.watching more).trackers.isEmpty = o.trackers.isEmpty := hEmpty
    unfold Session.start
    rw [hHeadless, hTrackers]
  have hEnter : Session.enter (o.watching more) = Session.enter o := by
    unfold Session.enter
    rw [hStart]
  have hRun : Session.run (o.watching more) t = Session.run o t := by
    refine funext fun w => ?_
    have hRuns : (Session.run (o.watching more) t).run w = (Session.run o t).run w := by
      rw [Session.run_run, Session.run_run, Executor.executeAll_trackers]
    exact hRuns
  unfold runTest
  rw [hEnter, hRun]

/-- **Trackers do not influence one another.** If further trackers are watched, in any order and
whatever they ask for, a test that names none of them gives the same results or fails in the same
way. Of its trace only requests that a further tracker has aborted look different. -/
theorem runTest_widened {o : RunOptions} {more extra : List Tracker}
    (hWatched : o.trackers ≠ []) (hMore : more.Perm (o.trackers ++ extra))
    (hFresh : ∀ t ∈ extra, t.name ∉ o.trackers.map Tracker.name) {t : TestDefinition}
    (hLooks : ∀ step ∈ t.steps, ∀ name ∈ step.looksAt,
      name ∈ o.trackers.map Tracker.name ∨ name ∉ more.map Tracker.name) (page : Page) :
    ((runTest (o.watching more) t).run (.before page (o.watching more))).1 =
        ((runTest o t).run (.before page o)).1 ∧
      List.Forall₂ (TraceEntry.Tightened extra) ((runTest o t).run (.before page o)).2.trace
        ((runTest (o.watching more) t).run (.before page (o.watching more))).2.trace := by
  have hStillWatched : more ≠ [] := by
    rintro rfl
    exact hWatched (List.append_eq_nil_iff.mp (List.nil_perm.mp hMore)).1
  have hEmpty : more.isEmpty = o.trackers.isEmpty := by
    rw [List.isEmpty_eq_false_iff.mpr hStillWatched, List.isEmpty_eq_false_iff.mpr hWatched]
  -- a name of no tracker, or of one that is watched by both, is not that of a further one
  have hOther : ∀ step ∈ t.steps, ∀ name ∈ step.looksAt, name ∉ extra.map Tracker.name := by
    intro step hStep name hName hExtra
    rcases hLooks step hStep name hName with hFew | hNone
    · obtain ⟨s, hs, rfl⟩ := List.mem_map.mp hExtra
      exact hFresh s hs hFew
    · refine hNone ((hMore.map Tracker.name).mem_iff.mpr ?_)
      rw [List.map_append]
      exact List.mem_append_right _ hExtra
  have hBefore := World.widened_before hMore page
  have hRun := (World.widened_similarity extra).runTest_respects (o := o) (fun _ _ => trivial)
    (fun _ _ => trivial) hOther hBefore
  rw [runTest_eq_of_trackers hEmpty]
  exact ⟨hRun.1.symm, hRun.2.trace⟩

/-- A tracker that has every request aborted, in front of one that the test waits for. -/
theorem runTest_widened_blocker :
    let ga : Tracker := { name := "ga", urlPart := "/g/" }
    let blocker : Tracker := { name := "blocker", urlPart := "http", abort := true }
    let o : RunOptions := { trackers := [ga] }
    let sent := "https://t/g/?en=buy"
    let page : Page :=
      { reactions := [{ trigger := ⟨"goto", none⟩, happening := { urls := [sent] } }] }
    let t : TestDefinition := ⟨"shop", [.goto "https://shop/", .awaitRequests "ga" 1 100]⟩
    ((runTest (o.watching [blocker, ga]) t).run (.before page (o.watching [blocker, ga]))).1 =
        ((runTest o t).run (.before page o)).1 ∧
      List.Forall₂ (TraceEntry.Tightened [blocker]) ((runTest o t).run (.before page o)).2.trace
        ((runTest (o.watching [blocker, ga]) t).run
          (.before page (o.watching [blocker, ga]))).2.trace ∧
      .request sent (some .forward) ∈ ((runTest o t).run (.before page o)).2.trace ∧
      .request sent (some .abort) ∈ ((runTest (o.watching [blocker, ga]) t).run
        (.before page (o.watching [blocker, ga]))).2.trace := by
  intro ga blocker o sent page t
  have hMore : [blocker, ga].Perm (o.trackers ++ [blocker]) := List.Perm.swap ga blocker []
  have hFresh : ∀ t ∈ [blocker], t.name ∉ o.trackers.map Tracker.name := by decide
  -- the only step that looks at a tracker looks at one that was there before
  have hLooks : ∀ step ∈ t.steps, ∀ name ∈ step.looksAt,
      name ∈ o.trackers.map Tracker.name ∨ name ∉ [blocker, ga].map Tracker.name := by
    intro step hStep name hName
    rcases List.mem_cons.mp hStep with rfl | hStep
    · cases hName
    · rw [List.mem_singleton.mp hStep] at hName
      cases hName
      exact .inl (by decide)
  have hWatched : o.trackers ≠ [] := List.cons_ne_nil ga []
  have hRuns := runTest_widened (o := o) hWatched hMore hFresh (t := t) hLooks page
  have hForwarded : .request sent (some .forward) ∈
      ((runTest o t).run (.before page o)).2.trace := by decide +kernel
  have hAborted : .request sent (some .abort) ∈ ((runTest (o.watching [blocker, ga]) t).run
      (.before page (o.watching [blocker, ga]))).2.trace := by decide +kernel
  exact ⟨hRuns.1, hRuns.2, hForwarded, hAborted⟩

end BeaconCheck
