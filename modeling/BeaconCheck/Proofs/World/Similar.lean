import BeaconCheck.Proofs.Run.Await

/-!
# Worlds that a run cannot tell apart

Two worlds may differ in what a run never looks at: which request was aborted, which closing
call is going to fail. A relation between worlds is a similarity if the two have the same
clock, layers and reactions, the same requests under the names that are looked at, answer
the same calls alike, and stay related when the same happens to both. Whatever the page does
by itself then keeps them related, and so does every call and every wait, which also gives
the same on both sides.

* `World.Similarity`         — what a relation must satisfy.
* `Similarity.awaitBy`       — letting time pass keeps worlds related.
* `RunM.Respects`            — a computation that gives the same on related worlds.
* `Similarity.call_respects`, `Similarity.awaitRequests_respects` — calls and waits do.
-/

namespace BeaconCheck

namespace World

/-- Two worlds answer a call alike: neither fails it, or both with the same error. -/
inductive AnswerAlike (R : World → World → Prop) (c : Call) (w v : World) : Prop
  | answered (hw : Page.failAt c w.page.failures = none)
      (hv : Page.failAt c v.page.failures = none)
      (hR : R (w.addTrace (.call c)) (v.addTrace (.call c)))
  | failed {e : BrowserError} {left left' : List ScriptedFailure}
      (hw : Page.failAt c w.page.failures = some (e, left))
      (hv : Page.failAt c v.page.failures = some (e, left'))
      (hR : R ((w.addTrace (.call c)).withFailures left)
        ((v.addTrace (.call c)).withFailures left'))

/-- What can be due next: what was, and a batch in its place, or without some at the front. -/
def DueNext (w : World) (pending : List Due) : Prop :=
  (∃ d, pending = insertDue d w.pending) ∨ pending <:+ w.pending

/-- A relation between worlds that no run can tell apart if it makes calls of a kind only and
looks at some names only. -/
structure Similarity (C : Call → Prop) (T : Text → Prop) (R : World → World → Prop) :
    Prop where
  layers : ∀ {w v}, R w v → w.page.layers = v.page.layers
  reactions : ∀ {w v}, R w v → w.page.reactions = v.page.reactions
  now : ∀ {w v}, R w v → w.now = v.now
  pending : ∀ {w v}, R w v → w.pending = v.pending
  requests : ∀ {w v}, R w v → ∀ {name}, T name →
    w.capture.requests name = v.capture.requests name
  logged : ∀ {w v}, R w v → ∀ records, R (w.addLog records) (v.addLog records)
  called : ∀ {w v}, R w v → ∀ {c}, C c → AnswerAlike R c w v
  fired : ∀ {w v}, R w v → ∀ url, R (w.fire url) (v.fire url)
  pushed : ∀ {w v}, R w v → ∀ pushes, R (w.pushAll pushes) (v.pushAll pushes)
  timed : ∀ {w v}, R w v → ∀ now {pending}, w.DueNext pending →
    R { w with now, pending } { v with now, pending }

/-- What is counted under a name is the length of what is read under it. Counting goes through
look-up as reading does, and an unknown name counts as none. -/
theorem recorded_eq (w : World) (name : Text) :
    w.recorded name =
      match w.capture.requests name with
      | .ok captured => captured.length
      | .error _ => 0 := by
  unfold World.recorded Capture.requests
  cases Entries.get? w.capture.store name <;> rfl

namespace Similarity

variable {C : Call → Prop} {T : Text → Prop} {R : World → World → Prop} {w v : World}

/-! ## What the page does by itself -/

/-- Similar worlds stay similar when requests are sent in turn. -/
theorem fireAll (h : Similarity C T R) (hR : R w v) (urls : List String) :
    R (w.fireAll urls) (v.fireAll urls) := by
  induction urls generalizing w v with
  | nil => exact hR
  | cons url rest ih => exact ih (h.fired hR url)

/-- Similar worlds stay similar when something happens on the page. -/
theorem happen (h : Similarity C T R) (hR : R w v) (happening : Happening) :
    R (w.happen happening) (v.happen happening) :=
  h.pushed (h.fireAll hR happening.urls) happening.pushes

/-- Similar worlds stay similar when the page reacts. -/
theorem react (h : Similarity C T R) (hR : R w v) (r : Reaction) :
    R (w.react r) (v.react r) := by
  unfold World.react
  cases r.delay with
  | none => exact h.happen hR r.happening
  | some delay =>
    simp only [schedule]
    rw [h.now hR, h.pending hR]
    exact h.timed hR v.now (.inl ⟨_, by rw [h.pending hR]⟩)

/-- The same for reactions in turn. -/
theorem reactAll (h : Similarity C T R) (hR : R w v) (rs : List Reaction) :
    R (rs.foldl World.react w) (rs.foldl World.react v) := by
  induction rs generalizing w v with
  | nil => exact hR
  | cons r rest ih => exact ih (h.react hR r)

/-- What is waited for comes about in both worlds or in none, and they stay similar. -/
theorem awaitIn (h : Similarity C T R) (holds : World → Bool)
    (hHolds : ∀ {w v}, R w v → holds w = holds v) (deadline : Rat) (due : List Due)
    (hR : R w v) (hDue : w.pending = due) :
    (World.awaitIn deadline holds due w).1 = (World.awaitIn deadline holds due v).1 ∧
      R (World.awaitIn deadline holds due w).2 (World.awaitIn deadline holds due v).2 := by
  induction due generalizing w v with
  | nil =>
    refine ⟨rfl, ?_⟩
    simp only [World.awaitIn, advance]
    rw [h.now hR]
    exact h.timed hR _ (.inr (hDue ▸ List.suffix_rfl))
  | cons d rest ih =>
    -- what is due first happens to both at the same time
    have hFirst : R (({ w with pending := rest }.advance d.time).happen d.happening)
        (({ v with pending := rest }.advance d.time).happen d.happening) := by
      refine h.happen ?_ d.happening
      simp only [advance]
      rw [h.now hR]
      exact h.timed hR _ (.inr (hDue ▸ List.suffix_cons d rest))
    simp only [World.awaitIn]
    split
    -- it is due in both or in neither, and what is waited for comes in both or in neither
    · rw [hHolds hFirst]
      split
      · exact ⟨rfl, hFirst⟩
      · exact ih hFirst (happen_clock _ d.happening).2
    · refine ⟨rfl, ?_⟩
      simp only [advance]
      rw [h.now hR]
      exact h.timed hR _ (.inr (hDue ▸ List.suffix_rfl))

/-- **Letting time pass keeps worlds related**, and what is waited for comes in both or in
neither. -/
theorem awaitBy (h : Similarity C T R) (holds : World → Bool)
    (hHolds : ∀ {w v}, R w v → holds w = holds v) (deadline : Rat) (hR : R w v) :
    (World.awaitBy deadline holds w).1 = (World.awaitBy deadline holds v).1 ∧
      R (World.awaitBy deadline holds w).2 (World.awaitBy deadline holds v).2 := by
  unfold World.awaitBy
  rw [← h.pending hR]
  exact h.awaitIn holds hHolds deadline w.pending hR rfl

/-- Similar worlds stay similar as time passes. -/
theorem elapse (h : Similarity C T R) (hR : R w v) (length : Rat) :
    R (w.elapse length) (v.elapse length) := by
  unfold World.elapse
  rw [h.now hR]
  exact (h.awaitBy (fun _ => false) (fun _ => rfl) _ hR).2

/-- Similar worlds stay similar when a call is answered. -/
theorem respond (h : Similarity C T R) {c : Call} (hR : R w v)
    (hCalled : R (w.addTrace (.call c)) (v.addTrace (.call c))) :
    R (w.respond c) (v.respond c) := by
  -- both pages react in the same way, and then the same time passes if the call is one that waits
  have hReacted : R ((w.page.reactionsTo c).foldl World.react (w.addTrace (.call c)))
      ((v.page.reactionsTo c).foldl World.react (v.addTrace (.call c))) := by
    unfold Page.reactionsTo
    rw [h.reactions hR]
    exact h.reactAll hCalled _
  unfold World.respond
  split
  · split
    · split
      · exact h.elapse hReacted _
      · exact hReacted
    · exact hReacted
  · exact hReacted

/-- Similar worlds have recorded the same for a tracker that both know. -/
theorem recorded (h : Similarity C T R) {name : Text} (hName : T name) (hR : R w v) :
    w.recorded name = v.recorded name := by
  rw [World.recorded_eq, World.recorded_eq, h.requests hR hName]

end Similarity

end World

/-! ## Computations -/

namespace RunM

variable {α β : Type} {R : World → World → Prop}

/-- On related worlds the computation gives the same, and leaves related worlds. -/
def Respects (R : World → World → Prop) (m : RunM α) : Prop :=
  ∀ ⦃w v⦄, R w v → (m.run w).1 = (m.run v).1 ∧ R (m.run w).2 (m.run v).2

theorem Respects.pure (a : α) : Respects R (pure a : RunM α) :=
  fun _ _ hR => ⟨rfl, hR⟩

theorem Respects.throw (f : Failure) : Respects R (throw f : RunM α) :=
  fun _ _ hR => ⟨rfl, hR⟩

/-- What is computed apart from the world looks at none. -/
theorem Respects.safely (result : Except Crash α) : Respects R (safely result) := by
  intro w v hR
  rw [run_safely, run_safely]
  exact ⟨rfl, hR⟩

theorem Respects.result (known : Except Failure α) : Respects R (result known) := by
  intro w v hR
  rw [run_result, run_result]
  exact ⟨rfl, hR⟩

/-- What a computation leaves on related worlds, to go on with. -/
theorem Respects.run_eq {m : RunM α} (hm : Respects R m) {w v : World} (hR : R w v) :
    ∃ r w' v', m.run w = (r, w') ∧ m.run v = (r, v') ∧ R w' v' := by
  obtain ⟨hResult, hLeft⟩ := hm hR
  exact ⟨(m.run w).1, (m.run w).2, (m.run v).2, rfl, Prod.ext hResult.symm rfl, hLeft⟩

/-- Computations in turn keep worlds similar if each of them does. -/
theorem Respects.bind {m : RunM α} {f : α → RunM β} (hm : Respects R m)
    (hf : ∀ a, Respects R (f a)) : Respects R (m >>= f) := by
  intro w v hR
  obtain ⟨r, w', v', hw, hv, hLeft⟩ := hm.run_eq hR
  rw [run_bind, run_bind, hw, hv]
  cases r with
  | error e => exact ⟨rfl, hLeft⟩
  | ok a => exact hf a hLeft

/-- So does one that handles the failure of another. -/
theorem Respects.tryCatch {m : RunM α} {handler : Failure → RunM α} (hm : Respects R m)
    (hHandler : ∀ e, Respects R (handler e)) : Respects R (tryCatch m handler) := by
  intro w v hR
  obtain ⟨r, w', v', hw, hv, hLeft⟩ := hm.run_eq hR
  rw [run_tryCatch, run_tryCatch, hw, hv]
  cases r with
  | error e => exact hHandler e hLeft
  | ok a => exact ⟨rfl, hLeft⟩

/-- So does one whose outcome is dropped. -/
theorem Respects.discard {m : RunM α} (hm : Respects R m) : Respects R (discard m) := by
  intro w v hR
  obtain ⟨hResult, hLeft⟩ := hm hR
  rw [run_discard, run_discard, hResult]
  exact ⟨rfl, hLeft⟩

end RunM

namespace World.Similarity

variable {C : Call → Prop} {T : Text → Prop} {R : World → World → Prop}

/-- Logging keeps worlds similar. -/
theorem log_respects (h : Similarity C T R) (level : LogLevel) (message : Text) :
    RunM.Respects R (RunM.log level message) :=
  fun _ _ hR => ⟨rfl, h.logged hR _⟩

/-- **A call** fails in both worlds with the same error, or in neither. -/
theorem call_respects (h : Similarity C T R) {c : Call} (hc : C c) :
    RunM.Respects R (RunM.call c) := by
  intro w v hR
  rw [RunM.run_call, RunM.run_call]
  cases h.called hR hc with
  | answered hw hv hCalled =>
    rw [hw, hv]
    exact ⟨rfl, h.respond hR hCalled⟩
  | failed hw hv hFailed =>
    rw [hw, hv]
    exact ⟨rfl, hFailed⟩

/-- A time-out tells the same count in both worlds. -/
theorem timedOut_respects (h : Similarity C T R) {tracker : Text} (hTracker : T tracker)
    (count timeout : Number) : RunM.Respects R (RunM.timedOut tracker count timeout) := by
  refine RunM.Respects.bind (.safely _) fun _ => RunM.Respects.bind (.safely _) fun _ => ?_
  intro w v hR
  rw [RunM.run_bind, RunM.run_bind, RunM.run_get, RunM.run_get]
  simp only [h.recorded hTracker hR]
  exact ⟨rfl, hR⟩

/-- Waiting for requests gives the same in both worlds. -/
theorem awaitCount_respects (h : Similarity C T R) {tracker : Text} (hTracker : T tracker)
    (count timeout : Number) : RunM.Respects R (RunM.awaitCount tracker count timeout) := by
  intro w v hR
  have hTimedOut := h.timedOut_respects hTracker count timeout
  rw [RunM.run_awaitCount, RunM.run_awaitCount]
  cases RunM.waitLength timeout with
  | error c => exact ⟨rfl, hR⟩
  | ok length? =>
    cases length? with
    | none => exact hTimedOut hR
    | some length =>
      -- the deadline is the same, and so is every count that the wait looks at
      simp only [h.recorded hTracker hR, h.now hR]
      split
      · exact hTimedOut hR
      · split
        · exact ⟨rfl, hR⟩
        · obtain ⟨hReached, hLeft⟩ := h.awaitBy
            (fun u => RunM.isEnough count (u.recorded tracker))
            (fun hR => by rw [h.recorded hTracker hR]) (v.now + length) hR
          rw [hReached]
          split
          · exact ⟨by rw [h.recorded hTracker hLeft], hLeft⟩
          · exact hTimedOut hLeft

/-- **A wait** ends alike in both worlds. -/
theorem awaitRequests_respects (h : Similarity C T R) {tracker : Text} (hTracker : T tracker)
    (count timeout : Number) : RunM.Respects R (RunM.awaitRequests tracker count timeout) := by
  intro w v hR
  rw [RunM.run_awaitRequests, RunM.run_awaitRequests, h.requests hR hTracker]
  cases v.capture.requests tracker with
  | error e => exact ⟨rfl, hR⟩
  | ok captured => exact h.awaitCount_respects hTracker count timeout hR

end World.Similarity

end BeaconCheck
