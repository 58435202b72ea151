import BeaconCheck.Proofs.World.Course
import BeaconCheck.Run.Await

/-!
# How a wait for requests ends

The wait as one equation: what it gives and the world it leaves, case by case. Nothing but
time passes in a wait, so its course makes no call.

* `World.holds_of_awaitIn` — where letting time pass stops early.
* `RunM.run_awaitCount`   — the cases of a wait.
* `RunM.awaitRequests_world` — a wait leaves the world as time makes it.
* `RunM.awaitRequests_course` — a wait makes no call.
-/

namespace BeaconCheck

/-- Letting time pass stops before the deadline only where the condition holds. -/
theorem World.holds_of_awaitIn {deadline : Rat} {holds : World → Bool} {due : List Due} :
    ∀ {w : World}, (awaitIn deadline holds due w).1 = true →
      holds (awaitIn deadline holds due w).2 = true := by
  -- by induction on what is still to happen: the condition is tried behind each thing that does
  induction due with
  | nil => intro w h; cases h
  | cons d rest ih =>
    intro w h
    rw [awaitIn] at h ⊢
    split at h
    · next hDue =>
      rw [if_pos hDue]
      simp only [] at h ⊢
      split at h
      · next hHolds => rwa [if_pos hHolds]
      · next hNot =>
        rw [if_neg hNot]
        exact ih h
    · cases h

namespace RunM

/-- A wait that has ended without enough requests leaves the world alone. -/
theorem timedOut_world (tracker : Text) (count timeout : Number) (w : World) :
    ((timedOut tracker count timeout).run w).2 = w := by
  rw [timedOut, run_bind, run_safely]
  cases timeout.text with
  | error c => rfl
  | ok shown =>
    simp only [mapError_ok]
    rw [run_bind, run_safely]
    cases count.text <;> rfl

/-- **The cases of a wait** for a tracker that is watched. -/
theorem run_awaitCount (tracker : Text) (count timeout : Number) (w : World) :
    (awaitCount tracker count timeout).run w =
      match waitLength timeout with
      | .error c => (.error (.crash c), w)
      | .ok none => (timedOut tracker count timeout).run w
      | .ok (some length) =>
        if length ≤ 0 then (timedOut tracker count timeout).run w
        else if isEnough count (w.recorded tracker) then (.ok (w.recorded tracker), w)
        else
          let after := World.awaitBy (w.now + length)
            (fun v => isEnough count (v.recorded tracker)) w
          if after.1 then (.ok (after.2.recorded tracker), after.2)
          else (timedOut tracker count timeout).run after.2 := by
  rw [awaitCount, run_bind, run_safely]
  -- the time limit is measured before the requests are counted
  cases waitLength timeout with
  | error c => rfl
  | ok length? =>
    cases length? with
    | none => rfl
    | some length =>
      simp only [mapError_ok]
      split
      · rfl
      · rw [run_bind, run_get]
        simp only []
        split
        · rfl
        · rw [run_bind, run_set]
          simp only []
          split <;> rfl

/-- The tracker is looked up before anything is waited for. -/
theorem run_awaitRequests (tracker : Text) (count timeout : Number) (w : World) :
    (awaitRequests tracker count timeout).run w =
      match w.capture.requests tracker with
      | .error e => (.error (.assertion e), w)
      | .ok _ => (awaitCount tracker count timeout).run w := by
  rw [awaitRequests, run_bind, run_get]
  simp only []
  cases w.capture.requests tracker <;> rfl

/-- **A wait only lets time pass**, if anything. -/
theorem awaitRequests_world (tracker : Text) (count timeout : Number) (w : World) :
    ((awaitRequests tracker count timeout).run w).2 = w ∨
      ∃ deadline holds, ((awaitRequests tracker count timeout).run w).2 =
        (World.awaitBy deadline holds w).2 := by
  rw [run_awaitRequests]
  cases w.capture.requests tracker with
  | error e => exact .inl rfl
  | ok captured =>
    simp only [run_awaitCount]
    cases waitLength timeout with
    | error c => exact .inl rfl
    | ok length? =>
      cases length? with
      | none => exact .inl (timedOut_world ..)
      | some length =>
        simp only []
        split
        · exact .inl (timedOut_world ..)
        · split
          · exact .inl rfl
          -- time passed; at the deadline the world stays as time has made it
          · refine .inr ⟨w.now + length, fun v => isEnough count (v.recorded tracker), ?_⟩
            split
            · rfl
            · exact timedOut_world ..

/-- A wait makes no call. -/
theorem awaitRequests_course (tracker : Text) (count timeout : Number) (w : World) :
    World.Course w [] ((awaitRequests tracker count timeout).run w).2 := by
  rcases awaitRequests_world tracker count timeout w with h | ⟨deadline, holds, h⟩
  · rw [h]
    exact .done w
  · rw [h]
    exact World.awaitBy_course deadline holds w

end RunM

end BeaconCheck
