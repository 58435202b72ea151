import BeaconCheck.Proofs.Number.Range
import BeaconCheck.Proofs.Run.Await
import BeaconCheck.Run.Steps

/-!
# Waits with whole timeouts

The count and the timeout of a step are integers. Such a wait has a length unless the
thousandth of its timeout is beyond the finite numbers, and then the timeout has few enough
digits to be written. So a wait that misses its deadline fails with the step's own error
unless its count has too many digits.

* `RunM.waitLength_int`    — the length of a wait with a whole timeout.
* `RunM.missed`            — the failure of a wait that has missed its deadline.
* `RunM.run_awaitCount_int` — the cases of a wait with whole count and timeout.
* `RunM.enough_of_awaitCount_int` — a wait that ends well has seen enough requests.
* `Executor.run_awaitRequests` — the cases of a step that waits for requests.
-/

namespace BeaconCheck

/-- A timeout whose thousandth is finite can be written. -/
theorem thousand_overflow_lt_digitBound : 1000 * Binary64.overflow < digitBound := by
  decide +kernel

namespace RunM

/-- The thousandth of a timeout is beyond the finite numbers. -/
theorem thousandth_isInfinite_iff (zeroNegative : Bool) (timeout : Int) :
    (Binary64.ofRat zeroNegative (mkRat timeout 1000)).isInfinite = true ↔
      1000 * Binary64.overflow ≤ timeout.natAbs := by
  have hAbs : |mkRat timeout 1000| = (timeout.natAbs : ℚ) / 1000 := by
    rw [Rat.mkRat_eq_div, abs_div, Nat.cast_natAbs, Int.cast_abs]
    norm_num only
  have hPos : (0 : ℚ) < 1000 := by norm_num only
  rw [Binary64.ofRat_isInfinite_iff, hAbs, le_div_iff₀ hPos, mul_comm]
  exact_mod_cast Iff.rfl

/-- **The length of a wait** with a whole timeout. -/
theorem waitLength_int (timeout : Int) :
    waitLength (.int timeout) =
      if 1000 * Binary64.overflow ≤ timeout.natAbs then .error .quotientTooLarge
      else .ok (some timeout) := by
  simp only [waitLength, ← thousandth_isInfinite_iff (timeout < 0) timeout]
  cases Binary64.ofRat (timeout < 0) (mkRat timeout 1000) <;> rfl

/-- The failure of a wait that has missed its deadline: an error of the step, unless the count
that was missed cannot be written. -/
def missed (tracker : Text) (count : Int) (captured : Nat) (timeout : Int) : Failure :=
  if count.natAbs < digitBound then
    .step (.captureTimeout tracker (.int count) captured (.int timeout))
  else .crash .tooLongToWrite

/-- A count that can be shown is told in the time-out. -/
theorem missed_of_lt {count : Int} (h : count.natAbs < digitBound) (tracker : Text)
    (captured : Nat) (timeout : Int) :
    missed tracker count captured timeout =
      .step (.captureTimeout tracker (.int count) captured (.int timeout)) :=
  if_pos h

/-- A time-out within the range of floats is told in whole milliseconds. -/
theorem run_timedOut_int {timeout : Int} (hTimeout : timeout.natAbs < 1000 * Binary64.overflow)
    (tracker : Text) (count : Int) (w : World) :
    (timedOut tracker (.int count) (.int timeout)).run w =
      (.error (missed tracker count (w.recorded tracker) timeout), w) := by
  have hDigits : timeout.natAbs < digitBound :=
    Nat.lt_trans hTimeout thousand_overflow_lt_digitBound
  have hWritten : integerText timeout = .ok (toString timeout) := integerText_of_lt hDigits
  rw [timedOut, run_bind, run_safely, Number.text, hWritten]
  simp only [mapError_ok]
  rw [run_bind, run_safely, Number.text]
  -- the timeout can be written because it was measured; whether the count can be is still open
  by_cases hCount : count.natAbs < digitBound
  · have hShown : integerText count = .ok (toString count) := integerText_of_lt hCount
    rw [hShown, missed_of_lt hCount]
    rfl
  · have hLong : integerText count = .error .tooLongToWrite :=
      integerText_eq_error_iff.mpr ⟨rfl, Nat.le_of_not_lt hCount⟩
    have hMissed : missed tracker count (w.recorded tracker) timeout = .crash .tooLongToWrite :=
      if_neg hCount
    rw [hLong, hMissed]
    rfl

/-- **The cases of a wait** with whole count and timeout, for a tracker that is watched. -/
theorem run_awaitCount_int (tracker : Text) (count timeout : Int) (w : World) :
    (awaitCount tracker (.int count) (.int timeout)).run w =
      if 1000 * Binary64.overflow ≤ timeout.natAbs then (.error (.crash .quotientTooLarge), w)
      else if timeout ≤ 0 then
        (.error (missed tracker count (w.recorded tracker) timeout), w)
      else if count ≤ w.recorded tracker then (.ok (w.recorded tracker), w)
      else
        let after := World.awaitBy (w.now + timeout)
          (fun v => isEnough (.int count) (v.recorded tracker)) w
        if after.1 then (.ok (after.2.recorded tracker), after.2)
        else (.error (missed tracker count (after.2.recorded tracker) timeout), after.2) := by
  rw [run_awaitCount, waitLength_int]
  by_cases h : 1000 * Binary64.overflow ≤ timeout.natAbs
  · rw [if_pos h, if_pos h]
  -- a timeout that can be divided can be written too
  · have hTimeout : timeout.natAbs < 1000 * Binary64.overflow := Nat.lt_of_not_le h
    rw [if_neg h, if_neg h]
    simp only [run_timedOut_int hTimeout]
    by_cases hPast : timeout ≤ 0
    · rw [if_pos hPast, if_pos (Int.cast_nonpos.mpr hPast)]
    · rw [if_neg hPast, if_neg fun h => hPast (Int.cast_nonpos.mp h)]
      simp only [isEnough, decide_eq_true_eq]

/-- A wait with whole count and timeout fails if its timeout is too large, or if it has missed
its deadline. -/
theorem failure_of_awaitCount_int {tracker : Text} {count timeout : Int} {w : World}
    {f : Failure}
    (h : ((awaitCount tracker (.int count) (.int timeout)).run w).1 = .error f) :
    (1000 * Binary64.overflow ≤ timeout.natAbs ∧ f = .crash .quotientTooLarge) ∨
      ∃ captured, f = missed tracker count captured timeout := by
  rw [run_awaitCount_int] at h
  -- each of the guards that fails names the failure
  by_cases hLarge : 1000 * Binary64.overflow ≤ timeout.natAbs
  · rw [if_pos hLarge] at h
    exact .inl ⟨hLarge, (Except.error.inj h).symm⟩
  · rw [if_neg hLarge] at h
    split at h
    · exact .inr ⟨_, (Except.error.inj h).symm⟩
    · split at h
      · cases h
      · simp only [] at h
        split at h
        · cases h
        · exact .inr ⟨_, (Except.error.inj h).symm⟩

/-- A wait that ends well gives how many requests there are then, and these are enough. -/
theorem enough_of_awaitCount_int {tracker : Text} {count timeout : Int} {w v : World} {n : Nat}
    (h : (awaitCount tracker (.int count) (.int timeout)).run w = (.ok n, v)) :
    n = v.recorded tracker ∧ count ≤ n := by
  -- only two ways end without a failure: enough at once, or enough before the time was up
  rw [run_awaitCount_int] at h
  split at h
  · cases h
  split at h
  · cases h
  split at h
  · next hEnough =>
    cases h
    exact ⟨rfl, hEnough⟩
  · -- there were not enough requests before time passed
    simp only [] at h
    split at h
    · next hReached =>
      cases h
      have hEnough := World.holds_of_awaitIn hReached
      rw [isEnough, decide_eq_true_eq] at hEnough
      exact ⟨rfl, hEnough⟩
    · cases h

end RunM

namespace Executor

/-- **The cases of a step that waits for requests.** Its count must be short enough to be
written into the log; the tracker is looked up behind that. -/
theorem run_awaitRequests (tracker : Text) (count timeout : Nat) (w : World) :
    (awaitRequests tracker count timeout).run w =
      if digitBound ≤ count then (.error (.crash .tooLongToWrite), w)
      else
        let logged := w.addLog
          [⟨.info, s!"Waiting for {toString (count : Int)} '" ++ tracker ++ "' request(s)"⟩]
        match w.capture.requests tracker with
        | .error _ => (.error (.step (.unknownTracker tracker)), logged)
        | .ok _ =>
          let ended := (RunM.awaitCount tracker (.int count) (.int timeout)).run logged
          (ended.1.map fun _ => (), ended.2) := by
  rw [awaitRequests, RunM.run_bind, RunM.run_safely]
  by_cases hLong : digitBound ≤ count
  · have hText : integerText count = .error .tooLongToWrite :=
      integerText_eq_error_iff.mpr ⟨rfl, by rwa [Int.natAbs_natCast]⟩
    rw [hText, if_pos hLong]
    rfl
  · have hShort : (count : Int).natAbs < digitBound := by
      rw [Int.natAbs_natCast]
      exact Nat.lt_of_not_le hLong
    rw [integerText_of_lt hShort, if_neg hLong]
    simp only [RunM.mapError_ok]
    rw [RunM.run_bind, RunM.run_log]
    simp only []
    generalize hLogged : w.addLog
      [⟨.info, s!"Waiting for {toString (count : Int)} '" ++ tracker ++ "' request(s)"⟩] = logged
    have hSame : logged.capture = w.capture := by rw [← hLogged, World.addLog]
    rw [RunM.run_tryCatch, RunM.run_discard, RunM.run_awaitRequests, hSame]
    cases hRequests : w.capture.requests tracker with
    | error e =>
      -- reading the requests fails for no other reason
      obtain rfl : e = .unknownTracker tracker := by
        unfold Capture.requests at hRequests
        split at hRequests
        · cases hRequests
        · exact (Except.error.inj hRequests).symm
      rfl
    | ok captured =>
      simp only []
      rcases hWait : (RunM.awaitCount tracker (.int count) (.int timeout)).run logged with
        ⟨f | n, v⟩
      · -- a wait fails with no error of an assertion, so its failure is passed on
        have hFailed : ((RunM.awaitCount tracker (.int count) (.int timeout)).run logged).1 =
            .error f := by rw [hWait]
        rcases RunM.failure_of_awaitCount_int hFailed with ⟨-, rfl⟩ | ⟨captured', hMissed⟩
        · rfl
        · rw [RunM.missed_of_lt hShort] at hMissed
          subst hMissed
          rfl
      · rfl

end Executor

end BeaconCheck
