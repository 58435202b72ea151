import BeaconCheck.Definition.Reader
import BeaconCheck.Proofs.Run.Timeout
import BeaconCheck.Proofs.Session.Stage
import BeaconCheck.Proofs.World.Similar

/-!
# Waits with nothing to wait for

A tracker may have enough requests already when a wait for them begins. Such a wait lets no time
pass and takes nothing off the record, but it does not always complete. The count goes to the log
before anything else, the timeout is divided before the requests are counted, and a wait without
time has missed its deadline before it looks at all. Otherwise the wait completes on the spot.

* `Executor.foundEnough`         — how a wait ends that finds enough requests.
* `Executor.run_awaitRequests_of_enough` — it ends so, and leaves nothing but a record in the log.
* `Executor.execute_satisfied_wait`      — when a satisfied wait completes.
* `Executor.satisfied_waits_fail`        — two steps that are satisfied and fail.
-/

namespace BeaconCheck.Executor

open Binary64 (overflow)

/-- How a wait for `count` requests of a tracker ends that has `captured` of them, which is enough,
when the wait begins. -/
def foundEnough (tracker : Text) (count captured timeout : Nat) : Except Failure Unit :=
  if digitBound ≤ count then .error (.crash .tooLongToWrite)
  else if 1000 * overflow ≤ timeout then .error (.crash .quotientTooLarge)
  else if timeout = 0 then
    .error (.step (.captureTimeout tracker (.int count) captured (.int timeout)))
  else .ok ()

variable {tracker : Text} {count captured : Nat} {w : World} (timeout : Nat)

/-- A wait that finds enough requests completes if its count can be written, its timeout has a
finite thousandth, and it has any time at all. -/
theorem foundEnough_eq_ok_iff :
    foundEnough tracker count captured timeout = .ok () ↔
      0 < timeout ∧ timeout < 1000 * overflow ∧ count < digitBound := by
  unfold foundEnough
  -- three guards in turn: the count is shown, the timeout is divided, and then it has to be
  -- positive
  by_cases hLong : digitBound ≤ count
  · rw [if_pos hLong]
    exact iff_of_false nofun fun h => Nat.not_le.mpr h.2.2 hLong
  rw [if_neg hLong]
  by_cases hLarge : 1000 * overflow ≤ timeout
  · rw [if_pos hLarge]
    exact iff_of_false nofun fun h => Nat.not_le.mpr h.2.1 hLarge
  rw [if_neg hLarge]
  by_cases hZero : timeout = 0
  · rw [if_pos hZero]
    exact iff_of_false nofun fun h => h.1.ne' hZero
  · rw [if_neg hZero]
    have hTime : 0 < timeout := Nat.pos_of_ne_zero hZero
    exact iff_of_true rfl ⟨hTime, Nat.lt_of_not_le hLarge, Nat.lt_of_not_le hLong⟩

/-- A tracker with a count is watched, and has as many requests. -/
theorem recorded_of_count (h : w.capture.count tracker = .ok captured) :
    (∃ requests, w.capture.requests tracker = .ok requests) ∧
      w.recorded tracker = captured := by
  unfold Capture.count at h
  rw [World.recorded_eq]
  -- the count is the length of the list
  cases hRequests : w.capture.requests tracker with
  | error e =>
    rw [hRequests] at h
    cases h
  | ok requests =>
    rw [hRequests] at h
    exact ⟨⟨requests, rfl⟩, Except.ok.inj h⟩

/-- **A wait that finds enough requests** lets no time pass: it ends as it finds them, and the
world differs in the log alone. -/
theorem run_awaitRequests_of_enough (hCount : w.capture.count tracker = .ok captured)
    (hEnough : count ≤ captured) :
    ∃ records, (awaitRequests tracker count timeout).run w =
      (foundEnough tracker count captured timeout, w.addLog records) := by
  obtain ⟨⟨requests, hRequests⟩, hRecorded⟩ := recorded_of_count hCount
  rw [run_awaitRequests, foundEnough]
  by_cases hLong : digitBound ≤ count
  · -- the count is written first, and nothing is done if it cannot be
    rw [if_pos hLong, if_pos hLong]
    refine ⟨[], ?_⟩
    rw [World.addLog, List.append_nil]
  rw [if_neg hLong, if_neg hLong, hRequests]
  generalize [(⟨.info, s!"Waiting for {toString (count : Int)} '" ++ tracker ++ "' request(s)"⟩ :
    LogRecord)] = line
  refine ⟨line, ?_⟩
  have hLogged : (w.addLog line).recorded tracker = captured := hRecorded
  -- there are enough requests already, so that only the guards of the timeout are left
  have hThere : (count : Int) ≤ (captured : Nat) := by exact_mod_cast hEnough
  simp only []
  rw [RunM.run_awaitCount_int, hLogged, Int.natAbs_natCast]
  by_cases hLarge : 1000 * overflow ≤ timeout
  · rw [if_pos hLarge, if_pos hLarge]
    rfl
  rw [if_neg hLarge, if_neg hLarge]
  by_cases hZero : timeout = 0
  · have hPast : (timeout : Int) ≤ 0 := by omega
    have hShort : (count : Int).natAbs < digitBound := by
      rw [Int.natAbs_natCast]
      exact Nat.lt_of_not_le hLong
    rw [if_pos hPast, if_pos hZero, RunM.missed_of_lt hShort]
    rfl
  · have hTime : ¬ (timeout : Int) ≤ 0 := by omega
    rw [if_neg hTime, if_neg hZero, if_pos hThere]
    rfl

/-- **When a satisfied wait completes.** Take a step that waits for requests, with any count and
any timeout, and any world in which its tracker is watched and has at least as many requests. The
step lets no time pass and leaves the world as it was, the store of the capture included, except
for the log. It completes exactly if its timeout is neither zero nor so large that its thousandth
is beyond the finite numbers, and its count has few enough digits to be written. Without time it
fails like a wait that has missed its deadline, and in the other two cases it crashes. -/
theorem execute_satisfied_wait (x : Executor) (index : Int)
    (hCount : w.capture.count tracker = .ok captured) (hEnough : count ≤ captured) :
    let ended := (x.execute index (.awaitRequests tracker count timeout)).run w
    (∃ records, ended.2 = w.addLog records) ∧ ended.2.capture = w.capture ∧
      (ended.1 = .ok none ↔ 0 < timeout ∧ timeout < 1000 * overflow ∧ count < digitBound) ∧
      ended.1 = (foundEnough tracker count captured timeout).map fun _ => none := by
  intro ended
  obtain ⟨records, hRun⟩ := run_awaitRequests_of_enough timeout hCount hEnough
  -- the step gives no result of its own; it completes where the wait does
  have hEnded : ended =
      ((foundEnough tracker count captured timeout).map fun _ => none, w.addLog records) := by
    show (execute _ _ _).run w = _
    rw [execute, RunM.run_bind, hRun]
    cases foundEnough tracker count captured timeout <;> rfl
  have hCompletes := @foundEnough_eq_ok_iff tracker count captured timeout
  rw [hEnded]
  generalize foundEnough tracker count captured timeout = found at hCompletes ⊢
  refine ⟨⟨records, rfl⟩, rfl, Iff.trans ?_ hCompletes, rfl⟩
  cases found with
  | error f => exact iff_of_false nofun nofun
  | ok _ => exact iff_of_true rfl rfl

/-- A session with one request on record: a wait for one completes with a timeout of one
millisecond. -/
theorem execute_satisfied_wait_one :
    let o : RunOptions := { trackers := [⟨"ga", "collect", false⟩] }
    let w := ((Session.enter o).run (.before {} o)).2.fire "https://x/collect?ev=buy"
    w.capture.count "ga" = .ok 1 ∧
      ((Executor.execute ⟨o, true⟩ 0 (.awaitRequests "ga" 1 1)).run w).1 = .ok none := by
  intro o w
  have hCount : w.capture.count "ga" = .ok 1 := by decide +kernel
  refine ⟨hCount, (execute_satisfied_wait 1 ⟨o, true⟩ 0 hCount le_rfl).2.2.1.mpr ?_⟩
  exact ⟨Nat.one_pos, by decide +kernel, by decide +kernel⟩

/-- In the same session, a step that waits for one request without any time is read and fails for
want of it, and one with a timeout of `10 ^ 312` milliseconds is read and crashes. -/
theorem satisfied_waits_fail :
    let o : RunOptions := { trackers := [⟨"ga", "collect", false⟩] }
    let w := ((Session.enter o).run (.before {} o)).2.fire "https://x/collect?ev=buy"
    let wait (timeout : Nat) : Value :=
      .ofFields [("action", .text "waitForRequest"), ("for", .text "ga"), ("timeout", .int timeout)]
    w.capture.count "ga" = .ok 1 ∧
      Step.ofValue (wait 0) 0 = .ok (.awaitRequests "ga" 1 0) ∧
      ((Executor.execute ⟨o, true⟩ 0 (.awaitRequests "ga" 1 0)).run w).1 =
        .error (.step (.captureTimeout "ga" (.int 1) 1 (.int 0))) ∧
      Step.ofValue (wait (10 ^ 312)) 0 = .ok (.awaitRequests "ga" 1 (10 ^ 312)) ∧
      ((Executor.execute ⟨o, true⟩ 0 (.awaitRequests "ga" 1 (10 ^ 312))).run w).1 =
        .error (.crash .quotientTooLarge) := by
  intro o w wait
  have hCount : w.capture.count "ga" = .ok 1 := by decide +kernel
  have hRead (timeout : Nat) :
      Step.ofValue (wait timeout) 0 = .ok (.awaitRequests "ga" 1 timeout) := by
    rfl
  have hSmall : ¬ 1000 * overflow ≤ 0 := by decide +kernel
  have hLarge : 1000 * overflow ≤ 10 ^ 312 := by decide +kernel
  have hWritten : ¬ digitBound ≤ 1 := by decide +kernel
  -- both waits are cases of the theorem above, with the guards decided by evaluation
  have hEnded (timeout : Nat) := (execute_satisfied_wait timeout ⟨o, true⟩ 0 hCount
    le_rfl).2.2.2
  refine ⟨hCount, hRead 0, ?_, hRead (10 ^ 312), ?_⟩
  · rw [hEnded, foundEnough, if_neg hWritten, if_neg hSmall, if_pos rfl]
    rfl
  · rw [hEnded, foundEnough, if_neg hWritten, if_pos hLarge]
    rfl

end BeaconCheck.Executor
