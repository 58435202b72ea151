import BeaconCheck.World

/-!
# Waiting for requests

A run can wait until a tracker has enough requests. The wait ends at the first moment at
which it has, and fails at the deadline. A wait without time fails at once, even if there
are enough requests already.
-/

namespace BeaconCheck

namespace RunM

/-- The count is enough. -/
def isEnough (count : Number) (n : Nat) : Bool :=
  match count with
  | .int i => i ≤ n
  | .float (.infinite negative) => negative
  | .float .nan => false
  | .float x =>
    match x.toRat? with
    | some r => r ≤ (n : Rat)
    | none => false

/-- The length of a wait. An integer must have a thousandth within the finite numbers. -/
def waitLength (timeout : Number) : Except Crash (Option Rat) :=
  match timeout with
  | .int i =>
    match Binary64.ofRat (i < 0) (mkRat i 1000) with
    | .infinite _ => .error .quotientTooLarge
    | _ => .ok (some i)
  | .float x => .ok x.toRat?

/-- The wait has ended without enough requests. An error whose text cannot be written is
a crash. -/
def timedOut (tracker : Text) (count timeout : Number) : RunM Nat := do
  let _ ← safely timeout.text
  let _ ← safely count.text
  stop (.captureTimeout tracker count ((← get).recorded tracker) timeout)

/-- Waits for requests of a tracker that is watched. Gives how many there are then. -/
def awaitCount (tracker : Text) (count timeout : Number) : RunM Nat := do
  let length ← safely (waitLength timeout)
  match length with
  | none => timedOut tracker count timeout
  | some length =>
    if length ≤ 0 then timedOut tracker count timeout
    else
      let enough (w : World) : Bool := isEnough count (w.recorded tracker)
      let w ← get
      if enough w then return w.recorded tracker
      let (reached, w) := World.awaitBy (w.now + length) enough w
      set w
      if reached then return w.recorded tracker
      else timedOut tracker count timeout

/-- Waits for requests of a tracker. -/
def awaitRequests (tracker : Text) (count timeout : Number) : RunM Nat := do
  match (← get).capture.requests tracker with
  | .error e => throw (.assertion e)
  | .ok _ => awaitCount tracker count timeout

end RunM

end BeaconCheck
