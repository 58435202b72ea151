import BeaconCheck.Run.Steps

/-!
# Stepping

Steps can also be executed one by one, with anything happening between them. The results are
kept from step to step; a failure of a step does not take them away.

`Stepper.execute` executes one step.
-/

namespace BeaconCheck

/-- What executes single steps, with the results that they had so far. -/
structure Stepper where
  executor : Executor
  results : List TestResult := []
deriving Repr, Inhabited

/-- Executes the step with an index. Its result, if there is one, comes behind the earlier ones. -/
def Stepper.execute (s : Stepper) (index : Int) (step : Step) (w : World) :
    Except Failure Unit × Stepper × World :=
  match (s.executor.execute index step).run w with
  | (.ok result, w) => (.ok (), { s with results := s.results ++ result.toList }, w)
  | (.error f, w) => (.error f, s, w)

end BeaconCheck
