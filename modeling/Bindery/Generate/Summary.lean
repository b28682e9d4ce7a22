import Bindery.Generate.Plan
/-!
Summaries of runs of several generators. Every generator runs, also after one of them has failed.
-/

namespace Bindery

/-- What became of the generators of a run, by name, in their order. -/
structure Summary where
  outcomes : List (String × Except GenerationError Report) := []

namespace Summary

/-- The reports of the generators that completed. -/
def reports (s : Summary) : List Report :=
  s.outcomes.filterMap fun (_, outcome) => outcome.toOption

/-- The generators that did not complete, with the reason. -/
def failures (s : Summary) : List (String × GenerationError) :=
  s.outcomes.filterMap fun (name, outcome) =>
    match outcome with
    | .ok _ => none
    | .error e => some (name, e)

/-- Whether every generator completed. -/
def succeeded (s : Summary) : Bool := s.failures.isEmpty

/-- Everything that any generator left out. -/
def bindingErrors (s : Summary) : List BindingError := s.reports.flatMap (·.errors)

/-- Add what became of one more generator. -/
def add (s : Summary) (name : String) (outcome : Except GenerationError Report) : Summary :=
  ⟨s.outcomes ++ [(name, outcome)]⟩

end Summary

/-- Something to run: a plan, or the reason why there is none. -/
structure Job where
  name : String
  plan : Except GenerationError Plan

namespace Job

section

variable {m : Type → Type} [Monad m] (files : FileOperations m)

/-- Run one job. -/
def carryOut (j : Job) : m (Except GenerationError Report) :=
  match j.plan with
  | .error e => return .error e
  | .ok plan => plan.carryOut files

/-- Run jobs in order after others. -/
def carryOutEach (summary : Summary) : List Job → m Summary
  | [] => return summary
  | j :: js => do carryOutEach (summary.add j.name (← j.carryOut files)) js

end

/-- Run jobs in order on a store. -/
def runAll (jobs : List Job) (s : FileStore) : Summary × FileStore :=
  carryOutEach FileStore.operations {} jobs s

theorem carryOut_eq (j : Job) (s : FileStore) :
    j.carryOut FileStore.operations s =
      match j.plan with
      | .error e => (.error e, s)
      | .ok plan => plan.execute s := by
  rw [carryOut]
  cases j.plan <;> rfl

end Job

end Bindery
