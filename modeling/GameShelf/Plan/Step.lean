import GameShelf.Plan.Basic

/-!
# Runs of a plan

A plan lives through a sequence of steps.  A step that fails reports its error and leaves the plan
as it was, so every sequence has a result.
-/

set_option autoImplicit false

namespace GameShelf.Plan

/-- A change that a user asks for. -/
inductive Step where
  | add (text : Text) (view : List Game)
  | remove (text : Text)
  | clear
  deriving DecidableEq, Repr

/-- What a step does to a plan, if it does not fail. -/
def Step.change (plan : Plan) : Step → Except Error Change
  | .add text view => plan.add text view
  | .remove text => plan.remove text
  | .clear => .ok ⟨empty, plan.size⟩

/-- The plan after a step. -/
def step (plan : Plan) (s : Step) : Plan :=
  match s.change plan with
  | .ok change => change.plan
  | .error _ => plan

/-- The plan after a sequence of steps. -/
def run (plan : Plan) (steps : List Step) : Plan :=
  steps.foldl step plan

/-- The plan after a step, and the number of games by which it changed or the error. -/
def outcome (plan : Plan) (s : Step) : Plan × Except Error Nat :=
  (plan.step s, (s.change plan).map (·.count))

end GameShelf.Plan
