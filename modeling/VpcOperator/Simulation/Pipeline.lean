import VpcOperator.Pass.Step

/-!
# Pipelines

A pass is rehearsed by a pipeline, in which some parts may be drills: they ask
an account for nothing, but are noted among the calls, and end as they are told.
-/

namespace VpcOperator.Simulation

open Observed (Status)

/-- How a part of a pipeline ends that only stands in for a step. -/
inductive Drill where
  | ready
  | requeue
  | failure
  deriving DecidableEq

namespace Drill

def label : Drill → String
  | ready => "ready"
  | requeue => "requeue"
  | failure => "error"

def result : Drill → Except Failure Outcome
  | ready => .ok .ready
  | requeue => .ok .requeue
  | failure => .error (.notFound .tag "stub" "stubbed")

end Drill

/-- What a pipeline asks for. -/
inductive Call where
  | cloud (request : Cloud.Request)
  | drill (drill : Drill)
  deriving DecidableEq

namespace Call

@[reducible] def Reply : Call → Type
  | cloud request => Cloud.Reply request.Answer
  | drill _ => Unit

def name : Call → String
  | cloud request => request.name
  | drill _ => "stub"

end Call

def ofCloud {α : Type} (p : CloudProgram α) : Program Call.Reply α :=
  p.translate .cloud fun _ reply => reply

inductive Part where
  | step (step : Step)
  | drill (drill : Drill)
  deriving DecidableEq

namespace Part

def kind : Part → Kind
  | step part => part.kind
  | drill _ => .tag

def run (plan : Plan) (status : Status) :
    Part → Program Call.Reply (Except Failure Outcome × Status)
  | step part => ofCloud (part.run plan status)
  | drill part => .ask (.drill part) fun _ => .done (part.result, status)

end Part

abbrev Pipeline := List Part

namespace Pipeline

def standard : Pipeline :=
  Step.standard.map .step

def run (plan : Plan) : Pipeline → Status → Program Call.Reply (Except Failure Outcome × Status)
  | [], status => .done (.ok .ready, status)
  | part :: rest, status =>
    (part.run plan status).bind fun
      | (.ok .ready, status) => run plan rest status
      | ended => .done ended

/-- Without drills a pipeline is a pass. -/
theorem run_steps (plan : Plan) (steps : List Step) (status : Status) :
    run plan (steps.map .step) status = ofCloud (Pass.runSteps plan steps status) := by
  induction steps generalizing status with
  | nil => rfl
  | cons step rest ih =>
    change _ = ofCloud (Program.bind _ _)
    rw [ofCloud, Program.translate_bind]
    change Program.bind _ _ = Program.bind _ _
    congr 1
    funext ⟨result, status⟩
    rcases result with failure | _ | _
    · rfl
    · exact ih status
    · rfl

end Pipeline

end VpcOperator.Simulation
