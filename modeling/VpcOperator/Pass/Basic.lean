import VpcOperator.Failure
import VpcOperator.Observed.Status
import VpcOperator.Program

/-!
# Passes

A pass is a program of cloud requests that reads and updates the observed
status. It ends with a value or with the first failure; the status it leaves
holds the progress made up to then.
-/

namespace VpcOperator

open Cloud (Request Reply)
open Observed (Status)

/-- How a pass that did not fail ends. -/
inductive Outcome where
  /-- All that was looked at exists and is ready. -/
  | ready
  /-- Another pass has to follow. -/
  | requeue
  deriving DecidableEq

namespace Outcome

def both : Outcome → Outcome → Outcome
  | ready, other => other
  | requeue, _ => requeue

def ofReady (isReady : Bool) : Outcome :=
  if isReady then ready else requeue

@[simp] theorem both_eq_ready_iff {a b : Outcome} : a.both b = ready ↔ a = ready ∧ b = ready := by
  cases a <;> simp [both]

@[simp] theorem ofReady_eq_ready_iff {isReady : Bool} : ofReady isReady = ready ↔ isReady = true := by
  cases isReady <;> simp [ofReady]

end Outcome

abbrev CloudProgram :=
  Program fun request : Request => Reply request.Answer

def Pass (α : Type) : Type :=
  Status → CloudProgram (Except Failure α × Status)

namespace Pass

variable {α β : Type}

def bind (pass : Pass α) (next : α → Pass β) : Pass β := fun status =>
  Program.bind (pass status) fun
    | (.ok value, status) => next value status
    | (.error failure, status) => .done (.error failure, status)

instance : Monad Pass where
  pure value status := .done (.ok value, status)
  bind := bind

def ofExcept (result : Except Failure α) : Pass α := fun status =>
  .done (result, status)

def fail (failure : Failure) : Pass α :=
  ofExcept (.error failure)

def status : Pass Status := fun status =>
  .done (.ok status, status)

def update (change : Status → Status) : Pass Unit := fun status =>
  .done (.ok (), change status)

/-- Goes on after a failure, too. -/
def attempt (pass : Pass α) : Pass (Except Failure α) := fun status =>
  Program.bind (pass status) fun (result, status) => .done (.ok result, status)

def mapFailure (f : Failure → Failure) (pass : Pass α) : Pass α := fun status =>
  Program.bind (pass status) fun (result, status) => .done (result.mapError f, status)

/-- The value of a reply, or the failure it means for a request with this verb and target. -/
def settle (kind : Kind) (verb target : String) : Reply α → Except Failure α
  | .answer value => .ok value
  | .error source => .error (.service kind verb target source)
  | .aborted => .error (.cancelled kind verb target)

def call (target : String) (request : Request) : Pass request.Answer := fun status =>
  .ask request fun reply => .done (settle request.kind request.verb target reply, status)

end Pass

end VpcOperator
