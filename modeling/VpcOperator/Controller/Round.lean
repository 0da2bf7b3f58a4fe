import VpcOperator.Controller.Target
import VpcOperator.Controller.Timing
import VpcOperator.Pass.Step

/-!
# One round of the controller

A round sets a deadline, runs a pass for a cluster up to it, concludes from the
pass what the cluster's status says, and patches the status once, also after a
failed pass. A deadline that does not fit the clock breaks the round off before
anything is asked of the account.
-/

namespace VpcOperator

open Observed (Condition Status)

/-- Replaces the status of one cluster object. -/
structure StatusPatch where
  clusterNamespace : String
  clusterName : String
  status : Status
  deriving DecidableEq

namespace StatusPatch

def path (patch : StatusPatch) : String :=
  "/apis/" ++ Cluster.apiVersion ++ "/namespaces/" ++ patch.clusterNamespace ++ "/vpcclusters/" ++
    patch.clusterName ++ "/status"

/-- The operator takes over fields that others have set. -/
def query : String :=
  "&force=true&fieldManager=vpc-reconciler"

/-- Where the patch is sent. Only a cluster with a name has a place. -/
def target? (patch : StatusPatch) : Option Target :=
  if patch.clusterName = "" then none else Target.parse (patch.path ++ "?" ++ query)

def contentType : String :=
  "application/apply-patch+yaml"

def body (patch : StatusPatch) : Json :=
  .object [("apiVersion", .string Cluster.apiVersion), ("kind", .string Cluster.kind),
    ("status", Schema.encode patch.status)]

end StatusPatch

namespace Controller

/-- What a round asks for, whatever its pass asks. -/
inductive Request (Q : Type) where
  | clock
  /-- What the pass asks, and the moment it must not outlast. -/
  | pass (deadline : Nat) (request : Q)
  | patch (patch : StatusPatch)
  deriving DecidableEq

/-- A patch is accepted or not. -/
@[reducible] def Request.Reply {Q : Type} (A : Q → Type) : Request Q → Type
  | clock => Nat
  | pass _ request => A request
  | patch _ => Bool

/-- Why a round fails. -/
inductive RoundFailure where
  | pass (failure : Failure)
  | patchRefused
  deriving DecidableEq

/-- How a round ends. -/
inductive RoundEnd where
  | verdict (verdict : Except RoundFailure Nat)
  /-- The deadline does not fit the clock. -/
  | overflow

def condition : Except Failure Outcome → Condition
  | .ok .ready => .ofReady true "Reconciled" none
  | .ok .requeue => .ofReady false "Provisioning" none
  | .error failure => .ofReady false "ReconcileFailed" (some failure.message)

def isReady : Except Failure Outcome → Bool
  | .ok .ready => true
  | _ => false

/-- The status that tells how a pass ended. -/
def conclude (result : Except Failure Outcome) (status : Status) : Status :=
  { status with ready := isReady result }.setCondition (condition result)

/-- The delay before the next round. The failure of a pass outweighs that of the patch. -/
def verdict (timing : Timing) (result : Except Failure Outcome) (accepted : Bool) :
    Except RoundFailure Nat :=
  match result with
  | .error failure => .error (.pass failure)
  | .ok outcome =>
    if accepted then
      match outcome with
      | .ready => .ok timing.resync
      | .requeue => .ok timing.requeue
    else
      .error .patchRefused

section

variable {Q : Type} {A : Q → Type} {α : Type}

/-- Holds a pass to its deadline. -/
def within (deadline : Nat) (p : Program A α) : Program (Request.Reply A) α :=
  p.translate (.pass deadline) fun _ reply => reply

def patchFor (cluster : Cluster) (status : Status) : StatusPatch :=
  { clusterNamespace := cluster.metadata.namespaceName.getD "", clusterName := cluster.name, status }

def round (timing : Timing) (pass : Plan → Status → Program A (Except Failure Outcome × Status))
    (cluster : Cluster) : Program (Request.Reply A) RoundEnd :=
  .ask .clock fun now =>
    match timing.deadline? now with
    | none => .done .overflow
    | some deadline =>
      (within deadline (pass (.ofCluster cluster) (cluster.status.getD .empty))).bind
        fun (result, status) =>
          .ask (.patch (patchFor cluster (conclude result status))) fun accepted =>
            .done (.verdict (verdict timing result accepted))

end

def delay (timing : Timing) : Except RoundFailure Nat → Nat
  | .ok seconds => seconds
  | .error _ => timing.errorRequeue

end Controller

end VpcOperator
