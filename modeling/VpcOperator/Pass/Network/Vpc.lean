import VpcOperator.Pass.Ownership

/-!
# The VPC

A cluster has one VPC. It is looked up by the remembered ID, by the declared ID
and by name, in this order; a declared ID must exist.
-/

namespace VpcOperator.Pass.Vpc

open Observed (Entry)

def declaredId? (plan : Plan) : Option String :=
  given? (plan.spec.network.vpc.bind (·.id))

def lookUp : Option String → Pass (Option Cloud.Vpc)
  | none => return none
  | some id => call id (.getVpc id)

def remember (vpc : Cloud.Vpc) (ready : Bool) : Pass Unit :=
  update (·.put .vpc "" { id := vpc.id, name := vpc.name, ready })

def observe (vpc : Cloud.Vpc) : Pass Outcome := do
  let ready := vpc.state.isAvailable
  remember vpc ready
  return .ofReady ready

def create (plan : Plan) : Pass Outcome := do
  let name := plan.vpcName
  let resourceGroupId ← ofExcept (plan.resourceGroupId (← status))
  let vpc ← call name (.createVpc { name, resourceGroupId, addressPrefixes := "auto" })
  remember vpc false
  Ownership.mark plan .vpc name vpc.crn
  return .requeue

/-- A VPC found by name is looked at again, by ID, in the next pass. -/
def adoptOrCreate (plan : Plan) : Pass Outcome := do
  match ← call plan.vpcName (.findVpc plan.vpcName) with
  | some vpc =>
    remember vpc false
    return .requeue
  | none => create plan

def step (plan : Plan) : Pass Outcome := do
  let status ← status
  match ← lookUp (given? ((status.find? .vpc "").map (·.id))) with
  | some vpc => observe vpc
  | none =>
    match declaredId? plan with
    | none => adoptOrCreate plan
    | some id =>
      match ← call id (.getVpc id) with
      | some vpc => observe vpc
      | none => fail (.notFound .vpc id "no VPC with this ID")

end VpcOperator.Pass.Vpc
