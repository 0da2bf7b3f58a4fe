import VpcOperator.Pass.Basic
import VpcOperator.Plan

/-!
# Resource groups

The groups a cluster's resources are placed in. They must exist already; a
resolved one is remembered.
-/

namespace VpcOperator.Pass.ResourceGroups

open Observed (GroupReference Status)

/-- The one resource group with this name. -/
def resolve (name : String) : Pass GroupReference := do
  match ← call name (.listResourceGroups name) with
  | [group] => return { id := group.id, name := some group.name }
  | groups =>
    fail (.notFound .resourceGroup name
      ("expected exactly one match, found " ++ toString groups.length))

def settleCluster (plan : Plan) : Pass Unit := do
  let status ← status
  if status.resourceGroup.any fun reference => reference.id ≠ "" then
    return ()
  else
    let reference ← resolve plan.resourceGroupName
    update (·.putResourceGroup reference)

/-- The reference for the network's group: the cluster's own, if it is the same. -/
def networkReference (plan : Plan) (status : Status) (name : String) : Pass GroupReference :=
  if name = plan.resourceGroupName then
    match status.resourceGroup with
    | some reference => return reference
    | none => resolve name
  else
    resolve name

def settleNetwork (plan : Plan) : Pass Unit := do
  match given? plan.spec.network.resourceGroup with
  | none => return ()
  | some name =>
    let status ← status
    if status.networkGroup?.any fun reference =>
        reference.id ≠ "" && reference.name = some name then
      return ()
    else
      let reference ← networkReference plan status name
      update (·.putNetworkGroup reference)

def step (plan : Plan) : Pass Outcome := do
  settleCluster plan
  settleNetwork plan
  return .ready

end VpcOperator.Pass.ResourceGroups
