import VpcOperator.Pass.Firewall.Rules
import VpcOperator.Pass.Ownership

/-!
# Security groups

First every declared group is identified, and created if it does not exist.
Rules can name other groups, so they wait for a pass in which no group had to
be created.
-/

namespace VpcOperator.Pass.Groups

open Observed (Entry Status)
open Rules (Identified)

/-- The entry for a group: under its name, else with its ID. -/
def remembered? (status : Status) (group : Desired.SecurityGroup) : Option Entry :=
  match given? group.name with
  | some name => status.find? .securityGroups name
  | none =>
    (given? group.id).bind fun id =>
      ((status.entries .securityGroups).map (·.2)).find? (·.id = id)

def observe (group : Desired.SecurityGroup) (live : Cloud.SecurityGroup) : Pass Identified := do
  update (·.put .securityGroups ((given? group.name).getD live.name)
    { id := live.id, name := live.name, ready := true })
  return { id := live.id, name := live.name, rules := group.rules }

def create (plan : Plan) (name : String) (rules : List Desired.Rule) : Pass Identified := do
  let vpcId ← ofExcept (plan.vpcId (← status))
  let resourceGroupId ← ofExcept (plan.resourceGroupId (← status))
  let live ← call name (.createSecurityGroup { name, vpcId, resourceGroupId })
  update (·.put .securityGroups name { id := live.id, name, ready := true })
  Ownership.mark plan .securityGroup name live.crn
  return { id := live.id, name, rules }

/-- Also tells whether the group had to be created. -/
def resolve (plan : Plan) (group : Desired.SecurityGroup) : Pass (Identified × Bool) := do
  match given? group.id with
  | some id =>
    match ← call id (.getSecurityGroup id) with
    | some live => return (← observe group live, false)
    | none => fail (.notFound .securityGroup id "no security group with this ID")
  | none =>
    match given? group.name with
    | none =>
      fail (.precondition .securityGroup "<unnamed>" "security group needs a name or an ID")
    | some name =>
      match ← call name (.findSecurityGroup name) with
      | some live => return (← observe group live, false)
      | none => return (← create plan name group.rules, true)

def identify (plan : Plan) (group : Desired.SecurityGroup) : Pass (Identified × Bool) := do
  match (remembered? (← status) group).filter (·.id ≠ "") with
  | some entry => return ({ id := entry.id, name := entry.name, rules := group.rules }, false)
  | none => resolve plan group

/-- Also tells whether any group had to be created. -/
def identifyAll (plan : Plan) : List Desired.SecurityGroup → Pass (List Identified × Bool)
  | [] => return ([], false)
  | group :: rest => do
    let (first, created) ← identify plan group
    let (others, anyCreated) ← identifyAll plan rest
    return (first :: others, created || anyCreated)

def step (plan : Plan) : Pass Outcome := do
  let (groups, created) ← identifyAll plan plan.spec.network.securityGroups
  if created then
    return .requeue
  else
    let (kept, _) ← Rules.enforceAll groups .none
    return .ofReady kept

end VpcOperator.Pass.Groups
