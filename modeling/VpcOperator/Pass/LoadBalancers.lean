import VpcOperator.Balancing.Pools
import VpcOperator.Pass.Ownership

/-!
# Load balancers

At most one load balancer is created in a pass; the others that are missing
wait for the passes after it. One that is known to be active is not looked up
again.
-/

namespace VpcOperator.Pass.LoadBalancers

open Observed (BalancerEntry Status)

/-- An entry stays marked as created. -/
def observe (live : Cloud.LoadBalancer) (created : Bool) : Pass Unit :=
  update fun status =>
    status.putBalancer {
      id := live.id
      name := live.name
      state := live.state
      hostname := live.hostname
      created := created || (status.balancer? live.id).any (·.created) }

/-- The entry for a load balancer: with its declared ID, else the first with its name. -/
def remembered? (status : Status) (balancer : Desired.LoadBalancer) : Option BalancerEntry :=
  match given? balancer.id with
  | some id => status.balancer? id
  | none => status.balancers.find? (·.name = balancer.name)

def ofEntry (entry : BalancerEntry) : Cloud.LoadBalancer :=
  { id := entry.id, name := entry.name, crn := "", state := entry.state, hostname := entry.hostname }

def findByName (balancer : Desired.LoadBalancer) : Pass (Option Cloud.LoadBalancer) :=
  if balancer.name = "" then
    fail (.precondition .loadBalancer "<unnamed>" "load balancer needs a name or an ID")
  else
    call balancer.name (.findLoadBalancer balancer.name)

/-- By the declared ID, else by a remembered one, else by name. -/
def lookUp (balancer : Desired.LoadBalancer) (entry : Option BalancerEntry) :
    Pass (Option Cloud.LoadBalancer) := do
  match given? balancer.id with
  | some id =>
    match ← call id (.getLoadBalancer id) with
    | some live => return some live
    | none => fail (.notFound .loadBalancer id "no load balancer with this ID")
  | none =>
    match entry with
    | none => findByName balancer
    | some entry =>
      match ← call entry.id (.getLoadBalancer entry.id) with
      | some live => return some live
      | none => findByName balancer

def find (balancer : Desired.LoadBalancer) : Pass (Option Cloud.LoadBalancer) := do
  let entry := remembered? (← status) balancer
  match entry.filter (·.state = .active) with
  | some entry => return some (ofEntry entry)
  | none => lookUp balancer entry

def securityGroupId (balancer : Desired.LoadBalancer) (reference : Desired.Reference) :
    Pass String := do
  match given? reference.id with
  | some id => return id
  | none =>
    let name := reference.name.getD ""
    match (← status).securityGroupId? name with
    | some id => return id
    | none =>
      match ← call name (.findSecurityGroup name) with
      | some group => return group.id
      | none =>
        fail (.notFound .securityGroup name ("attached to load balancer " ++ balancer.name))

def securityGroupIds (balancer : Desired.LoadBalancer) :
    List Desired.Reference → Pass (List String)
  | [] => return []
  | reference :: rest => do
    let id ← securityGroupId balancer reference
    let ids ← securityGroupIds balancer rest
    return id :: ids

def create (plan : Plan) (balancer : Desired.LoadBalancer) : Pass Unit := do
  let subnetIds := (← status).subnetIds
  if subnetIds.isEmpty then
    fail (.precondition .loadBalancer balancer.name
      "no subnets are available to place the load balancer in")
  else
    let resourceGroupId ← ofExcept (plan.resourceGroupId (← status))
    let securityGroupIds ← securityGroupIds balancer balancer.securityGroups
    let live ← call balancer.name (.createLoadBalancer {
      name := balancer.name
      resourceGroupId
      isPublic := balancer.isPublic
      subnetIds
      securityGroupIds
      pools := balancer.allPools plan.spec.apiPort
      listeners := balancer.allListeners plan.spec.apiPort })
    observe live true
    Ownership.mark plan .loadBalancer balancer.name live.crn

/-- What was found is remembered before a failed load balancer ends the pass. -/
def settleFound (live : Cloud.LoadBalancer) : Pass Outcome := do
  observe live false
  if live.state = .failed then
    fail (.precondition .loadBalancer (live.name ++ " (" ++ live.id ++ ")")
      "load balancer is in failed state")
  else
    return .ofReady (live.state = .active)

/-- Carries along whether this pass has created a load balancer already. -/
def settleAll (plan : Plan) : List Desired.LoadBalancer → Bool → Pass Outcome
  | [], _ => return .ready
  | balancer :: rest, created => do
    match ← find balancer with
    | some live =>
      let first ← settleFound live
      let others ← settleAll plan rest created
      return first.both others
    | none =>
      if created then
        let _ ← settleAll plan rest true
        return .requeue
      else
        create plan balancer
        let _ ← settleAll plan rest true
        return .requeue

def step (plan : Plan) : Pass Outcome :=
  settleAll plan plan.spec.network.loadBalancers false

end VpcOperator.Pass.LoadBalancers
