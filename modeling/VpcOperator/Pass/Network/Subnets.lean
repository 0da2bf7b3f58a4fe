import VpcOperator.Pass.Network.Gateway

/-!
# Subnets

Each role has its own subnets and its own shelf of the status. A role without
declared subnets gets one for every zone of the region. A failure in the
control-plane role does not keep the workers' subnets from being settled.
-/

namespace VpcOperator.Pass.Subnets

open Observed (Entry Status)
open Desired (Role)

/-- The entry for a subnet: under its name, else with its ID. -/
def remembered? (status : Status) (role : Role) (subnet : Desired.Subnet) : Option Entry :=
  match given? subnet.name with
  | some name => status.find? (.subnets role) name
  | none =>
    (given? subnet.id).bind fun id =>
      ((status.entries (.subnets role)).map (·.2)).find? (·.id = id)

/-- A live subnet is kept under its declared name, or else under its own. -/
def observe (role : Role) (subnet : Desired.Subnet) (live : Cloud.Subnet) : Pass Outcome := do
  let ready := live.state.isAvailable
  update (·.put (.subnets role) ((given? subnet.name).getD live.name)
    { id := live.id, name := live.name, ready })
  return .ofReady ready

def create (plan : Plan) (role : Role) (name zone : String) : Pass Outcome := do
  let vpcId ← ofExcept (plan.vpcId (← status))
  let gateway ← Gateway.ofZone plan zone
  let resourceGroupId ← ofExcept (plan.resourceGroupId (← status))
  let live ← call name (.createSubnet {
    name, vpcId, zone, resourceGroupId
    gatewayId := gateway.id
    ipVersion := "ipv4"
    addressCount := 256 })
  update (·.put (.subnets role) name { id := live.id, name := live.name, ready := false })
  Ownership.mark plan .subnet name live.crn
  return .requeue

def findOrCreate (plan : Plan) (role : Role) (subnet : Desired.Subnet) : Pass Outcome := do
  match given? subnet.name with
  | none => fail (.precondition .subnet "<unnamed>" "subnet needs a name or an ID")
  | some name =>
    match ← call name (.findSubnet name) with
    | some live => observe role subnet live
    | none =>
      match given? subnet.zone with
      | none => fail (.precondition .subnet name "a zone is required to create the subnet")
      | some zone => create plan role name zone

/-- Without an entry that leads to it, a subnet is looked up by its declared ID or by name. -/
def resolve (plan : Plan) (role : Role) (subnet : Desired.Subnet) : Pass Outcome := do
  match given? subnet.id with
  | none => findOrCreate plan role subnet
  | some id =>
    match ← call id (.getSubnet id) with
    | some live => observe role subnet live
    | none => fail (.notFound .subnet id "no subnet with this ID")

def settle (plan : Plan) (role : Role) (subnet : Desired.Subnet) : Pass Outcome := do
  match remembered? (← status) role subnet with
  | none => resolve plan role subnet
  | some entry =>
    if entry.ready then
      return .ready
    else if entry.id = "" then
      resolve plan role subnet
    else
      match ← call entry.id (.getSubnet entry.id) with
      | some live => observe role subnet live
      | none => resolve plan role subnet

def settleAll (plan : Plan) (role : Role) : List Desired.Subnet → Pass Outcome
  | [] => return .ready
  | subnet :: rest => do
    let first ← settle plan role subnet
    let others ← settleAll plan role rest
    return first.both others

/-- One subnet for every zone of the region. -/
def zonal (plan : Plan) : Pass (List Desired.Subnet) := do
  let region := plan.spec.region
  match ← call region (.listZones region) with
  | [] => fail (.notFound .zone region "region has no availability zones")
  | zones =>
    return zones.map fun zone =>
      { id := none, name := some (plan.subnetName zone), zone := some zone }

/-- The zones are listed only if a role has no declared subnets. -/
def generated (plan : Plan) : Pass (List Desired.Subnet) :=
  let network := plan.spec.network
  if network.controlPlaneSubnets.isEmpty || network.workerSubnets.isEmpty then zonal plan
  else return []

def wanted (declared generated : List Desired.Subnet) : List Desired.Subnet :=
  if declared.isEmpty then generated else declared

def step (plan : Plan) : Pass Outcome := do
  let generated ← generated plan
  let subnetsOf := fun role => wanted (plan.spec.network.subnets role) generated
  let controlPlane ← attempt (settleAll plan .controlPlane (subnetsOf .controlPlane))
  let workers ← attempt (settleAll plan .worker (subnetsOf .worker))
  let first ← ofExcept controlPlane
  let second ← ofExcept workers
  return first.both second

end VpcOperator.Pass.Subnets
