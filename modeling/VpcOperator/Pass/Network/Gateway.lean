import VpcOperator.Pass.Ownership

/-!
# Public gateways

A zone has one gateway, known by its generated name and shared by all subnets
of the zone.
-/

namespace VpcOperator.Pass.Gateway

def create (plan : Plan) (zone resourceGroupId : String) : Pass Cloud.Gateway := do
  let name := plan.gatewayName zone
  let vpcId ← ofExcept (plan.vpcId (← status))
  let gateway ← call name (.createGateway { name, vpcId, zone, resourceGroupId })
  Ownership.mark plan .publicGateway name gateway.crn
  return gateway

def ofZone (plan : Plan) (zone : String) : Pass Cloud.Gateway := do
  let name := plan.gatewayName zone
  let resourceGroupId ← ofExcept (plan.resourceGroupId (← status))
  match ← call name (.findGateway name resourceGroupId) with
  | some gateway => return gateway
  | none => create plan zone resourceGroupId

end VpcOperator.Pass.Gateway
