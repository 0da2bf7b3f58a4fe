import VpcOperator.Json.Schema

/-!
# Kinds and states of cloud resources
-/

namespace VpcOperator

inductive Kind where
  | resourceGroup
  | vpc
  | zone
  | subnet
  | publicGateway
  | securityGroup
  | securityGroupRule
  | loadBalancer
  | customImage
  | tag
  deriving DecidableEq

/-- The word for a resource of this kind in a message. -/
def Kind.label : Kind → String
  | .resourceGroup => "resource group"
  | .vpc => "VPC"
  | .zone => "zone"
  | .subnet => "subnet"
  | .publicGateway => "public gateway"
  | .securityGroup => "security group"
  | .securityGroupRule => "security group rule"
  | .loadBalancer => "load balancer"
  | .customImage => "custom image"
  | .tag => "tag"

/-- How far a VPC, subnet, gateway or image has been provisioned. -/
inductive ResourceState where
  | available
  | pending
  | failed
  | deleting
  deriving DecidableEq

def ResourceState.label : ResourceState → String
  | .available => "available"
  | .pending => "pending"
  | .failed => "failed"
  | .deleting => "deleting"

def ResourceState.isAvailable (state : ResourceState) : Bool :=
  state = .available

inductive BalancerState where
  | createPending
  | active
  | updatePending
  | deletePending
  | maintenance
  | failed
  deriving DecidableEq

def BalancerState.label : BalancerState → String
  | .createPending => "create_pending"
  | .active => "active"
  | .updatePending => "update_pending"
  | .deletePending => "delete_pending"
  | .maintenance => "maintenance"
  | .failed => "failed"

namespace BalancerState

def choices : List (String × BalancerState) :=
  [createPending, active, updatePending, deletePending, maintenance, failed].map fun state =>
    (state.label, state)

instance : Schema BalancerState where
  encode state := .string state.label
  decode := Schema.readChoice choices

end BalancerState

end VpcOperator
