import VpcOperator.Cloud.Resource
import VpcOperator.Desired.Cluster

/-!
# Requests to a cloud account

What the operator asks of an account, what it is answered, and how a request
can fail. A look-up answers none when nothing has the ID or the name.
-/

namespace VpcOperator.Cloud

structure VpcPrototype where
  name : String
  resourceGroupId : String
  addressPrefixes : String
  deriving DecidableEq

structure SubnetPrototype where
  name : String
  vpcId : String
  zone : String
  resourceGroupId : String
  gatewayId : String
  ipVersion : String
  addressCount : Nat
  deriving DecidableEq

structure GatewayPrototype where
  name : String
  vpcId : String
  zone : String
  resourceGroupId : String
  deriving DecidableEq

structure SecurityGroupPrototype where
  name : String
  vpcId : String
  resourceGroupId : String
  deriving DecidableEq

/-- The remote of a rule to create. -/
inductive RemotePrototype where
  | cidr (block : String)
  | address (ip : String)
  | group (crn : String)
  deriving DecidableEq

structure RulePrototype where
  direction : Direction
  protocol : Protocol
  remote : RemotePrototype
  deriving DecidableEq

structure ListenerPrototype where
  port : UInt16
  protocol : String
  /-- The name of the pool it forwards to. -/
  pool : String
  deriving DecidableEq

structure LoadBalancerPrototype where
  name : String
  resourceGroupId : String
  isPublic : Bool
  subnetIds : List String
  securityGroupIds : List String
  pools : List Pool
  listeners : List ListenerPrototype
  deriving DecidableEq

structure ImagePrototype where
  name : String
  resourceGroupId : String
  source : String
  operatingSystem : String
  deriving DecidableEq

inductive Request where
  | listResourceGroups (name : String)
  | listZones (region : String)
  | getVpc (id : String)
  | findVpc (name : String)
  | createVpc (prototype : VpcPrototype)
  | getSubnet (id : String)
  | findSubnet (name : String)
  | createSubnet (prototype : SubnetPrototype)
  | findGateway (name resourceGroupId : String)
  | createGateway (prototype : GatewayPrototype)
  | getSecurityGroup (id : String)
  | findSecurityGroup (name : String)
  | createSecurityGroup (prototype : SecurityGroupPrototype)
  | listRules (groupId : String)
  | createRule (groupId : String) (prototype : RulePrototype)
  | getLoadBalancer (id : String)
  | findLoadBalancer (name : String)
  | createLoadBalancer (prototype : LoadBalancerPrototype)
  | getImage (id : String)
  | findImage (name : String)
  | createImage (prototype : ImagePrototype)
  | listTags
  | createTag (name : String)
  | attachTag (name crn : String)
  deriving DecidableEq

namespace Request

@[reducible] def Answer : Request → Type
  | listResourceGroups _ => List ResourceGroup
  | listZones _ => List String
  | getVpc _ | findVpc _ => Option Vpc
  | createVpc _ => Vpc
  | getSubnet _ | findSubnet _ => Option Subnet
  | createSubnet _ => Subnet
  | findGateway _ _ => Option Gateway
  | createGateway _ => Gateway
  | getSecurityGroup _ | findSecurityGroup _ => Option SecurityGroup
  | createSecurityGroup _ => SecurityGroup
  | listRules _ => List Rule
  | createRule _ _ => Rule
  | getLoadBalancer _ | findLoadBalancer _ => Option LoadBalancer
  | createLoadBalancer _ => LoadBalancer
  | getImage _ | findImage _ => Option Image
  | createImage _ => Image
  | listTags => List String
  | createTag _ | attachTag _ _ => Unit

/-- The kind of resource a request is about. -/
def kind : Request → Kind
  | listResourceGroups _ => .resourceGroup
  | listZones _ => .zone
  | getVpc _ | findVpc _ | createVpc _ => .vpc
  | getSubnet _ | findSubnet _ | createSubnet _ => .subnet
  | findGateway _ _ | createGateway _ => .publicGateway
  | getSecurityGroup _ | findSecurityGroup _ | createSecurityGroup _ => .securityGroup
  | listRules _ | createRule _ _ => .securityGroupRule
  | getLoadBalancer _ | findLoadBalancer _ | createLoadBalancer _ => .loadBalancer
  | getImage _ | findImage _ | createImage _ => .customImage
  | listTags | createTag _ | attachTag _ _ => .tag

/-- The verb for a request in a message. -/
def verb : Request → String
  | listResourceGroups _ | listZones _ | listRules _ | listTags => "list"
  | getVpc _ | findVpc _ | getSubnet _ | findSubnet _ | findGateway _ _ | getSecurityGroup _
  | findSecurityGroup _ | getLoadBalancer _ | findLoadBalancer _ | getImage _ | findImage _ => "get"
  | createVpc _ | createSubnet _ | createGateway _ | createSecurityGroup _ | createRule _ _
  | createLoadBalancer _ | createImage _ | createTag _ => "create"
  | attachTag _ _ => "attach"

/-- The name of a request in the account's log. -/
def name : Request → String
  | listResourceGroups _ => "list_resource_groups_by_name"
  | listZones _ => "list_zones"
  | getVpc _ => "get_vpc"
  | findVpc _ => "get_vpc_by_name"
  | createVpc _ => "create_vpc"
  | getSubnet _ => "get_subnet"
  | findSubnet _ => "get_subnet_by_name"
  | createSubnet _ => "create_subnet"
  | findGateway _ _ => "get_public_gateway_by_name"
  | createGateway _ => "create_public_gateway"
  | getSecurityGroup _ => "get_security_group"
  | findSecurityGroup _ => "get_security_group_by_name"
  | createSecurityGroup _ => "create_security_group"
  | listRules _ => "list_security_group_rules"
  | createRule _ _ => "create_security_group_rule"
  | getLoadBalancer _ => "get_load_balancer"
  | findLoadBalancer _ => "get_load_balancer_by_name"
  | createLoadBalancer _ => "create_load_balancer"
  | getImage _ => "get_image"
  | findImage _ => "get_image_by_name"
  | createImage _ => "create_image"
  | listTags => "list_user_tags"
  | createTag _ => "create_tag"
  | attachTag _ _ => "attach_tag"

end Request

/-- What an account says instead of an answer. -/
inductive ServiceError where
  | api (status : UInt16) (message : String)
  | transport (message : String)
  deriving DecidableEq

def ServiceError.message : ServiceError → String
  | .api status message => "cloud API returned " ++ toString status.toNat ++ ": " ++ message
  | .transport message => "transport failure: " ++ message

/-- How a request ends. It is aborted when it would outlast the deadline of its pass. -/
inductive Reply (α : Type) where
  | answer (value : α)
  | error (error : ServiceError)
  | aborted
  deriving DecidableEq

end VpcOperator.Cloud
