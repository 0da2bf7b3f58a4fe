import VpcOperator.Desired.Firewall

/-!
# Declared clusters

What a user asks for: the network, the load balancers and the machine image of
one cluster. Blank text in an optional field counts as no text.
-/

namespace VpcOperator

/-- The text of an optional field, unless it is blank. -/
def given? (value : Option String) : Option String :=
  value.filter (· ≠ "")

namespace Desired

/-- Points at a cloud resource by ID, by name, or both. -/
structure Reference where
  id : Option String
  name : Option String
  deriving DecidableEq

structure Subnet where
  id : Option String
  name : Option String
  /-- Needed only to create the subnet. -/
  zone : Option String
  deriving DecidableEq

structure Listener where
  port : UInt16
  deriving DecidableEq

end Desired

structure HealthCheck where
  delay : UInt32
  retries : UInt32
  timeout : UInt32
  type : String
  path : Option String
  port : Option UInt16
  deriving DecidableEq

/-- A pool of API server machines behind a load balancer. -/
structure Pool where
  name : String
  algorithm : String
  protocol : String
  health : HealthCheck
  deriving DecidableEq

namespace Desired

structure LoadBalancer where
  name : String
  id : Option String
  isPublic : Bool
  listeners : List Listener
  /-- Each takes the place of the generated pool with its name. -/
  pools : List Pool
  securityGroups : List Reference
  deriving DecidableEq

/-- The two parts subnets play for a cluster. -/
inductive Role where
  | controlPlane
  | worker
  deriving DecidableEq

structure Network where
  vpc : Option Reference
  /-- The resource group of the network, if it is not the cluster's. -/
  resourceGroup : Option String
  controlPlaneSubnets : List Subnet
  workerSubnets : List Subnet
  securityGroups : List SecurityGroup
  loadBalancers : List LoadBalancer
  deriving DecidableEq

def Network.empty : Network :=
  { vpc := none, resourceGroup := none, controlPlaneSubnets := [], workerSubnets := [],
    securityGroups := [], loadBalancers := [] }

def Network.subnets (network : Network) : Role → List Subnet
  | .controlPlane => network.controlPlaneSubnets
  | .worker => network.workerSubnets

/-- The machine image and the object it is imported from. -/
structure Image where
  name : String
  instanceName : Option String
  bucket : Option String
  bucketRegion : Option String
  object : Option String
  operatingSystem : Option String
  resourceGroup : Option Reference
  deriving DecidableEq

structure ClusterSpec where
  region : String
  /-- Blank for the resource group named like the cluster. -/
  resourceGroup : String
  network : Network
  image : Option Image
  apiServerPort : Option UInt16
  deriving DecidableEq

def defaultApiServerPort : UInt16 :=
  6443

def ClusterSpec.apiPort (spec : ClusterSpec) : UInt16 :=
  spec.apiServerPort.getD defaultApiServerPort

end Desired

end VpcOperator
