import VpcOperator.Desired.Cluster
import VpcOperator.Resource
import VpcOperator.Table

/-!
# Observed status

What the operator has seen or created for a cluster, kept on the cluster
object from pass to pass. Entries are replaced but never removed.
-/

namespace VpcOperator.Observed

structure GroupReference where
  id : String
  name : Option String
  deriving DecidableEq

/-- A resource that exists; it is ready once it is provisioned. -/
structure Entry where
  id : String
  name : String
  ready : Bool
  deriving DecidableEq

structure BalancerEntry where
  id : String
  name : String
  state : BalancerState
  hostname : Option String
  /-- Whether the operator created it, rather than found it. -/
  created : Bool
  deriving DecidableEq

structure NetworkStatus where
  vpc : Option Entry
  controlPlaneSubnets : Table Entry
  workerSubnets : Table Entry
  securityGroups : Table Entry
  /-- Keyed by ID, unlike the others, which are keyed by name. -/
  loadBalancers : Table BalancerEntry
  resourceGroup : Option GroupReference
  deriving DecidableEq

def NetworkStatus.empty : NetworkStatus :=
  { vpc := none, controlPlaneSubnets := .empty, workerSubnets := .empty, securityGroups := .empty,
    loadBalancers := .empty, resourceGroup := none }

structure Condition where
  type : String
  status : String
  reason : Option String
  message : Option String
  deriving DecidableEq

structure Status where
  ready : Bool
  resourceGroup : Option GroupReference
  network : Option NetworkStatus
  image : Option Entry
  conditions : List Condition
  deriving DecidableEq

def Status.empty : Status :=
  { ready := false, resourceGroup := none, network := none, image := none, conditions := [] }

namespace Condition

def readyType : String :=
  "Ready"

def ofReady (ready : Bool) (reason : String) (message : Option String) : Condition :=
  { type := readyType, status := if ready then "True" else "False", reason := some reason, message }

end Condition

/-- A condition replaces those of its type and comes last. -/
def Status.setCondition (status : Status) (condition : Condition) : Status :=
  { status with
    conditions := status.conditions.filter (fun other => other.type ≠ condition.type) ++ [condition] }

/-- The groups of entries a status keeps apart. The first two hold one entry, under any name. -/
inductive Shelf where
  | vpc
  | image
  | subnets (role : Desired.Role)
  | securityGroups
  deriving DecidableEq

def NetworkStatus.subnets (network : NetworkStatus) : Desired.Role → Table Entry
  | .controlPlane => network.controlPlaneSubnets
  | .worker => network.workerSubnets

namespace Status

def find? (status : Status) (shelf : Shelf) (name : String) : Option Entry :=
  match shelf with
  | .image => status.image
  | .vpc => status.network.bind (·.vpc)
  | .subnets role => status.network.bind fun network => (network.subnets role).find? name
  | .securityGroups => status.network.bind fun network => network.securityGroups.find? name

/-- The named entries of a shelf, in ascending order. -/
def entries (status : Status) : Shelf → List (String × Entry)
  | .vpc | .image => []
  | .subnets role =>
    match status.network with
    | none => []
    | some network => (network.subnets role).entries
  | .securityGroups =>
    match status.network with
    | none => []
    | some network => network.securityGroups.entries

/-- The network part comes into being with its first entry. -/
def updateNetwork (status : Status) (update : NetworkStatus → NetworkStatus) : Status :=
  { status with network := some (update (status.network.getD .empty)) }

def put (status : Status) (shelf : Shelf) (name : String) (entry : Entry) : Status :=
  match shelf with
  | .image => { status with image := some entry }
  | .vpc => status.updateNetwork fun network => { network with vpc := some entry }
  | .subnets .controlPlane =>
    status.updateNetwork fun network =>
      { network with controlPlaneSubnets := network.controlPlaneSubnets.insert name entry }
  | .subnets .worker =>
    status.updateNetwork fun network =>
      { network with workerSubnets := network.workerSubnets.insert name entry }
  | .securityGroups =>
    status.updateNetwork fun network =>
      { network with securityGroups := network.securityGroups.insert name entry }

def balancer? (status : Status) (id : String) : Option BalancerEntry :=
  status.network.bind fun network => network.loadBalancers.find? id

def balancers (status : Status) : List BalancerEntry :=
  match status.network with
  | none => []
  | some network => network.loadBalancers.values

def putBalancer (status : Status) (entry : BalancerEntry) : Status :=
  status.updateNetwork fun network =>
    { network with loadBalancers := network.loadBalancers.insert entry.id entry }

def putResourceGroup (status : Status) (reference : GroupReference) : Status :=
  { status with resourceGroup := some reference }

def networkGroup? (status : Status) : Option GroupReference :=
  status.network.bind (·.resourceGroup)

def putNetworkGroup (status : Status) (reference : GroupReference) : Status :=
  status.updateNetwork fun network => { network with resourceGroup := some reference }

end Status

end VpcOperator.Observed
