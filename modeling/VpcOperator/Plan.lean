import VpcOperator.Cluster
import VpcOperator.Failure

/-!
# Plans

What a pass works from: the cluster's name, the name of its resource group and
what is desired. The names of generated resources start with the cluster's.
-/

namespace VpcOperator

structure Plan where
  clusterName : String
  resourceGroupName : String
  spec : Desired.ClusterSpec
  deriving DecidableEq

namespace Plan

open Observed (Status)

def ofCluster (cluster : Cluster) : Plan :=
  { clusterName := cluster.name, resourceGroupName := cluster.resourceGroupName,
    spec := cluster.spec }

def vpcName (plan : Plan) : String :=
  (plan.spec.network.vpc.bind (·.name)).getD (plan.clusterName ++ "-vpc")

def subnetName (plan : Plan) (zone : String) : String :=
  plan.clusterName ++ "-subnet-" ++ zone

def gatewayName (plan : Plan) (zone : String) : String :=
  plan.clusterName ++ "-pgateway-" ++ zone

def resourceGroupId (plan : Plan) (status : Status) : Except Failure String :=
  match given? (status.resourceGroup.map (·.id)) with
  | some id => .ok id
  | none =>
    .error (.precondition .resourceGroup plan.resourceGroupName "resource group has not been resolved")

/-- Falls back to the resource group of the cluster. -/
def networkGroupId (plan : Plan) (status : Status) : Except Failure String :=
  match given? (status.networkGroup?.map (·.id)) with
  | some id => .ok id
  | none => plan.resourceGroupId status

def vpcId (plan : Plan) (status : Status) : Except Failure String :=
  match given? ((status.find? .vpc "").map (·.id)) with
  | some id => .ok id
  | none => .error (.precondition .vpc plan.vpcName "VPC ID is not known yet")

end Plan

namespace Observed.Status

/-- The known IDs of subnets in either role, each once. -/
def subnetIds (status : Status) : List String :=
  (((status.entries (.subnets .controlPlane) ++ status.entries (.subnets .worker)).map
    (·.2.id)).filter (· ≠ "")).eraseDups

def subnetId? (status : Status) (name : String) : Option String :=
  (given? ((status.find? (.subnets .controlPlane) name).map (·.id))).or
    (given? ((status.find? (.subnets .worker) name).map (·.id)))

def securityGroupId? (status : Status) (name : String) : Option String :=
  given? ((status.find? .securityGroups name).map (·.id))

end Observed.Status

end VpcOperator
