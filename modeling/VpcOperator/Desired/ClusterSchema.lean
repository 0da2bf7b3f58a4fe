import VpcOperator.Desired.Cluster
import VpcOperator.Desired.FirewallSchema

/-!
# The documents of declared clusters
-/

namespace VpcOperator

open Schema

namespace Desired

def Reference.record : Record Reference where
  fields := leaves ["id", "name"]
  least := 2
  write reference := optionalField "id" reference.id ++ optionalField "name" reference.name
  read members := do
    let id ← optional members "id"
    let name ← optional members "name"
    return { id, name }

instance : Schema Reference :=
  Reference.record.schema

def Subnet.record : Record Subnet where
  fields := leaves ["id", "name", "zone"]
  least := 3
  write subnet :=
    optionalField "id" subnet.id ++ optionalField "name" subnet.name ++
      optionalField "zone" subnet.zone
  read members := do
    let id ← optional members "id"
    let name ← optional members "name"
    let zone ← optional members "zone"
    return { id, name, zone }

instance : Schema Subnet :=
  Subnet.record.schema

def Listener.record : Record Listener where
  fields := leaves ["port"]
  least := 1
  write listener := field "port" listener.port
  read members := do
    let port ← required members "port"
    return { port }

instance : Schema Listener :=
  Listener.record.schema

end Desired

def Pool.record : Record Pool where
  fields :=
    leaves ["name", "algorithm", "protocol", "healthDelay", "healthRetries", "healthTimeout",
      "healthType", "healthMonitorUrl", "healthMonitorPort"]
  least := 9
  write pool :=
    field "name" pool.name ++ field "algorithm" pool.algorithm ++
      field "protocol" pool.protocol ++ field "healthDelay" pool.health.delay ++
      field "healthRetries" pool.health.retries ++ field "healthTimeout" pool.health.timeout ++
      field "healthType" pool.health.type ++ optionalField "healthMonitorUrl" pool.health.path ++
      optionalField "healthMonitorPort" pool.health.port
  read members := do
    let name ← required members "name"
    let algorithm ← required members "algorithm"
    let protocol ← required members "protocol"
    let delay ← required members "healthDelay"
    let retries ← required members "healthRetries"
    let timeout ← required members "healthTimeout"
    let type ← required members "healthType"
    let path ← optional members "healthMonitorUrl"
    let port ← optional members "healthMonitorPort"
    return { name, algorithm, protocol, health := { delay, retries, timeout, type, path, port } }

instance : Schema Pool :=
  Pool.record.schema

namespace Desired

def LoadBalancer.record : Record LoadBalancer where
  fields :=
    leaves ["name", "id", "public"] ++
      [("additionalListeners", shape (List Listener)), ("backendPools", shape (List Pool)),
        ("securityGroups", shape (List Reference))]
  least := 2
  write balancer :=
    field "name" balancer.name ++ optionalField "id" balancer.id ++
      field "public" balancer.isPublic ++
      unlessEmpty List.isEmpty "additionalListeners" balancer.listeners ++
      unlessEmpty List.isEmpty "backendPools" balancer.pools ++
      unlessEmpty List.isEmpty "securityGroups" balancer.securityGroups
  read members := do
    let name ← required members "name"
    let id ← optional members "id"
    let isPublic ← defaulted members "public" true
    let listeners ← defaulted members "additionalListeners" []
    let pools ← defaulted members "backendPools" []
    let securityGroups ← defaulted members "securityGroups" []
    return { name, id, isPublic, listeners, pools, securityGroups }

instance : Schema LoadBalancer :=
  LoadBalancer.record.schema

def Network.record : Record Network where
  fields :=
    [("vpc", shape Reference), ("resourceGroup", .whole),
      ("controlPlaneSubnets", shape (List Subnet)), ("workerSubnets", shape (List Subnet)),
      ("securityGroups", shape (List SecurityGroup)), ("loadBalancers", shape (List LoadBalancer))]
  least := 2
  write network :=
    optionalField "vpc" network.vpc ++
      optionalField "resourceGroup" network.resourceGroup ++
      unlessEmpty List.isEmpty "controlPlaneSubnets" network.controlPlaneSubnets ++
      unlessEmpty List.isEmpty "workerSubnets" network.workerSubnets ++
      unlessEmpty List.isEmpty "securityGroups" network.securityGroups ++
      unlessEmpty List.isEmpty "loadBalancers" network.loadBalancers
  read members := do
    let vpc ← optional members "vpc"
    let resourceGroup ← optional members "resourceGroup"
    let controlPlaneSubnets ← defaulted members "controlPlaneSubnets" []
    let workerSubnets ← defaulted members "workerSubnets" []
    let securityGroups ← defaulted members "securityGroups" []
    let loadBalancers ← defaulted members "loadBalancers" []
    return { vpc, resourceGroup, controlPlaneSubnets, workerSubnets, securityGroups, loadBalancers }

instance : Schema Network :=
  Network.record.schema

def Image.record : Record Image where
  fields :=
    leaves ["name", "cosInstance", "cosBucket", "cosBucketRegion", "cosObject",
      "operatingSystem"] ++ [("resourceGroup", shape Reference)]
  least := 7
  write image :=
    field "name" image.name ++ optionalField "cosInstance" image.instanceName ++
      optionalField "cosBucket" image.bucket ++
      optionalField "cosBucketRegion" image.bucketRegion ++
      optionalField "cosObject" image.object ++
      optionalField "operatingSystem" image.operatingSystem ++
      optionalField "resourceGroup" image.resourceGroup
  read members := do
    let name ← required members "name"
    let instanceName ← optional members "cosInstance"
    let bucket ← optional members "cosBucket"
    let bucketRegion ← optional members "cosBucketRegion"
    let object ← optional members "cosObject"
    let operatingSystem ← optional members "operatingSystem"
    let resourceGroup ← optional members "resourceGroup"
    return { name, instanceName, bucket, bucketRegion, object, operatingSystem, resourceGroup }

instance : Schema Image :=
  Image.record.schema

def ClusterSpec.record : Record ClusterSpec where
  fields :=
    leaves ["region", "resourceGroup"] ++ [("network", shape Network), ("image", shape Image)] ++
      leaves ["apiServerPort"]
  least := 5
  write spec :=
    field "region" spec.region ++ field "resourceGroup" spec.resourceGroup ++
      field "network" spec.network ++ optionalField "image" spec.image ++
      optionalField "apiServerPort" spec.apiServerPort
  read members := do
    let region ← required members "region"
    let resourceGroup ← defaulted members "resourceGroup" ""
    let network ← defaulted members "network" Network.empty
    let image ← optional members "image"
    let apiServerPort ← optional members "apiServerPort"
    return { region, resourceGroup, network, image, apiServerPort }

instance : Schema ClusterSpec :=
  ClusterSpec.record.schema

end Desired

end VpcOperator
