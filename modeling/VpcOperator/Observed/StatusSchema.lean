import VpcOperator.Json.Record
import VpcOperator.Observed.Status

/-!
# The documents of the observed status
-/

namespace VpcOperator.Observed

open Schema

def GroupReference.record : Record GroupReference where
  fields := leaves ["id", "name"]
  least := 2
  write reference := field "id" reference.id ++ optionalField "name" reference.name
  read members := do
    let id ← required members "id"
    let name ← optional members "name"
    return { id, name }

instance : Schema GroupReference :=
  GroupReference.record.schema

def Entry.record : Record Entry where
  fields := leaves ["id", "name", "ready"]
  least := 3
  write entry :=
    field "id" entry.id ++ unlessEmpty String.isEmpty "name" entry.name ++
      field "ready" entry.ready
  read members := do
    let id ← required members "id"
    let name ← defaulted members "name" ""
    let ready ← required members "ready"
    return { id, name, ready }

instance : Schema Entry :=
  Entry.record.schema

def BalancerEntry.record : Record BalancerEntry where
  fields := leaves ["id", "name", "state", "hostname", "controllerCreated"]
  least := 4
  write entry :=
    field "id" entry.id ++ unlessEmpty String.isEmpty "name" entry.name ++
      field "state" entry.state ++ optionalField "hostname" entry.hostname ++
      field "controllerCreated" entry.created
  read members := do
    let id ← required members "id"
    let name ← defaulted members "name" ""
    let state ← required members "state"
    let hostname ← optional members "hostname"
    let created ← defaulted members "controllerCreated" false
    return { id, name, state, hostname, created }

instance : Schema BalancerEntry :=
  BalancerEntry.record.schema

def NetworkStatus.record : Record NetworkStatus where
  fields :=
    [("vpc", shape Entry), ("controlPlaneSubnets", shape (Table Entry)),
      ("workerSubnets", shape (Table Entry)), ("securityGroups", shape (Table Entry)),
      ("loadBalancers", shape (Table BalancerEntry)), ("resourceGroup", shape GroupReference)]
  least := 6
  write network :=
    optionalField "vpc" network.vpc ++
      unlessEmpty Table.isEmpty "controlPlaneSubnets" network.controlPlaneSubnets ++
      unlessEmpty Table.isEmpty "workerSubnets" network.workerSubnets ++
      unlessEmpty Table.isEmpty "securityGroups" network.securityGroups ++
      unlessEmpty Table.isEmpty "loadBalancers" network.loadBalancers ++
      optionalField "resourceGroup" network.resourceGroup
  read members := do
    let vpc ← optional members "vpc"
    let controlPlaneSubnets ← defaulted members "controlPlaneSubnets" Table.empty
    let workerSubnets ← defaulted members "workerSubnets" Table.empty
    let securityGroups ← defaulted members "securityGroups" Table.empty
    let loadBalancers ← defaulted members "loadBalancers" Table.empty
    let resourceGroup ← optional members "resourceGroup"
    return { vpc, controlPlaneSubnets, workerSubnets, securityGroups, loadBalancers, resourceGroup }

instance : Schema NetworkStatus :=
  NetworkStatus.record.schema

def Condition.record : Record Condition where
  fields := leaves ["type", "status", "reason", "message"]
  least := 4
  write condition :=
    field "type" condition.type ++ field "status" condition.status ++
      optionalField "reason" condition.reason ++ optionalField "message" condition.message
  read members := do
    let type ← required members "type"
    let status ← required members "status"
    let reason ← optional members "reason"
    let message ← optional members "message"
    return { type, status, reason, message }

instance : Schema Condition :=
  Condition.record.schema

def Status.record : Record Status where
  fields :=
    leaves ["ready"] ++
      [("resourceGroup", shape GroupReference), ("networkStatus", shape NetworkStatus),
        ("imageStatus", shape Entry), ("conditions", shape (List Condition))]
  least := 4
  write status :=
    field "ready" status.ready ++ optionalField "resourceGroup" status.resourceGroup ++
      optionalField "networkStatus" status.network ++ optionalField "imageStatus" status.image ++
      unlessEmpty List.isEmpty "conditions" status.conditions
  read members := do
    let ready ← defaulted members "ready" false
    let resourceGroup ← optional members "resourceGroup"
    let network ← optional members "networkStatus"
    let image ← optional members "imageStatus"
    let conditions ← defaulted members "conditions" []
    return { ready, resourceGroup, network, image, conditions }

instance : Schema Status :=
  Status.record.schema

end VpcOperator.Observed
