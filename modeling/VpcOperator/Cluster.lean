import VpcOperator.Desired.ClusterSchema
import VpcOperator.Observed.StatusSchema

/-!
# Cluster objects

The object a user creates for a cluster: metadata, what is desired, and what
has been observed.
-/

namespace VpcOperator

structure Metadata where
  name : Option String
  generateName : Option String
  namespaceName : Option String
  labels : Option (Table String)
  deriving DecidableEq

structure Cluster where
  metadata : Metadata
  spec : Desired.ClusterSpec
  status : Option Observed.Status
  deriving DecidableEq

namespace Cluster

def apiGroup : String :=
  "infrastructure.cluster.x-k8s.io"

def apiVersion : String :=
  apiGroup ++ "/v1beta2"

def kind : String :=
  "VpcCluster"

/-- The given name, else the stem it is generated from. -/
def name (cluster : Cluster) : String :=
  (cluster.metadata.name.or cluster.metadata.generateName).getD ""

def resourceGroupName (cluster : Cluster) : String :=
  if cluster.spec.resourceGroup = "" then cluster.name else cluster.spec.resourceGroup

def isReady (cluster : Cluster) : Bool :=
  cluster.status.any (·.ready)

end Cluster

open Schema

instance : Schema Metadata where
  encode metadata :=
    .object (optionalField "name" metadata.name ++
      optionalField "generateName" metadata.generateName ++
      optionalField "namespace" metadata.namespaceName ++ optionalField "labels" metadata.labels)
  decode document := do
    let members ← members? document
    let name ← lastOptional members "name"
    let generateName ← lastOptional members "generateName"
    let namespaceName ← lastOptional members "namespace"
    let labels ← lastOptional members "labels"
    return { name, generateName, namespaceName, labels }
  shape := .record (leaves ["name", "generateName", "namespace", "labels"])

def Cluster.record : Record Cluster where
  fields :=
    [("metadata", shape Metadata), ("spec", shape Desired.ClusterSpec),
      ("status", shape Observed.Status)]
  least := 3
  write cluster :=
    field "apiVersion" Cluster.apiVersion ++ field "kind" Cluster.kind ++
      field "metadata" cluster.metadata ++ field "spec" cluster.spec ++
      optionalField "status" cluster.status
  read members := do
    let metadata ← required members "metadata"
    let spec ← required members "spec"
    let status ← optional members "status"
    return { metadata, spec, status }

instance : Schema Cluster :=
  Cluster.record.schema

/-- The clusters in a list as the API server sends it. The brackets of the list count among those
that may nest. -/
def Cluster.ofListText (text : String) : Option (List Cluster) := do
  let document ← Json.read (.record [("items", shape (List Cluster))]) text
  required (← members? document) "items"

end VpcOperator
