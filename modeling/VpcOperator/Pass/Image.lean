import VpcOperator.Pass.Ownership
import VpcOperator.Pass.ResourceGroups

/-!
# The machine image

An image is looked up by its remembered ID or else by name, and imported from
object storage if there is none. A remembered ID must still exist.
-/

namespace VpcOperator.Pass.Image

open Observed (Entry)

def observe (image : Cloud.Image) : Pass Outcome := do
  let ready := image.state.isAvailable
  update (·.put .image "" { id := image.id, name := image.name, ready })
  return .ofReady ready

/-- A field without which an image cannot be created. -/
def need (image : Desired.Image) (field : String) (value : Option String) : Pass String :=
  match given? value with
  | some value => return value
  | none =>
    fail (.precondition .customImage image.name (field ++ " is required to create the image"))

/-- The image's own resource group, else the network's, else the cluster's. -/
def resourceGroupId (plan : Plan) (image : Desired.Image) : Pass String := do
  match given? (image.resourceGroup.bind (·.id)) with
  | some id => return id
  | none =>
    match given? (image.resourceGroup.bind (·.name)) with
    | some name => return (← ResourceGroups.resolve name).id
    | none => ofExcept (plan.networkGroupId (← status))

def create (plan : Plan) (image : Desired.Image) : Pass Outcome := do
  let _ ← need image "cosInstance" image.instanceName
  let bucket ← need image "cosBucket" image.bucket
  let object ← need image "cosObject" image.object
  let operatingSystem ← need image "operatingSystem" image.operatingSystem
  let region := (given? image.bucketRegion).getD plan.spec.region
  let resourceGroupId ← resourceGroupId plan image
  let live ← call image.name (.createImage {
    name := image.name
    resourceGroupId
    source := "cos://" ++ region ++ "/" ++ bucket ++ "/" ++ object
    operatingSystem })
  update (·.put .image "" { id := live.id, name := live.name, ready := false })
  Ownership.mark plan .customImage image.name live.crn
  return .requeue

/-- The name to look for: the remembered one, else the declared one. -/
def wantedName (entry : Option Entry) (image : Option Desired.Image) : String :=
  ((given? (entry.map (·.name))).or (image.map (·.name))).getD ""

def findByName (name : String) : Pass (Option Cloud.Image) :=
  if name = "" then return none else call name (.findImage name)

def findOrCreate (plan : Plan) (name : String) : Pass Outcome := do
  match ← findByName name with
  | some image => observe image
  | none =>
    match plan.spec.image with
    | some image => create plan image
    | none =>
      fail (.precondition .customImage name
        "image is not found and no image spec is defined to create it from")

def step (plan : Plan) : Pass Outcome := do
  let status ← status
  let entry := status.find? .image ""
  if entry.isNone && plan.spec.image.isNone then
    return .ready
  else
    match entry.filter (·.id ≠ "") with
    | none => findOrCreate plan (wantedName entry plan.spec.image)
    | some entry =>
      if entry.ready then
        return .ready
      else
        match ← call entry.id (.getImage entry.id) with
        | some image => observe image
        | none => fail (.notFound .customImage entry.id "cached image no longer exists")

end VpcOperator.Pass.Image
