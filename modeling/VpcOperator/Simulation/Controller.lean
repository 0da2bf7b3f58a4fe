import VpcOperator.Controller.Discovery
import VpcOperator.Controller.Round
import VpcOperator.Json.Printer
import VpcOperator.Simulation.World

/-!
# The controller in time

The controller run against a simulated account and an API server that holds
one cluster, for a limited number of passes and a limited time.
-/

namespace VpcOperator.Simulation

open Observed (Status)

structure PatchRecord where
  moment : Nat
  target : Target
  patch : StatusPatch
  accepted : Bool
  calls : List Call
  deriving DecidableEq

structure Conditions where
  timing : Timing
  pipeline : Pipeline
  listings : List Discovery.Listing
  acceptance : List Bool
  /-- Accepted patches change the stored cluster, and a change starts the next pass at once. -/
  feedback : Bool
  /-- The account is provisioned after every patch. -/
  provisioning : Bool
  maxPasses : Nat
  maxSeconds : Nat
  deriving DecidableEq

inductive End where
  | passes
  | time
  /-- The deadline of a pass does not fit the clock. -/
  | overflow
  deriving DecidableEq

structure Run where
  ending : End
  discoveries : List Nat
  patches : List PatchRecord
  deriving DecidableEq

/-- The item for the nth time; the last one stays in force. -/
def nthOrLast {α : Type} (items : List α) (n : Nat) (default : α) : α :=
  (items[n]?.or items.getLast?).getD default

/-- The moments of discovery, and the one at which the cluster objects were served. -/
def discover (listings : List Discovery.Listing) (maxSeconds : Nat) :
    (attempts n now interval : Nat) → List Nat × Option Nat
  | 0, _, _, _ => ([], none)
  | attempts + 1, n, now, interval =>
    if maxSeconds ≤ now then
      ([], none)
    else if (nthOrLast listings n .noGroup).servesClusters then
      ([now], some now)
    else
      let (moments, served) :=
        discover listings maxSeconds attempts (n + 1) (now + interval)
          (Discovery.nextInterval interval)
      (now :: moments, served)

/-- The account, the cluster and the patches so far. -/
structure Stage where
  world : World
  cluster : Cluster
  /-- The status document as the server holds it. -/
  stored : Json
  patches : List PatchRecord
  /-- Whether the last patch changed the stored status. -/
  changed : Bool

namespace Stage

/-- Holds the status of a patch, unless it is held already. -/
def store (status : Status) (stage : Stage) : Stage :=
  let document := Schema.encode status
  if stage.stored.agrees document then
    stage
  else
    { stage with
      cluster := { stage.cluster with status := some status }, stored := document, changed := true }

def takePatch (conditions : Conditions) (target : Target) (patch : StatusPatch) (stage : Stage) :
    Bool × Stage :=
  let accepted := nthOrLast conditions.acceptance stage.patches.length true
  let record : PatchRecord :=
    { moment := stage.world.clock, target, patch, accepted, calls := stage.world.log }
  let account :=
    if conditions.provisioning then stage.world.account.provision else stage.world.account
  let after :=
    { stage with
      world := { stage.world with account, log := [] }
      patches := stage.patches ++ [record]
      changed := false }
  (accepted, if conditions.feedback && accepted then after.store patch.status else after)

def respond (conditions : Conditions) :
    (request : Controller.Request Call) → Stage → request.Reply Call.Reply × Stage
  | .clock, stage => (stage.world.clock, stage)
  | .pass deadline call, stage =>
    let (reply, world) := World.reply call { stage.world with deadline := some deadline }
    (reply, { stage with world })
  | .patch patch, stage =>
    match patch.target? with
    | some target => stage.takePatch conditions target patch
    | none => (false, stage)

/-- Rounds until a limit is reached; one that would end too late leaves no patch. If a patch has
no target, then no later one has, and time passes to its limit. -/
def rounds (conditions : Conditions) : (passes : Nat) → Stage → End × List PatchRecord
  | 0, stage => (.passes, stage.patches)
  | passes + 1, stage =>
    if conditions.maxSeconds ≤ stage.world.clock then
      (.time, stage.patches)
    else
      let pass := fun plan => Pipeline.run plan conditions.pipeline
      match (Controller.round conditions.timing pass stage.cluster).run (respond conditions) stage with
      | (.overflow, _) => (.overflow, stage.patches)
      | (.verdict verdict, after) =>
        if conditions.maxSeconds ≤ after.world.clock ∨
            after.patches.length = stage.patches.length then
          (.time, stage.patches)
        else
          let delay := if after.changed then 0 else Controller.delay conditions.timing verdict
          rounds conditions passes
            { after with world := { after.world with clock := after.world.clock + delay } }

end Stage

/-- The text of a list of one object. -/
def listText (document : Json) : String :=
  (Json.object [("items", .array [document])]).render

def storedStatus (document : Json) : Json :=
  ((Schema.members? document).bind (·.lookup "status")).getD .null

/-- The cluster is given as the document the server holds. There are no rounds before the server
serves clusters, and none at all if their list cannot be read. -/
def runController (conditions : Conditions) (document : Json) (supply : Supply) : Run :=
  let (discoveries, served) :=
    discover conditions.listings conditions.maxSeconds (conditions.maxSeconds + 1) 0 0
      Discovery.firstInterval
  match served, Cluster.ofListText (listText document) with
  | some start, some [cluster] =>
    let world := { World.empty.supply supply with clock := start }
    let (ending, patches) :=
      Stage.rounds conditions conditions.maxPasses
        { world, cluster, stored := storedStatus document, patches := [], changed := false }
    { ending, discoveries, patches }
  | _, _ => { ending := .time, discoveries, patches := [] }

end VpcOperator.Simulation
