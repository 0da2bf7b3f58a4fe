import VpcOperator.Simulation.World

/-!
# Sessions

A session drives one cluster by hand: it runs passes or parts of them against a
simulated account, and looks at or changes the status in between.
-/

namespace VpcOperator.Simulation

open Cloud
open Observed

/-! ## The status alone -/

inductive StatusCommand where
  | put (shelf : Shelf) (name : String) (entry : Entry)
  | get (shelf : Shelf) (name : String)
  | entries (shelf : Shelf)
  | putBalancer (entry : BalancerEntry)
  | getBalancer (id : String)
  | balancers
  | putResourceGroup (reference : GroupReference)
  | putNetworkGroup (reference : GroupReference)
  | getResourceGroup
  | getNetworkGroup
  deriving DecidableEq

inductive StatusFinding where
  | nothing
  | entry (entry : Option Entry)
  | entries (entries : List (String × Entry))
  | balancer (entry : Option BalancerEntry)
  | balancers (entries : List BalancerEntry)
  | reference (reference : Option GroupReference)
  deriving DecidableEq

def StatusCommand.run (status : Status) : StatusCommand → StatusFinding × Status
  | put shelf name entry => (.nothing, status.put shelf name entry)
  | get shelf name => (.entry (status.find? shelf name), status)
  | entries shelf => (.entries (status.entries shelf), status)
  | putBalancer entry => (.nothing, status.putBalancer entry)
  | getBalancer id => (.balancer (status.balancer? id), status)
  | balancers => (.balancers status.balancers, status)
  | putResourceGroup reference => (.nothing, status.putResourceGroup reference)
  | putNetworkGroup reference => (.nothing, status.putNetworkGroup reference)
  | getResourceGroup => (.reference status.resourceGroup, status)
  | getNetworkGroup => (.reference status.networkGroup?, status)

/-! ## Sessions -/

/-- What happens to the account from outside, in the order of the fields. -/
structure Event where
  remove : Option String
  supply : Option Supply
  setState : Option (String × ResourceState × BalancerState)
  provision : Bool
  clearFaults : Bool
  deriving DecidableEq

inductive Command where
  | status (command : StatusCommand)
  | pass (pipeline : Pipeline)
  | part (part : Part)
  | gateway (zone : String)
  | resolveGroup (name : String)
  | mark (kind : Kind) (name crn : String)
  | matchRule (direction : Direction) (protocol : Protocol) (remote : Desired.Remote) (live : Rule)
  | prototype (remote : Desired.Remote)
  | forget
  | call (kind : Kind) (verb target : String) (delay : Nat) (reply : Reply Json)
  | names (zone : String)
  | ids (name : String)
  | setDeadline (after : Nat)
  | restart
  | sleep (seconds : Nat)
  | event (event : Event)

structure Names where
  cluster : String
  resourceGroup : String
  vpc : String
  subnet : String
  gateway : String
  deriving DecidableEq

structure Ids where
  resourceGroup : Except Failure String
  networkGroup : Except Failure String
  vpc : Except Failure String
  subnets : List String
  subnet : Option String
  securityGroup : Option String

inductive Finding where
  | nothing
  | status (finding : StatusFinding)
  | outcome (result : Except Failure Outcome)
  | part (kind : Kind) (result : Except Failure Outcome)
  | gateway (result : Except Failure Gateway)
  | group (result : Except Failure GroupReference)
  | marked (result : Except Failure Unit)
  | matched (result : Except Failure Bool)
  | prototype (result : Except Failure RemotePrototype)
  | value (result : Except Failure Json)
  | names (names : Names)
  | ids (ids : Ids)

structure Session where
  plan : Plan
  status : Status
  known : Pass.Lookups
  world : World

namespace Session

def start (cluster : Cluster) (supply : Supply) : Session :=
  { plan := .ofCluster cluster, status := cluster.status.getD .empty, known := .none
    world := World.empty.supply supply }

/-- Carries out what is to be done with the status of the session. -/
def rehearse {α : Type} (session : Session)
    (part : Status → Program Call.Reply (Except Failure α × Status)) : Except Failure α × Session :=
  let ((result, status), world) := (part session.status).run World.reply session.world
  (result, { session with status, world })

def perform {α : Type} (session : Session) (pass : Pass α) : Except Failure α × Session :=
  session.rehearse fun status => ofCloud (pass status)

/-- What was looked up before a failure is not forgotten. -/
def performKnowing {α : Type} (session : Session) (pass : Pass (α × Pass.Lookups)) :
    Except Failure α × Session :=
  match session.perform pass with
  | (.ok (value, known), session) => (.ok value, { session with known })
  | (.error failure, session) => (.error failure, session)

def names (session : Session) (zone : String) : Names :=
  { cluster := session.plan.clusterName
    resourceGroup := session.plan.resourceGroupName
    vpc := session.plan.vpcName
    subnet := session.plan.subnetName zone
    gateway := session.plan.gatewayName zone }

def ids (session : Session) (name : String) : Ids :=
  { resourceGroup := session.plan.resourceGroupId session.status
    networkGroup := session.plan.networkGroupId session.status
    vpc := session.plan.vpcId session.status
    subnets := session.status.subnetIds
    subnet := session.status.subnetId? name
    securityGroup := session.status.securityGroupId? name }

end Session

def World.undergo (world : World) (event : Event) : World :=
  let account := world.account
  let account := (event.remove.map account.remove).getD account
  let world := { world with account }
  let world := (event.supply.map world.supply).getD world
  let account :=
    match event.setState with
    | some (id, state, balancerState) => world.account.setStates (· = id) state balancerState
    | none => world.account
  let account := if event.provision then account.provision else account
  { world with account, faults := if event.clearFaults then [] else world.faults }

namespace Session

def run (session : Session) : Command → Finding × Session
  | .status command =>
    let (finding, status) := command.run session.status
    (.status finding, { session with status })
  | .pass pipeline =>
    let (result, session) := session.rehearse (pipeline.run session.plan)
    (.outcome result, session)
  | .part part =>
    let (result, session) := session.rehearse fun status => part.run session.plan status
    (.part part.kind result, session)
  | .gateway zone =>
    let (result, session) := session.perform (Pass.Gateway.ofZone session.plan zone)
    (.gateway result, session)
  | .resolveGroup name =>
    let (result, session) := session.perform (Pass.ResourceGroups.resolve name)
    (.group result, session)
  | .mark kind name crn =>
    let (result, session) := session.perform (Pass.Ownership.mark session.plan kind name crn)
    (.marked result, session)
  | .matchRule direction protocol remote live =>
    let (result, session) :=
      session.performKnowing (session.known.matchesRule direction protocol remote live)
    (.matched result, session)
  | .prototype remote =>
    let (result, session) := session.performKnowing (session.known.prototype remote)
    (.prototype result, session)
  | .forget => (.nothing, { session with known := .none })
  | .call kind verb target delay reply =>
    let (reply, world) := session.world.settleLater delay reply
    (.value (Pass.settle kind verb target reply), { session with world })
  | .names zone => (.names (session.names zone), session)
  | .ids name => (.ids (session.ids name), session)
  | .setDeadline after =>
    (.nothing,
      { session with
        world := { session.world with deadline := some (session.world.clock + after) } })
  | .restart => (.nothing, { session with world := { session.world with deadline := none } })
  | .sleep seconds =>
    (.nothing,
      { session with world := { session.world with clock := session.world.clock + seconds } })
  | .event event => (.nothing, { session with world := session.world.undergo event })

/-- What a command found, the calls it led to, and the status after it. -/
structure Report where
  finding : Finding
  calls : List Call
  status : Status

def report (session : Session) (command : Command) : Report × Session :=
  let session := { session with world := { session.world with log := [] } }
  let (finding, session) := session.run command
  ({ finding, calls := session.world.log, status := session.status }, session)

end Session

end VpcOperator.Simulation
