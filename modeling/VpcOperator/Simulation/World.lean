import VpcOperator.Simulation.Account
import VpcOperator.Simulation.Pipeline

/-!
# An account in time

Every call is logged, and every request is counted. A fault can make it wait and
fail; a request that would wait past the deadline is aborted, and what is
aborted or fails changes nothing in the account.
-/

namespace VpcOperator.Simulation

open Cloud

/-- What goes wrong with a request: with every one of its name, or with the nth one. -/
structure Fault where
  call : String
  nth : Option Nat
  delay : Nat
  error : Option ServiceError
  deriving DecidableEq

structure World where
  account : Account
  faults : List Fault
  /-- How often each request has been made. -/
  counts : Table Nat
  log : List Call
  /-- Seconds since the start. -/
  clock : Nat
  deadline : Option Nat
  deriving DecidableEq

/-- What is added to a world; lists are appended, single values replace the old ones. -/
structure Supply where
  resourceGroups : List ResourceGroup
  zones : List (String × List String)
  vpcs : List Vpc
  subnets : List Subnet
  gateways : List Gateway
  securityGroups : List SecurityGroup
  rules : List (String × List Rule)
  loadBalancers : List LoadBalancer
  images : List Image
  tags : List String
  faults : List Fault
  vpcBirth : Option ResourceState
  subnetBirth : Option ResourceState
  imageBirth : Option ResourceState
  loadBalancerBirth : Option BalancerState
  /-- Nothing to append leaves the old suffix in force. -/
  nameSuffix : String
  identities : Option (List GroupIdentity)
  withoutCidrs : Bool
  deriving DecidableEq

def Account.supply (account : Account) (supply : Supply) : Account :=
  { account with
    resourceGroups := account.resourceGroups ++ supply.resourceGroups
    zones := supply.zones.foldl (fun zones (region, names) => zones.insert region names) account.zones
    vpcs := account.vpcs ++ supply.vpcs
    subnets := account.subnets ++ supply.subnets
    gateways := account.gateways ++ supply.gateways
    securityGroups := account.securityGroups ++ supply.securityGroups
    rules := supply.rules.foldl
      (fun rules (groupId, added) => rules.insert groupId ((rules.find? groupId).getD [] ++ added))
      account.rules
    loadBalancers := account.loadBalancers ++ supply.loadBalancers
    images := account.images ++ supply.images
    tags := account.tags ++ supply.tags
    birth :=
      { vpc := supply.vpcBirth.getD account.birth.vpc
        subnet := supply.subnetBirth.getD account.birth.subnet
        image := supply.imageBirth.getD account.birth.image
        loadBalancer := supply.loadBalancerBirth.getD account.birth.loadBalancer }
    nameSuffix := if supply.nameSuffix = "" then account.nameSuffix else supply.nameSuffix
    identities := supply.identities.or account.identities
    assignsCidrs := account.assignsCidrs && !supply.withoutCidrs }

namespace World

def empty : World :=
  { account := .empty, faults := [], counts := .empty, log := [], clock := 0, deadline := none }

def supply (world : World) (supply : Supply) : World :=
  { world with account := world.account.supply supply, faults := world.faults ++ supply.faults }

/-- Whether the time passes before the deadline. If not, time stops at the deadline, or where it
is already past it. -/
def wait (world : World) (delay : Nat) : Bool × World :=
  match world.deadline with
  | none => (true, { world with clock := world.clock + delay })
  | some deadline =>
    if delay = 0 || world.clock + delay ≤ deadline then
      (true, { world with clock := world.clock + delay })
    else
      (false, { world with clock := max world.clock deadline })

def count (world : World) (call : String) : Nat :=
  (world.counts.find? call).getD 0

def record (world : World) (request : Request) : World :=
  { world with
    log := world.log ++ [.cloud request]
    counts := world.counts.insert request.name (world.count request.name + 1) }

/-- The first fault that concerns a request which has just been counted. -/
def fault? (world : World) (request : Request) : Option Fault :=
  world.faults.find? fun fault =>
    fault.call = request.name &&
      (fault.nth.isNone || fault.nth = some (world.count request.name))

def act (world : World) (request : Request) : Reply request.Answer × World :=
  let (answer, account) := world.account.answer request
  (.answer answer, { world with account })

def suffer (world : World) (fault : Fault) (request : Request) : Reply request.Answer × World :=
  match world.wait fault.delay with
  | (false, world) => (.aborted, world)
  | (true, world) =>
    match fault.error with
    | some error => (.error error, world)
    | none => world.act request

def respond (request : Request) (world : World) : Reply request.Answer × World :=
  let world := world.record request
  match world.fault? request with
  | none => world.act request
  | some fault => world.suffer fault request

def reply : (call : Call) → World → call.Reply × World
  | .cloud request, world => world.respond request
  | .drill part, world => ((), { world with log := world.log ++ [.drill part] })

/-- A request whose answer is known beforehand and takes some time. -/
def settleLater {α : Type} (world : World) (delay : Nat) (reply : Reply α) : Reply α × World :=
  match world.wait delay with
  | (true, world) => (reply, world)
  | (false, world) => (.aborted, world)

end World

end VpcOperator.Simulation
