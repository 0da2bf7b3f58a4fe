import VpcOperator.Cloud.Request
import VpcOperator.Table

/-!
# A simulated cloud account

An account that answers every request from the resources it holds. Look-ups
find the first resource in the order of creation; what is created gets the next
number of a counter shared by all kinds.
-/

namespace VpcOperator.Simulation

open Cloud

/-- A way to identify the group in the remote of a live rule. -/
inductive GroupIdentity where
  | id
  | name
  | crn
  deriving DecidableEq

/-- The states new resources start in. -/
structure BirthStates where
  vpc : ResourceState
  subnet : ResourceState
  image : ResourceState
  loadBalancer : BalancerState
  deriving DecidableEq

structure Account where
  resourceGroups : List ResourceGroup
  zones : Table (List String)
  vpcs : List Vpc
  subnets : List Subnet
  gateways : List Gateway
  securityGroups : List SecurityGroup
  rules : Table (List Rule)
  loadBalancers : List LoadBalancer
  images : List Image
  tags : List String
  created : Nat
  birth : BirthStates
  /-- What is appended to the name of everything created. -/
  nameSuffix : String
  /-- How the rules it creates identify groups; in every way, if not restricted. -/
  identities : Option (List GroupIdentity)
  assignsCidrs : Bool
  deriving DecidableEq

namespace Account

def empty : Account :=
  { resourceGroups := [], zones := .empty, vpcs := [], subnets := [], gateways := []
    securityGroups := [], rules := .empty, loadBalancers := [], images := [], tags := []
    created := 0
    birth := { vpc := .pending, subnet := .pending, image := .pending, loadBalancer := .createPending }
    nameSuffix := "", identities := none, assignsCidrs := true }

def defaultCrn (kind id : String) : String :=
  "crn:" ++ kind ++ ":" ++ id

/-- The next ID of a kind, and the account that has used it up. -/
def newId (account : Account) (kind : String) : String × Account :=
  (kind ++ "-" ++ toString (account.created + 1), { account with created := account.created + 1 })

def createVpc (account : Account) (prototype : VpcPrototype) : Vpc × Account :=
  let (id, account) := account.newId "vpc"
  let vpc : Vpc :=
    { id, name := prototype.name ++ account.nameSuffix, crn := defaultCrn "vpc" id
      state := account.birth.vpc }
  (vpc, { account with vpcs := account.vpcs ++ [vpc] })

def newCidr (account : Account) : Option String :=
  if account.assignsCidrs then
    some ("10.240." ++ toString account.subnets.length ++ ".0/24")
  else
    none

def createSubnet (account : Account) (prototype : SubnetPrototype) : Subnet × Account :=
  let (id, account) := account.newId "subnet"
  let subnet : Subnet :=
    { id, name := prototype.name ++ account.nameSuffix, crn := defaultCrn "subnet" id
      zone := prototype.zone, cidr := account.newCidr, state := account.birth.subnet }
  (subnet, { account with subnets := account.subnets ++ [subnet] })

def createGateway (account : Account) (prototype : GatewayPrototype) : Gateway × Account :=
  let (id, account) := account.newId "pgw"
  let gateway : Gateway :=
    { id, name := prototype.name ++ account.nameSuffix, crn := defaultCrn "public-gateway" id
      zone := prototype.zone, state := .available }
  (gateway, { account with gateways := account.gateways ++ [gateway] })

def createSecurityGroup (account : Account) (prototype : SecurityGroupPrototype) :
    SecurityGroup × Account :=
  let (id, account) := account.newId "sg"
  let group : SecurityGroup :=
    { id, name := prototype.name ++ account.nameSuffix, crn := defaultCrn "security-group" id }
  (group, { account with securityGroups := account.securityGroups ++ [group] })

def createLoadBalancer (account : Account) (prototype : LoadBalancerPrototype) :
    LoadBalancer × Account :=
  let (id, account) := account.newId "lb"
  let balancer : LoadBalancer :=
    { id, name := prototype.name ++ account.nameSuffix, crn := defaultCrn "load-balancer" id
      state := account.birth.loadBalancer, hostname := none }
  (balancer, { account with loadBalancers := account.loadBalancers ++ [balancer] })

def createImage (account : Account) (prototype : ImagePrototype) : Image × Account :=
  let (id, account) := account.newId "image"
  let image : Image :=
    { id, name := prototype.name ++ account.nameSuffix, crn := defaultCrn "image" id
      state := account.birth.image }
  (image, { account with images := account.images ++ [image] })

def shows (account : Account) (identity : GroupIdentity) : Bool :=
  match account.identities with
  | none => true
  | some identities => identities.contains identity

def liveRemote (account : Account) : RemotePrototype → Remote
  | .cidr block => .cidr block
  | .address ip => .ip ip
  | .group crn =>
    let group := account.securityGroups.find? (·.crn = crn)
    .group (if account.shows .id then group.map (·.id) else none)
      (if account.shows .name then group.map (·.name) else none)
      (if account.shows .crn then some crn else none)

def liveTraffic : Protocol → Traffic
  | .all => .all
  | .icmp type code => .icmp type code
  | .ports transport range => .ports transport (range.map (·.first)) (range.map (·.last))

def rulesOf (account : Account) (groupId : String) : List Rule :=
  (account.rules.find? groupId).getD []

def createRule (account : Account) (groupId : String) (prototype : RulePrototype) :
    Rule × Account :=
  let (id, account) := account.newId "rule"
  let rule : Rule :=
    { id, direction := prototype.direction, remote := account.liveRemote prototype.remote
      traffic := liveTraffic prototype.protocol }
  (rule, { account with rules := account.rules.insert groupId (account.rulesOf groupId ++ [rule]) })

def answer (account : Account) : (request : Request) → request.Answer × Account
  | .listResourceGroups name => (account.resourceGroups.filter (·.name = name), account)
  | .listZones region => ((account.zones.find? region).getD [], account)
  | .getVpc id => (account.vpcs.find? (·.id = id), account)
  | .findVpc name => (account.vpcs.find? (·.name = name), account)
  | .createVpc prototype => account.createVpc prototype
  | .getSubnet id => (account.subnets.find? (·.id = id), account)
  | .findSubnet name => (account.subnets.find? (·.name = name), account)
  | .createSubnet prototype => account.createSubnet prototype
  | .findGateway name _ => (account.gateways.find? (·.name = name), account)
  | .createGateway prototype => account.createGateway prototype
  | .getSecurityGroup id => (account.securityGroups.find? (·.id = id), account)
  | .findSecurityGroup name => (account.securityGroups.find? (·.name = name), account)
  | .createSecurityGroup prototype => account.createSecurityGroup prototype
  | .listRules groupId => (account.rulesOf groupId, account)
  | .createRule groupId prototype => account.createRule groupId prototype
  | .getLoadBalancer id => (account.loadBalancers.find? (·.id = id), account)
  | .findLoadBalancer name => (account.loadBalancers.find? (·.name = name), account)
  | .createLoadBalancer prototype => account.createLoadBalancer prototype
  | .getImage id => (account.images.find? (·.id = id), account)
  | .findImage name => (account.images.find? (·.name = name), account)
  | .createImage prototype => account.createImage prototype
  | .listTags => (account.tags, account)
  | .createTag name => ((), { account with tags := account.tags ++ [name] })
  | .attachTag _ _ => ((), account)

/-! ## What happens to an account from outside -/

/-- Every resource with this ID goes, and so do the rules kept under it. -/
def remove (account : Account) (id : String) : Account :=
  { account with
    resourceGroups := account.resourceGroups.filter (·.id ≠ id)
    vpcs := account.vpcs.filter (·.id ≠ id)
    subnets := account.subnets.filter (·.id ≠ id)
    gateways := account.gateways.filter (·.id ≠ id)
    securityGroups := account.securityGroups.filter (·.id ≠ id)
    rules := account.rules.erase id
    loadBalancers := account.loadBalancers.filter (·.id ≠ id)
    images := account.images.filter (·.id ≠ id) }

def setStates (account : Account) (concerns : String → Bool) (state : ResourceState)
    (balancerState : BalancerState) : Account :=
  { account with
    vpcs := account.vpcs.map fun vpc => if concerns vpc.id then { vpc with state } else vpc
    subnets := account.subnets.map fun subnet =>
      if concerns subnet.id then { subnet with state } else subnet
    images := account.images.map fun image =>
      if concerns image.id then { image with state } else image
    loadBalancers := account.loadBalancers.map fun balancer =>
      if concerns balancer.id then { balancer with state := balancerState } else balancer }

/-- Everything that has a state becomes available. -/
def provision (account : Account) : Account :=
  account.setStates (fun _ => true) .available .active

end Account

end VpcOperator.Simulation
