import VpcOperator.Proofs.Runs

/-! # What an account holds

An account seen from outside: the resources it holds, what it answers because
of them, and how they change. Nothing is said about look-ups by ID, errors or
aborted requests, so the laws here hold of many accounts.
-/

namespace VpcOperator.Cloud

structure PlacedGateway where
  gateway : Gateway
  resourceGroupId : String

structure Inventory where
  vpcs : List Vpc
  subnets : List Subnet
  gateways : List PlacedGateway
  securityGroups : List SecurityGroup
  loadBalancers : List LoadBalancer
  images : List Image
  /-- The rules of a security group, by its ID. -/
  rules : String → List Rule

/-- The answer of a look-up: an item that is wanted, exactly if there is one. -/
def Finds {α : Type} (items : List α) (wanted : α → Prop) : Option α → Prop
  | some item => item ∈ items ∧ wanted item
  | none => ∀ item ∈ items, ¬ wanted item

def Fresh (ids : List String) (id : String) : Prop :=
  id ≠ "" ∧ id ∉ ids

namespace Inventory

def empty : Inventory :=
  { vpcs := [], subnets := [], gateways := [], securityGroups := [], loadBalancers := [],
    images := [], rules := fun _ => [] }

def gatewaysIn (held : Inventory) (resourceGroupId : String) : List Gateway :=
  (held.gateways.filter (·.resourceGroupId = resourceGroupId)).map (·.gateway)

/-- At most one resource of a kind has a name; a gateway's name counts within its resource group. -/
structure Distinct (held : Inventory) : Prop where
  vpcs : (held.vpcs.map (·.name)).Nodup
  subnets : (held.subnets.map (·.name)).Nodup
  gateways : (held.gateways.map fun placed => (placed.gateway.name, placed.resourceGroupId)).Nodup
  securityGroups : (held.securityGroups.map (·.name)).Nodup
  loadBalancers : (held.loadBalancers.map (·.name)).Nodup

/-- The exchange is one an account that holds this can have: a look-up by name finds what has the
name, and what is created has the name asked for and an ID of its own. -/
def Admits (held : Inventory) : Exchange → Prop
  | ⟨.findVpc name, .answer found⟩ => Finds held.vpcs (·.name = name) found
  | ⟨.findSubnet name, .answer found⟩ => Finds held.subnets (·.name = name) found
  | ⟨.findGateway name resourceGroupId, .answer found⟩ =>
    Finds (held.gatewaysIn resourceGroupId) (·.name = name) found
  | ⟨.findSecurityGroup name, .answer found⟩ => Finds held.securityGroups (·.name = name) found
  | ⟨.findLoadBalancer name, .answer found⟩ => Finds held.loadBalancers (·.name = name) found
  | ⟨.findImage name, .answer found⟩ => Finds held.images (·.name = name) found
  | ⟨.createVpc prototype, .answer vpc⟩ =>
    vpc.name = prototype.name ∧ Fresh (held.vpcs.map (·.id)) vpc.id
  | ⟨.createSubnet prototype, .answer subnet⟩ =>
    subnet.name = prototype.name ∧ Fresh (held.subnets.map (·.id)) subnet.id
  | ⟨.createGateway prototype, .answer gateway⟩ =>
    gateway.name = prototype.name ∧ Fresh (held.gateways.map (·.gateway.id)) gateway.id
  | ⟨.createSecurityGroup prototype, .answer group⟩ =>
    group.name = prototype.name ∧ Fresh (held.securityGroups.map (·.id)) group.id
  | ⟨.createLoadBalancer prototype, .answer balancer⟩ =>
    balancer.name = prototype.name ∧ Fresh (held.loadBalancers.map (·.id)) balancer.id
  | ⟨.createImage prototype, .answer image⟩ =>
    image.name = prototype.name ∧ Fresh (held.images.map (·.id)) image.id
  | _ => True

/-- What is held after an exchange: one resource more if one was created, else the same. -/
def after (held : Inventory) : Exchange → Inventory
  | ⟨.createVpc _, .answer vpc⟩ => { held with vpcs := vpc :: held.vpcs }
  | ⟨.createSubnet _, .answer subnet⟩ => { held with subnets := subnet :: held.subnets }
  | ⟨.createGateway prototype, .answer gateway⟩ =>
    { held with gateways := ⟨gateway, prototype.resourceGroupId⟩ :: held.gateways }
  | ⟨.createSecurityGroup _, .answer group⟩ =>
    { held with securityGroups := group :: held.securityGroups }
  | ⟨.createRule groupId _, .answer rule⟩ =>
    { held with
      rules := fun id => if id = groupId then held.rules id ++ [rule] else held.rules id }
  | ⟨.createLoadBalancer _, .answer balancer⟩ =>
    { held with loadBalancers := balancer :: held.loadBalancers }
  | ⟨.createImage _, .answer image⟩ => { held with images := image :: held.images }
  | _ => held

/-- Some resources may have gone and some may be in another state, but there is no new one and none
has another ID or name. -/
structure Shrinks (held left : Inventory) : Prop where
  vpcs : (left.vpcs.map fun vpc => (vpc.id, vpc.name)).Sublist
    (held.vpcs.map fun vpc => (vpc.id, vpc.name))
  subnets : (left.subnets.map fun subnet => (subnet.id, subnet.name)).Sublist
    (held.subnets.map fun subnet => (subnet.id, subnet.name))
  gateways : (left.gateways.map fun placed =>
      (placed.gateway.id, placed.gateway.name, placed.resourceGroupId)).Sublist
    (held.gateways.map fun placed =>
      (placed.gateway.id, placed.gateway.name, placed.resourceGroupId))
  securityGroups : (left.securityGroups.map fun group => (group.id, group.name)).Sublist
    (held.securityGroups.map fun group => (group.id, group.name))
  loadBalancers : (left.loadBalancers.map fun balancer => (balancer.id, balancer.name)).Sublist
    (held.loadBalancers.map fun balancer => (balancer.id, balancer.name))
  images : (left.images.map fun image => (image.id, image.name)).Sublist
    (held.images.map fun image => (image.id, image.name))

theorem Shrinks.refl (held : Inventory) : Shrinks held held :=
  ⟨.refl _, .refl _, .refl _, .refl _, .refl _, .refl _⟩

/-- The exchanges as the account takes part in them. Resources may go or change their state before
each of them; nobody else creates any. -/
inductive Follows : Inventory → Trace → Inventory → Prop
  | nil (held : Inventory) : Follows held [] held
  | cons {held left last : Inventory} {exchange : Exchange} {rest : Trace} :
      held.Shrinks left → left.Admits exchange → Follows (left.after exchange) rest last →
      Follows held (exchange :: rest) last

end Inventory

end VpcOperator.Cloud
