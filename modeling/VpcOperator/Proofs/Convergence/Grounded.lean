import VpcOperator.Proofs.Account.Working
import VpcOperator.Proofs.Ready.Balancers
import VpcOperator.Proofs.Ready.Provisioned

/-! # Plans that can be carried out

What a plan must declare, and what an account must hold, for passes to get
anywhere; and statuses whose entries all lead to something the account holds.
-/

namespace VpcOperator

open Cloud (Inventory Site)
open Observed (Shelf Status)

namespace Cloud.Inventory

variable {held left : Inventory} {shelf : Shelf} {id : String}

/-- A resource with this ID is held that belongs on the shelf. -/
def Has (held : Inventory) : Shelf → String → Prop
  | .vpc, id => ∃ vpc ∈ held.vpcs, vpc.id = id
  | .image, id => ∃ image ∈ held.images, image.id = id
  | .subnets _, id => ∃ subnet ∈ held.subnets, subnet.id = id
  | .securityGroups, id => ∃ group ∈ held.securityGroups, group.id = id

def HasBalancer (held : Inventory) (id name : String) : Prop :=
  ∃ balancer ∈ held.loadBalancers, balancer.id = id ∧ balancer.name = name

theorem Grows.has (h : Grows held left) (hhas : held.Has shelf id) : left.Has shelf id := by
  cases shelf with
  | vpc =>
    obtain ⟨vpc, hmem, rfl⟩ := hhas
    exact h.vpcs vpc hmem
  | image =>
    obtain ⟨image, hmem, rfl⟩ := hhas
    exact h.images image hmem
  | subnets role =>
    obtain ⟨subnet, hmem, rfl⟩ := hhas
    obtain ⟨other, hother, hid, -⟩ := h.subnets subnet hmem
    exact ⟨other, hother, hid⟩
  | securityGroups =>
    obtain ⟨group, hmem, hid⟩ := hhas
    exact ⟨group, h.securityGroups hmem, hid⟩

theorem Grows.hasBalancer (h : Grows held left) {name : String} (hhas : held.HasBalancer id name) :
    left.HasBalancer id name := by
  obtain ⟨balancer, hmem, rfl, rfl⟩ := hhas
  exact h.loadBalancers balancer hmem

theorem Sound.id_ne (h : held.Sound) (hhas : held.Has shelf id) : id ≠ "" := by
  cases shelf with
  | vpc =>
    obtain ⟨vpc, hmem, rfl⟩ := hhas
    exact h.vpcs vpc hmem
  | image =>
    obtain ⟨image, hmem, rfl⟩ := hhas
    exact h.images image hmem
  | subnets role =>
    obtain ⟨subnet, hmem, rfl⟩ := hhas
    exact (h.subnets subnet hmem).1
  | securityGroups =>
    obtain ⟨group, hmem, rfl⟩ := hhas
    exact h.securityGroups group hmem

end Cloud.Inventory

/-! ## Entries that lead somewhere -/

namespace Observed.Status

variable {s s' : Status} {held left : Inventory}

/-- Everything that is remembered is held. -/
structure Grounded (s : Status) (held : Inventory) : Prop where
  entries : ∀ shelf name entry, s.find? shelf name = some entry → held.Has shelf entry.id
  balancers : ∀ entry ∈ s.balancers, held.HasBalancer entry.id entry.name

theorem grounded_empty (held : Inventory) : Grounded .empty held := by
  refine ⟨fun shelf name entry hfind => ?_, by simp [balancers, Status.empty]⟩
  cases shelf <;> simp [find?, Status.empty] at hfind

theorem Grounded.grows (h : Grounded s held) (hgrows : held.Grows left) : Grounded s left :=
  ⟨fun shelf name entry hfind => hgrows.has (h.entries shelf name entry hfind),
    fun entry hmem => hgrows.hasBalancer (h.balancers entry hmem)⟩

theorem Grounded.frame (h : Grounded s held) (hsame : ∀ shelf, Same (.shelf shelf) s s')
    (hbalancers : Same .balancers s s') : Grounded s' held := by
  refine ⟨fun shelf name entry hfind => ?_, fun entry hmem => ?_⟩
  · rw [(hsame shelf).find? name] at hfind
    exact h.entries shelf name entry hfind
  · rw [hbalancers.balancers] at hmem
    exact h.balancers entry hmem

theorem Grounded.put (h : Grounded s held) {shelf : Shelf} (name : String) {entry : Entry}
    (hentry : held.Has shelf entry.id) : Grounded (s.put shelf name entry) held := by
  refine ⟨fun other key found hfind => ?_, fun found hmem => ?_⟩
  · rcases find?_put_some hfind with ⟨rfl, rfl⟩ | hfind
    · exact hentry
    · exact h.entries other key found hfind
  · have hsame : Same .balancers s (s.put shelf name entry) :=
      writes_put s shelf name entry _ (by simp)
    rw [hsame.balancers] at hmem
    exact h.balancers found hmem

theorem Grounded.putBalancer (h : Grounded s held) {entry : BalancerEntry}
    (hentry : held.HasBalancer entry.id entry.name) : Grounded (s.putBalancer entry) held := by
  refine ⟨fun shelf key found hfind => ?_, fun found hmem => ?_⟩
  · have hsame : Same (.shelf shelf) s (s.putBalancer entry) :=
      writes_putBalancer s entry _ (by simp)
    rw [hsame.find? key] at hfind
    exact h.entries shelf key found hfind
  · rcases mem_balancers_putBalancer hmem with rfl | hmem
    · exact hentry
    · exact h.balancers found hmem

end Observed.Status

/-! ## Complete plans -/

/-- All it takes to find the subnet or to create it. -/
structure Desired.Subnet.Complete (subnet : Desired.Subnet) (held : Inventory) : Prop where
  name : (given? subnet.name).isSome
  zone : given? subnet.id = none → (given? subnet.zone).isSome
  id : ∀ id, given? subnet.id = some id → ∃ live ∈ held.subnets, live.id = id

theorem Desired.Subnet.Complete.grows {subnet : Desired.Subnet} {held left : Inventory}
    (h : subnet.Complete held) (hgrows : held.Grows left) : subnet.Complete left := by
  refine ⟨h.name, h.zone, fun id hid => ?_⟩
  obtain ⟨live, hlive, rfl⟩ := h.id id hid
  obtain ⟨other, hother, hsame, -⟩ := hgrows.subnets live hlive
  exact ⟨other, hother, hsame⟩

/-- All it takes to find the image or to create it. -/
structure Desired.Image.Complete (image : Desired.Image) : Prop where
  name : image.name ≠ ""
  instanceName : (given? image.instanceName).isSome
  bucket : (given? image.bucket).isSome
  object : (given? image.object).isSome
  operatingSystem : (given? image.operatingSystem).isSome

namespace Plan

variable {plan : Plan} {site : Site} {held left : Inventory}

/-- The subnet generated for a zone. -/
def zonalSubnet (plan : Plan) (zone : String) : Desired.Subnet :=
  { id := none, name := some (plan.subnetName zone), zone := some zone }

/-- The subnets a role needs, declared or generated. -/
def wantedSubnets (plan : Plan) (site : Site) (role : Desired.Role) : List Desired.Subnet :=
  Pass.Subnets.wanted (plan.spec.network.subnets role)
    ((site.zones plan.spec.region).map plan.zonalSubnet)

/-- The names of the resource groups the plan relies on. -/
def resourceGroupNames (plan : Plan) : List String :=
  plan.resourceGroupName :: (given? plan.spec.network.resourceGroup).toList ++
    (given? ((plan.spec.image.bind (·.resourceGroup)).bind (·.name))).toList

/-- A subnet has this name, or will have it. -/
def NamesSubnet (plan : Plan) (site : Site) (held : Inventory) (name : String) : Prop :=
  (∃ role, ∃ subnet ∈ plan.wantedSubnets site role, given? subnet.name = some name) ∨
    ∃ subnet ∈ held.subnets, subnet.name = name

/-- A security group has this name, or will have it. -/
def NamesGroup (plan : Plan) (held : Inventory) (name : String) : Prop :=
  (∃ group ∈ plan.spec.network.securityGroups, given? group.name = some name) ∨
    ∃ group ∈ held.securityGroups, group.name = name

/-- What a rule refers to by name is there, or will be. -/
def Names (plan : Plan) (site : Site) (held : Inventory) : Desired.Remote → Prop
  | .any | .address _ => True
  | .subnet name => plan.NamesSubnet site held name
  | .group name => plan.NamesGroup held name

/-- All it takes to find the group or to create it, and to create its rules. -/
structure CompleteGroup (plan : Plan) (site : Site) (held : Inventory)
    (group : Desired.SecurityGroup) : Prop where
  name : (given? group.name).isSome
  id : ∀ id, given? group.id = some id → ∃ live ∈ held.securityGroups, live.id = id
  remotes : ∀ rule ∈ group.rules, ∀ remote ∈ rule.body.remotes, plan.Names site held remote

/-- All it takes to find the load balancer or to create it. -/
structure CompleteBalancer (plan : Plan) (held : Inventory) (balancer : Desired.LoadBalancer) :
    Prop where
  name : balancer.name ≠ ""
  id : ∀ id, given? balancer.id = some id → ∃ live ∈ held.loadBalancers, live.id = id
  groups : ∀ reference ∈ balancer.securityGroups, given? reference.id = none →
    plan.NamesGroup held (reference.name.getD "")

/-- Whatever is declared by ID is held, whatever is to be created has all it needs, and whatever is
referred to is declared or held. -/
structure Complete (plan : Plan) (site : Site) (held : Inventory) : Prop where
  resourceGroups : ∀ name ∈ plan.resourceGroupNames,
    ∃ group, site.resourceGroups.filter (·.name = name) = [group] ∧ group.id ≠ ""
  zones : site.zones plan.spec.region ≠ []
  vpc : ∀ id, Pass.Vpc.declaredId? plan = some id → held.Has .vpc id
  image : ∀ image, plan.spec.image = some image → image.Complete
  subnets : ∀ role, ∀ subnet ∈ plan.wantedSubnets site role, subnet.Complete held
  securityGroups : ∀ group ∈ plan.spec.network.securityGroups, plan.CompleteGroup site held group
  loadBalancers : ∀ balancer ∈ plan.spec.network.loadBalancers, plan.CompleteBalancer held balancer

theorem NamesSubnet.grows {name : String} (h : plan.NamesSubnet site held name)
    (hgrows : held.Grows left) : plan.NamesSubnet site left name := by
  refine h.imp_right ?_
  rintro ⟨subnet, hmem, rfl⟩
  obtain ⟨other, hother, -, hname, -⟩ := hgrows.subnets subnet hmem
  exact ⟨other, hother, hname⟩

theorem NamesGroup.grows {name : String} (h : plan.NamesGroup held name)
    (hgrows : held.Grows left) : plan.NamesGroup left name := by
  refine h.imp_right ?_
  rintro ⟨group, hmem, hname⟩
  exact ⟨group, hgrows.securityGroups hmem, hname⟩

theorem Names.grows {remote : Desired.Remote} (h : plan.Names site held remote)
    (hgrows : held.Grows left) : plan.Names site left remote := by
  cases remote with
  | any => trivial
  | address ip => trivial
  | subnet name => exact NamesSubnet.grows h hgrows
  | group name => exact NamesGroup.grows h hgrows

theorem CompleteGroup.grows {group : Desired.SecurityGroup}
    (h : plan.CompleteGroup site held group) (hgrows : held.Grows left) :
    plan.CompleteGroup site left group := by
  refine ⟨h.name, fun id hid => ?_, fun rule hrule remote hremote => ?_⟩
  · obtain ⟨live, hlive, hsame⟩ := h.id id hid
    exact ⟨live, hgrows.securityGroups hlive, hsame⟩
  · exact (h.remotes rule hrule remote hremote).grows hgrows

theorem CompleteBalancer.grows {balancer : Desired.LoadBalancer}
    (h : plan.CompleteBalancer held balancer) (hgrows : held.Grows left) :
    plan.CompleteBalancer left balancer := by
  refine ⟨h.name, fun id hid => ?_, fun reference href hnone => ?_⟩
  · obtain ⟨live, hlive, rfl⟩ := h.id id hid
    obtain ⟨other, hother, hsame, -⟩ := hgrows.loadBalancers live hlive
    exact ⟨other, hother, hsame⟩
  · exact (h.groups reference href hnone).grows hgrows

theorem Complete.grows (h : plan.Complete site held) (hgrows : held.Grows left) :
    plan.Complete site left where
  resourceGroups := h.resourceGroups
  zones := h.zones
  vpc id hid := hgrows.has (h.vpc id hid)
  image := h.image
  subnets role subnet hmem := (h.subnets role subnet hmem).grows hgrows
  securityGroups group hmem := (h.securityGroups group hmem).grows hgrows
  loadBalancers balancer hmem := (h.loadBalancers balancer hmem).grows hgrows

theorem Complete.wantedSubnets_ne_nil (h : plan.Complete site held) (role : Desired.Role) :
    plan.wantedSubnets site role ≠ [] := by
  unfold wantedSubnets Pass.Subnets.wanted
  split
  · simpa using h.zones
  · rename_i hdeclared
    simpa using hdeclared

end Plan

end VpcOperator
