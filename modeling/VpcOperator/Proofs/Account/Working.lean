import VpcOperator.Proofs.Account.Distinct
import VpcOperator.Proofs.Ready.Answers

/-! # Accounts that work

An account in which no request fails: an ID leads to what has it, and a rule is
listed as it was created. What such an account holds only grows during a pass,
and between passes everything in it becomes available.
-/

namespace VpcOperator.Cloud

/-- What an account has that no pass creates. -/
structure Site where
  /-- The zones of a region. -/
  zones : String → List String
  resourceGroups : List ResourceGroup

/-- The live traffic is what a rule was created with. -/
def Traffic.Reflects : Protocol → Traffic → Prop
  | .all, .all => True
  | .icmp type code, .icmp liveType liveCode => liveType = type ∧ liveCode = code
  | .ports transport range, .ports live first last =>
    live = transport ∧ (Traffic.ports live first last).portRange? = some (range.getD .all)
  | _, _ => False

/-- The live remote is what a rule was created with; one that is a group carries its CRN. -/
def Remote.Reflects : RemotePrototype → Remote → Prop
  | .cidr wanted, .cidr live => live = wanted
  | .address wanted, .ip live => live = wanted
  | .group wanted, .group _ _ live => live = some wanted
  | _, _ => False

namespace Inventory

variable {site : Site} {held mid left : Inventory} {exchange : Exchange} {t first rest : Trace}

/-- The answers an account of this kind gives beyond what every account admits. -/
def Grants (site : Site) (held : Inventory) : Exchange → Prop
  | ⟨.listResourceGroups name, .answer groups⟩ =>
    groups = site.resourceGroups.filter (·.name = name)
  | ⟨.listZones region, .answer zones⟩ => zones = site.zones region
  | ⟨.getVpc id, .answer found⟩ => Finds held.vpcs (·.id = id) found
  | ⟨.getSubnet id, .answer found⟩ => Finds held.subnets (·.id = id) found
  | ⟨.getSecurityGroup id, .answer found⟩ => Finds held.securityGroups (·.id = id) found
  | ⟨.getLoadBalancer id, .answer found⟩ => Finds held.loadBalancers (·.id = id) found
  | ⟨.getImage id, .answer found⟩ => Finds held.images (·.id = id) found
  | ⟨.listRules groupId, .answer rules⟩ => rules = held.rules groupId
  | ⟨.createSubnet _, .answer subnet⟩ => subnet.cidr.isSome
  | ⟨.createRule _ prototype, .answer rule⟩ =>
    rule.direction = prototype.direction ∧ rule.traffic.Reflects prototype.protocol ∧
      rule.remote.Reflects prototype.remote
  | ⟨.createLoadBalancer _, .answer balancer⟩ => balancer.state ≠ .failed
  | ⟨_, .answer _⟩ => True
  | _ => False

/-- The exchanges of an account that works, from what it holds at first to what it holds then. -/
inductive Works (site : Site) : Inventory → Trace → Inventory → Prop
  | nil (held : Inventory) : Works site held [] held
  | cons {held last : Inventory} {exchange : Exchange} {rest : Trace} :
      held.Admits exchange → held.Grants site exchange →
      Works site (held.after exchange) rest last →
      Works site held (exchange :: rest) last

theorem works_nil : Works site held [] left ↔ left = held := by
  constructor
  · intro h
    cases h
    rfl
  · rintro rfl
    exact .nil _

theorem works_cons :
    Works site held (exchange :: rest) left ↔
      held.Admits exchange ∧ held.Grants site exchange ∧
        Works site (held.after exchange) rest left := by
  constructor
  · intro h
    cases h with
    | cons hadmits hgrants h => exact ⟨hadmits, hgrants, h⟩
  · rintro ⟨hadmits, hgrants, h⟩
    exact .cons hadmits hgrants h

theorem works_append :
    Works site held (first ++ rest) left ↔
      ∃ mid, Works site held first mid ∧ Works site mid rest left := by
  induction first generalizing held with
  | nil => simp [works_nil]
  | cons exchange first ih => simp [works_cons, ih, and_assoc]

theorem Works.follows (h : Works site held t left) : Follows held t left := by
  induction h with
  | nil held => exact .nil held
  | cons hadmits _ _ ih => exact .cons (.refl _) hadmits ih

/-- No request fails. -/
theorem Grants.answered {request : Request} {reply : Reply request.Answer}
    (h : held.Grants site ⟨request, reply⟩) : ∃ answer, reply = .answer answer := by
  cases reply with
  | answer value => exact ⟨value, rfl⟩
  | error source => cases request <;> exact h.elim
  | aborted => cases request <;> exact h.elim

/-! ## What only grows -/

/-- Everything that was held still is, in whatever state. -/
structure Grows (held left : Inventory) : Prop where
  vpcs : ∀ vpc ∈ held.vpcs, ∃ other ∈ left.vpcs, other.id = vpc.id
  subnets : ∀ subnet ∈ held.subnets, ∃ other ∈ left.subnets,
    other.id = subnet.id ∧ other.name = subnet.name ∧ other.cidr = subnet.cidr
  securityGroups : held.securityGroups ⊆ left.securityGroups
  loadBalancers : ∀ balancer ∈ held.loadBalancers, ∃ other ∈ left.loadBalancers,
    other.id = balancer.id ∧ other.name = balancer.name
  images : ∀ image ∈ held.images, ∃ other ∈ left.images, other.id = image.id
  rules : ∀ groupId, held.rules groupId ⊆ left.rules groupId

theorem Grows.refl (held : Inventory) : Grows held held where
  vpcs vpc hmem := ⟨vpc, hmem, rfl⟩
  subnets subnet hmem := ⟨subnet, hmem, rfl, rfl, rfl⟩
  securityGroups := List.Subset.refl _
  loadBalancers balancer hmem := ⟨balancer, hmem, rfl, rfl⟩
  images image hmem := ⟨image, hmem, rfl⟩
  rules _ := List.Subset.refl _

theorem Grows.trans (h₁ : Grows held mid) (h₂ : Grows mid left) : Grows held left where
  vpcs vpc hmem := by
    obtain ⟨other, hother, hid⟩ := h₁.vpcs vpc hmem
    obtain ⟨last, hlast, hid'⟩ := h₂.vpcs other hother
    exact ⟨last, hlast, hid'.trans hid⟩
  subnets subnet hmem := by
    obtain ⟨other, hother, hid, hname, hcidr⟩ := h₁.subnets subnet hmem
    obtain ⟨last, hlast, hid', hname', hcidr'⟩ := h₂.subnets other hother
    exact ⟨last, hlast, hid'.trans hid, hname'.trans hname, hcidr'.trans hcidr⟩
  securityGroups _ hmem := h₂.securityGroups (h₁.securityGroups hmem)
  loadBalancers balancer hmem := by
    obtain ⟨other, hother, hid, hname⟩ := h₁.loadBalancers balancer hmem
    obtain ⟨last, hlast, hid', hname'⟩ := h₂.loadBalancers other hother
    exact ⟨last, hlast, hid'.trans hid, hname'.trans hname⟩
  images image hmem := by
    obtain ⟨other, hother, hid⟩ := h₁.images image hmem
    obtain ⟨last, hlast, hid'⟩ := h₂.images other hother
    exact ⟨last, hlast, hid'.trans hid⟩
  rules groupId _ hmem := h₂.rules groupId (h₁.rules groupId hmem)

theorem grows_after (held : Inventory) (exchange : Exchange) :
    Grows held (held.after exchange) := by
  have hsame := Grows.refl held
  unfold after
  split
  · exact { hsame with vpcs := fun vpc hmem => ⟨vpc, List.mem_cons_of_mem _ hmem, rfl⟩ }
  · exact { hsame with
      subnets := fun subnet hmem => ⟨subnet, List.mem_cons_of_mem _ hmem, rfl, rfl, rfl⟩ }
  · exact { hsame with }
  · exact { hsame with securityGroups := List.subset_cons_self _ _ }
  · refine { hsame with rules := fun groupId rule hmem => ?_ }
    dsimp only
    split
    · exact List.mem_append_left _ hmem
    · exact hmem
  · exact { hsame with
      loadBalancers := fun balancer hmem => ⟨balancer, List.mem_cons_of_mem _ hmem, rfl, rfl⟩ }
  · exact { hsame with images := fun image hmem => ⟨image, List.mem_cons_of_mem _ hmem, rfl⟩ }
  · exact hsame

theorem Works.grows (h : Works site held t left) : Grows held left := by
  induction h with
  | nil held => exact .refl held
  | cons _ _ _ ih => exact (grows_after _ _).trans ih

/-- A request that changes nothing leaves everything as it is. -/
theorem after_of_look (hlook : exchange.request.changes = false) : held.after exchange = held := by
  obtain ⟨request, reply⟩ := exchange
  cases request <;> first | rfl | cases hlook

theorem Works.still (h : Works site held t left) (hnothing : t.ChangesNothing) : left = held := by
  induction h with
  | nil held => rfl
  | cons _ _ _ ih =>
    obtain ⟨hlook, hrest⟩ := Trace.changesNothing_cons.1 hnothing
    rw [ih hrest, after_of_look hlook]

/-! ## What stays sound -/

/-- IDs are not blank and lead to one resource, every subnet has its addresses and no load balancer
has failed. -/
structure Sound (held : Inventory) : Prop where
  vpcs : ∀ vpc ∈ held.vpcs, vpc.id ≠ ""
  subnets : ∀ subnet ∈ held.subnets, subnet.id ≠ "" ∧ subnet.cidr.isSome
  gateways : ∀ placed ∈ held.gateways, placed.gateway.id ≠ ""
  securityGroups : ∀ group ∈ held.securityGroups, group.id ≠ ""
  loadBalancers : ∀ balancer ∈ held.loadBalancers, balancer.id ≠ "" ∧ balancer.state ≠ .failed
  images : ∀ image ∈ held.images, image.id ≠ ""
  subnetIds : (held.subnets.map (·.id)).Nodup
  groupIds : (held.securityGroups.map (·.id)).Nodup

theorem Sound.after (h : held.Sound) (hadmits : held.Admits exchange)
    (hgrants : held.Grants site exchange) : (held.after exchange).Sound := by
  unfold Inventory.after
  split
  · exact { h with vpcs := List.forall_mem_cons.2 ⟨hadmits.2.1, h.vpcs⟩ }
  · exact { h with
      subnets := List.forall_mem_cons.2 ⟨⟨hadmits.2.1, hgrants⟩, h.subnets⟩
      subnetIds := List.nodup_cons.2 ⟨hadmits.2.2, h.subnetIds⟩ }
  · exact { h with gateways := List.forall_mem_cons.2 ⟨hadmits.2.1, h.gateways⟩ }
  · exact { h with
      securityGroups := List.forall_mem_cons.2 ⟨hadmits.2.1, h.securityGroups⟩
      groupIds := List.nodup_cons.2 ⟨hadmits.2.2, h.groupIds⟩ }
  · exact { h with }
  · exact { h with
      loadBalancers := List.forall_mem_cons.2 ⟨⟨hadmits.2.1, hgrants⟩, h.loadBalancers⟩ }
  · exact { h with images := List.forall_mem_cons.2 ⟨hadmits.2.1, h.images⟩ }
  · exact h

theorem Works.sound (h : Works site held t left) (hsound : held.Sound) : left.Sound := by
  induction h with
  | nil held => exact hsound
  | cons hadmits hgrants _ ih => exact ih (hsound.after hadmits hgrants)

theorem Works.distinct (h : Works site held t left) (hheld : held.Distinct)
    (hguarded : t.Guarded ∅) : left.Distinct :=
  h.follows.distinct hheld hguarded (by simp)

theorem Sound.truthful (h : held.Sound) (hadmits : held.Admits exchange)
    (hgrants : held.Grants site exchange) : exchange.Truthful := by
  unfold Exchange.Truthful
  split
  · exact ⟨hgrants.2, h.vpcs _ hgrants.1⟩
  · exact ⟨hadmits.2, h.vpcs _ hadmits.1⟩
  · exact ⟨hgrants.2, (h.subnets _ hgrants.1).1⟩
  · exact ⟨hadmits.2, (h.subnets _ hadmits.1).1⟩
  · obtain ⟨placed, hplaced, -, rfl⟩ := mem_gatewaysIn.1 hadmits.1
    exact ⟨hadmits.2, h.gateways placed hplaced⟩
  · exact ⟨hgrants.2, h.securityGroups _ hgrants.1⟩
  · exact ⟨hadmits.2, h.securityGroups _ hadmits.1⟩
  · exact ⟨hgrants.2, (h.loadBalancers _ hgrants.1).1⟩
  · exact ⟨hadmits.2, (h.loadBalancers _ hadmits.1).1⟩
  · exact ⟨hgrants.2, h.images _ hgrants.1⟩
  · exact ⟨hadmits.2, h.images _ hadmits.1⟩
  · trivial

theorem Works.truthful (h : Works site held t left) (hsound : held.Sound) : t.Truthful := by
  induction h with
  | nil held => simp
  | cons hadmits hgrants _ ih =>
    exact Trace.truthful_cons.2
      ⟨hsound.truthful hadmits hgrants, ih (hsound.after hadmits hgrants)⟩

/-! ## Between passes -/

def provisioned (held : Inventory) : Inventory :=
  { held with
    vpcs := held.vpcs.map ({ · with state := .available })
    subnets := held.subnets.map ({ · with state := .available })
    loadBalancers := held.loadBalancers.map ({ · with state := .active })
    images := held.images.map ({ · with state := .available }) }

/-- Nothing is still being provisioned. -/
structure Provisioned (held : Inventory) : Prop where
  vpcs : ∀ vpc ∈ held.vpcs, vpc.state = .available
  subnets : ∀ subnet ∈ held.subnets, subnet.state = .available
  loadBalancers : ∀ balancer ∈ held.loadBalancers, balancer.state = .active
  images : ∀ image ∈ held.images, image.state = .available

theorem provisioned_provisioned (held : Inventory) : held.provisioned.Provisioned where
  vpcs := List.forall_mem_map.2 fun _ _ => rfl
  subnets := List.forall_mem_map.2 fun _ _ => rfl
  loadBalancers := List.forall_mem_map.2 fun _ _ => rfl
  images := List.forall_mem_map.2 fun _ _ => rfl

theorem grows_provisioned (held : Inventory) : Grows held held.provisioned where
  vpcs _ hmem := ⟨_, List.mem_map_of_mem hmem, rfl⟩
  subnets _ hmem := ⟨_, List.mem_map_of_mem hmem, rfl, rfl, rfl⟩
  securityGroups := List.Subset.refl _
  loadBalancers _ hmem := ⟨_, List.mem_map_of_mem hmem, rfl, rfl⟩
  images _ hmem := ⟨_, List.mem_map_of_mem hmem, rfl⟩
  rules _ := List.Subset.refl _

theorem Distinct.provisioned (h : held.Distinct) : held.provisioned.Distinct := by
  have hshrinks : held.Shrinks held.provisioned := by
    constructor <;> simp [Inventory.provisioned, Function.comp_def]
  exact hshrinks.distinct h

theorem Sound.provisioned (h : held.Sound) : held.provisioned.Sound where
  vpcs := List.forall_mem_map.2 h.vpcs
  subnets := List.forall_mem_map.2 h.subnets
  gateways := h.gateways
  securityGroups := h.securityGroups
  loadBalancers := List.forall_mem_map.2 fun balancer hmem =>
    ⟨(h.loadBalancers balancer hmem).1, BalancerState.noConfusion⟩
  images := List.forall_mem_map.2 h.images
  subnetIds := by simpa [Inventory.provisioned, Function.comp_def] using h.subnetIds
  groupIds := h.groupIds

end Inventory

end VpcOperator.Cloud
