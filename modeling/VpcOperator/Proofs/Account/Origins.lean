import Mathlib.Data.List.Nodup
import VpcOperator.Proofs.Account.Inventory
import VpcOperator.Proofs.Ready.Answers

/-! # Where resources come from

In an account that was empty at first, whatever is found by name was created
under that name, and an ID leads to one creation only.
-/

namespace VpcOperator

/-- A name of a VPC, a subnet or a gateway, and the ID of what has this name. -/
structure Cloud.Tie where
  kind : Kind
  name : String
  id : String
  deriving DecidableEq

namespace Exchange

/-- What was created: the name that was asked for, and the ID that was given to it. -/
def made? : Exchange → Option Cloud.Tie
  | ⟨.createVpc prototype, .answer vpc⟩ => some ⟨.vpc, prototype.name, vpc.id⟩
  | ⟨.createSubnet prototype, .answer subnet⟩ => some ⟨.subnet, prototype.name, subnet.id⟩
  | ⟨.createGateway prototype, .answer gateway⟩ =>
    some ⟨.publicGateway, prototype.name, gateway.id⟩
  | _ => none

def found? : Exchange → Option Cloud.Tie
  | ⟨.findVpc name, .answer (some vpc)⟩ => some ⟨.vpc, name, vpc.id⟩
  | ⟨.findSubnet name, .answer (some subnet)⟩ => some ⟨.subnet, name, subnet.id⟩
  | ⟨.findGateway name _, .answer (some gateway)⟩ => some ⟨.publicGateway, name, gateway.id⟩
  | _ => none

end Exchange

variable {exchange : Exchange} {t : Trace} {tie : Cloud.Tie}

/-! ## What an account holds -/

namespace Cloud.Inventory

variable {held left last : Inventory}

def Bears (held : Inventory) (tie : Tie) : Prop :=
  match tie.kind with
  | .vpc => (tie.id, tie.name) ∈ held.vpcs.map fun vpc => (vpc.id, vpc.name)
  | .subnet => (tie.id, tie.name) ∈ held.subnets.map fun subnet => (subnet.id, subnet.name)
  | .publicGateway =>
    ∃ resourceGroupId, (tie.id, tie.name, resourceGroupId) ∈ held.gateways.map fun placed =>
      (placed.gateway.id, placed.gateway.name, placed.resourceGroupId)
  | _ => False

theorem not_bears_empty (tie : Tie) : ¬ empty.Bears tie := by
  obtain ⟨kind, name, id⟩ := tie
  cases kind <;> simp [Bears, empty]

theorem Shrinks.bears (h : held.Shrinks left) (hleft : left.Bears tie) : held.Bears tie := by
  obtain ⟨kind, name, id⟩ := tie
  cases kind with
  | vpc => exact h.vpcs.subset hleft
  | subnet => exact h.subnets.subset hleft
  | publicGateway => exact hleft.imp fun _ hmem => h.gateways.subset hmem
  | _ => exact hleft

theorem Admits.bears_of_found (h : held.Admits exchange) (hfound : exchange.found? = some tie) :
    held.Bears tie := by
  unfold Exchange.found? at hfound
  split at hfound <;> cases hfound
  · rename_i name vpc
    obtain ⟨hmem, rfl⟩ : vpc ∈ held.vpcs ∧ vpc.name = name := h
    exact List.mem_map_of_mem hmem
  · rename_i name subnet
    obtain ⟨hmem, rfl⟩ : subnet ∈ held.subnets ∧ subnet.name = name := h
    exact List.mem_map_of_mem hmem
  · rename_i name resourceGroupId gateway
    obtain ⟨hmem, rfl⟩ : gateway ∈ held.gatewaysIn resourceGroupId ∧ gateway.name = name := h
    obtain ⟨placed, hplaced, rfl⟩ := List.mem_map.1 hmem
    exact ⟨_, List.mem_map_of_mem (List.mem_filter.1 hplaced).1⟩

theorem Admits.after_bears (h : held.Admits exchange) (hafter : (held.after exchange).Bears tie) :
    held.Bears tie ∨ exchange.made? = some tie := by
  obtain ⟨kind, name, id⟩ := tie
  unfold after at hafter
  split at hafter
  · cases kind with
    | vpc =>
      rcases List.mem_cons.1 hafter with hnew | hold
      · cases hnew
        exact .inr (congrArg (some <| Tie.mk .vpc · _) h.1.symm)
      · exact .inl hold
    | _ => exact .inl hafter
  · cases kind with
    | subnet =>
      rcases List.mem_cons.1 hafter with hnew | hold
      · cases hnew
        exact .inr (congrArg (some <| Tie.mk .subnet · _) h.1.symm)
      · exact .inl hold
    | _ => exact .inl hafter
  · cases kind with
    | publicGateway =>
      obtain ⟨resourceGroupId, hmem⟩ := hafter
      rcases List.mem_cons.1 hmem with hnew | hold
      · cases hnew
        exact .inr (congrArg (some <| Tie.mk .publicGateway · _) h.1.symm)
      · exact .inl ⟨resourceGroupId, hold⟩
    | _ => exact .inl hafter
  all_goals cases kind <;> exact .inl hafter

/-- What is found by name was held from the start, or else it was created on the way. -/
theorem Follows.bears_or_made (h : Follows held t last) (hmem : exchange ∈ t)
    (hfound : exchange.found? = some tie) :
    held.Bears tie ∨ ∃ creation ∈ t, creation.made? = some tie := by
  induction h with
  | nil => cases hmem
  | cons hshrinks hadmits _ ih =>
    rcases List.mem_cons.1 hmem with rfl | hmem
    · exact .inl (hshrinks.bears (hadmits.bears_of_found hfound))
    · rcases ih hmem with hbears | ⟨creation, hcreation, hmade⟩
      · rcases hadmits.after_bears hbears with hbears | hmade
        · exact .inl (hshrinks.bears hbears)
        · exact .inr ⟨_, List.mem_cons_self, hmade⟩
      · exact .inr ⟨creation, List.mem_cons_of_mem _ hcreation, hmade⟩

/-- The exchanges of an account in which nothing goes away. -/
def Steady : Inventory → Trace → Prop
  | _, [] => True
  | held, exchange :: rest => held.Admits exchange ∧ (held.after exchange).Steady rest

theorem Steady.follows (h : held.Steady t) : ∃ last, held.Follows t last := by
  induction t generalizing held with
  | nil => exact ⟨held, .nil held⟩
  | cons exchange rest ih =>
    obtain ⟨last, hrest⟩ := ih h.2
    exact ⟨last, .cons (.refl held) h.1 hrest⟩

end Cloud.Inventory

/-! ## The exchanges with an account -/

namespace Trace

def creations (t : Trace) : List Cloud.Tie :=
  t.filterMap Exchange.made?

theorem mem_creations : tie ∈ t.creations ↔ ∃ exchange ∈ t, exchange.made? = some tie :=
  List.mem_filterMap

/-- All exchanges with an account that was empty at first. Look-ups go by what it holds, resources
can go away, and no ID is given out twice. -/
structure FromNothing (t : Trace) : Prop where
  account : ∃ last, Cloud.Inventory.empty.Follows t last
  truthful : t.Truthful
  ids : (t.creations.map fun tie => (tie.kind, tie.id)).Nodup

namespace FromNothing

theorem created_of_found (h : t.FromNothing) (hmem : exchange ∈ t)
    (hfound : exchange.found? = some tie) : tie ∈ t.creations := by
  obtain ⟨last, hfollows⟩ := h.account
  exact mem_creations.2 ((hfollows.bears_or_made hmem hfound).resolve_left
    (Cloud.Inventory.not_bears_empty tie))

/-- The ID tells under which name a resource was created. -/
theorem name_unique {kind : Kind} {name other id : String} (h : t.FromNothing)
    (hone : ⟨kind, name, id⟩ ∈ t.creations) (hother : ⟨kind, other, id⟩ ∈ t.creations) :
    name = other :=
  congrArg Cloud.Tie.name (List.inj_on_of_nodup_map h.ids hone hother rfl)

end FromNothing

end Trace

end VpcOperator
