import VpcOperator.Proofs.Account.Guarded
import VpcOperator.Proofs.Account.Inventory

/-! # Names stay distinct

Guarded exchanges keep names distinct on any account that answers look-ups by
name from what it holds. So passes never make a second resource with a name,
whatever status they start from and wherever they are broken off.
-/

namespace VpcOperator.Cloud.Inventory

open Observed (Status)

variable {held left : Inventory} {exchange : Exchange} {named : Named} {known : Set Named}

def Holds (held : Inventory) : Named → Prop
  | .vpc name => ∃ vpc ∈ held.vpcs, vpc.name = name
  | .subnet name => ∃ subnet ∈ held.subnets, subnet.name = name
  | .gateway name resourceGroupId =>
    ∃ placed ∈ held.gateways, placed.gateway.name = name ∧ placed.resourceGroupId = resourceGroupId
  | .securityGroup name => ∃ group ∈ held.securityGroups, group.name = name
  | .loadBalancer name => ∃ balancer ∈ held.loadBalancers, balancer.name = name

/-! ## Resources that go -/

theorem Shrinks.holds (h : held.Shrinks left) (hleft : left.Holds named) : held.Holds named := by
  have hmem : ∀ {α : Type} {few many : List α} {f : α → String × String} {name : String},
      (few.map f).Sublist (many.map f) → (∃ item ∈ few, (f item).2 = name) →
        ∃ item ∈ many, (f item).2 = name := by
    rintro α few many f name hsub ⟨item, hitem, rfl⟩
    obtain ⟨other, hother, heq⟩ := List.mem_map.1 (hsub.subset (List.mem_map_of_mem hitem))
    exact ⟨other, hother, by rw [heq]⟩
  cases named with
  | vpc name => exact hmem h.vpcs hleft
  | subnet name => exact hmem h.subnets hleft
  | gateway name resourceGroupId =>
    obtain ⟨placed, hplaced, rfl, rfl⟩ := hleft
    obtain ⟨other, hother, heq⟩ := List.mem_map.1 (h.gateways.subset (List.mem_map_of_mem hplaced))
    simp only [Prod.mk.injEq] at heq
    exact ⟨other, hother, heq.2⟩
  | securityGroup name => exact hmem h.securityGroups hleft
  | loadBalancer name => exact hmem h.loadBalancers hleft

theorem Shrinks.distinct (h : held.Shrinks left) (hheld : held.Distinct) : left.Distinct := by
  have hnames : ∀ {α : Type} {few many : List α} {id name : α → String},
      (few.map fun item => (id item, name item)).Sublist (many.map fun item => (id item, name item)) →
        (many.map name).Nodup → (few.map name).Nodup := by
    intro α few many id name hsub hmany
    have := hsub.map Prod.snd
    rw [List.map_map, List.map_map] at this
    exact this.nodup hmany
  refine ⟨hnames h.vpcs hheld.vpcs, hnames h.subnets hheld.subnets, ?_,
    hnames h.securityGroups hheld.securityGroups, hnames h.loadBalancers hheld.loadBalancers⟩
  have := h.gateways.map Prod.snd
  rw [List.map_map, List.map_map] at this
  exact this.nodup hheld.gateways

/-! ## One exchange -/

theorem mem_gatewaysIn {gateway : Gateway} {resourceGroupId : String} :
    gateway ∈ held.gatewaysIn resourceGroupId ↔
      ∃ placed ∈ held.gateways, placed.resourceGroupId = resourceGroupId ∧
        placed.gateway = gateway := by
  simp [gatewaysIn, and_assoc]

theorem exists_of_mem_cons {α : Type} {items : List α} {item : α} {name : α → String}
    {made wanted : String} (hname : name item = made)
    (h : ∃ other ∈ item :: items, name other = wanted) :
    (∃ other ∈ items, name other = wanted) ∨ made = wanted := by
  obtain ⟨other, hmem, rfl⟩ := h
  rcases List.mem_cons.1 hmem with rfl | hmem
  · exact .inr hname.symm
  · exact .inl ⟨other, hmem, rfl⟩

theorem cons_nodup {α : Type} {items : List α} {item : α} {name : α → String} {wanted : String}
    (hname : name item = wanted) (hnew : ¬ ∃ other ∈ items, name other = wanted)
    (hitems : (items.map name).Nodup) : ((item :: items).map name).Nodup := by
  refine List.nodup_cons.2 ⟨fun hmem => hnew ?_, hitems⟩
  obtain ⟨other, hother, heq⟩ := List.mem_map.1 hmem
  exact ⟨other, hother, heq.trans hname⟩

theorem Admits.not_holds (h : held.Admits exchange) (hmissing : exchange.missing? = some named) :
    ¬ held.Holds named := by
  unfold Exchange.missing? at hmissing
  split at hmissing <;> cases hmissing
  · rintro ⟨vpc, hmem, hname⟩
    exact h vpc hmem hname
  · rintro ⟨subnet, hmem, hname⟩
    exact h subnet hmem hname
  · rintro ⟨placed, hmem, hname, hgroup⟩
    exact h placed.gateway (mem_gatewaysIn.2 ⟨placed, hmem, hgroup, rfl⟩) hname
  · rintro ⟨group, hmem, hname⟩
    exact h group hmem hname
  · rintro ⟨balancer, hmem, hname⟩
    exact h balancer hmem hname

theorem Admits.after_holds (h : held.Admits exchange) (hafter : (held.after exchange).Holds named) :
    held.Holds named ∨ exchange.request.makes? = some named := by
  unfold after at hafter
  split at hafter
  · cases named with
    | vpc name => exact (exists_of_mem_cons h.1 hafter).imp_right (congrArg (some ∘ Named.vpc))
    | _ => exact .inl hafter
  · cases named with
    | subnet name =>
      exact (exists_of_mem_cons h.1 hafter).imp_right (congrArg (some ∘ Named.subnet))
    | _ => exact .inl hafter
  · cases named with
    | gateway name resourceGroupId =>
      obtain ⟨placed, hmem, rfl, rfl⟩ := hafter
      rcases List.mem_cons.1 hmem with rfl | hmem
      · exact .inr (congrArg (some ∘ (Named.gateway · _)) h.1.symm)
      · exact .inl ⟨placed, hmem, rfl, rfl⟩
    | _ => exact .inl hafter
  · cases named with
    | securityGroup name =>
      exact (exists_of_mem_cons h.1 hafter).imp_right (congrArg (some ∘ Named.securityGroup))
    | _ => exact .inl hafter
  · cases named <;> exact .inl hafter
  · cases named with
    | loadBalancer name =>
      exact (exists_of_mem_cons h.1 hafter).imp_right (congrArg (some ∘ Named.loadBalancer))
    | _ => exact .inl hafter
  · cases named <;> exact .inl hafter
  · exact .inl hafter

theorem Admits.after_distinct (h : held.Admits exchange) (hheld : held.Distinct)
    (hmakes : ∀ named, exchange.request.makes? = some named → ¬ held.Holds named) :
    (held.after exchange).Distinct := by
  unfold after
  split
  · exact { hheld with vpcs := cons_nodup h.1 (hmakes _ rfl) hheld.vpcs }
  · exact { hheld with subnets := cons_nodup h.1 (hmakes _ rfl) hheld.subnets }
  · refine { hheld with
      gateways := List.nodup_cons.2 ⟨fun hmem => hmakes _ rfl ?_, hheld.gateways⟩ }
    obtain ⟨placed, hplaced, heq⟩ := List.mem_map.1 hmem
    simp only [Prod.mk.injEq] at heq
    exact ⟨placed, hplaced, heq.1.trans h.1, heq.2⟩
  · exact { hheld with securityGroups := cons_nodup h.1 (hmakes _ rfl) hheld.securityGroups }
  · exact { hheld with }
  · exact { hheld with loadBalancers := cons_nodup h.1 (hmakes _ rfl) hheld.loadBalancers }
  · exact { hheld with }
  · exact hheld

/-! ## Sequences of exchanges -/

theorem Follows.distinct {t : Trace} (h : Follows held t left) (hheld : held.Distinct)
    (hguarded : t.Guarded known) (hknown : ∀ named ∈ known, ¬ held.Holds named) : left.Distinct := by
  induction h generalizing known with
  | nil held => exact hheld
  | cons hshrinks hadmits hrest ih =>
    have hleft := hshrinks.distinct hheld
    have hgone : ∀ named ∈ known, ¬ Holds _ named := fun named hmem hholds =>
      hknown named hmem (hshrinks.holds hholds)
    refine ih (hadmits.after_distinct hleft fun named hmakes => ?_) hguarded.2 ?_
    · exact hgone named (hguarded.1 named hmakes)
    · rintro named ⟨hmem, hmakes⟩ hholds
      rcases hadmits.after_holds hholds with hholds | hmade
      · rcases hmem with hmem | hmissing
        · exact hgone named hmem hholds
        · exact hadmits.not_holds hmissing hholds
      · exact hmakes hmade

/-- Part of a run leaves names distinct, too: a run can be broken off after any exchange. -/
theorem Follows.distinct_of_runs {plan : Plan} {s s' : Status} {made rest : Trace}
    {r : Except Failure Outcome} (h : Follows held made left) (hheld : held.Distinct)
    (hrun : (Pass.standard plan).Runs s (made ++ rest) r s') : left.Distinct :=
  h.distinct hheld (Pass.standard_guarded plan hrun).left (by simp)

/-! ## Passes one after another -/

/-- What can be held between passes: resources go or change their state, and passes run, each for
any plan and from any status. -/
inductive Between (start : Inventory) : Inventory → Prop
  | start : Between start start
  | shrinks {held left : Inventory} : Between start held → held.Shrinks left → Between start left
  | pass {held left : Inventory} (plan : Plan) {s s' : Status} {t : Trace}
      {r : Except Failure Outcome} :
      Between start held → (Pass.standard plan).Runs s t r s' → Follows held t left →
      Between start left

theorem Between.distinct {start : Inventory} (h : Between start held) (hstart : start.Distinct) :
    held.Distinct := by
  induction h with
  | start => exact hstart
  | shrinks _ hshrinks ih => exact hshrinks.distinct ih
  | @pass held left plan s s' t r _ hrun hfollows ih =>
    rw [← List.append_nil t] at hrun
    exact hfollows.distinct_of_runs ih hrun

/-- After every exchange `made` of every pass, names are still distinct. -/
theorem names_stay_distinct {start before now : Inventory} (hstart : start.Distinct)
    (hbefore : Between start before) {plan : Plan} {s s' : Status} {made rest : Trace}
    {r : Except Failure Outcome} (hrun : (Pass.standard plan).Runs s (made ++ rest) r s')
    (hnow : Follows before made now) : now.Distinct :=
  hnow.distinct_of_runs (hbefore.distinct hstart) hrun

/-- In an empty account a VPC is made before the first pass is broken off. -/
theorem names_stay_distinct_of_first_vpc :
    let plan : Plan := .bare "a"
    let vpc : Vpc := { id := "1", name := plan.vpcName, crn := "crn", state := .pending }
    let made : Trace :=
      [⟨.findVpc plan.vpcName, .answer none⟩,
        ⟨.createVpc { name := plan.vpcName, resourceGroupId := "g", addressPrefixes := "auto" },
          .answer vpc⟩]
    ∃ r s', (Pass.standard plan).Runs (Status.empty.putResourceGroup ⟨"g", none⟩)
        (made ++ [⟨.listTags, .aborted⟩]) r s' ∧
      ({ empty with vpcs := [vpc] } : Inventory).Distinct := by
  intro plan vpc made
  have hrun : (Pass.standard plan).Runs (Status.empty.putResourceGroup ⟨"g", none⟩)
      (made ++ [⟨.listTags, .aborted⟩]) _ _ := .ask (.ask (.ask (.done _)))
  have hmade : Follows empty made { empty with vpcs := [vpc] } :=
    .cons (.refl _) (by simp [Admits, Finds, empty])
      (.cons (.refl _) (by simp [Admits, Fresh, empty, after, vpc]) (.nil _))
  exact ⟨_, _, hrun, names_stay_distinct (by constructor <;> simp [empty]) .start hrun hmade⟩

end VpcOperator.Cloud.Inventory
