import VpcOperator.Proofs.Always
import VpcOperator.Proofs.Steady.Balancers
import VpcOperator.Proofs.Steady.Firewall

/-! # Quiet passes

Parts of passes that only ask and never write: whatever the account replies,
the status stays the very same.
-/

namespace VpcOperator.Pass

open Observed (Status)

/-- The status is left as it is. -/
def Quiet : Effect := fun s _ s' => s' = s

instance : Composes Quiet where
  nil _ := rfl
  append h₁ h₂ := h₂.trans h₁

variable {α : Type}

theorem Always.asks_only (target : String) (request : Cloud.Request) :
    Always Quiet (Pass.call target request) :=
  .call fun _ _ => rfl

theorem Sees.quiet {alike : Status → Status → Prop} {pass : Pass α} (h : Sees alike pass)
    (hrefl : ∀ s, alike s s) : Always Quiet pass :=
  fun s _ _ _ hrun => (h (hrefl s) hrun).1

theorem Ownership.mark_quiet (plan : Plan) (kind : Kind) (name crn : String) :
    Always Quiet (mark plan kind name crn) := by
  refine .mapFailure (.bind (.asks_only _ _) fun tags => ?_)
  split
  · exact .asks_only _ _
  · exact .bind (.asks_only _ _) fun _ => .asks_only _ _

theorem ResourceGroups.resolve_quiet (name : String) : Always Quiet (resolve name) := by
  refine .bind (.asks_only _ _) fun groups => ?_
  split
  · exact .pure _
  · exact .fail _

theorem Vpc.lookUp_quiet (id : Option String) : Always Quiet (lookUp id) := by
  cases id with
  | none => exact .pure _
  | some id => exact .asks_only _ _

theorem Image.findByName_quiet (name : String) : Always Quiet (findByName name) := by
  unfold findByName
  split
  · exact .pure _
  · exact .asks_only _ _

theorem Image.need_quiet (image : Desired.Image) (field : String) (value : Option String) :
    Always Quiet (need image field value) := by
  unfold need
  split
  · exact .pure _
  · exact .fail _

theorem Image.resourceGroupId_quiet (plan : Plan) (image : Desired.Image) :
    Always Quiet (resourceGroupId plan image) := by
  unfold resourceGroupId
  split
  · exact .pure _
  · split
    · exact .bind (ResourceGroups.resolve_quiet _) fun _ => .pure _
    · exact .bind .status fun _ => .ofExcept _

theorem Gateway.ofZone_quiet (plan : Plan) (zone : String) : Always Quiet (ofZone plan zone) := by
  refine .bind .status fun s => .bind (.ofExcept _) fun resourceGroupId =>
    .bind (.asks_only _ _) fun found => ?_
  split
  · exact .pure _
  · exact .bind .status fun _ => .bind (.ofExcept _) fun _ => .bind (.asks_only _ _) fun _ =>
      .bind (Ownership.mark_quiet plan _ _ _) fun _ => .pure _

theorem Subnets.generated_quiet (plan : Plan) : Always Quiet (generated plan) := by
  have hzonal : Always Quiet (zonal plan) := by
    refine .bind (.asks_only _ _) fun zones => ?_
    split
    · exact .fail _
    · exact .pure _
  unfold generated
  dsimp only
  split
  · exact hzonal
  · exact .pure _

/-! ## Rules -/

theorem SameIds.refl (s : Status) : SameIds s s :=
  ⟨rfl, rfl⟩

theorem Lookups.matchesRule_quiet (direction : Direction) (protocol : Protocol)
    (remote : Desired.Remote) (live : Cloud.Rule) (known : Lookups) :
    Always Quiet (known.matchesRule direction protocol remote live) :=
  (matchesRule_sees direction protocol remote live known).quiet .refl

theorem Lookups.prototype_quiet (remote : Desired.Remote) (known : Lookups) :
    Always Quiet (known.prototype remote) :=
  (prototype_sees remote known).quiet .refl

theorem Rules.isSatisfied_quiet (direction : Direction) (protocol : Protocol)
    (remote : Desired.Remote) (live : List Cloud.Rule) (known : Lookups) :
    Always Quiet (isSatisfied direction protocol remote live known) :=
  (isSatisfied_sees direction protocol remote live known).quiet .refl

theorem Rules.createRule_quiet (group : Identified) (direction : Direction) (protocol : Protocol)
    (remote : Desired.Remote) (known : Lookups) :
    Always Quiet (createRule group direction protocol remote known) :=
  .bind (Lookups.prototype_quiet remote known) fun _ => .bind (.asks_only _ _) fun _ => .pure _

theorem Rules.enforceRule_quiet (group : Identified) (rule : Desired.Rule) (known : Lookups) :
    Always Quiet (enforceRule group rule known) :=
  .bind (.asks_only _ _) fun live =>
    (enforceRemotes_sees group rule.direction rule.body.protocol live _ known).quiet .refl

theorem Rules.enforceRules_quiet (group : Identified) (rules : List Desired.Rule)
    (known : Lookups) : Always Quiet (enforceRules group rules known) :=
  (enforceRules_sees group rules known).quiet .refl

theorem Rules.enforceAll_quiet (groups : List Identified) (known : Lookups) :
    Always Quiet (enforceAll groups known) :=
  (enforceAll_sees groups known).quiet .refl

/-! ## Load balancers -/

theorem LoadBalancers.securityGroupIds_quiet (balancer : Desired.LoadBalancer)
    (references : List Desired.Reference) : Always Quiet (securityGroupIds balancer references) := by
  have hone : ∀ reference, Always Quiet (securityGroupId balancer reference) := by
    intro reference
    unfold securityGroupId
    split
    · exact .pure _
    · refine .bind .status fun s => ?_
      split
      · exact .pure _
      · refine .bind (.asks_only _ _) fun found => ?_
        split
        · exact .pure _
        · exact .fail _
  induction references with
  | nil => exact .pure _
  | cons reference rest ih => exact .bind (hone reference) fun _ => .bind ih fun _ => .pure _

theorem LoadBalancers.find_quiet (balancer : Desired.LoadBalancer) :
    Always Quiet (find balancer) :=
  (find_sees balancer).quiet fun _ => rfl

end VpcOperator.Pass
