import VpcOperator.Proofs.Always

/-! # Effects of the steps

Which parts of the status each step writes, and about which kinds of resources
it asks the account. Most frames below are read off from here.
-/

namespace VpcOperator.Pass

open Observed (Part Status)
open Desired (Role)

/-! ## Tags and resource groups -/

theorem Ownership.attach_does (tag crn : String) :
    Always (Does [] [.tag] [.tag]) (attach tag crn) := by
  refine .bind (.asks (by simp)) fun tags => ?_
  split
  · exact .asks (by simp)
  · exact .bind (.asks (by simp)) fun _ => .asks (by simp)

theorem Ownership.mark_does (plan : Plan) (kind : Kind) (name crn : String) :
    Always (Does [] [.tag] [.tag]) (mark plan kind name crn) :=
  .mapFailure (attach_does _ _)

theorem ResourceGroups.resolve_does (name : String) :
    Always (Does [] [.resourceGroup] []) (resolve name) := by
  refine .bind (.asks (by simp)) fun groups => ?_
  split
  · exact .pure _
  · exact .fail _

/-- Just one group was listed. -/
theorem ResourceGroups.resolve_answered {name : String} {reference : Observed.GroupReference}
    {s s' : Status} {t : Trace} (hrun : (resolve name).Runs s t (.ok reference) s') :
    ∃ group, t = [⟨.listResourceGroups name, .answer [group]⟩] ∧
      reference = { id := group.id, name := some group.name } := by
  obtain ⟨groups, rest, rfl, hrest⟩ := runs_call_bind_ok.1 hrun
  split at hrest
  · rename_i group
    obtain ⟨rfl, rfl, -⟩ := runs_pure_ok.1 hrest
    exact ⟨group, rfl, rfl⟩
  · simp at hrest

theorem ResourceGroups.settleCluster_does (plan : Plan) :
    Always (Does [.resourceGroup] [.resourceGroup] []) (settleCluster plan) := by
  refine .bind .status fun s => ?_
  split
  · exact .pure _
  · refine .bind ((resolve_does _).wider (by simp) (by simp) (by simp)) fun reference =>
      .update fun s => ?_
    exact ⟨Status.writes_putResourceGroup s reference, by simp⟩

theorem ResourceGroups.settleNetwork_does (plan : Plan) :
    Always (Does [.networkGroup] [.resourceGroup] []) (settleNetwork plan) := by
  unfold settleNetwork
  split
  · exact .pure _
  · refine .bind .status fun s => ?_
    split
    · exact .pure _
    · refine .bind ?_ fun reference => .update fun s => ?_
      · unfold networkReference
        split
        · split
          · exact .pure _
          · exact (resolve_does _).wider (by simp) (by simp) (by simp)
        · exact (resolve_does _).wider (by simp) (by simp) (by simp)
      · exact ⟨Status.writes_putNetworkGroup s reference, by simp⟩

theorem ResourceGroups.step_does (plan : Plan) :
    Always (Does [.resourceGroup, .networkGroup] [.resourceGroup] []) (step plan) :=
  .bind ((settleCluster_does plan).wider (by simp) (by simp) (by simp)) fun _ =>
    .bind ((settleNetwork_does plan).wider (by simp) (by simp) (by simp)) fun _ => .pure _

/-! ## The VPC and the image -/

theorem Vpc.observe_does (vpc : Cloud.Vpc) :
    Always (Does [.shelf .vpc] [.vpc, .tag] [.vpc, .tag]) (observe vpc) :=
  .bind (.puts (by simp) _ _) fun _ => .pure _

theorem Vpc.create_does (plan : Plan) :
    Always (Does [.shelf .vpc] [.vpc, .tag] [.vpc, .tag]) (create plan) :=
  .bind .status fun _ => .bind (.ofExcept _) fun _ => .bind (.asks (by simp)) fun vpc =>
    .bind (.puts (by simp) _ _) fun _ =>
      .bind ((Ownership.mark_does plan _ _ _).wider (by simp) (by simp) (by simp)) fun _ => .pure _

theorem Vpc.adoptOrCreate_does (plan : Plan) :
    Always (Does [.shelf .vpc] [.vpc, .tag] [.vpc, .tag]) (adoptOrCreate plan) := by
  refine .bind (.asks (by simp)) fun found => ?_
  split
  · exact .bind (.puts (by simp) _ _) fun _ => .pure _
  · exact create_does plan

theorem Vpc.lookUp_does (id : Option String) : Always (Does [] [.vpc] []) (lookUp id) := by
  unfold lookUp
  split
  · exact .pure _
  · exact .asks (by simp)

theorem Vpc.step_does (plan : Plan) :
    Always (Does [.shelf .vpc] [.vpc, .tag] [.vpc, .tag]) (step plan) := by
  refine .bind .status fun s =>
    .bind ((lookUp_does _).wider (by simp) (by simp) (by simp)) fun found => ?_
  split
  · exact observe_does _
  · split
    · exact adoptOrCreate_does plan
    · refine .bind (.asks (by simp)) fun found => ?_
      split
      · exact observe_does _
      · exact .fail _

theorem Image.observe_does (image : Cloud.Image) :
    Always (Does [.shelf .image] [.customImage, .resourceGroup, .tag] [.customImage, .tag])
      (observe image) :=
  .bind (.puts (by simp) _ _) fun _ => .pure _

theorem Image.need_does (image : Desired.Image) (field : String) (value : Option String) :
    Always (Does [] [] []) (need image field value) := by
  unfold need
  split
  · exact .pure _
  · exact .fail _

theorem Image.resourceGroupId_does (plan : Plan) (image : Desired.Image) :
    Always (Does [] [.resourceGroup] []) (resourceGroupId plan image) := by
  unfold resourceGroupId
  split
  · exact .pure _
  · split
    · exact .bind (ResourceGroups.resolve_does _) fun _ => .pure _
    · exact .bind .status fun _ => .ofExcept _

theorem Image.create_does (plan : Plan) (image : Desired.Image) :
    Always (Does [.shelf .image] [.customImage, .resourceGroup, .tag] [.customImage, .tag])
      (create plan image) := by
  refine .bind ((need_does _ _ _).wider (by simp) (by simp) (by simp)) fun _ =>
    .bind ((need_does _ _ _).wider (by simp) (by simp) (by simp)) fun _ =>
    .bind ((need_does _ _ _).wider (by simp) (by simp) (by simp)) fun _ =>
    .bind ((need_does _ _ _).wider (by simp) (by simp) (by simp)) fun _ =>
    .bind ((resourceGroupId_does plan image).wider (by simp) (by simp) (by simp)) fun _ =>
    .bind (.asks (by simp)) fun live => .bind (.puts (by simp) _ _) fun _ =>
    .bind ((Ownership.mark_does plan _ _ _).wider (by simp) (by simp) (by simp)) fun _ => .pure _

theorem Image.findByName_does (name : String) :
    Always (Does [] [.customImage] []) (findByName name) := by
  unfold findByName
  split
  · exact .pure _
  · exact .asks (by simp)

theorem Image.findOrCreate_does (plan : Plan) (name : String) :
    Always (Does [.shelf .image] [.customImage, .resourceGroup, .tag] [.customImage, .tag])
      (findOrCreate plan name) := by
  refine .bind ((findByName_does name).wider (by simp) (by simp) (by simp)) fun found => ?_
  split
  · exact observe_does _
  · split
    · exact create_does plan _
    · exact .fail _

theorem Image.step_does (plan : Plan) :
    Always (Does [.shelf .image] [.customImage, .resourceGroup, .tag] [.customImage, .tag])
      (step plan) := by
  refine .bind .status fun s => ?_
  dsimp only
  split
  · exact .pure _
  · split
    · exact findOrCreate_does plan _
    · split
      · exact .pure _
      · refine .bind (.asks (by simp)) fun found => ?_
        split
        · exact observe_does _
        · exact .fail _

/-! ## Subnets and their gateways -/

theorem Gateway.create_does (plan : Plan) (zone resourceGroupId : String) :
    Always (Does [] [.publicGateway, .tag] [.publicGateway, .tag])
      (create plan zone resourceGroupId) :=
  .bind .status fun _ => .bind (.ofExcept _) fun _ => .bind (.asks (by simp)) fun _ =>
    .bind ((Ownership.mark_does plan _ _ _).wider (by simp) (by simp) (by simp)) fun _ => .pure _

theorem Gateway.ofZone_does (plan : Plan) (zone : String) :
    Always (Does [] [.publicGateway, .tag] [.publicGateway, .tag]) (ofZone plan zone) := by
  refine .bind .status fun _ => .bind (.ofExcept _) fun _ => .bind (.asks (by simp)) ?_
  intro found
  split
  · exact .pure _
  · exact create_does plan _ _

theorem Subnets.observe_does (role : Role) (subnet : Desired.Subnet) (live : Cloud.Subnet) :
    Always (Does [.shelf (.subnets role)] [] []) (observe role subnet live) :=
  .bind (.puts (by simp) _ _) fun _ => .pure _

theorem Subnets.create_does (plan : Plan) (role : Role) (name zone : String) :
    Always
      (Does [.shelf (.subnets role)] [.subnet, .publicGateway, .tag]
        [.subnet, .publicGateway, .tag])
      (create plan role name zone) :=
  .bind .status fun _ => .bind (.ofExcept _) fun _ =>
    .bind ((Gateway.ofZone_does plan zone).wider (by simp) (by simp) (by simp)) fun _ =>
    .bind .status fun _ => .bind (.ofExcept _) fun _ => .bind (.asks (by simp)) fun _ =>
    .bind (.puts (by simp) _ _) fun _ =>
    .bind ((Ownership.mark_does plan _ _ _).wider (by simp) (by simp) (by simp)) fun _ => .pure _

theorem Subnets.findOrCreate_does (plan : Plan) (role : Role) (subnet : Desired.Subnet) :
    Always
      (Does [.shelf (.subnets role)] [.subnet, .publicGateway, .tag]
        [.subnet, .publicGateway, .tag])
      (findOrCreate plan role subnet) := by
  unfold findOrCreate
  split
  · exact .fail _
  · refine .bind (.asks (by simp)) fun found => ?_
    split
    · exact (observe_does role _ _).wider (by simp) (by simp) (by simp)
    · split
      · exact .fail _
      · exact create_does plan role _ _

theorem Subnets.resolve_does (plan : Plan) (role : Role) (subnet : Desired.Subnet) :
    Always
      (Does [.shelf (.subnets role)] [.subnet, .publicGateway, .tag]
        [.subnet, .publicGateway, .tag])
      (resolve plan role subnet) := by
  unfold resolve
  split
  · exact findOrCreate_does plan role subnet
  · refine .bind (.asks (by simp)) fun found => ?_
    split
    · exact (observe_does role _ _).wider (by simp) (by simp) (by simp)
    · exact .fail _

theorem Subnets.settle_does (plan : Plan) (role : Role) (subnet : Desired.Subnet) :
    Always
      (Does [.shelf (.subnets role)] [.subnet, .publicGateway, .tag]
        [.subnet, .publicGateway, .tag])
      (settle plan role subnet) := by
  refine .bind .status fun s => ?_
  split
  · exact resolve_does plan role subnet
  · split
    · exact .pure _
    · split
      · exact resolve_does plan role subnet
      · refine .bind (.asks (by simp)) fun found => ?_
        split
        · exact (observe_does role _ _).wider (by simp) (by simp) (by simp)
        · exact resolve_does plan role subnet

theorem Subnets.settleAll_does (plan : Plan) (role : Role) (subnets : List Desired.Subnet) :
    Always
      (Does [.shelf (.subnets role)] [.subnet, .publicGateway, .tag]
        [.subnet, .publicGateway, .tag])
      (settleAll plan role subnets) := by
  induction subnets with
  | nil => exact .pure _
  | cons subnet rest ih =>
    exact .bind (settle_does plan role subnet) fun _ => .bind ih fun _ => .pure _

theorem Subnets.generated_does (plan : Plan) : Always (Does [] [.zone] []) (generated plan) := by
  have hzonal : Always (Does [] [.zone] []) (zonal plan) := by
    refine .bind (.asks (by simp)) fun zones => ?_
    split
    · exact .fail _
    · exact .pure _
  unfold generated
  dsimp only
  split
  · exact hzonal
  · exact .pure _

theorem Subnets.step_does (plan : Plan) :
    Always (Does [.shelf (.subnets .controlPlane), .shelf (.subnets .worker)]
      [.zone, .subnet, .publicGateway, .tag] [.subnet, .publicGateway, .tag]) (step plan) :=
  .bind ((generated_does plan).wider (by simp) (by simp) (by simp)) fun _ =>
    .bind (.attempt ((settleAll_does plan _ _).wider (by simp) (by simp) (by simp))) fun _ =>
    .bind (.attempt ((settleAll_does plan _ _).wider (by simp) (by simp) (by simp))) fun _ =>
    .bind (.ofExcept _) fun _ => .bind (.ofExcept _) fun _ => .pure _

/-! ## Security groups and their rules -/

theorem Lookups.cidr_does (name : String) (known : Lookups) :
    Always (Does [] [.subnet] []) (cidr name known) := by
  unfold cidr
  split
  · exact .pure _
  · refine .bind (.bind .status fun s => ?_) fun found => ?_
    · split <;> exact .asks (by simp)
    · split
      · exact .pure _
      · exact .fail _

theorem Lookups.group_does (name : String) (known : Lookups) :
    Always (Does [] [.securityGroup] []) (group name known) := by
  unfold group
  split
  · exact .pure _
  · refine .bind (.bind .status fun s => ?_) fun found => ?_
    · split <;> exact .asks (by simp)
    · split
      · exact .pure _
      · exact .fail _

theorem Lookups.matchesRemote_does (wanted : Desired.Remote) (live : Cloud.Remote)
    (known : Lookups) :
    Always (Does [] [.subnet, .securityGroup] []) (matchesRemote wanted live known) := by
  unfold matchesRemote
  split
  · exact .pure _
  · exact .pure _
  · exact .pure _
  · exact .bind ((cidr_does _ _).wider (by simp) (by simp) (by simp)) fun _ => .pure _
  · refine .bind .status fun s => ?_
    split
    · exact .pure _
    · split
      · exact .pure _
      · exact .bind ((group_does _ _).wider (by simp) (by simp) (by simp)) fun _ => .pure _
  · exact .pure _

theorem Lookups.matchesRule_does (direction : Direction) (protocol : Protocol)
    (remote : Desired.Remote) (live : Cloud.Rule) (known : Lookups) :
    Always (Does [] [.subnet, .securityGroup] [])
      (known.matchesRule direction protocol remote live) := by
  unfold matchesRule
  split
  · exact matchesRemote_does _ _ _
  · exact .pure _

theorem Lookups.prototype_does (remote : Desired.Remote) (known : Lookups) :
    Always (Does [] [.subnet, .securityGroup] []) (known.prototype remote) := by
  unfold prototype
  split
  · exact .pure _
  · exact .pure _
  · exact .bind ((cidr_does _ _).wider (by simp) (by simp) (by simp)) fun _ => .pure _
  · exact .bind ((group_does _ _).wider (by simp) (by simp) (by simp)) fun _ => .pure _

theorem Rules.isSatisfied_does (direction : Direction) (protocol : Protocol)
    (remote : Desired.Remote) (live : List Cloud.Rule) (known : Lookups) :
    Always (Does [] [.subnet, .securityGroup] [])
      (isSatisfied direction protocol remote live known) := by
  induction live generalizing known with
  | nil => exact .pure _
  | cons rule rest ih =>
    refine .bind (Lookups.matchesRule_does _ _ _ _ _) fun found => ?_
    dsimp only
    split
    · exact .pure _
    · exact ih _

theorem Rules.enforceRemotes_does (group : Identified) (direction : Direction) (protocol : Protocol)
    (live : List Cloud.Rule) (remotes : List Desired.Remote) (known : Lookups) :
    Always (Does [] [.securityGroupRule, .subnet, .securityGroup] [.securityGroupRule])
      (enforceRemotes group direction protocol live remotes known) := by
  induction remotes generalizing known with
  | nil => exact .pure _
  | cons remote rest ih =>
    refine .bind ((isSatisfied_does _ _ _ _ _).wider (by simp) (by simp) (by simp)) fun found => ?_
    dsimp only
    split
    · exact ih _
    · have hcreate : ∀ known, Always
          (Does [] [.securityGroupRule, .subnet, .securityGroup] [.securityGroupRule])
          (createRule group direction protocol remote known) := fun known =>
        .bind ((Lookups.prototype_does remote known).wider (by simp) (by simp) (by simp)) fun _ =>
          .bind (.asks (by simp)) fun _ => .pure _
      exact .bind (hcreate _) fun known => .bind (ih known) fun _ => .pure _

theorem Rules.enforceRules_does (group : Identified) (rules : List Desired.Rule) (known : Lookups) :
    Always (Does [] [.securityGroupRule, .subnet, .securityGroup] [.securityGroupRule])
      (enforceRules group rules known) := by
  induction rules generalizing known with
  | nil => exact .pure _
  | cons rule rest ih =>
    refine .bind (.bind (.asks (by simp)) fun live => ?_) fun found =>
      .bind (ih _) fun _ => .pure _
    exact enforceRemotes_does _ _ _ _ _ _

theorem Rules.enforceAll_does (groups : List Identified) (known : Lookups) :
    Always (Does [] [.securityGroupRule, .subnet, .securityGroup] [.securityGroupRule])
      (enforceAll groups known) := by
  induction groups generalizing known with
  | nil => exact .pure _
  | cons group rest ih =>
    exact .bind (enforceRules_does _ _ _) fun _ => .bind (ih _) fun _ => .pure _

theorem Groups.observe_does (group : Desired.SecurityGroup) (live : Cloud.SecurityGroup) :
    Always (Does [.shelf .securityGroups] [] []) (observe group live) :=
  .bind (.puts (by simp) _ _) fun _ => .pure _

theorem Groups.create_does (plan : Plan) (name : String) (rules : List Desired.Rule) :
    Always (Does [.shelf .securityGroups] [.securityGroup, .tag] [.securityGroup, .tag])
      (create plan name rules) :=
  .bind .status fun _ => .bind (.ofExcept _) fun _ =>
    .bind .status fun _ => .bind (.ofExcept _) fun _ =>
    .bind (.asks (by simp)) fun _ => .bind (.puts (by simp) _ _) fun _ =>
    .bind ((Ownership.mark_does plan _ _ _).wider (by simp) (by simp) (by simp)) fun _ => .pure _

theorem Groups.resolve_does (plan : Plan) (group : Desired.SecurityGroup) :
    Always (Does [.shelf .securityGroups] [.securityGroup, .tag] [.securityGroup, .tag])
      (resolve plan group) := by
  have hobserve : ∀ live,
      Always (Does [.shelf .securityGroups] [.securityGroup, .tag] [.securityGroup, .tag])
        (observe group live) :=
    fun live => (observe_does group live).wider (by simp) (by simp) (by simp)
  unfold resolve
  split
  · refine .bind (.asks (by simp)) fun found => ?_
    split
    · exact .bind (hobserve _) fun _ => .pure _
    · exact .fail _
  · split
    · exact .fail _
    · refine .bind (.asks (by simp)) fun found => ?_
      split
      · exact .bind (hobserve _) fun _ => .pure _
      · exact .bind (create_does plan _ _) fun _ => .pure _

theorem Groups.identify_does (plan : Plan) (group : Desired.SecurityGroup) :
    Always (Does [.shelf .securityGroups] [.securityGroup, .tag] [.securityGroup, .tag])
      (identify plan group) := by
  refine .bind .status fun s => ?_
  split
  · exact .pure _
  · exact resolve_does plan group

theorem Groups.identifyAll_does (plan : Plan) (groups : List Desired.SecurityGroup) :
    Always (Does [.shelf .securityGroups] [.securityGroup, .tag] [.securityGroup, .tag])
      (identifyAll plan groups) := by
  induction groups with
  | nil => exact .pure _
  | cons group rest ih => exact .bind (identify_does plan group) fun _ => .bind ih fun _ => .pure _

theorem Groups.step_does (plan : Plan) :
    Always (Does [.shelf .securityGroups] [.securityGroupRule, .subnet, .securityGroup, .tag]
      [.securityGroupRule, .securityGroup, .tag])
      (step plan) := by
  refine .bind ((identifyAll_does plan _).wider (by simp) (by simp) (by simp)) fun found => ?_
  dsimp only
  split
  · exact .pure _
  · exact .bind ((Rules.enforceAll_does _ _).wider (by simp) (by simp) (by simp)) fun _ => .pure _

/-! ## Load balancers -/

theorem LoadBalancers.observe_does (live : Cloud.LoadBalancer) (created : Bool) :
    Always (Does [.balancers] [] []) (observe live created) :=
  .update fun s => ⟨Status.writes_putBalancer s _, by simp⟩

theorem LoadBalancers.findByName_does (balancer : Desired.LoadBalancer) :
    Always (Does [] [.loadBalancer] []) (findByName balancer) := by
  unfold findByName
  split
  · exact .fail _
  · exact .asks (by simp)

theorem LoadBalancers.find_does (balancer : Desired.LoadBalancer) :
    Always (Does [] [.loadBalancer] []) (find balancer) := by
  refine .bind .status fun s => ?_
  dsimp only
  split
  · exact .pure _
  · unfold lookUp
    split
    · refine .bind (.asks (by simp)) fun found => ?_
      split
      · exact .pure _
      · exact .fail _
    · split
      · exact findByName_does balancer
      · refine .bind (.asks (by simp)) fun found => ?_
        split
        · exact .pure _
        · exact findByName_does balancer

theorem LoadBalancers.securityGroupId_does (balancer : Desired.LoadBalancer)
    (reference : Desired.Reference) :
    Always (Does [] [.securityGroup] []) (securityGroupId balancer reference) := by
  unfold securityGroupId
  split
  · exact .pure _
  · refine .bind .status fun s => ?_
    split
    · exact .pure _
    · refine .bind (.asks (by simp)) fun found => ?_
      split
      · exact .pure _
      · exact .fail _

theorem LoadBalancers.securityGroupIds_does (balancer : Desired.LoadBalancer)
    (references : List Desired.Reference) :
    Always (Does [] [.securityGroup] []) (securityGroupIds balancer references) := by
  induction references with
  | nil => exact .pure _
  | cons reference rest ih =>
    exact .bind (securityGroupId_does balancer reference) fun _ => .bind ih fun _ => .pure _

theorem LoadBalancers.create_does (plan : Plan) (balancer : Desired.LoadBalancer) :
    Always (Does [.balancers] [.loadBalancer, .securityGroup, .tag] [.loadBalancer, .tag])
      (create plan balancer) := by
  refine .bind .status fun s => ?_
  dsimp only
  split
  · exact .fail _
  · exact .bind .status fun _ => .bind (.ofExcept _) fun _ =>
      .bind ((securityGroupIds_does balancer _).wider (by simp) (by simp) (by simp)) fun _ =>
      .bind (.asks (by simp)) fun live =>
      .bind ((observe_does live true).wider (by simp) (by simp) (by simp)) fun _ =>
      (Ownership.mark_does plan _ _ _).wider (by simp) (by simp) (by simp)

theorem LoadBalancers.settleFound_does (live : Cloud.LoadBalancer) :
    Always (Does [.balancers] [] []) (settleFound live) := by
  refine .bind (observe_does live false) fun _ => ?_
  split
  · exact .fail _
  · exact .pure _

theorem LoadBalancers.settleAll_does (plan : Plan) (balancers : List Desired.LoadBalancer)
    (created : Bool) :
    Always (Does [.balancers] [.loadBalancer, .securityGroup, .tag] [.loadBalancer, .tag])
      (settleAll plan balancers created) := by
  induction balancers generalizing created with
  | nil => exact .pure _
  | cons balancer rest ih =>
    refine .bind ((find_does balancer).wider (by simp) (by simp) (by simp)) fun found => ?_
    split
    · exact .bind ((settleFound_does _).wider (by simp) (by simp) (by simp)) fun _ =>
        .bind (ih _) fun _ => .pure _
    · split
      · exact .bind (ih _) fun _ => .pure _
      · exact .bind (create_does plan balancer) fun _ => .bind (ih _) fun _ => .pure _

theorem LoadBalancers.step_does (plan : Plan) :
    Always (Does [.balancers] [.loadBalancer, .securityGroup, .tag] [.loadBalancer, .tag])
      (step plan) :=
  settleAll_does plan _ _

/-! ## What only the last step can change -/

/-- What every step does that has nothing to do with load balancers, a pass does if its step over load
balancers does it. -/
theorem standard_of_balancers {P : Effect} [Composes P] {plan : Plan}
    (hothers : ∀ {parts : List Part} {looks makes : List Kind} {s s' : Status} {t : Trace},
      Does parts looks makes s t s' → .balancers ∉ parts → .loadBalancer ∉ looks →
      .loadBalancer ∉ makes → P s t s')
    (hbalancers : Always P (LoadBalancers.step plan)) : Always P (standard plan) :=
  standard_of_steps .pure .bind
    ((ResourceGroups.step_does plan).mono fun h => hothers h (by simp) (by simp) (by simp))
    ((Vpc.step_does plan).mono fun h => hothers h (by simp) (by simp) (by simp))
    ((Image.step_does plan).mono fun h => hothers h (by simp) (by simp) (by simp))
    ((Subnets.step_does plan).mono fun h => hothers h (by simp) (by simp) (by simp))
    ((Groups.step_does plan).mono fun h => hothers h (by simp) (by simp) (by simp)) hbalancers

end VpcOperator.Pass
