import VpcOperator.Proofs.Quiet

/-! # Passes report nothing themselves

Whether a cluster is ready, and the conditions that say so, are written between
passes: no step of a pass touches them, however it ends.
-/

namespace VpcOperator.Pass

open Observed (Status)

variable {α : Type}

/-- The flag and the conditions are left as they are. -/
def Unreported : Effect := fun s _ s' => s'.ready = s.ready ∧ s'.conditions = s.conditions

instance : Composes Unreported where
  nil _ := ⟨rfl, rfl⟩
  append h₁ h₂ := ⟨h₂.1.trans h₁.1, h₂.2.trans h₁.2⟩

theorem Always.unreported_of_quiet {pass : Pass α} (h : Always Quiet pass) :
    Always Unreported pass :=
  h.mono fun hsame => hsame ▸ ⟨rfl, rfl⟩

theorem Always.asks_unreported (target : String) (request : Cloud.Request) :
    Always Unreported (Pass.call target request) :=
  (Always.asks_only target request).unreported_of_quiet

theorem Always.puts_unreported (shelf : Observed.Shelf) (name : String) (entry : Observed.Entry) :
    Always Unreported (Pass.update (·.put shelf name entry)) := by
  refine .update fun s => ?_
  rcases shelf with _ | _ | (_ | _) | _ <;> exact ⟨rfl, rfl⟩

theorem Ownership.mark_unreported (plan : Plan) (kind : Kind) (name crn : String) :
    Always Unreported (mark plan kind name crn) :=
  (mark_quiet plan kind name crn).unreported_of_quiet

theorem ResourceGroups.step_unreported (plan : Plan) : Always Unreported (step plan) := by
  have hresolve : ∀ name, Always Unreported (resolve name) :=
    fun name => (resolve_quiet name).unreported_of_quiet
  have hcluster : Always Unreported (settleCluster plan) := by
    refine .bind .status fun s => ?_
    split
    · exact .pure _
    · exact .bind (hresolve _) fun reference => .update fun _ => ⟨rfl, rfl⟩
  have hreference : ∀ status name, Always Unreported (networkReference plan status name) := by
    intro status name
    unfold networkReference
    split
    · split
      · exact .pure _
      · exact hresolve _
    · exact hresolve _
  have hnetwork : Always Unreported (settleNetwork plan) := by
    unfold settleNetwork
    split
    · exact .pure _
    · refine .bind .status fun s => ?_
      split
      · exact .pure _
      · exact .bind (hreference _ _) fun reference => .update fun _ => ⟨rfl, rfl⟩
  exact .bind hcluster fun _ => .bind hnetwork fun _ => .pure _

theorem Vpc.step_unreported (plan : Plan) : Always Unreported (step plan) := by
  have hobserve : ∀ vpc, Always Unreported (observe vpc) :=
    fun vpc => .bind (.puts_unreported _ _ _) fun _ => .pure _
  have hcreate : Always Unreported (create plan) :=
    .bind .status fun _ => .bind (.ofExcept _) fun _ => .bind (.asks_unreported _ _) fun _ =>
      .bind (.puts_unreported _ _ _) fun _ => .bind (Ownership.mark_unreported _ _ _ _) fun _ =>
      .pure _
  have hadopt : Always Unreported (adoptOrCreate plan) := by
    refine .bind (.asks_unreported _ _) fun found => ?_
    split
    · exact .bind (.puts_unreported _ _ _) fun _ => .pure _
    · exact hcreate
  refine .bind .status fun s => .bind (lookUp_quiet _).unreported_of_quiet fun found => ?_
  split
  · exact hobserve _
  · split
    · exact hadopt
    · refine .bind (.asks_unreported _ _) fun found => ?_
      split
      · exact hobserve _
      · exact .fail _

theorem Image.step_unreported (plan : Plan) : Always Unreported (step plan) := by
  have hobserve : ∀ image, Always Unreported (observe image) :=
    fun image => .bind (.puts_unreported _ _ _) fun _ => .pure _
  have hneed : ∀ image field value, Always Unreported (need image field value) :=
    fun image field value => (need_quiet image field value).unreported_of_quiet
  have hcreate : ∀ image, Always Unreported (create plan image) := fun image =>
    .bind (hneed _ _ _) fun _ => .bind (hneed _ _ _) fun _ => .bind (hneed _ _ _) fun _ =>
      .bind (hneed _ _ _) fun _ =>
      .bind (resourceGroupId_quiet plan image).unreported_of_quiet fun _ =>
      .bind (.asks_unreported _ _) fun _ => .bind (.puts_unreported _ _ _) fun _ =>
      .bind (Ownership.mark_unreported _ _ _ _) fun _ => .pure _
  have hfind : ∀ name, Always Unreported (findOrCreate plan name) := by
    intro name
    refine .bind (findByName_quiet name).unreported_of_quiet fun found => ?_
    split
    · exact hobserve _
    · split
      · exact hcreate _
      · exact .fail _
  refine .bind .status fun s => ?_
  dsimp only
  split
  · exact .pure _
  · split
    · exact hfind _
    · split
      · exact .pure _
      · refine .bind (.asks_unreported _ _) fun found => ?_
        split
        · exact hobserve _
        · exact .fail _

theorem Subnets.settle_unreported (plan : Plan) (role : Desired.Role) (subnet : Desired.Subnet) :
    Always Unreported (settle plan role subnet) := by
  have hobserve : ∀ live, Always Unreported (observe role subnet live) :=
    fun live => .bind (.puts_unreported _ _ _) fun _ => .pure _
  have hcreate : ∀ name zone, Always Unreported (create plan role name zone) := fun name zone =>
    .bind .status fun _ => .bind (.ofExcept _) fun _ =>
      .bind (Gateway.ofZone_quiet plan zone).unreported_of_quiet fun _ => .bind .status fun _ =>
      .bind (.ofExcept _) fun _ => .bind (.asks_unreported _ _) fun _ =>
      .bind (.puts_unreported _ _ _) fun _ => .bind (Ownership.mark_unreported _ _ _ _) fun _ =>
      .pure _
  have hfind : Always Unreported (findOrCreate plan role subnet) := by
    unfold findOrCreate
    split
    · exact .fail _
    · refine .bind (.asks_unreported _ _) fun found => ?_
      split
      · exact hobserve _
      · split
        · exact .fail _
        · exact hcreate _ _
  have hresolve : Always Unreported (resolve plan role subnet) := by
    unfold resolve
    split
    · exact hfind
    · refine .bind (.asks_unreported _ _) fun found => ?_
      split
      · exact hobserve _
      · exact .fail _
  refine .bind .status fun s => ?_
  split
  · exact hresolve
  · split
    · exact .pure _
    · split
      · exact hresolve
      · refine .bind (.asks_unreported _ _) fun found => ?_
        split
        · exact hobserve _
        · exact hresolve

theorem Subnets.step_unreported (plan : Plan) : Always Unreported (step plan) := by
  have hall : ∀ role subnets, Always Unreported (settleAll plan role subnets) := by
    intro role subnets
    induction subnets with
    | nil => exact .pure _
    | cons subnet rest ih =>
      exact .bind (settle_unreported plan role subnet) fun _ => .bind ih fun _ => .pure _
  exact .bind (generated_quiet plan).unreported_of_quiet fun _ =>
    .bind (.attempt (hall _ _)) fun _ => .bind (.attempt (hall _ _)) fun _ =>
    .bind (.ofExcept _) fun _ => .bind (.ofExcept _) fun _ => .pure _

theorem Groups.identify_unreported (plan : Plan) (group : Desired.SecurityGroup) :
    Always Unreported (identify plan group) := by
  have hobserve : ∀ live, Always Unreported (observe group live) :=
    fun live => .bind (.puts_unreported _ _ _) fun _ => .pure _
  have hcreate : ∀ name rules, Always Unreported (create plan name rules) := fun name rules =>
    .bind .status fun _ => .bind (.ofExcept _) fun _ => .bind .status fun _ =>
      .bind (.ofExcept _) fun _ => .bind (.asks_unreported _ _) fun _ =>
      .bind (.puts_unreported _ _ _) fun _ => .bind (Ownership.mark_unreported _ _ _ _) fun _ =>
      .pure _
  refine .bind .status fun s => ?_
  split
  · exact .pure _
  · unfold resolve
    split
    · refine .bind (.asks_unreported _ _) fun found => ?_
      split
      · exact .bind (hobserve _) fun _ => .pure _
      · exact .fail _
    · split
      · exact .fail _
      · refine .bind (.asks_unreported _ _) fun found => ?_
        split
        · exact .bind (hobserve _) fun _ => .pure _
        · exact .bind (hcreate _ _) fun _ => .pure _

theorem Groups.step_unreported (plan : Plan) : Always Unreported (step plan) := by
  have hall : ∀ groups, Always Unreported (identifyAll plan groups) := by
    intro groups
    induction groups with
    | nil => exact .pure _
    | cons group rest ih =>
      exact .bind (identify_unreported plan group) fun _ => .bind ih fun _ => .pure _
  refine .bind (hall _) fun found => ?_
  dsimp only
  split
  · exact .pure _
  · exact .bind (Rules.enforceAll_quiet _ _).unreported_of_quiet fun _ => .pure _

theorem LoadBalancers.step_unreported (plan : Plan) : Always Unreported (step plan) := by
  have hobserve : ∀ live created, Always Unreported (observe live created) :=
    fun live created => .update fun s => ⟨rfl, rfl⟩
  have hfound : ∀ live, Always Unreported (settleFound live) := by
    refine fun live => .bind (hobserve live false) fun _ => ?_
    split
    · exact .fail _
    · exact .pure _
  have hcreate : ∀ balancer, Always Unreported (create plan balancer) := by
    refine fun balancer => .bind .status fun s => ?_
    dsimp only
    split
    · exact .fail _
    · exact .bind .status fun _ => .bind (.ofExcept _) fun _ =>
        .bind (securityGroupIds_quiet balancer _).unreported_of_quiet fun _ =>
        .bind (.asks_unreported _ _) fun _ => .bind (hobserve _ _) fun _ =>
        Ownership.mark_unreported _ _ _ _
  have hall : ∀ balancers created, Always Unreported (settleAll plan balancers created) := by
    intro balancers
    induction balancers with
    | nil => exact fun _ => .pure _
    | cons balancer rest ih =>
      refine fun created => .bind (find_quiet balancer).unreported_of_quiet fun found => ?_
      split
      · exact .bind (hfound _) fun _ => .bind (ih _) fun _ => .pure _
      · split
        · exact .bind (ih _) fun _ => .pure _
        · exact .bind (hcreate _) fun _ => .bind (ih _) fun _ => .pure _
  exact hall _ _

theorem Step.run_unreported (plan : Plan) (step : Step) : Always Unreported (step.run plan) := by
  cases step with
  | resourceGroups => exact ResourceGroups.step_unreported plan
  | vpc => exact Vpc.step_unreported plan
  | image => exact Image.step_unreported plan
  | subnets => exact Subnets.step_unreported plan
  | securityGroups => exact Groups.step_unreported plan
  | loadBalancers => exact LoadBalancers.step_unreported plan

theorem runSteps_unreported (plan : Plan) (steps : List Step) :
    Always Unreported (runSteps plan steps) := by
  induction steps with
  | nil => exact .pure _
  | cons step rest ih =>
    refine .bind (Step.run_unreported plan step) fun outcome => ?_
    cases outcome with
    | ready => exact ih
    | requeue => exact .pure _

end VpcOperator.Pass
