import VpcOperator.Proofs.Order.Steps
import VpcOperator.Proofs.Tracked

/-! # What a new resource refers to

A resource is created in the VPC and in the resource group that are known when
its step begins: a step that reads them does not write them. A subnet gets the
gateway of its zone.
-/

namespace VpcOperator

open Cloud (Request)
open Observed (Status)

/-- The VPC that is named in a request to create something in it. -/
@[simp] def Cloud.Request.vpcId? : Request → Option String
  | .createGateway prototype => some prototype.vpcId
  | .createSubnet prototype => some prototype.vpcId
  | .createSecurityGroup prototype => some prototype.vpcId
  | _ => none

/-- The resource group that is named in a request to create something, but an image: images have
one of their own. -/
@[simp] def Cloud.Request.resourceGroupId? : Request → Option String
  | .createVpc prototype => some prototype.resourceGroupId
  | .createGateway prototype => some prototype.resourceGroupId
  | .createSubnet prototype => some prototype.resourceGroupId
  | .createSecurityGroup prototype => some prototype.resourceGroupId
  | .createLoadBalancer prototype => some prototype.resourceGroupId
  | _ => none

/-- What new resources are placed in. -/
inductive Place where
  | vpc
  | resourceGroup

namespace Place

def part : Place → Observed.Part
  | vpc => .shelf .vpc
  | resourceGroup => .resourceGroup

/-- The step that sees to the place. -/
def settler : Place → Step
  | vpc => .vpc
  | resourceGroup => .resourceGroups

def knownId (plan : Plan) : Place → Status → Except Failure String
  | vpc => plan.vpcId
  | resourceGroup => plan.resourceGroupId

@[simp] def named? : Place → Request → Option String
  | vpc => Request.vpcId?
  | resourceGroup => Request.resourceGroupId?

theorem knownId_same {plan : Plan} {s s' : Status} {place : Place}
    (h : Status.Same place.part s s') : place.knownId plan s' = place.knownId plan s := by
  cases place with
  | vpc => simp only [knownId, Plan.vpcId, Status.Same.find? h]
  | resourceGroup =>
    have hsame : s'.resourceGroup = s.resourceGroup := h
    simp only [knownId, Plan.resourceGroupId, hsame]

theorem changes_of_named? {place : Place} {request : Request} {id : String}
    (h : place.named? request = some id) :
    request.changes = true ∧ request.kind ∉ [.tag, .securityGroupRule, .customImage] := by
  cases place <;> cases request <;> simp at h ⊢

end Place

/-- With this ID known at the start, it is known at the end, and all that is created names it. -/
def Carries (plan : Plan) (place : Place) (known : Except Failure String) : Effect := fun s t s' =>
  place.knownId plan s = known →
    place.knownId plan s' = known ∧
      ∀ exchange ∈ t, ∀ id, place.named? exchange.request = some id → known = .ok id

variable {plan : Plan} {place : Place} {known : Except Failure String} {s s' : Status} {t : Trace}

instance : Composes (Carries plan place known) where
  nil s h := ⟨h, by simp⟩
  append h₁ h₂ h := by
    obtain ⟨hmid, hfirst⟩ := h₁ h
    obtain ⟨hend, hrest⟩ := h₂ hmid
    refine ⟨hend, fun exchange hmem => ?_⟩
    rcases List.mem_append.1 hmem with hmem | hmem
    · exact hfirst exchange hmem
    · exact hrest exchange hmem

/-- Where the place is not written, and nothing is made that names one. -/
theorem Does.carries {parts : List Observed.Part} {looks makes : List Kind}
    (h : Does parts looks makes s t s') (hpart : place.part ∉ parts)
    (hmakes : makes ⊆ [.tag, .securityGroupRule, .customImage]) :
    Carries plan place known s t s' := by
  intro hknown
  refine ⟨(Place.knownId_same (h.writes _ hpart)).trans hknown, fun exchange hmem id hid => ?_⟩
  obtain ⟨hchanges, hkind⟩ := Place.changes_of_named? hid
  have hasks := h.asks exchange hmem
  rw [if_pos hchanges] at hasks
  exact absurd (hmakes hasks) hkind

namespace Pass

variable {α : Type} {r : Except Failure Outcome}

/-! ## Steps by what they create -/

section

variable {P : Effect} [Composes P]

theorem Subnets.settle_of_create {role : Desired.Role}
    (hlooks : ∀ {s t s'}, Does [.shelf (.subnets role)] [.subnet] [] s t s' → P s t s')
    (hcreate : ∀ name zone, Always P (create plan role name zone)) (subnet : Desired.Subnet) :
    Always P (settle plan role subnet) := by
  have hcall : ∀ (target : String) (request : Request),
      request.kind ∈ (if request.changes then [] else [.subnet]) → Always P (call target request) :=
    fun target request h => Always.mono (.asks h) hlooks
  have hobserve : ∀ live, Always P (observe role subnet live) := fun live =>
    ((observe_does role subnet live).wider (by simp) (by simp) (by simp)).mono hlooks
  have hresolve : Always P (resolve plan role subnet) := by
    unfold resolve findOrCreate
    split
    · split
      · exact .fail _
      · refine .bind (hcall _ _ (by simp)) fun found => ?_
        split
        · exact hobserve _
        · split
          · exact .fail _
          · exact hcreate _ _
    · refine .bind (hcall _ _ (by simp)) fun found => ?_
      split
      · exact hobserve _
      · exact .fail _
  refine .bind .status fun s => ?_
  split
  · exact hresolve
  · split
    · exact .pure _
    · split
      · exact hresolve
      · refine .bind (hcall _ _ (by simp)) fun found => ?_
        split
        · exact hobserve _
        · exact hresolve

theorem Subnets.step_of_create
    (hlooks : ∀ role {s t s'}, Does [.shelf (.subnets role)] [.zone, .subnet] [] s t s' → P s t s')
    (hcreate : ∀ role name zone, Always P (create plan role name zone)) :
    Always P (step plan) := by
  have hsettle : ∀ role subnet, Always P (settle plan role subnet) := fun role subnet =>
    settle_of_create (fun h => hlooks role (h.wider (by simp) (by simp) (by simp)))
      (hcreate role) subnet
  have hall : ∀ role subnets, Always P (settleAll plan role subnets) := by
    intro role subnets
    induction subnets with
    | nil => exact .pure _
    | cons subnet rest ih => exact .bind (hsettle role subnet) fun _ => .bind ih fun _ => .pure _
  have hgenerated : Always P (generated plan) :=
    ((generated_does plan).wider (by simp) (by simp) (by simp)).mono (hlooks .worker)
  exact .bind hgenerated fun _ => .bind (.attempt (hall _ _)) fun _ =>
    .bind (.attempt (hall _ _)) fun _ => .bind (.ofExcept _) fun _ => .bind (.ofExcept _) fun _ =>
    .pure _

theorem Groups.identifyAll_of_create
    (hlooks : ∀ {s t s'}, Does [.shelf .securityGroups] [.securityGroup] [] s t s' → P s t s')
    (hcreate : ∀ name rules, Always P (create plan name rules))
    (groups : List Desired.SecurityGroup) : Always P (identifyAll plan groups) := by
  have hobserve : ∀ group live, Always P (observe group live) := fun group live =>
    ((observe_does group live).wider (by simp) (by simp) (by simp)).mono hlooks
  have hcall : ∀ (target : String) (request : Request),
      request.kind ∈ (if request.changes then [] else [.securityGroup]) →
      Always P (call target request) := fun target request h => Always.mono (.asks h) hlooks
  have hresolve : ∀ group, Always P (resolve plan group) := by
    intro group
    unfold resolve
    split
    · refine .bind (hcall _ _ (by simp)) fun found => ?_
      split
      · exact .bind (hobserve _ _) fun _ => .pure _
      · exact .fail _
    · split
      · exact .fail _
      · refine .bind (hcall _ _ (by simp)) fun found => ?_
        split
        · exact .bind (hobserve _ _) fun _ => .pure _
        · exact .bind (hcreate _ _) fun _ => .pure _
  induction groups with
  | nil => exact .pure _
  | cons group rest ih =>
    refine .bind (.bind .status fun s => ?_) fun _ => .bind ih fun _ => .pure _
    split
    · exact .pure _
    · exact hresolve group

theorem Groups.step_of_create
    (hlooks : ∀ {s t s'}, Does [.shelf .securityGroups] [.securityGroup] [] s t s' → P s t s')
    (hrules : ∀ groups known, Always P (Rules.enforceAll groups known))
    (hcreate : ∀ name rules, Always P (create plan name rules)) : Always P (step plan) := by
  refine .bind (identifyAll_of_create hlooks hcreate _) fun found => ?_
  dsimp only
  split
  · exact .pure _
  · exact .bind (hrules _ _) fun _ => .pure _

theorem LoadBalancers.step_of_create
    (hlooks : ∀ {s t s'}, Does [.balancers] [.loadBalancer] [] s t s' → P s t s')
    (hcreate : ∀ balancer, Always P (create plan balancer)) : Always P (step plan) := by
  have hfind : ∀ balancer, Always P (find balancer) := fun balancer =>
    ((find_does balancer).wider (by simp) (by simp) (by simp)).mono hlooks
  have hfound : ∀ live, Always P (settleFound live) := fun live =>
    ((settleFound_does live).wider (by simp) (by simp) (by simp)).mono hlooks
  have hall : ∀ balancers created, Always P (settleAll plan balancers created) := by
    intro balancers created
    induction balancers generalizing created with
    | nil => exact .pure _
    | cons balancer rest ih =>
      refine .bind (hfind balancer) fun found => ?_
      split
      · exact .bind (hfound _) fun _ => .bind (ih _) fun _ => .pure _
      · split
        · exact .bind (ih _) fun _ => .pure _
        · exact .bind (hcreate balancer) fun _ => .bind (ih _) fun _ => .pure _
  exact hall _ _

end

/-- The ID of a place is read; if it is this place, it is the one that is known. -/
theorem Always.reads (other : Place) {next : String → Pass α}
    (hnext : ∀ id, (other = place → known = .ok id) → Always (Carries plan place known) (next id)) :
    Always (Carries plan place known)
      (Pass.status >>= fun s => Pass.ofExcept (other.knownId plan s) >>= next) := by
  intro s t r s' hrun hknown
  rw [runs_status_bind] at hrun
  rcases runs_bind.1 hrun with ⟨id, mid, t₁, t₂, rfl, hread, hrest⟩ | ⟨e, -, hread⟩
  · obtain ⟨rfl, hid, rfl⟩ := runs_ofExcept.1 hread
    refine hnext id (fun hplace => ?_) hrest hknown
    rw [← hknown, ← hplace, hid]
  · obtain ⟨rfl, -, rfl⟩ := runs_ofExcept.1 hread
    exact ⟨hknown, by simp⟩

/-- What is created names the IDs that are known. -/
theorem Always.places {target : String} {request : Request}
    (hvpc : ∀ id, request.vpcId? = some id → .vpc = place → known = .ok id)
    (hgroup : ∀ id, request.resourceGroupId? = some id → .resourceGroup = place → known = .ok id) :
    Always (Carries plan place known) (Pass.call target request) := by
  refine .call fun _ _ hknown => ⟨hknown, ?_⟩
  cases place with
  | vpc => simpa using hvpc
  | resourceGroup => simpa using hgroup

/-! ## The places that are named -/

theorem Ownership.mark_carries (kind : Kind) (name crn : String) :
    Always (Carries plan place known) (mark plan kind name crn) :=
  (mark_does plan kind name crn).mono fun h => h.carries (by simp) (by simp)

theorem Gateway.ofZone_carries (zone : String) :
    Always (Carries plan place known) (ofZone plan zone) := by
  refine .reads .resourceGroup fun groupId hgroup => .bind (.places (by simp) (by simp)) fun found => ?_
  split
  · exact .pure _
  · exact .reads .vpc fun vpcId hvpc =>
      .bind (.places (by simpa using hvpc) (by simpa using hgroup)) fun _ =>
      .bind (Ownership.mark_carries _ _ _) fun _ => .pure _

theorem Vpc.step_carries : Always (Carries plan .resourceGroup known) (step plan) := by
  have hlooks : ∀ {s t s'}, Does [.shelf .vpc] [.vpc] [] s t s' →
      Carries plan .resourceGroup known s t s' := fun h => h.carries (by simp [Place.part]) (by simp)
  have hput : ∀ vpc ready, Always (Carries plan .resourceGroup known) (remember vpc ready) :=
    fun vpc ready => (Always.puts (by simp) _ _).mono hlooks
  have hcreate : Always (Carries plan .resourceGroup known) (create plan) :=
    .reads .resourceGroup fun groupId hgroup =>
      .bind (.places (by simp) (by simpa using hgroup)) fun _ => .bind (hput _ _) fun _ =>
      .bind (Ownership.mark_carries _ _ _) fun _ => .pure _
  refine .bind .status fun s => .bind ((lookUp_does _).mono fun h => h.carries (by simp) (by simp))
    fun found => ?_
  split
  · exact .bind (hput _ _) fun _ => .pure _
  · split
    · refine .bind (.places (by simp) (by simp)) fun found => ?_
      split
      · exact .bind (hput _ _) fun _ => .pure _
      · exact hcreate
    · refine .bind (.places (by simp) (by simp)) fun found => ?_
      split
      · exact .bind (hput _ _) fun _ => .pure _
      · exact .fail _

theorem Subnets.step_carries : Always (Carries plan place known) (step plan) := by
  have hlooks : ∀ role {s t s'}, Does [.shelf (.subnets role)] [.zone, .subnet] [] s t s' →
      Carries plan place known s t s' := by
    intro role s t s' h
    exact h.carries (by cases place <;> simp [Place.part]) (by simp)
  refine step_of_create hlooks fun role name zone => ?_
  exact .reads .vpc fun vpcId hvpc => .bind (Gateway.ofZone_carries zone) fun gateway =>
    .reads .resourceGroup fun groupId hgroup =>
    .bind (.places (by simpa using hvpc) (by simpa using hgroup)) fun live =>
    .bind ((Always.puts (by simp) _ _).mono (hlooks role)) fun _ =>
    .bind (Ownership.mark_carries _ _ _) fun _ => .pure _

theorem Groups.step_carries : Always (Carries plan place known) (step plan) := by
  have hlooks : ∀ {s t s'}, Does [.shelf .securityGroups] [.securityGroup] [] s t s' →
      Carries plan place known s t s' := by
    intro s t s' h
    exact h.carries (by cases place <;> simp [Place.part]) (by simp)
  refine step_of_create hlooks (fun groups lookups => ?_) fun name rules => ?_
  · exact (Rules.enforceAll_does groups lookups).mono fun h => h.carries (by simp) (by simp)
  · exact .reads .vpc fun vpcId hvpc => .reads .resourceGroup fun groupId hgroup =>
      .bind (.places (by simpa using hvpc) (by simpa using hgroup)) fun live =>
      .bind ((Always.puts (by simp) _ _).mono hlooks) fun _ =>
      .bind (Ownership.mark_carries _ _ _) fun _ => .pure _

theorem LoadBalancers.step_carries : Always (Carries plan place known) (step plan) := by
  have hlooks : ∀ {s t s'}, Does [.balancers] [.loadBalancer] [] s t s' →
      Carries plan place known s t s' := by
    intro s t s' h
    exact h.carries (by cases place <;> simp [Place.part]) (by simp)
  refine step_of_create hlooks fun balancer => .bind .status fun s => ?_
  dsimp only
  split
  · exact .fail _
  · exact .reads .resourceGroup fun groupId hgroup =>
      .bind ((securityGroupIds_does balancer _).mono fun h => h.carries (by simp) (by simp)) fun _ =>
      .bind (.places (by simp) (by simpa using hgroup)) fun live =>
      .bind (((observe_does live true).wider (by simp) (by simp) (by simp)).mono hlooks) fun _ =>
      Ownership.mark_carries _ _ _

theorem Step.run_carries {step : Step} (hpart : place.part ∉ step.parts) :
    Always (Carries plan place known) (step.run plan) := by
  cases step with
  | resourceGroups => exact (ResourceGroups.step_does plan).mono fun h => h.carries hpart (by simp)
  | vpc =>
    cases place with
    | vpc => simp [Place.part, Step.parts] at hpart
    | resourceGroup => exact Vpc.step_carries
  | image => exact (Image.step_does plan).mono fun h => h.carries hpart (by simp)
  | subnets => exact Subnets.step_carries
  | securityGroups => exact Groups.step_carries
  | loadBalancers => exact LoadBalancers.step_carries

/-- A place that no step has written since has the ID that what is created names. -/
theorem Reaches.names {steps : List Step} {step : Step} {exchange : Exchange} {id : String}
    (h : Reaches plan s steps step exchange t) (hsteps : ∀ one ∈ steps, place.part ∉ one.parts)
    (hstep : place.part ∉ step.parts) (hnamed : place.named? exchange.request = some id) :
    place.knownId plan s = .ok id := by
  cases h with
  | intro hdone hrun =>
    obtain ⟨-, hnames⟩ := Step.run_carries hstep hrun rfl
    rw [← Place.knownId_same (runSteps_same hsteps hdone)]
    exact hnames exchange (by simp) id hnamed

end Pass

end VpcOperator
