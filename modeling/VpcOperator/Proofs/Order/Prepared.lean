import VpcOperator.Proofs.Firewall.Redundant
import VpcOperator.Proofs.Order.Carried
import VpcOperator.Proofs.Quiet

/-! # The order of dependencies within a pass

When something is created that depends on other resources, the pass has seen
to these before: the VPC was available, the zone had its gateway, the subnets
were ready, the rules were satisfied.
-/

namespace VpcOperator.Pass

open Observed (Status)
open Desired (Role)

variable {plan : Plan} {s s' : Status} {t before after : Trace} {exchange : Exchange}
  {r : Except Failure Outcome}

/-! ## The VPC -/

/-- The account has shown a VPC with this ID, and it was available. -/
def Vpc.Available (t : Trace) (id : String) : Prop :=
  ∃ asked vpc, ⟨.getVpc asked, .answer (some vpc)⟩ ∈ t ∧ vpc.state = .available ∧ vpc.id = id

theorem Vpc.observe_available {vpc : Cloud.Vpc} (hrun : (observe vpc).Runs s t (.ok .ready) s') :
    t = [] ∧ vpc.state = .available ∧
      s'.find? .vpc "" = some { id := vpc.id, name := vpc.name, ready := true } := by
  simp only [observe, remember, runs_update_bind, runs_pure_ok] at hrun
  obtain ⟨rfl, hready, rfl⟩ := hrun
  have havailable := Outcome.ofReady_eq_ready_iff.1 hready.symm
  refine ⟨rfl, of_decide_eq_true havailable, ?_⟩
  rw [Status.find?_put_self, havailable]

theorem Vpc.step_available {id : String} (hrun : (step plan).Runs s t (.ok .ready) s')
    (hid : plan.vpcId s' = .ok id) : Available t id := by
  have hobserved : ∀ {asked vpc s t s'}, (observe vpc).Runs s t (.ok .ready) s' →
      plan.vpcId s' = .ok id → ∀ first,
      Available (first ++ ⟨.getVpc asked, .answer (some vpc)⟩ :: t) id := by
    intro asked vpc s t s' hobserve hid first
    obtain ⟨rfl, hstate, hentry⟩ := observe_available hobserve
    simp only [Plan.vpcId, hentry, Option.map_some] at hid
    split at hid
    · rename_i hgiven
      cases hid
      obtain ⟨hsame, -⟩ := given?_eq_some.1 hgiven
      exact ⟨asked, vpc, by simp, hstate, by simpa using hsame⟩
    · cases hid
  rw [step, runs_status_bind] at hrun
  obtain ⟨found, mid, first, rest, rfl, hlook, hrest⟩ := runs_bind_ok.1 hrun
  split at hrest
  · unfold lookUp at hlook
    split at hlook
    · simp at hlook
    · obtain ⟨rfl, rfl⟩ := runs_call_ok.1 hlook
      exact hobserved hrest hid []
  · split at hrest
    · exact absurd hrest (adoptOrCreate_unready ·)
    · obtain ⟨found, last, rfl, hlast⟩ := runs_call_bind_ok.1 hrest
      split at hlast
      · exact hobserved hlast hid first
      · simp at hlast

/-! ## The gateway of a zone -/

namespace Gateway

/-- The gateway of the zone was found, or else it was created and then tagged. -/
inductive Obtained (plan : Plan) (zone resourceGroupId : String) (gateway : Cloud.Gateway) :
    Trace → Prop
  | found (earlier : Trace) :
      Obtained plan zone resourceGroupId gateway
        (earlier ++ [⟨.findGateway (plan.gatewayName zone) resourceGroupId,
          .answer (some gateway)⟩])
  | created {vpcId : String} {tags : Trace} (earlier : Trace) :
      tags.TagsFirst plan.clusterName gateway.crn →
      Obtained plan zone resourceGroupId gateway
        (earlier ++ ⟨.findGateway (plan.gatewayName zone) resourceGroupId, .answer none⟩ ::
          ⟨.createGateway ⟨plan.gatewayName zone, vpcId, zone, resourceGroupId⟩,
            .answer gateway⟩ :: tags)

theorem Obtained.preceded {zone resourceGroupId : String} {gateway : Cloud.Gateway}
    (h : Obtained plan zone resourceGroupId gateway t) (first : Trace) :
    Obtained plan zone resourceGroupId gateway (first ++ t) := by
  cases h with
  | found earlier =>
    rw [← List.append_assoc]
    exact .found _
  | created earlier htags =>
    rw [← List.append_assoc]
    exact .created _ htags

theorem ofZone_obtains {zone : String} {gateway : Cloud.Gateway}
    (hrun : (ofZone plan zone).Runs s t (.ok gateway) s') :
    ∃ groupId, plan.resourceGroupId s' = .ok groupId ∧ Obtained plan zone groupId gateway t := by
  obtain rfl : s' = s := ofZone_quiet plan zone hrun
  rw [ofZone, runs_status_bind, runs_ofExcept_bind_ok] at hrun
  obtain ⟨groupId, hgroup, hfind⟩ := hrun
  refine ⟨groupId, hgroup, ?_⟩
  obtain ⟨found, rest, rfl, hrest⟩ := runs_call_bind_ok.1 hfind
  split at hrest
  · obtain ⟨rfl, rfl, -⟩ := runs_pure_ok.1 hrest
    exact .found []
  · rw [create, runs_status_bind, runs_ofExcept_bind_ok] at hrest
    obtain ⟨vpcId, -, hcreate⟩ := hrest
    obtain ⟨live, rest, rfl, htagged⟩ := runs_call_bind_ok.1 hcreate
    obtain ⟨_, mid, tags, last, rfl, hmark, hend⟩ := runs_bind_ok.1 htagged
    obtain ⟨rfl, rfl, -⟩ := runs_pure_ok.1 hend
    have htags := (Marks.mark plan ⟨.publicGateway, _, gateway.crn⟩ hmark).tags_of_ok
    rw [List.append_nil]
    exact .created [] htags

end Gateway

namespace Subnets

/-- Every subnet that is created gets a gateway of its zone that was obtained just before. -/
def Gatewayed (plan : Plan) : Effect := fun _ t _ =>
  ∀ before prototype reply after, t = before ++ ⟨.createSubnet prototype, reply⟩ :: after →
    ∃ gateway, gateway.id = prototype.gatewayId ∧
      Gateway.Obtained plan prototype.zone prototype.resourceGroupId gateway before

instance : Composes (Gatewayed plan) where
  nil s before prototype reply after ht := by simp at ht
  append h₁ h₂ before prototype reply after ht := by
    rcases Trace.append_eq_split ht with ⟨between, hfirst, -⟩ | ⟨between, rfl, hrest⟩
    · exact h₁ before prototype reply between hfirst
    · obtain ⟨gateway, hid, hobtained⟩ := h₂ between prototype reply after hrest
      exact ⟨gateway, hid, hobtained.preceded _⟩

theorem gatewayed_of_does {parts : List Observed.Part} {looks makes : List Kind}
    (h : Does parts looks makes s t s') (hmakes : .subnet ∉ makes) : Gatewayed plan s t s' := by
  rintro before prototype reply after rfl
  have hasks : Kind.subnet ∈ makes := h.asks ⟨.createSubnet prototype, reply⟩ (by simp)
  exact absurd hasks hmakes

theorem Gatewayed.created {prototype : Cloud.SubnetPrototype} {gateway : Cloud.Gateway} {mid : Status}
    (h : Gatewayed plan s t mid) (hid : gateway.id = prototype.gatewayId)
    (hgateway : Gateway.Obtained plan prototype.zone prototype.resourceGroupId gateway t)
    (reply : Cloud.Reply Cloud.Subnet) :
    Gatewayed plan s (t ++ [⟨.createSubnet prototype, reply⟩]) s' := by
  intro before other reply' after ht
  rcases Trace.append_eq_split ht with ⟨between, hfirst, -⟩ | ⟨between, rfl, hlast⟩
  · exact h before other reply' between hfirst
  · cases between with
    | nil =>
      cases hlast
      rw [List.append_nil]
      exact ⟨gateway, hid, hgateway⟩
    | cons head between => simp at hlast

theorem create_gatewayed (role : Role) (name zone : String) :
    Always (Gatewayed plan) (create plan role name zone) := by
  refine .bind .status fun s => .bind (.ofExcept _) fun vpcId => ?_
  intro s t r s' hrun
  rcases runs_bind.1 hrun with ⟨gateway, mid, t₁, t₂, rfl, hgateway, hrest⟩ | ⟨e, -, hgateway⟩
  · have hfirst : Gatewayed plan s t₁ mid :=
      gatewayed_of_does (Gateway.ofZone_does plan zone hgateway) (by simp)
    obtain ⟨groupId, hgroup, hobtained⟩ := Gateway.ofZone_obtains hgateway
    rw [runs_status_bind, hgroup, runs_ofExcept_ok_bind] at hrest
    rcases runs_call_bind.1 hrest with ⟨live, rest, rfl, hlast⟩ | ⟨reply, e, rfl, -⟩
    · have htags : Always (Does [.shelf (.subnets role)] [.tag] [.tag])
          (update (·.put (.subnets role) name { id := live.id, name := live.name, ready := false }) >>=
            fun _ => Ownership.mark plan .subnet name live.crn >>= fun _ => pure Outcome.requeue) :=
        .bind (.puts (by simp) _ _) fun _ =>
          .bind ((Ownership.mark_does plan _ _ _).wider (by simp) (by simp) (by simp)) fun _ =>
          .pure _
      rw [List.append_cons]
      exact Composes.append (hfirst.created rfl hobtained _)
        (gatewayed_of_does (htags hlast) (by simp))
    · exact hfirst.created rfl hobtained reply
  · exact gatewayed_of_does (Gateway.ofZone_does plan zone hgateway) (by simp)

theorem step_gatewayed : Always (Gatewayed plan) (step plan) :=
  step_of_create (fun _ {_ _ _} h => gatewayed_of_does h (by simp)) create_gatewayed

/-! ## Subnets that are ready -/

/-- Each of these subnets in turn was settled and reported ready. -/
inductive EachReady (plan : Plan) (role : Role) : List Desired.Subnet → Effect
  | nil (s : Status) : EachReady plan role [] s [] s
  | cons {subnet : Desired.Subnet} {rest : List Desired.Subnet} {s mid s' : Status}
      {first others : Trace} :
      (settle plan role subnet).Runs s first (.ok .ready) mid →
      EachReady plan role rest mid others s' →
      EachReady plan role (subnet :: rest) s (first ++ others) s'

/-- Every subnet of both roles was settled and reported ready. -/
inductive BothReady (plan : Plan) : Effect
  | intro {generated : List Desired.Subnet} {s start between s' : Status}
      {listing controlPlane workers : Trace} :
      (Subnets.generated plan).Runs s listing (.ok generated) start →
      EachReady plan .controlPlane (wanted (plan.spec.network.subnets .controlPlane) generated)
        start controlPlane between →
      EachReady plan .worker (wanted (plan.spec.network.subnets .worker) generated)
        between workers s' →
      BothReady plan s (listing ++ controlPlane ++ workers) s'

theorem settleAll_eachReady {role : Role} {subnets : List Desired.Subnet}
    (hrun : (settleAll plan role subnets).Runs s t (.ok .ready) s') :
    EachReady plan role subnets s t s' := by
  induction subnets generalizing s t with
  | nil =>
    obtain ⟨rfl, -, rfl⟩ := runs_pure_ok.1 hrun
    exact .nil s'
  | cons subnet rest ih =>
    obtain ⟨first, mid, t₁, t₂, rfl, hfirst, hrest⟩ := runs_bind_ok.1 hrun
    obtain ⟨others, mid', t₂, t₃, rfl, hothers, hend⟩ := runs_bind_ok.1 hrest
    obtain ⟨rfl, hboth, rfl⟩ := runs_pure_ok.1 hend
    obtain ⟨rfl, rfl⟩ := Outcome.both_eq_ready_iff.1 hboth.symm
    rw [List.append_nil]
    exact .cons hfirst (ih hothers)

theorem step_bothReady (hrun : (step plan).Runs s t (.ok .ready) s') : BothReady plan s t s' := by
  obtain ⟨generated, start, listing, rest, rfl, hgenerated, hroles⟩ := runs_bind_ok.1 hrun
  obtain ⟨first, mid, t₁, rest, rfl, hcontrol, hworkers⟩ := runs_attempt_bind.1 hroles
  obtain ⟨second, mid', t₂, t₃, rfl, hworker, hboth⟩ := runs_attempt_bind.1 hworkers
  simp only [runs_ofExcept_bind_ok, runs_pure_ok] at hboth
  obtain ⟨_, rfl, _, rfl, rfl, hboth, rfl⟩ := hboth
  obtain ⟨rfl, rfl⟩ := Outcome.both_eq_ready_iff.1 hboth.symm
  rw [List.append_nil, ← List.append_assoc]
  exact .intro hgenerated (settleAll_eachReady hcontrol) (settleAll_eachReady hworker)

end Subnets

/-! ## Rules that are satisfied -/

namespace Groups

/-- No group had to be created, and every remote of every rule that is declared for a group was
served by a rule that was listed for it. -/
inductive AllSatisfied (plan : Plan) : Effect
  | intro {found : List Rules.Identified} {s s' : Status} {identifying enforcing : Trace} :
      (identifyAll plan plan.spec.network.securityGroups).Runs s identifying (.ok (found, false)) s' →
      found.map (·.rules) = plan.spec.network.securityGroups.map (·.rules) →
      (∀ group ∈ found, ∀ rule ∈ group.rules, Rules.Kept s' enforcing group.id rule) →
      AllSatisfied plan s (identifying ++ enforcing) s'

theorem step_allSatisfied (hrun : (step plan).Runs s t (.ok .ready) s') :
    AllSatisfied plan s t s' := by
  obtain ⟨⟨found, created⟩, mid, t₁, t₂, rfl, hidentify, hrest⟩ := runs_bind_ok.1 hrun
  dsimp only at hrest
  split at hrest
  · simp at hrest
  · obtain rfl : created = false := by simpa using ‹¬ created = true›
    obtain ⟨⟨kept, known⟩, mid', t₂, t₃, rfl, henforce, hend⟩ := runs_bind_ok.1 hrest
    obtain ⟨rfl, hkept, rfl⟩ := runs_pure_ok.1 hend
    obtain rfl := Outcome.ofReady_eq_ready_iff.1 hkept.symm
    obtain ⟨⟨rfl, -, -⟩, hrules⟩ :=
      Rules.enforceAll_kept henforce (List.Subset.refl _) Lookups.backed_none
    rw [List.append_nil]
    exact .intro hidentify (identifyAll_rules hidentify) hrules

end Groups

/-! ## The pass -/

/-- What a pass has done, in these exchanges, by the time it makes a request. -/
structure Prepared (plan : Plan) (s : Status) (before : Trace) (request : Cloud.Request) : Prop where
  /-- The VPC that is named was shown to be available. -/
  vpc : ∀ id, request.vpcId? = some id →
    Completed plan s .vpc (fun _ t _ => Vpc.Available t id) before
  /-- The resource group that is named was the cluster's after its step. -/
  resourceGroup : ∀ id, request.resourceGroupId? = some id →
    Completed plan s .resourceGroups (fun _ _ s' => s'.resourceGroup.map (·.id) = some id) before
  /-- The gateway that a subnet gets was found or created for its zone. -/
  gateway : ∀ prototype, request = .createSubnet prototype →
    ∃ gateway, gateway.id = prototype.gatewayId ∧
      Gateway.Obtained plan prototype.zone prototype.resourceGroupId gateway before
  /-- When rules are listed or created, the subnets were ready. -/
  subnets : request.kind = .securityGroupRule →
    Completed plan s .subnets (Subnets.BothReady plan) before
  /-- When a load balancer is created, the rules were satisfied. -/
  rules : ∀ prototype, request = .createLoadBalancer prototype →
    Completed plan s .securityGroups (Groups.AllSatisfied plan) before

variable {step : Step} {id : String}

/-- What is created names the ID that its place had when the step for it ended. -/
theorem Reaches.knows {place : Place} (h : Reaches plan s step.earlier step exchange before)
    (hnamed : place.named? exchange.request = some id) :
    Completed plan s place.settler (fun _ _ s' => place.knownId plan s' = .ok id) before := by
  have hmakes : exchange.request.kind ∈ step.makes := by
    have hasks := h.asks
    rwa [if_pos (Place.changes_of_named? hnamed).1] at hasks
  have hlater : ∃ later, step.earlier = place.settler.earlier ++ place.settler :: later ∧
      (∀ one ∈ later, place.part ∉ one.parts) ∧ place.part ∉ step.parts := by
    cases place with
    | vpc =>
      cases step with
      | subnets => exact ⟨[.image], rfl, by decide, by decide⟩
      | securityGroups => exact ⟨[.image, .subnets], rfl, by decide, by decide⟩
      | _ => cases hrequest : exchange.request <;> simp_all [Step.makes]
    | resourceGroup =>
      cases step with
      | vpc => exact ⟨[], rfl, by decide, by decide⟩
      | subnets => exact ⟨[.vpc, .image], rfl, by decide, by decide⟩
      | securityGroups => exact ⟨[.vpc, .image, .subnets], rfl, by decide, by decide⟩
      | loadBalancers =>
        exact ⟨[.vpc, .image, .subnets, .securityGroups], rfl, by decide, by decide⟩
      | _ => cases hrequest : exchange.request <;> simp_all [Step.makes]
  obtain ⟨later, hsteps, hunwritten, hstep⟩ := hlater
  exact h.completed hsteps fun _ hrest => hrest.names hunwritten hstep hnamed

theorem Reaches.vpc_available (h : Reaches plan s step.earlier step exchange before)
    (hid : exchange.request.vpcId? = some id) :
    Completed plan s .vpc (fun _ t _ => Vpc.Available t id) before := by
  have hnamed : Place.vpc.named? exchange.request = some id := hid
  exact (h.knows hnamed).mono fun hvpc hknown => Vpc.step_available hvpc hknown

theorem Reaches.group_known (h : Reaches plan s step.earlier step exchange before)
    (hid : exchange.request.resourceGroupId? = some id) :
    Completed plan s .resourceGroups (fun _ _ s' => s'.resourceGroup.map (·.id) = some id)
      before := by
  have hnamed : Place.resourceGroup.named? exchange.request = some id := hid
  refine (h.knows hnamed).mono fun _ hknown => ?_
  simp only [Place.knownId, Plan.resourceGroupId] at hknown
  split at hknown
  · cases hknown
    exact (given?_eq_some.1 ‹_›).1
  · cases hknown

theorem Reaches.gateway_obtained {prototype : Cloud.SubnetPrototype}
    (h : Reaches plan s step.earlier step exchange before)
    (hrequest : exchange.request = .createSubnet prototype) :
    ∃ gateway, gateway.id = prototype.gatewayId ∧
      Gateway.Obtained plan prototype.zone prototype.resourceGroupId gateway before := by
  have hasks := h.asks
  obtain ⟨_, reply⟩ := exchange
  cases hrequest
  obtain rfl : step = .subnets := by
    cases step <;> simp [Step.makes] at hasks ⊢
  cases h with
  | intro _ hstep =>
    obtain ⟨gateway, hid, hobtained⟩ := Subnets.step_gatewayed hstep _ prototype reply _ rfl
    exact ⟨gateway, hid, hobtained.preceded _⟩

theorem Reaches.subnets_ready (h : Reaches plan s step.earlier step exchange before)
    (hkind : exchange.request.kind = .securityGroupRule) :
    Completed plan s .subnets (Subnets.BothReady plan) before := by
  obtain rfl : step = .securityGroups := by
    have hasks := h.asks
    rw [hkind] at hasks
    cases step <;> split at hasks <;> simp_all [Step.makes, Step.looks]
  have hsteps : Step.earlier .securityGroups = Step.earlier .subnets ++ [.subnets] := rfl
  exact h.completed hsteps fun hsubnets _ => Subnets.step_bothReady hsubnets

theorem Reaches.rules_satisfied {prototype : Cloud.LoadBalancerPrototype}
    (h : Reaches plan s step.earlier step exchange before)
    (hrequest : exchange.request = .createLoadBalancer prototype) :
    Completed plan s .securityGroups (Groups.AllSatisfied plan) before := by
  obtain rfl : step = .loadBalancers := by
    have hasks := h.asks
    rw [hrequest] at hasks
    cases step <;> simp_all [Step.makes]
  have hsteps : Step.earlier .loadBalancers = Step.earlier .securityGroups ++ [.securityGroups] :=
    rfl
  exact h.completed hsteps fun hgroups _ => Groups.step_allSatisfied hgroups

/-- Whatever the account answers, no request is made before what it depends on is there. -/
theorem standard_prepared (hrun : (standard plan).Runs s (before ++ exchange :: after) r s') :
    Prepared plan s before exchange.request := by
  obtain ⟨step, hreaches⟩ := standard_reaches hrun
  exact ⟨fun _ => hreaches.vpc_available, fun _ => hreaches.group_known,
    fun _ => hreaches.gateway_obtained, hreaches.subnets_ready, fun _ => hreaches.rules_satisfied⟩

/-- The resource group and the VPC are known. -/
def placedStart : Status :=
  (Status.empty.putResourceGroup ⟨"1", none⟩).put .vpc "" ⟨"2", "v", false⟩

/-- What leads up to the subnet of the only zone: its gateway is created and tagged. -/
def gatewayFirst : Trace :=
  [⟨.getVpc "2", .answer (some { id := "2", name := "v", crn := "", state := .available })⟩,
    ⟨.listZones "", .answer ["z"]⟩,
    ⟨.findSubnet "a-subnet-z", .answer none⟩,
    ⟨.findGateway "a-pgateway-z" "1", .answer none⟩,
    ⟨.createGateway ⟨"a-pgateway-z", "2", "z", "1"⟩,
      .answer { id := "3", name := "a-pgateway-z", crn := "crn", zone := "z", state := .pending }⟩,
    ⟨.listTags, .answer ["a"]⟩,
    ⟨.attachTag "a" "crn", .answer ()⟩]

def subnetNext : Exchange :=
  ⟨.createSubnet { name := "a-subnet-z", vpcId := "2", zone := "z", resourceGroupId := "1",
                   gatewayId := "3", ipVersion := "ipv4", addressCount := 256 }, .aborted⟩

/-- A subnet for each role, a group with one rule, and a load balancer. -/
def balancedPlan : Plan :=
  { Plan.bare "a" with
    spec := { (Plan.bare "a").spec with
      network := { Desired.Network.empty with
        controlPlaneSubnets := [{ id := none, name := some "c", zone := none }]
        workerSubnets := [{ id := none, name := some "w", zone := none }]
        securityGroups := [Groups.onlyGroup [.any]]
        loadBalancers := [{ name := "l", id := none, isPublic := true, listeners := [], pools := [],
                            securityGroups := [] }] } } }

/-- All but the load balancer has been there before. -/
def balancedStart : Status :=
  ((placedStart.put (.subnets .controlPlane) "c" ⟨"5", "c", true⟩).put (.subnets .worker) "w"
    ⟨"6", "w", true⟩).put .securityGroups "g" ⟨"4", "g", true⟩

def balancedFirst : Trace :=
  [⟨.getVpc "2", .answer (some { id := "2", name := "v", crn := "", state := .available })⟩,
    ⟨.listRules "4",
      .answer [{ id := "7", direction := .inbound, remote := .cidr anyBlock, traffic := .all }]⟩,
    ⟨.findLoadBalancer "l", .answer none⟩]

theorem standard_prepared_subnet_and_balancer :
    (∃ r s', (standard (.bare "a")).Runs placedStart
        (gatewayFirst ++ subnetNext :: [⟨.findSubnet "a-subnet-z", .aborted⟩]) r s' ∧
      Prepared (.bare "a") placedStart gatewayFirst subnetNext.request) ∧
    ∃ prototype r s', (standard balancedPlan).Runs balancedStart
        (balancedFirst ++ ⟨.createLoadBalancer prototype, .aborted⟩ :: []) r s' ∧
      Prepared balancedPlan balancedStart balancedFirst (.createLoadBalancer prototype) := by
  have hsubnet : ∃ r s', (standard (.bare "a")).Runs placedStart
      (gatewayFirst ++ subnetNext :: [⟨.findSubnet "a-subnet-z", .aborted⟩]) r s' :=
    ⟨_, _, .ask (.ask (.ask (.ask (.ask (.ask (.ask (.ask (.ask (.done _)))))))))⟩
  have hbalancer : ∃ prototype r s', (standard balancedPlan).Runs balancedStart
      (balancedFirst ++ ⟨.createLoadBalancer prototype, .aborted⟩ :: []) r s' :=
    ⟨_, _, _, .ask (.ask (.ask (.ask (.done _))))⟩
  obtain ⟨r, s', hsubnet⟩ := hsubnet
  obtain ⟨prototype, r', s'', hbalancer⟩ := hbalancer
  exact ⟨⟨r, s', hsubnet, standard_prepared hsubnet⟩, prototype, r', s'', hbalancer,
    standard_prepared hbalancer⟩

end VpcOperator.Pass
