import VpcOperator.Proofs.Filing
import VpcOperator.Proofs.Order.Carried

/-! # The subnets a load balancer is placed in

A load balancer is created in all subnets that are remembered. These are the
ones that are wanted now, and those that passes before have wanted: a subnet
that is no longer declared is not given up.
-/

namespace VpcOperator

open Desired (Role)
open Observed (Part Status)

theorem nodup_eraseDups (texts : List String) : texts.eraseDups.Nodup := by
  cases texts with
  | nil => simp
  | cons text rest =>
    rw [List.eraseDups_cons, List.nodup_cons]
    exact ⟨by simp [List.mem_eraseDups], nodup_eraseDups (rest.filter fun other => !other == text)⟩
termination_by texts.length
decreasing_by
  rw [List.length_cons]
  exact Nat.lt_succ_of_le (List.length_filter_le _ _)

theorem Observed.Status.subnetIds_nodup (s : Status) : s.subnetIds.Nodup :=
  nodup_eraseDups _

namespace Pass

variable {plan : Plan} {s s' : Status} {t before after : Trace} {r : Except Failure Outcome}
  {ids : List String}

/-! ## What is created names them -/

/-- While these IDs are known, they are what a load balancer is created with. -/
def Places (ids : List String) : Effect := fun s t s' =>
  s.subnetIds = ids → s'.subnetIds = ids ∧
    ∀ exchange ∈ t, ∀ prototype, exchange.request = .createLoadBalancer prototype →
      prototype.subnetIds = ids

instance : Composes (Places ids) where
  nil s h := ⟨h, by simp⟩
  append h₁ h₂ h := by
    obtain ⟨hmid, hfirst⟩ := h₁ h
    obtain ⟨hend, hrest⟩ := h₂ hmid
    refine ⟨hend, fun exchange hmem => ?_⟩
    rcases List.mem_append.1 hmem with hmem | hmem
    · exact hfirst exchange hmem
    · exact hrest exchange hmem

theorem places_of_does {parts : List Part} {looks makes : List Kind}
    (h : Does parts looks makes s t s') (hparts : ∀ role, .shelf (.subnets role) ∉ parts)
    (hmakes : .loadBalancer ∉ makes) : Places ids s t s' := by
  intro hids
  refine ⟨(Status.subnetIds_same fun role => h.writes _ (hparts role)).trans hids, ?_⟩
  intro exchange hmem prototype hrequest
  have hasks := h.asks exchange hmem
  rw [hrequest] at hasks
  exact absurd hasks hmakes

namespace LoadBalancers

theorem create_places (plan : Plan) (balancer : Desired.LoadBalancer) :
    Always (Places ids) (create plan balancer) := by
  have hcall : ∀ prototype : Cloud.LoadBalancerPrototype, prototype.subnetIds = ids →
      Always (Places ids) (call balancer.name (.createLoadBalancer prototype)) := by
    intro prototype hprototype
    refine .call fun _ reply hids => ⟨hids, fun exchange hmem other hrequest => ?_⟩
    obtain rfl := List.mem_singleton.1 hmem
    cases hrequest
    exact hprototype
  intro s t r s' hrun hids
  rw [create, runs_status_bind] at hrun
  dsimp only at hrun
  split at hrun
  · exact Always.fail (P := Places ids) _ hrun hids
  · refine Always.bind (P := Places ids) .status (fun _ => .bind (.ofExcept _) fun _ =>
      .bind ?_ fun _ => .bind (hcall _ hids) fun live => .bind ?_ fun _ => ?_) hrun hids
    · exact (securityGroupIds_does balancer _).mono fun h => places_of_does h (by simp) (by simp)
    · exact (observe_does live true).mono fun h => places_of_does h (by simp) (by simp)
    · exact (Ownership.mark_does plan _ _ _).mono fun h => places_of_does h (by simp) (by simp)

theorem step_places (plan : Plan) : Always (Places ids) (step plan) :=
  step_of_create (fun h => places_of_does h (by simp) (by simp)) (create_places plan)

end LoadBalancers

/-! ## What the pass has done before -/

theorem runSteps_asks {steps : List Step} {exchange : Exchange}
    (hrun : (runSteps plan steps).Runs s t r s') (hmem : exchange ∈ t) :
    ∃ step ∈ steps,
      exchange.request.kind ∈ if exchange.request.changes then step.makes else step.looks := by
  obtain ⟨before, after, rfl⟩ := List.append_of_mem hmem
  obtain ⟨step, hstep, -, first, start, outcome, stop, last, -, -, -, hone, -⟩ :=
    runs_runSteps_exchange hrun
  exact ⟨step, hstep, (Step.run_does plan step hone).asks exchange (by simp)⟩

/-- Zones are only listed to find out which subnets are wanted. -/
theorem Wants.of_step {first inner rest : Trace} {start mid : Status} {exchange : Exchange}
    {role : Role} {subnet : Desired.Subnet} {outcome : Outcome}
    (hfirst : (runSteps plan (Step.earlier .subnets)).Runs s first (.ok outcome) start)
    (hrest : Reaches plan mid [.securityGroups] .loadBalancers exchange rest)
    (h : plan.Wants (first ++ inner ++ rest) role subnet) : plan.Wants inner role subnet := by
  refine h.imp_right fun ⟨hnone, zones, hlisted, hzone⟩ => ⟨hnone, zones, ?_, hzone⟩
  have hearlier : ⟨.listZones plan.spec.region, .answer zones⟩ ∉ first := by
    intro hmem
    obtain ⟨step, hstep, hasks⟩ := runSteps_asks hfirst hmem
    have hsteps : step = .resourceGroups ∨ step = .vpc ∨ step = .image := by
      simpa [Step.earlier, Step.standard] using hstep
    rcases hsteps with rfl | rfl | rfl <;> simp [Step.looks] at hasks
  have hlater : ⟨.listZones plan.spec.region, .answer zones⟩ ∉ rest := by
    intro hmem
    cases hrest with
    | intro hgroups hbalancers =>
      rcases List.mem_append.1 hmem with hmem | hmem
      · obtain ⟨step, hstep, hasks⟩ := runSteps_asks hgroups hmem
        obtain rfl := List.mem_singleton.1 hstep
        simp [Step.looks] at hasks
      · have hasks := (Step.run_does plan .loadBalancers hbalancers).asks _
          (List.mem_append_left _ hmem)
        simp [Step.looks] at hasks
  simpa [hearlier, hlater] using hlisted

/-- After a step that does not write subnets, a load balancer is created with the IDs known before. -/
theorem Reaches.subnetIds_eq {done : List Step} {prototype : Cloud.LoadBalancerPrototype}
    {reply : Cloud.Reply Cloud.LoadBalancer}
    (h : Reaches plan s done .loadBalancers ⟨.createLoadBalancer prototype, reply⟩ before)
    (hdone : ∀ role, ∀ step ∈ done, .shelf (.subnets role) ∉ step.parts) :
    prototype.subnetIds = s.subnetIds := by
  cases h with
  | intro hsteps hbalancers =>
    obtain ⟨-, hplaced⟩ := LoadBalancers.step_places plan hbalancers rfl
    rw [hplaced _ (List.mem_append_right _ List.mem_cons_self) prototype rfl]
    exact Status.subnetIds_same fun role => runSteps_same (hdone role) hsteps

theorem Reaches.of_createLoadBalancer {prototype : Cloud.LoadBalancerPrototype}
    {reply : Cloud.Reply Cloud.LoadBalancer}
    (hrun : (standard plan).Runs s
      (before ++ ⟨.createLoadBalancer prototype, reply⟩ :: after) r s') :
    Reaches plan s (Step.earlier .loadBalancers) .loadBalancers
      ⟨.createLoadBalancer prototype, reply⟩ before :=
  standard_reaches_of hrun fun step => by cases step <;> simp [Step.makes]

end Pass

/-! ## Pass after pass -/

namespace History

def exchanges (history : History) : Trace :=
  history.flatMap (·.2)

/-- One of the passes has wanted the subnet in this role. -/
def Wants (history : History) (role : Role) (subnet : Desired.Subnet) : Prop :=
  ∃ pass ∈ history, pass.1.Wants pass.2 role subnet

/-- Throughout these passes subnets keep their IDs and names, and what a role has wanted under one
name is one subnet. -/
structure Consistent (names : Cloud.SubnetNames) (history : History) : Prop where
  follows : history.exchanges.Follows names
  apart : ∀ role one other, history.Wants role one → history.Wants role other →
    names.key one = names.key other → names.identity one = names.identity other

variable {names : Cloud.SubnetNames} {history : History} {plan : Plan} {t : Trace}

def Consistent.register (h : history.Consistent names) : Register where
  names := names
  wanted := history.Wants
  exchanges := history.exchanges
  follows := h.follows
  apart := h.apart

theorem subset_exchanges (hmem : (plan, t) ∈ history) : t ⊆ history.exchanges :=
  fun _ h => List.mem_flatMap.2 ⟨_, hmem, h⟩

theorem Consistent.filed {past : History} {s : Status} (h : history.Consistent names)
    (hsub : past ⊆ history) (hpast : Passes .empty past s) : h.register.Filed s := by
  refine (hpast.induct (P := h.register.Filed) (Q := fun _ => True) ?_ (Register.filed_empty _)).1
  intro pass r start stop hmem hrun hs
  refine ⟨Pass.standard_files h.register pass.1 hrun (subset_exchanges (hsub hmem)) ?_ hs, trivial⟩
  exact fun role subnet hwants => ⟨pass, hsub hmem, hwants⟩

end History

namespace Pass.LoadBalancers

variable {plan : Plan} {s s' : Status} {before after : Trace} {r : Except Failure Outcome}

/-- A load balancer is created with each ID once, in all subnets that are wanted now and otherwise only
in subnets that a pass before has wanted: their entries are never taken away. -/
theorem placed_in_wanted_subnets {past : History} {names : Cloud.SubnetNames}
    {prototype : Cloud.LoadBalancerPrototype} {reply : Cloud.Reply Cloud.LoadBalancer}
    (hpast : Passes .empty past s)
    (hrun : (standard plan).Runs s
      (before ++ ⟨.createLoadBalancer prototype, reply⟩ :: after) r s')
    (hconsistent : History.Consistent names (past ++ [(plan, before)])) :
    prototype.subnetIds.Nodup ∧
    (∀ role subnet, plan.Wants before role subnet →
      names.identity subnet ∈ prototype.subnetIds) ∧
    ∀ id ∈ prototype.subnetIds,
      (History.exchanges (past ++ [(plan, before)])).ShowsSubnet id ∧
      ∃ role subnet, History.Wants (past ++ [(plan, before)]) role subnet ∧
        names.identity subnet = id := by
  have hreaches : Reaches plan s (Step.earlier .subnets ++ .subnets :: [.securityGroups])
      .loadBalancers ⟨.createLoadBalancer prototype, reply⟩ before :=
    Reaches.of_createLoadBalancer hrun
  obtain ⟨start, mid, first, inner, rest, rfl, hfirst, hsubnets, hrest⟩ := hreaches.split
  have hnow : (plan, first ++ inner ++ rest) ∈ past ++ [(plan, first ++ inner ++ rest)] := by simp
  have hinner : inner ⊆ first ++ inner ++ rest := by simp
  have hstart : hconsistent.register.Filed start :=
    (hconsistent.filed (List.subset_append_left _ _) hpast).frame fun role =>
      runSteps_same (by cases role <;> decide) hfirst
  obtain ⟨hmid, hheld⟩ := Subnets.step_settles hstart
    (fun role subnet hwants => ⟨_, hnow, hwants.mono hinner⟩)
    (fun _ hmem => History.subset_exchanges hnow (hinner hmem)) hsubnets
  have hids : prototype.subnetIds = mid.subnetIds :=
    hrest.subnetIds_eq (by intro role; cases role <;> decide)
  rw [hids]
  refine ⟨mid.subnetIds_nodup, fun role subnet hwants => ?_, fun id hid => ?_⟩
  · have hholds := hheld _ rfl role subnet (Wants.of_step hfirst hrest hwants)
    obtain ⟨name, entry, hentry, hid⟩ := hholds
    exact Status.mem_subnetIds.2 ⟨hid ▸ (hmid role name entry hentry).id_ne, role, name, entry, hentry,
      hid⟩
  · obtain ⟨-, role, name, entry, hentry, rfl⟩ := Status.mem_subnetIds.1 hid
    have haccounts := hmid role name entry hentry
    obtain ⟨subnet, hwanted, -, hidentity⟩ := haccounts.wanted
    exact ⟨haccounts.shown, role, subnet, hwanted, hidentity⟩

def namedSubnet (name : String) : Desired.Subnet :=
  { id := none, name := some name, zone := none }

/-- One load balancer, a subnet for the workers, and this one for the control plane. -/
def movingPlan (controlPlane : String) : Plan :=
  { Plan.bare "a" with
    spec := { (Plan.bare "a").spec with
              network :=
                { Desired.Network.empty with
                  controlPlaneSubnets := [namedSubnet controlPlane]
                  workerSubnets := [namedSubnet "y"]
                  loadBalancers := [{ name := "b", id := none, isPublic := true, listeners := [],
                                      pools := [], securityGroups := [] }] } } }

def availableSubnet (id name : String) : Exchange :=
  ⟨.findSubnet name, .answer (some ⟨id, name, "", "z", none, .available⟩)⟩

/-- The subnets `x` and `y` are found, and the look for the load balancer is cut off. -/
def beforeMove : History :=
  [(movingPlan "x",
      [⟨.listResourceGroups "a", .answer [⟨"1", "a"⟩]⟩,
        ⟨.findVpc "a-vpc", .answer (some ⟨"2", "a-vpc", "", .available⟩)⟩]),
    (movingPlan "x",
      [⟨.getVpc "2", .answer (some ⟨"2", "a-vpc", "", .available⟩)⟩, availableSubnet "3" "x",
        availableSubnet "4" "y", ⟨.findLoadBalancer "b", .aborted⟩])]

/-- With the control plane moved from `x` to `y`, there turns out to be no load balancer. -/
def sinceMove : Trace :=
  [⟨.getVpc "2", .answer (some ⟨"2", "a-vpc", "", .available⟩)⟩, availableSubnet "4" "y",
    ⟨.findLoadBalancer "b", .answer none⟩]

def movedPrototype : Cloud.LoadBalancerPrototype :=
  { name := "b", resourceGroupId := "1", isPublic := true, subnetIds := ["3", "4"],
    securityGroupIds := [], pools := [Pool.default "b-pool-6443"],
    listeners := [⟨6443, "tcp", "b-pool-6443"⟩] }

/-- What is remembered before the move. -/
def settledStatus : Status :=
  (((Status.empty.putResourceGroup ⟨"1", some "a"⟩).put .vpc "" ⟨"2", "a-vpc", true⟩).put
    (.subnets .controlPlane) "x" ⟨"3", "x", true⟩).put (.subnets .worker) "y" ⟨"4", "y", true⟩

theorem beforeMove_passes : Passes .empty beforeMove settledStatus := by
  have hadopts : (standard (movingPlan "x")).Runs .empty
      [⟨.listResourceGroups "a", .answer [⟨"1", "a"⟩]⟩,
        ⟨.findVpc "a-vpc", .answer (some ⟨"2", "a-vpc", "", .available⟩)⟩] (.ok .requeue)
      ((Status.empty.putResourceGroup ⟨"1", some "a"⟩).put .vpc "" ⟨"2", "a-vpc", false⟩) :=
    .ask (.ask (.done _))
  exact .cons hadopts (.cons (.ask (.ask (.ask (.ask (.done _))))) (.nil _))

theorem sinceMove_runs : ∃ r s', (standard (movingPlan "y")).Runs settledStatus
    (sinceMove ++ [⟨.createLoadBalancer movedPrototype, .aborted⟩]) r s' :=
  ⟨_, _, .ask (.ask (.ask (.ask (.done _))))⟩

/-- The subnet `x` is `3`, and all others are `4`. -/
def movedNames : Cloud.SubnetNames where
  idOf := fun name => if name = "x" then "3" else "4"
  nameOf := id

theorem movingPlan_wants {name : String} {t : Trace} {role : Role} {subnet : Desired.Subnet}
    (h : (movingPlan name).Wants t role subnet) :
    subnet = namedSubnet name ∨ subnet = namedSubnet "y" := by
  rcases h with hmem | ⟨hnone, -⟩
  · cases role with
    | controlPlane => exact .inl (List.mem_singleton.1 hmem)
    | worker => exact .inr (List.mem_singleton.1 hmem)
  · cases role <;> cases hnone

theorem move_consistent :
    History.Consistent movedNames (beforeMove ++ [(movingPlan "y", sinceMove)]) := by
  have hwants : ∀ {role subnet},
      History.Wants (beforeMove ++ [(movingPlan "y", sinceMove)]) role subnet →
      subnet = namedSubnet "x" ∨ subnet = namedSubnet "y" := by
    rintro role subnet ⟨pass, hmem, hwants⟩
    simp only [beforeMove, List.cons_append, List.nil_append, List.mem_cons, List.not_mem_nil,
      or_false] at hmem
    rcases hmem with rfl | rfl | rfl
    · exact movingPlan_wants hwants
    · exact movingPlan_wants hwants
    · exact .inr ((movingPlan_wants hwants).elim id id)
  refine ⟨?_, fun role one other hone hother hkey => ?_⟩
  · simp [Trace.Follows, History.exchanges, beforeMove, sinceMove, availableSubnet, Exchange.Follows,
      movedNames]
  · rcases hwants hone with rfl | rfl <;> rcases hwants hother with rfl | rfl <;>
      first | rfl | exact absurd hkey (by decide)

/-- The load balancer is created in the subnets `3` and `4`: the control plane's subnet of before is
still among them. -/
theorem placed_in_wanted_subnets_moved :
    Passes .empty beforeMove settledStatus ∧
    (∃ r s', (standard (movingPlan "y")).Runs settledStatus
      (sinceMove ++ [⟨.createLoadBalancer movedPrototype, .aborted⟩]) r s') ∧
    History.Consistent movedNames (beforeMove ++ [(movingPlan "y", sinceMove)]) ∧
    movedNames.identity (namedSubnet "y") ∈ movedPrototype.subnetIds ∧
    ∃ role subnet, History.Wants (beforeMove ++ [(movingPlan "y", sinceMove)]) role subnet ∧
      movedNames.identity subnet = "3" := by
  obtain ⟨r, s', hrun⟩ := sinceMove_runs
  obtain ⟨-, hall, honly⟩ := placed_in_wanted_subnets beforeMove_passes hrun move_consistent
  exact ⟨beforeMove_passes, ⟨r, s', hrun⟩, move_consistent,
    hall .worker _ (.inl (List.mem_singleton_self _)), (honly "3" (by decide)).2⟩

/-- The plan has given up the subnet `3`, but a load balancer is created in it nevertheless. -/
theorem placed_in_dropped_subnet :
    Passes .empty beforeMove settledStatus ∧
    (∃ r s', (standard (movingPlan "y")).Runs settledStatus
      (sinceMove ++ [⟨.createLoadBalancer movedPrototype, .aborted⟩]) r s') ∧
    History.Consistent movedNames (beforeMove ++ [(movingPlan "y", sinceMove)]) ∧
    "3" ∈ movedPrototype.subnetIds ∧
    ∀ role subnet, (movingPlan "y").Wants sinceMove role subnet →
      movedNames.identity subnet = "4" := by
  refine ⟨beforeMove_passes, sinceMove_runs, move_consistent, by decide, fun role subnet hwants => ?_⟩
  obtain rfl : subnet = namedSubnet "y" := (movingPlan_wants hwants).elim id id
  decide

end Pass.LoadBalancers

end VpcOperator
