import Mathlib.Data.Set.Insert
import VpcOperator.Proofs.Effects

/-! # Looked up in vain before it is made

Whatever a pass makes under a name, it has looked that name up just before and
has been answered that there is none. This is a property of the exchanges
alone, for every reply the account gives.
-/

namespace VpcOperator

open Cloud (Request)
open Observed (Status)

/-- What has a name of its own: a gateway within its resource group, the others by themselves. -/
inductive Named where
  | vpc (name : String)
  | subnet (name : String)
  | gateway (name resourceGroupId : String)
  | securityGroup (name : String)
  | loadBalancer (name : String)

def Named.kind : Named → Kind
  | vpc _ => .vpc
  | subnet _ => .subnet
  | gateway .. => .publicGateway
  | securityGroup _ => .securityGroup
  | loadBalancer _ => .loadBalancer

/-- What a request is to make. -/
def Cloud.Request.makes? : Request → Option Named
  | .createVpc prototype => some (.vpc prototype.name)
  | .createSubnet prototype => some (.subnet prototype.name)
  | .createGateway prototype => some (.gateway prototype.name prototype.resourceGroupId)
  | .createSecurityGroup prototype => some (.securityGroup prototype.name)
  | .createLoadBalancer prototype => some (.loadBalancer prototype.name)
  | _ => none

/-- What an exchange tells not to exist. -/
def Exchange.missing? : Exchange → Option Named
  | ⟨.findVpc name, .answer none⟩ => some (.vpc name)
  | ⟨.findSubnet name, .answer none⟩ => some (.subnet name)
  | ⟨.findGateway name resourceGroupId, .answer none⟩ => some (.gateway name resourceGroupId)
  | ⟨.findSecurityGroup name, .answer none⟩ => some (.securityGroup name)
  | ⟨.findLoadBalancer name, .answer none⟩ => some (.loadBalancer name)
  | _ => none

/-- What is known not to exist after an exchange, given what was known before it. -/
def Exchange.absent (exchange : Exchange) (known : Set Named) : Set Named :=
  { named | (named ∈ known ∨ exchange.missing? = some named) ∧
    exchange.request.makes? ≠ some named }

namespace Trace

variable {known more : Set Named} {t t₁ t₂ : Trace}

/-- Only what is known not to exist is made. -/
def Guarded (known : Set Named) : Trace → Prop
  | [] => True
  | exchange :: rest =>
    (∀ named, exchange.request.makes? = some named → named ∈ known) ∧
      Guarded (exchange.absent known) rest

def absent (known : Set Named) : Trace → Set Named
  | [] => known
  | exchange :: rest => absent (exchange.absent known) rest

theorem absent_append (known : Set Named) (t₁ t₂ : Trace) :
    absent known (t₁ ++ t₂) = absent (absent known t₁) t₂ := by
  induction t₁ generalizing known with
  | nil => rfl
  | cons exchange rest ih => exact ih _

theorem Guarded.mono (h : Guarded known t) (hsub : known ⊆ more) : Guarded more t := by
  induction t generalizing known more with
  | nil => trivial
  | cons exchange rest ih =>
    refine ⟨fun named hmakes => hsub (h.1 named hmakes), ih h.2 ?_⟩
    rintro named ⟨hknown | hmissing, hne⟩
    · exact ⟨.inl (hsub hknown), hne⟩
    · exact ⟨.inr hmissing, hne⟩

theorem Guarded.append (h₁ : Guarded known t₁) (h₂ : Guarded (absent known t₁) t₂) :
    Guarded known (t₁ ++ t₂) := by
  induction t₁ generalizing known with
  | nil => exact h₂
  | cons exchange rest ih => exact ⟨h₁.1, ih h₁.2 h₂⟩

theorem Guarded.left (h : Guarded known (t₁ ++ t₂)) : Guarded known t₁ := by
  induction t₁ generalizing known with
  | nil => trivial
  | cons exchange rest ih => exact ⟨h.1, ih h.2⟩

/-- What is known not to exist stays so while nothing is made that could be it. -/
theorem mem_absent {named : Named} (hknown : named ∈ known)
    (h : ∀ exchange ∈ t, exchange.request.makes? ≠ some named) : named ∈ absent known t := by
  induction t generalizing known with
  | nil => exact hknown
  | cons exchange rest ih =>
    have hfirst : named ∈ exchange.absent known := ⟨.inl hknown, h exchange (by simp)⟩
    exact ih hfirst fun other hmem => h other (by simp [hmem])

/-- A trace that makes nothing with a name is guarded. -/
theorem guarded_of_makes_nothing (h : ∀ exchange ∈ t, exchange.request.makes? = none) :
    Guarded known t := by
  induction t generalizing known with
  | nil => trivial
  | cons exchange rest ih =>
    have hfirst := h exchange (by simp)
    refine ⟨fun named hmakes => ?_, ih fun other hmem => h other (by simp [hmem])⟩
    rw [hfirst] at hmakes
    cases hmakes

end Trace

theorem makes?_changes {request : Request} {named : Named} (h : request.makes? = some named) :
    request.changes = true ∧ request.kind = named.kind := by
  cases request <;> simp [Request.makes?] at h <;> subst h <;> exact ⟨rfl, rfl⟩

theorem Does.kind_mem {parts : List Observed.Part} {looks makes : List Kind} {s s' : Status}
    {t : Trace} (h : Does parts looks makes s t s') {named : Named} {exchange : Exchange}
    (hmem : exchange ∈ t) (hmakes : exchange.request.makes? = some named) : named.kind ∈ makes := by
  obtain ⟨hchanges, hkind⟩ := makes?_changes hmakes
  have hask := h.asks exchange hmem
  rwa [if_pos hchanges, hkind] at hask

namespace Pass

/-- Runs make only what was known not to exist before them or was looked up in vain in them. -/
def GuardedFrom (known : Set Named) : Effect :=
  fun _ t _ => t.Guarded known

instance : Composes (GuardedFrom ∅) where
  nil _ := trivial
  append h₁ h₂ := Trace.Guarded.append h₁ (Trace.Guarded.mono h₂ (Set.empty_subset _))

/-! ## Composed passes -/

namespace Always

variable {α β : Type} {known : Set Named} {parts : List Observed.Part} {looks makes : List Kind}
  {pass : Pass α} {next : α → Pass β}

theorem guardedFrom (h : Always (GuardedFrom ∅) pass) : Always (GuardedFrom known) pass :=
  h.mono fun h => Trace.Guarded.mono h (Set.empty_subset _)

/-- A pass that makes nothing with a name is guarded. -/
theorem guarded_of_does (h : Always (Does parts looks makes) pass)
    (hkind : ∀ named : Named, named.kind ∉ makes) : Always (GuardedFrom ∅) pass := by
  refine h.mono fun hdoes => Trace.guarded_of_makes_nothing fun exchange hmem => ?_
  cases hmakes : exchange.request.makes? with
  | none => rfl
  | some named => exact absurd (hdoes.kind_mem hmem hmakes) (hkind named)

/-- What is known not to exist is still known after a part that makes none of it. -/
theorem guarded_bind (hguarded : Always (GuardedFrom ∅) pass)
    (hdoes : Always (Does parts looks makes) pass) (hkind : ∀ named ∈ known, named.kind ∉ makes)
    (hnext : ∀ a, Always (GuardedFrom known) (next a)) :
    Always (GuardedFrom known) (pass >>= next) := by
  intro s t r s' hrun
  rcases runs_bind.1 hrun with ⟨a, mid, first, rest, rfl, hfirst, hrest⟩ | ⟨e, rfl, hfirst⟩
  · refine Trace.Guarded.append (hguarded.guardedFrom hfirst) ((hnext a hrest).mono ?_)
    intro named hknown
    refine Trace.mem_absent hknown fun exchange hmem hmakes => hkind named hknown ?_
    exact (hdoes hfirst).kind_mem hmem hmakes
  · exact hguarded.guardedFrom hfirst

/-- After a part that may have used up what was known, the rest must be guarded by itself. -/
theorem guarded_then (h : Always (GuardedFrom known) pass)
    (hnext : ∀ a, Always (GuardedFrom ∅) (next a)) :
    Always (GuardedFrom known) (pass >>= next) := by
  intro s t r s' hrun
  rcases runs_bind.1 hrun with ⟨a, mid, first, rest, rfl, hfirst, hrest⟩ | ⟨e, rfl, hfirst⟩
  · exact Trace.Guarded.append (h hfirst) ((hnext a).guardedFrom hrest)
  · exact h hfirst

theorem guarded_status_bind {next : Status → Pass β}
    (hnext : ∀ s, Always (GuardedFrom known) (next s)) :
    Always (GuardedFrom known) (Pass.status >>= next) :=
  fun s _ _ _ hrun => hnext s hrun

theorem guarded_ofExcept_bind {result : Except Failure α}
    (hnext : ∀ a, Always (GuardedFrom known) (next a)) :
    Always (GuardedFrom known) (Pass.ofExcept result >>= next) :=
  have hdoes : Always (Does [] [] []) (Pass.ofExcept result) := .ofExcept _
  guarded_bind (.ofExcept _) hdoes (by simp) hnext

variable {target : String} {request : Request} {after : request.Answer → Pass β}

/-- A look-up in vain allows the rest to make what was looked up. -/
theorem guarded_lookUp (hlook : request.makes? = none)
    (hnext : ∀ found, Always
      (GuardedFrom { named | Exchange.missing? ⟨request, .answer found⟩ = some named })
      (after found)) :
    Always (GuardedFrom ∅) (Pass.call target request >>= after) := by
  intro s t r s' hrun
  rcases runs_bind.1 hrun with ⟨a, mid, first, rest, rfl, hcall, hrest⟩ | ⟨e, rfl, hcall⟩
  · obtain ⟨rfl, rfl⟩ := runs_call_ok.1 hcall
    refine ⟨by simp [hlook], (hnext a hrest).mono fun named hmissing => ⟨.inr hmissing, ?_⟩⟩
    simp [hlook]
  · obtain ⟨reply, rfl, -, -⟩ := runs_call.1 hcall
    exact ⟨by simp [hlook], trivial⟩

theorem guarded_of_missing {exchange : Exchange} {named : Named}
    (hmissing : exchange.missing? = some named) (h : Always (GuardedFrom {named}) pass) :
    Always (GuardedFrom { other | exchange.missing? = some other }) pass := by
  refine h.mono fun h => Trace.Guarded.mono h ?_
  rintro _ rfl
  exact hmissing

/-- What is made has to be known not to exist. -/
theorem guarded_make (hmake : ∀ named, request.makes? = some named → named ∈ known)
    (hnext : ∀ a, Always (GuardedFrom ∅) (after a)) :
    Always (GuardedFrom known) (Pass.call target request >>= after) := by
  intro s t r s' hrun
  rcases runs_bind.1 hrun with ⟨a, mid, first, rest, rfl, hcall, hrest⟩ | ⟨e, rfl, hcall⟩
  · obtain ⟨rfl, rfl⟩ := runs_call_ok.1 hcall
    exact ⟨hmake, (hnext a).guardedFrom hrest⟩
  · obtain ⟨reply, rfl, -, -⟩ := runs_call.1 hcall
    exact ⟨hmake, trivial⟩

end Always

/-! ## The passes of each kind -/

theorem Ownership.mark_guarded (plan : Plan) (kind : Kind) (name crn : String) :
    Always (GuardedFrom ∅) (mark plan kind name crn) :=
  .guarded_of_does (mark_does plan kind name crn) fun named => by cases named <;> simp [Named.kind]

theorem ResourceGroups.step_guarded (plan : Plan) : Always (GuardedFrom ∅) (step plan) :=
  .guarded_of_does (step_does plan) (by simp)

theorem Vpc.create_guarded (plan : Plan) :
    Always (GuardedFrom {.vpc plan.vpcName}) (create plan) := by
  refine .guarded_status_bind fun s => .guarded_ofExcept_bind fun id => ?_
  refine .guarded_make (by simp [Request.makes?]) fun vpc => ?_
  exact .bind (.update fun _ => trivial) fun _ =>
    .bind (Ownership.mark_guarded plan _ _ _) fun _ => .pure _

theorem Vpc.step_guarded (plan : Plan) : Always (GuardedFrom ∅) (step plan) := by
  have hobserve : ∀ vpc, Always (GuardedFrom ∅) (observe vpc) :=
    fun vpc => .bind (.update fun _ => trivial) fun _ => .pure _
  refine .bind .status fun s =>
    .bind (.guarded_of_does (lookUp_does _) (by simp)) fun found => ?_
  split
  · exact hobserve _
  · split
    · refine .guarded_lookUp rfl fun found => ?_
      split
      · exact .guardedFrom (.bind (.update fun _ => trivial) fun _ => .pure _)
      · exact .guarded_of_missing rfl (create_guarded plan)
    · refine .guarded_lookUp rfl fun found => .guardedFrom ?_
      split
      · exact hobserve _
      · exact .fail _

theorem Image.step_guarded (plan : Plan) : Always (GuardedFrom ∅) (step plan) :=
  .guarded_of_does (step_does plan) fun named => by cases named <;> simp [Named.kind]

theorem Gateway.ofZone_guarded (plan : Plan) (zone : String) :
    Always (GuardedFrom ∅) (ofZone plan zone) := by
  refine .bind .status fun s => .bind (.ofExcept _) fun id => .guarded_lookUp rfl fun found => ?_
  split
  · exact .guardedFrom (.pure _)
  · refine .guarded_status_bind fun s => .guarded_ofExcept_bind fun vpcId => ?_
    refine .guarded_make (by simp [Request.makes?, Exchange.missing?]) fun gateway => ?_
    exact .bind (Ownership.mark_guarded plan _ _ _) fun _ => .pure _

/-- On the way to a subnet a gateway can be made, but no other subnet. -/
theorem Subnets.create_guarded (plan : Plan) (role : Desired.Role) {name : String} (zone : String) :
    Always (GuardedFrom {.subnet name}) (create plan role name zone) := by
  refine .guarded_status_bind fun s => .guarded_ofExcept_bind fun vpcId => ?_
  refine .guarded_bind (Gateway.ofZone_guarded plan zone) (Gateway.ofZone_does plan zone)
    (by simp [Named.kind]) fun gateway => ?_
  refine .guarded_status_bind fun s => .guarded_ofExcept_bind fun id => ?_
  refine .guarded_make (by simp [Request.makes?]) fun live => ?_
  exact .bind (.update fun _ => trivial) fun _ =>
    .bind (Ownership.mark_guarded plan _ _ _) fun _ => .pure _

theorem Subnets.observe_guarded (role : Desired.Role) (subnet : Desired.Subnet)
    (live : Cloud.Subnet) :
    Always (GuardedFrom ∅) (observe role subnet live) :=
  .guarded_of_does (observe_does role subnet live) (by simp)

theorem Subnets.resolve_guarded (plan : Plan) (role : Desired.Role) (subnet : Desired.Subnet) :
    Always (GuardedFrom ∅) (resolve plan role subnet) := by
  unfold resolve findOrCreate
  split
  · split
    · exact .fail _
    · refine .guarded_lookUp rfl fun found => ?_
      split
      · exact .guardedFrom (observe_guarded role _ _)
      · split
        · exact .guardedFrom (.fail _)
        · exact .guarded_of_missing rfl (create_guarded plan role _)
  · refine .guarded_lookUp rfl fun found => .guardedFrom ?_
    split
    · exact observe_guarded role _ _
    · exact .fail _

theorem Subnets.settle_guarded (plan : Plan) (role : Desired.Role) (subnet : Desired.Subnet) :
    Always (GuardedFrom ∅) (settle plan role subnet) := by
  refine .bind .status fun s => ?_
  split
  · exact resolve_guarded plan role subnet
  · split
    · exact .pure _
    · split
      · exact resolve_guarded plan role subnet
      · refine .guarded_lookUp rfl fun found => .guardedFrom ?_
        split
        · exact observe_guarded role _ _
        · exact resolve_guarded plan role subnet

theorem Subnets.settleAll_guarded (plan : Plan) (role : Desired.Role)
    (subnets : List Desired.Subnet) :
    Always (GuardedFrom ∅) (settleAll plan role subnets) := by
  induction subnets with
  | nil => exact .pure _
  | cons subnet rest ih =>
    exact .bind (settle_guarded plan role subnet) fun _ => .bind ih fun _ => .pure _

theorem Subnets.step_guarded (plan : Plan) : Always (GuardedFrom ∅) (step plan) :=
  .bind (.guarded_of_does (generated_does plan) (by simp)) fun _ =>
    .bind (.attempt (settleAll_guarded plan _ _)) fun _ =>
    .bind (.attempt (settleAll_guarded plan _ _)) fun _ =>
    .bind (.ofExcept _) fun _ => .bind (.ofExcept _) fun _ => .pure _

theorem Groups.create_guarded (plan : Plan) {name : String} (rules : List Desired.Rule) :
    Always (GuardedFrom {.securityGroup name}) (create plan name rules) := by
  refine .guarded_status_bind fun s => .guarded_ofExcept_bind fun vpcId => ?_
  refine .guarded_status_bind fun s => .guarded_ofExcept_bind fun id => ?_
  refine .guarded_make (by simp [Request.makes?]) fun live => ?_
  exact .bind (.update fun _ => trivial) fun _ =>
    .bind (Ownership.mark_guarded plan _ _ _) fun _ => .pure _

theorem Groups.identifyAll_guarded (plan : Plan) (groups : List Desired.SecurityGroup) :
    Always (GuardedFrom ∅) (identifyAll plan groups) := by
  have hobserve : ∀ (group : Desired.SecurityGroup) live,
      Always (GuardedFrom ∅) (observe group live) :=
    fun group live => .guarded_of_does (observe_does group live) (by simp)
  have hresolve : ∀ group, Always (GuardedFrom ∅) (resolve plan group) := by
    intro group
    unfold resolve
    split
    · refine .guarded_lookUp rfl fun found => .guardedFrom ?_
      split
      · exact .bind (hobserve _ _) fun _ => .pure _
      · exact .fail _
    · split
      · exact .fail _
      · refine .guarded_lookUp rfl fun found => ?_
        split
        · exact .guardedFrom (.bind (hobserve _ _) fun _ => .pure _)
        · exact .guarded_of_missing rfl (.guarded_then (create_guarded plan _) fun _ => .pure _)
  induction groups with
  | nil => exact .pure _
  | cons group rest ih =>
    refine .bind (.bind .status fun s => ?_) fun _ => .bind ih fun _ => .pure _
    split
    · exact .pure _
    · exact hresolve group

theorem Groups.step_guarded (plan : Plan) : Always (GuardedFrom ∅) (step plan) := by
  refine .bind (identifyAll_guarded plan _) fun found => ?_
  dsimp only
  split
  · exact .pure _
  · refine .guarded_of_does (.bind (Rules.enforceAll_does _ _) fun _ => .pure _) fun named => ?_
    cases named <;> simp [Named.kind]

/-- Between the look-up of a load balancer and its creation only security groups are looked up. -/
theorem LoadBalancers.create_guarded (plan : Plan) (balancer : Desired.LoadBalancer) :
    Always (GuardedFrom {.loadBalancer balancer.name}) (create plan balancer) := by
  refine .guarded_status_bind fun s => ?_
  dsimp only
  split
  · exact .guardedFrom (.fail _)
  · refine .guarded_status_bind fun s => .guarded_ofExcept_bind fun id => ?_
    have hids := securityGroupIds_does balancer balancer.securityGroups
    refine .guarded_bind (.guarded_of_does hids (by simp)) hids (by simp) fun ids => ?_
    refine .guarded_make (by simp [Request.makes?]) fun live => ?_
    exact .bind (.update fun _ => trivial) fun _ => Ownership.mark_guarded plan _ _ _

theorem LoadBalancers.findByName_none {balancer : Desired.LoadBalancer} {s s' : Status} {t : Trace}
    (h : (findByName balancer).Runs s t (.ok none) s') :
    t = [⟨.findLoadBalancer balancer.name, .answer none⟩] := by
  unfold findByName at h
  split at h
  · simp at h
  · exact (runs_call_ok.1 h).1

/-- A search for a load balancer ends without one only after a look-up of its name. -/
theorem LoadBalancers.find_none {balancer : Desired.LoadBalancer} {s s' : Status} {t : Trace}
    (h : (find balancer).Runs s t (.ok none) s') :
    ∃ first, t = first ++ [⟨.findLoadBalancer balancer.name, .answer none⟩] := by
  rw [find, runs_status_bind] at h
  dsimp only at h
  split at h
  · simp at h
  · unfold lookUp at h
    split at h
    · obtain ⟨found, rest, rfl, hrest⟩ := runs_call_bind_ok.1 h
      split at hrest <;> simp at hrest
    · split at h
      · exact ⟨[], findByName_none h⟩
      · obtain ⟨found, rest, rfl, hrest⟩ := runs_call_bind_ok.1 h
        split at hrest
        · simp at hrest
        · rw [findByName_none hrest]
          exact ⟨[_], rfl⟩

theorem LoadBalancers.find_then_guarded (balancer : Desired.LoadBalancer)
    {next : Option Cloud.LoadBalancer → Pass Outcome}
    (hsome : ∀ live, Always (GuardedFrom ∅) (next (some live)))
    (hnone : Always (GuardedFrom {.loadBalancer balancer.name}) (next none)) :
    Always (GuardedFrom ∅) (find balancer >>= next) := by
  have hfind : Always (GuardedFrom ∅) (find balancer) :=
    .guarded_of_does (find_does balancer) (by simp)
  intro s t r s' hrun
  rcases runs_bind.1 hrun with ⟨found, mid, first, rest, rfl, hfirst, hrest⟩ | ⟨e, rfl, hfirst⟩
  · refine Trace.Guarded.append (hfind hfirst) ?_
    cases found with
    | some live => exact (hsome live).guardedFrom hrest
    | none =>
      obtain ⟨init, rfl⟩ := find_none hfirst
      refine (hnone hrest).mono ?_
      rintro _ rfl
      rw [Trace.absent_append]
      exact ⟨.inr rfl, by simp [Request.makes?]⟩
  · exact hfind hfirst

theorem LoadBalancers.settleAll_guarded (plan : Plan) (balancers : List Desired.LoadBalancer)
    (created : Bool) : Always (GuardedFrom ∅) (settleAll plan balancers created) := by
  induction balancers generalizing created with
  | nil => exact .pure _
  | cons balancer rest ih =>
    refine find_then_guarded balancer (fun live => ?_) ?_
    · exact .bind (.guarded_of_does (settleFound_does live) (by simp)) fun _ =>
        .bind (ih created) fun _ => .pure _
    · dsimp only
      split
      · exact .guardedFrom (.bind (ih true) fun _ => .pure _)
      · exact .guarded_then (create_guarded plan balancer) fun _ => .bind (ih true) fun _ => .pure _

theorem LoadBalancers.step_guarded (plan : Plan) : Always (GuardedFrom ∅) (step plan) :=
  settleAll_guarded plan _ _

theorem standard_guarded (plan : Plan) : Always (GuardedFrom ∅) (standard plan) :=
  standard_of_steps .pure .bind (ResourceGroups.step_guarded plan) (Vpc.step_guarded plan)
    (Image.step_guarded plan) (Subnets.step_guarded plan) (Groups.step_guarded plan)
    (LoadBalancers.step_guarded plan)

end Pass

end VpcOperator
