import VpcOperator.Proofs.Account.Origins
import VpcOperator.Proofs.Effects
import VpcOperator.Proofs.Sharing.Names

/-! # What is a cluster's own

Only its name tells whose a VPC, a subnet or a gateway is. A pass for a cluster
that declares nothing asks for generated names and for what it remembers, so it
keeps to what was created under names that its cluster generates.
-/

namespace VpcOperator

open Observed (Entry Status)
open Desired (Role)

/-! ## What is remembered -/

/-- The kind of the resources that a shelf is for. -/
def Observed.Shelf.kind : Observed.Shelf → Kind
  | vpc => .vpc
  | image => .customImage
  | subnets _ => .subnet
  | securityGroups => .securityGroup

/-- The ID of a resource of this kind is remembered. -/
def Observed.Status.Caches (s : Status) (kind : Kind) (id : String) : Prop :=
  ∃ shelf name entry, shelf.kind = kind ∧ s.find? shelf name = some entry ∧ entry.id = id

variable {one other cluster name id : String} {kind : Kind}

/-! ## What is a cluster's own -/

namespace Trace

variable {journal : Trace} {exchange : Exchange}

/-- The resource with this ID was created under a name that clusters of this name generate. -/
def Owns (journal : Trace) (cluster : String) (kind : Kind) (id : String) : Prop :=
  ∃ name, Generates cluster kind name ∧ ⟨kind, name, id⟩ ∈ journal.creations

theorem Owns.cluster_unique (h : journal.Owns one kind id) (h' : journal.Owns other kind id)
    (hjournal : journal.FromNothing) : one = other := by
  obtain ⟨name, hname, hcreated⟩ := h
  obtain ⟨name', hname', hcreated'⟩ := h'
  obtain rfl := hjournal.name_unique hcreated hcreated'
  exact hname.cluster_unique hname'

theorem owns_of_made (hmem : exchange ∈ journal) (hmade : exchange.made? = some ⟨kind, name, id⟩)
    (hname : Generates cluster kind name) : journal.Owns cluster kind id :=
  ⟨name, hname, mem_creations.2 ⟨exchange, hmem, hmade⟩⟩

theorem FromNothing.owns_of_found (hjournal : journal.FromNothing) (hmem : exchange ∈ journal)
    (hfound : exchange.found? = some ⟨kind, name, id⟩) (hname : Generates cluster kind name) :
    journal.Owns cluster kind id :=
  ⟨name, hname, hjournal.created_of_found hmem hfound⟩

variable {s s' : Status} {shelf : Observed.Shelf} {entry : Entry}

/-- All that is remembered of VPCs and subnets is the cluster's own. -/
def OwnsAll (journal : Trace) (cluster : String) (s : Status) : Prop :=
  ∀ kind ∈ [Kind.vpc, .subnet], ∀ id, s.Caches kind id → journal.Owns cluster kind id

theorem OwnsAll.frame (h : journal.OwnsAll cluster s) {parts : List Observed.Part}
    (hwrites : Status.Writes parts s s') (hvpc : .shelf .vpc ∉ parts)
    (hsubnets : ∀ role, .shelf (.subnets role) ∉ parts) : journal.OwnsAll cluster s' := by
  rintro kind hkind id ⟨shelf, name, entry, rfl, hentry, rfl⟩
  have hunwritten : .shelf shelf ∉ parts := by
    cases shelf with
    | vpc => exact hvpc
    | subnets role => exact hsubnets role
    | _ => simp [Observed.Shelf.kind] at hkind
  have hsame := hwrites _ hunwritten
  exact h _ hkind _ ⟨shelf, name, entry, rfl, (hsame.find? name).symm.trans hentry, rfl⟩

theorem OwnsAll.put (h : journal.OwnsAll cluster s)
    (hentry : journal.Owns cluster shelf.kind entry.id) :
    journal.OwnsAll cluster (s.put shelf name entry) := by
  rintro kind hkind id ⟨shelf', key, found, rfl, hfound, rfl⟩
  rcases Status.find?_put_some hfound with ⟨rfl, rfl⟩ | hfound
  · exact hentry
  · exact h _ hkind _ ⟨shelf', key, found, rfl, hfound, rfl⟩

end Trace

/-- A gateway that is created, or that a subnet is to get, is the cluster's own. -/
def Exchange.Within (journal : Trace) (cluster : String) : Exchange → Prop
  | ⟨.createGateway _, .answer gateway⟩ => journal.Owns cluster .publicGateway gateway.id
  | ⟨.createSubnet prototype, _⟩ => journal.Owns cluster .publicGateway prototype.gatewayId
  | _ => True

theorem Exchange.within_of_kind {journal : Trace} {exchange : Exchange}
    (h : exchange.request.changes = true → exchange.request.kind ∉ [Kind.publicGateway, .subnet]) :
    exchange.Within journal cluster := by
  unfold Within
  split
  · exact absurd (h rfl) (by simp)
  · exact absurd (h rfl) (by simp)
  · trivial

/-! ## Passes that keep to what is the cluster's own -/

namespace Pass

variable {α β : Type} {journal : Trace} {post mid : α → Prop} {last : β → Prop}

/-- The pass starts from a status that has only what is the cluster's own. However far it has come
by the exchanges in the journal, it has kept to that. If it has come to its end, the status has
nothing else, and if it has ended well, its value is as it should be. -/
def KeepsOwn (journal : Trace) (cluster : String) (post : α → Prop) (pass : Pass α) : Prop :=
  ∀ ⦃s t r s'⦄, pass.Runs s t r s' → journal.OwnsAll cluster s →
    (∀ first rest, t = first ++ rest → first ⊆ journal →
      ∀ exchange ∈ first, exchange.Within journal cluster) ∧
    (t ⊆ journal → journal.OwnsAll cluster s' ∧ ∀ a, r = .ok a → post a)

namespace KeepsOwn

theorem mono {post' : α → Prop} {pass : Pass α} (h : KeepsOwn journal cluster post pass)
    (hpost : ∀ a, post a → post' a) : KeepsOwn journal cluster post' pass :=
  fun _ _ _ _ hrun hs =>
    ⟨(h hrun hs).1, fun hsub => ((h hrun hs).2 hsub).imp_right fun ha a hr => hpost a (ha a hr)⟩

/-- Without exchanges, only the end matters. -/
theorem of_end {pass : Pass α}
    (h : ∀ {s t r s'}, pass.Runs s t r s' → journal.OwnsAll cluster s →
      t = [] ∧ journal.OwnsAll cluster s' ∧ ∀ a, r = .ok a → post a) :
    KeepsOwn journal cluster post pass := by
  intro s t r s' hrun hs
  obtain ⟨rfl, hend⟩ := h hrun hs
  refine ⟨fun first rest hsplit _ => ?_, fun _ => hend⟩
  obtain ⟨rfl, -⟩ := List.append_eq_nil_iff.1 hsplit.symm
  simp

theorem ofExcept (result : Except Failure α) :
    KeepsOwn journal cluster (fun a => result = .ok a) (ofExcept result) := by
  refine of_end fun hrun hs => ?_
  obtain ⟨rfl, rfl, rfl⟩ := runs_ofExcept.1 hrun
  exact ⟨rfl, hs, fun _ hr => hr⟩

theorem pure {a : α} (h : post a) : KeepsOwn journal cluster post (pure a) :=
  (ofExcept (.ok a)).mono fun _ ha => Except.ok.inj ha ▸ h

theorem fail (failure : Failure) : KeepsOwn journal cluster post (fail failure : Pass α) :=
  (ofExcept (.error failure)).mono nofun

theorem status : KeepsOwn journal cluster (journal.OwnsAll cluster) status := by
  refine of_end fun hrun hs => ?_
  obtain ⟨rfl, rfl, rfl⟩ := runs_status.1 hrun
  refine ⟨rfl, hs, fun s hr => ?_⟩
  cases hr
  exact hs

theorem put {shelf : Observed.Shelf} {entry : Entry}
    (h : journal.Owns cluster shelf.kind entry.id) :
    KeepsOwn journal cluster (fun _ => True) (update (·.put shelf name entry)) := by
  refine of_end fun hrun hs => ?_
  obtain ⟨rfl, -, rfl⟩ := runs_update.1 hrun
  exact ⟨rfl, hs.put h, fun _ _ => trivial⟩

theorem call {target : String} {request : Cloud.Request}
    (h : ∀ reply, ⟨request, reply⟩ ∈ journal → Exchange.Within journal cluster ⟨request, reply⟩) :
    KeepsOwn journal cluster (fun answer => ⟨request, .answer answer⟩ ∈ journal)
      (call target request) := by
  intro s t r s' hrun hs
  obtain ⟨reply, rfl, rfl, rfl⟩ := runs_call.1 hrun
  refine ⟨fun first rest hsplit hsub exchange hmem => ?_, fun hsub => ⟨hs, fun answer hr => ?_⟩⟩
  · have hcalled : exchange ∈ [⟨request, reply⟩] := hsplit ▸ List.mem_append_left rest hmem
    obtain rfl := List.mem_singleton.1 hcalled
    exact h reply (hsub hmem)
  · cases reply with
    | answer value =>
      cases hr
      exact hsub (List.mem_singleton_self _)
    | error source => cases hr
    | aborted => cases hr

theorem bind {pass : Pass α} {next : α → Pass β} (h : KeepsOwn journal cluster mid pass)
    (hnext : ∀ a, mid a → KeepsOwn journal cluster last (next a)) :
    KeepsOwn journal cluster last (pass >>= next) := by
  intro s t r s' hrun hs
  rcases runs_bind.1 hrun with ⟨a, s₁, t₁, t₂, rfl, hfirst, hrest⟩ | ⟨e, rfl, hfirst⟩
  · obtain ⟨hparts, hend⟩ := h hfirst hs
    have hlater : t₁ ⊆ journal → _ := fun hsub =>
      hnext a ((hend hsub).2 a rfl) hrest (hend hsub).1
    refine ⟨fun first rest hsplit hsub => ?_, fun hsub => ?_⟩
    · -- The pass was broken off either in its second part or before that.
      rcases List.append_eq_append_iff.1 hsplit with ⟨between, rfl, ht₂⟩ | ⟨between, ht₁, -⟩
      · obtain ⟨hsub₁, hsub₂⟩ := List.append_subset.1 hsub
        exact List.forall_mem_append.2
          ⟨hparts t₁ [] (by simp) hsub₁, (hlater hsub₁).1 between rest ht₂ hsub₂⟩
      · exact hparts first between ht₁ hsub
    · obtain ⟨hsub₁, hsub₂⟩ := List.append_subset.1 hsub
      exact (hlater hsub₁).2 hsub₂
  · obtain ⟨hparts, hend⟩ := h hfirst hs
    exact ⟨hparts, fun hsub => ⟨(hend hsub).1, nofun⟩⟩

theorem attempt {pass : Pass α} (h : KeepsOwn journal cluster post pass) :
    KeepsOwn journal cluster (fun _ => True) (attempt pass) := by
  intro s t r s' hrun hs
  obtain ⟨result, -, hpass⟩ := runs_attempt.1 hrun
  exact (h hpass hs).imp_right fun hend hsub => ⟨(hend hsub).1, fun _ _ => trivial⟩

/-- A part that is about other kinds of resources keeps out of it. -/
theorem of_does {parts : List Observed.Part} {looks makes : List Kind} {pass : Pass α}
    (h : Always (Does parts looks makes) pass)
    (hvpc : .shelf .vpc ∉ parts) (hsubnets : ∀ role, .shelf (.subnets role) ∉ parts)
    (hmakes : ∀ kind ∈ [Kind.publicGateway, .subnet], kind ∉ makes) :
    KeepsOwn journal cluster (fun _ => True) pass := by
  intro s t r s' hrun hs
  have hdoes := h hrun
  refine ⟨?_, fun _ => ⟨hs.frame hdoes.writes hvpc hsubnets, fun _ _ => trivial⟩⟩
  rintro first rest rfl - exchange hmem
  refine Exchange.within_of_kind fun hchanges hkind => hmakes _ hkind ?_
  have hasks := hdoes.asks exchange (List.mem_append_left rest hmem)
  rwa [if_pos hchanges] at hasks

end KeepsOwn

/-! ## The VPC -/

variable {plan : Plan}

theorem Ownership.mark_keepsOwn (kind : Kind) (name crn : String) :
    KeepsOwn journal cluster (fun _ => True) (mark plan kind name crn) :=
  .of_does (mark_does plan kind name crn) (by simp) (by simp) (by simp)

namespace Vpc

theorem lookUp_keepsOwn (htruthful : journal.Truthful) {cached : Option String}
    (hcached : ∀ id, cached = some id → journal.Owns cluster .vpc id) :
    KeepsOwn journal cluster
      (fun found => ∀ vpc, found = some vpc → journal.Owns cluster .vpc vpc.id)
      (lookUp cached) := by
  cases cached with
  | none => exact .pure nofun
  | some id =>
    have hcall : KeepsOwn journal cluster _ (call id (.getVpc id)) := .call fun _ _ => trivial
    refine hcall.mono ?_
    rintro _ hmem vpc rfl
    obtain ⟨rfl, -⟩ : vpc.id = id ∧ vpc.id ≠ "" := htruthful _ hmem
    exact hcached _ rfl

theorem remember_keepsOwn {vpc : Cloud.Vpc} (h : journal.Owns cluster .vpc vpc.id) (ready : Bool) :
    KeepsOwn journal cluster (fun _ => True) (remember vpc ready) :=
  .put h

theorem create_keepsOwn (hname : Generates plan.clusterName .vpc plan.vpcName) :
    KeepsOwn journal plan.clusterName (fun _ => True) (create plan) :=
  .bind .status fun _ _ => .bind (.ofExcept _) fun _ _ =>
    .bind (.call fun _ _ => trivial) fun _ hmem =>
    .bind (remember_keepsOwn (Trace.owns_of_made hmem rfl hname) _) fun _ _ =>
    .bind (Ownership.mark_keepsOwn _ _ _) fun _ _ => .pure trivial

theorem adoptOrCreate_keepsOwn (hjournal : journal.FromNothing)
    (hname : Generates plan.clusterName .vpc plan.vpcName) :
    KeepsOwn journal plan.clusterName (fun _ => True) (adoptOrCreate plan) := by
  refine .bind (.call fun _ _ => trivial) fun found hmem => ?_
  split
  · rename_i vpc
    exact .bind (remember_keepsOwn (hjournal.owns_of_found hmem rfl hname) _) fun _ _ =>
      .pure trivial
  · exact create_keepsOwn hname

/-- If nothing is declared, what was remembered leads to the VPC, or else the generated name. -/
theorem step_keepsOwn (hjournal : journal.FromNothing) (hid : declaredId? plan = none)
    (hname : plan.spec.network.vpc.bind (·.name) = none) :
    KeepsOwn journal plan.clusterName (fun _ => True) (step plan) := by
  have hgenerated : Generates plan.clusterName .vpc plan.vpcName := by
    rw [Plan.vpcName, hname]
    rfl
  refine .bind .status fun s hs =>
    .bind (lookUp_keepsOwn hjournal.truthful ?_) fun found hfound => ?_
  · intro id hcached
    obtain ⟨entry, hentry, rfl⟩ := Option.map_eq_some_iff.1 (given?_eq_some.1 hcached).1
    exact hs .vpc (by simp) _ ⟨.vpc, "", entry, rfl, hentry, rfl⟩
  · split
    · rename_i vpc
      exact .bind (remember_keepsOwn (hfound vpc rfl) _) fun _ _ => .pure trivial
    · rw [hid]
      exact adoptOrCreate_keepsOwn hjournal hgenerated

end Vpc

/-! ## Gateways and subnets -/

theorem Gateway.ofZone_keepsOwn (hjournal : journal.FromNothing) {zone : String}
    (hzone : PlainZone zone) :
    KeepsOwn journal plan.clusterName
      (fun gateway => journal.Owns plan.clusterName .publicGateway gateway.id)
      (ofZone plan zone) := by
  have hname : Generates plan.clusterName .publicGateway (plan.gatewayName zone) :=
    ⟨zone, hzone, rfl⟩
  refine .bind .status fun _ _ => .bind (.ofExcept _) fun _ _ =>
    .bind (.call fun _ _ => trivial) fun found hmem => ?_
  split
  · rename_i gateway
    exact .pure (hjournal.owns_of_found hmem rfl hname)
  · refine .bind .status fun _ _ => .bind (.ofExcept _) fun _ _ =>
      .bind (.call fun reply hmem => ?_) fun gateway hmem =>
      .bind (Ownership.mark_keepsOwn _ _ _) fun _ _ => .pure (Trace.owns_of_made hmem rfl hname)
    cases reply with
    | answer gateway => exact Trace.owns_of_made hmem rfl hname
    | error source => trivial
    | aborted => trivial

namespace Subnets

variable {role : Role} {subnet : Desired.Subnet}

/-- The subnet is not declared by its ID, and only a generated name leads to it. -/
structure Undeclared (cluster : String) (subnet : Desired.Subnet) : Prop where
  id : given? subnet.id = none
  name : ∀ name, given? subnet.name = some name → Generates cluster .subnet name
  zone : ∀ name zone, given? subnet.name = some name → given? subnet.zone = some zone →
    PlainZone zone

theorem observe_keepsOwn {live : Cloud.Subnet} (h : journal.Owns cluster .subnet live.id) :
    KeepsOwn journal cluster (fun _ => True) (observe role subnet live) :=
  .bind (.put h) fun _ _ => .pure trivial

theorem create_keepsOwn (hjournal : journal.FromNothing) {zone : String} (hzone : PlainZone zone)
    (hname : Generates plan.clusterName .subnet name) :
    KeepsOwn journal plan.clusterName (fun _ => True) (create plan role name zone) :=
  .bind .status fun _ _ => .bind (.ofExcept _) fun _ _ =>
    .bind (Gateway.ofZone_keepsOwn hjournal hzone) fun _ hgateway => .bind .status fun _ _ =>
    .bind (.ofExcept _) fun _ _ => .bind (.call fun _ _ => hgateway) fun _ hmem =>
    .bind (.put (Trace.owns_of_made hmem rfl hname)) fun _ _ =>
    .bind (Ownership.mark_keepsOwn _ _ _) fun _ _ => .pure trivial

theorem resolve_keepsOwn (hjournal : journal.FromNothing) (h : Undeclared plan.clusterName subnet) :
    KeepsOwn journal plan.clusterName (fun _ => True) (resolve plan role subnet) := by
  simp only [resolve, findOrCreate, h.id]
  split
  · exact .fail _
  · rename_i name hname
    refine .bind (.call fun _ _ => trivial) fun found hmem => ?_
    split
    · rename_i live
      exact observe_keepsOwn (hjournal.owns_of_found hmem rfl (h.name name hname))
    · split
      · exact .fail _
      · rename_i zone hzone
        exact create_keepsOwn hjournal (h.zone name zone hname hzone) (h.name name hname)

theorem settle_keepsOwn (hjournal : journal.FromNothing) (h : Undeclared plan.clusterName subnet) :
    KeepsOwn journal plan.clusterName (fun _ => True) (settle plan role subnet) := by
  refine .bind .status fun s hs => ?_
  split
  · exact resolve_keepsOwn hjournal h
  · rename_i entry hentry
    split
    · exact .pure trivial
    · split
      · exact resolve_keepsOwn hjournal h
      · refine .bind (.call fun _ _ => trivial) fun found hmem => ?_
        split
        · rename_i live
          obtain ⟨hid, -⟩ : live.id = entry.id ∧ live.id ≠ "" := hjournal.truthful _ hmem
          refine observe_keepsOwn (hid ▸ hs .subnet (by simp) _ ?_)
          -- Without an ID only a name leads to an entry.
          unfold remembered? at hentry
          split at hentry
          · exact ⟨.subnets role, _, entry, rfl, hentry, rfl⟩
          · simp [h.id] at hentry
        · exact resolve_keepsOwn hjournal h

theorem settleAll_keepsOwn (hjournal : journal.FromNothing) {subnets : List Desired.Subnet}
    (h : ∀ subnet ∈ subnets, Undeclared plan.clusterName subnet) :
    KeepsOwn journal plan.clusterName (fun _ => True) (settleAll plan role subnets) := by
  induction subnets with
  | nil => exact .pure trivial
  | cons subnet rest ih =>
    obtain ⟨hone, hothers⟩ := List.forall_mem_cons.1 h
    exact .bind (settle_keepsOwn hjournal hone) fun _ _ =>
      .bind (ih hothers) fun _ _ => .pure trivial

/-- The words before a zone in generated names are in none of the zones that are listed. -/
def PlainZones (journal : Trace) : Prop :=
  ∀ region zones, ⟨.listZones region, .answer zones⟩ ∈ journal → ∀ zone ∈ zones, PlainZone zone

theorem generated_keepsOwn (hzones : PlainZones journal) :
    KeepsOwn journal plan.clusterName
      (fun generated => ∀ subnet ∈ generated, Undeclared plan.clusterName subnet)
      (generated plan) := by
  have hzonal : ∀ zone, PlainZone zone → Undeclared plan.clusterName
      { id := none, name := some (plan.subnetName zone), zone := some zone } := by
    refine fun zone hzone => ⟨rfl, fun name hname => ⟨zone, hzone, ?_⟩, fun _ other _ hother => ?_⟩
    · exact (Option.some_inj.1 (given?_eq_some.1 hname).1).symm
    · exact Option.some_inj.1 (given?_eq_some.1 hother).1 ▸ hzone
  unfold generated zonal
  dsimp only
  split
  · refine .bind (.call fun _ _ => trivial) fun zones hmem => ?_
    split
    · exact .fail _
    · refine .pure fun subnet hsubnet => ?_
      obtain ⟨zone, hzone, rfl⟩ := List.mem_map.1 hsubnet
      exact hzonal zone (hzones _ _ hmem zone hzone)
  · exact .pure (by simp)

theorem step_keepsOwn (hjournal : journal.FromNothing) (hzones : PlainZones journal)
    (hnothing : ∀ role, ∀ subnet ∈ plan.spec.network.subnets role,
      given? subnet.id = none ∧ given? subnet.name = none) :
    KeepsOwn journal plan.clusterName (fun _ => True) (step plan) := by
  refine .bind (generated_keepsOwn hzones) fun generated hgenerated => ?_
  have hwanted : ∀ role, ∀ subnet ∈ wanted (plan.spec.network.subnets role) generated,
      Undeclared plan.clusterName subnet := by
    intro role subnet hmem
    unfold wanted at hmem
    split at hmem
    · exact hgenerated subnet hmem
    · obtain ⟨hid, hname⟩ := hnothing role subnet hmem
      exact ⟨hid, by simp [hname], by simp [hname]⟩
  exact .bind (.attempt (settleAll_keepsOwn hjournal (hwanted .controlPlane))) fun _ _ =>
    .bind (.attempt (settleAll_keepsOwn hjournal (hwanted .worker))) fun _ _ =>
    .bind (.ofExcept _) fun _ _ => .bind (.ofExcept _) fun _ _ => .pure trivial

end Subnets

end Pass

/-! ## The pass -/

/-- For the VPC and the subnets, neither an ID nor a name is declared. -/
structure Plan.DeclaresNothing (plan : Plan) : Prop where
  vpcId : Pass.Vpc.declaredId? plan = none
  vpcName : plan.spec.network.vpc.bind (·.name) = none
  subnets : ∀ role, ∀ subnet ∈ plan.spec.network.subnets role,
    given? subnet.id = none ∧ given? subnet.name = none

theorem Pass.standard_keepsOwn {journal : Trace} {plan : Plan} (hjournal : journal.FromNothing)
    (hzones : Subnets.PlainZones journal) (hnothing : plan.DeclaresNothing) :
    KeepsOwn journal plan.clusterName (fun _ => True) (standard plan) :=
  standard_of_steps (fun _ => .pure trivial) (fun h hnext => h.bind fun a _ => hnext a)
    (.of_does (ResourceGroups.step_does plan) (by simp) (by simp) (by simp))
    (Vpc.step_keepsOwn hjournal hnothing.vpcId hnothing.vpcName)
    (.of_does (Image.step_does plan) (by simp) (by simp) (by simp))
    (Subnets.step_keepsOwn hjournal hzones hnothing.subnets)
    (.of_does (Groups.step_does plan) (by simp) (by simp) (by simp))
    (.of_does (LoadBalancers.step_does plan) (by simp) (by simp) (by simp))

end VpcOperator
