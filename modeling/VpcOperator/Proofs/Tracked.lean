import VpcOperator.Proofs.Effects

/-! # Untracked resources

A resource that the account has created is tagged before anything else is made,
or the failure of the pass tells of it. There is one gap: a pass ends with one
failure, so what befell a resource of the workers is not told once the
control-plane role has failed as well.
-/

namespace VpcOperator

open Observed (Status)
open Desired (Role)

/-- What was created: under which name it was asked for, and the CRN it was answered with. -/
structure Creation where
  kind : Kind
  name : String
  crn : String

/-- Tags and rules are not resources of their own. -/
def Exchange.creation? : Exchange → Option Creation
  | ⟨.createVpc prototype, .answer vpc⟩ => some ⟨.vpc, prototype.name, vpc.crn⟩
  | ⟨.createSubnet prototype, .answer subnet⟩ => some ⟨.subnet, prototype.name, subnet.crn⟩
  | ⟨.createGateway prototype, .answer gateway⟩ =>
    some ⟨.publicGateway, prototype.name, gateway.crn⟩
  | ⟨.createSecurityGroup prototype, .answer group⟩ =>
    some ⟨.securityGroup, prototype.name, group.crn⟩
  | ⟨.createLoadBalancer prototype, .answer balancer⟩ =>
    some ⟨.loadBalancer, prototype.name, balancer.crn⟩
  | ⟨.createImage prototype, .answer image⟩ => some ⟨.customImage, prototype.name, image.crn⟩
  | _ => none

theorem Exchange.request_of_creation? {exchange : Exchange} {creation : Creation}
    (h : exchange.creation? = some creation) :
    exchange.request.changes = true ∧ exchange.request.kind = creation.kind ∧
      creation.kind ∉ [.tag, .securityGroupRule] := by
  unfold creation? at h
  split at h <;> cases h <;> simp

theorem Exchange.answered_of_creation? {exchange : Exchange} {creation : Creation}
    (h : exchange.creation? = some creation) : ∃ answer, exchange.reply = .answer answer := by
  unfold creation? at h
  split at h <;> first | exact ⟨_, rfl⟩ | cases h

namespace Trace

/-- The tag is attached before anything is done that is not about tags. -/
def TagsFirst (tag crn : String) (t : Trace) : Prop :=
  ∃ before rest, t = before ++ ⟨.attachTag tag crn, .answer ()⟩ :: rest ∧
    ∀ exchange ∈ before, exchange.request.kind = .tag

theorem TagsFirst.append {tag crn : String} {t : Trace} (h : t.TagsFirst tag crn) (rest : Trace) :
    (t ++ rest).TagsFirst tag crn := by
  obtain ⟨before, middle, rfl, hbefore⟩ := h
  exact ⟨before, middle ++ rest, by simp, hbefore⟩

end Trace

namespace Pass

variable {α β : Type} {plan : Plan} {creation : Creation} {tag : String} {s s' : Status}
  {t before after earlier : Trace} {exchange : Exchange}

/-! ## Tagging what was created -/

/-- What was created is tagged first, or the failure tells of it. -/
def Accounted (tag : String) (creation : Creation) (after : Trace) (r : Except Failure α) : Prop :=
  after.TagsFirst tag creation.crn ∨
    ∃ source, r = .error (.untagged creation.kind creation.name source)

/-- A part that ends well has tagged what it created. -/
theorem Accounted.tags_of_ok {a : α} (h : Accounted tag creation after (.ok a)) :
    after.TagsFirst tag creation.crn := by
  rcases h with htags | ⟨source, hr⟩
  · exact htags
  · cases hr

/-- A failure is passed on as it is. -/
theorem Accounted.error {e : Failure}
    (h : Accounted tag creation after (.error e : Except Failure α)) :
    Accounted tag creation after (.error e : Except Failure β) := by
  rcases h with htags | ⟨source, hr⟩
  · exact .inl htags
  · cases hr
    exact .inr ⟨source, rfl⟩

/-- The tag is attached at once, or the failure tells of the resource that has none. -/
def Marks (tag : String) (creation : Creation) (pass : Pass α) : Prop :=
  ∀ ⦃s t r s'⦄, pass.Runs s t r s' → Accounted tag creation t r

theorem Ownership.attach_ok {tag crn : String} (hrun : (attach tag crn).Runs s t (.ok ()) s') :
    t.TagsFirst tag crn := by
  obtain ⟨tags, rest, rfl, hrest⟩ := runs_call_bind_ok.1 hrun
  split at hrest
  · obtain ⟨rfl, -⟩ := runs_call_ok.1 hrest
    exact ⟨[_], [], rfl, by simp⟩
  · obtain ⟨_, last, rfl, hlast⟩ := runs_call_bind_ok.1 hrest
    obtain ⟨rfl, -⟩ := runs_call_ok.1 hlast
    exact ⟨[_, _], [], rfl, by simp⟩

theorem Marks.mark (plan : Plan) (creation : Creation) :
    Marks plan.clusterName creation
      (Ownership.mark plan creation.kind creation.name creation.crn) := by
  intro s t r s' hrun
  obtain ⟨result, rfl, hattach⟩ := runs_mapFailure.1 hrun
  cases result with
  | ok value => exact .inl (Ownership.attach_ok hattach)
  | error source => exact .inr ⟨source, rfl⟩

theorem Marks.bind {pass : Pass α} (h : Marks tag creation pass) (next : α → Pass β) :
    Marks tag creation (pass >>= next) := by
  intro s t r s' hrun
  rcases runs_bind.1 hrun with ⟨a, mid, first, rest, rfl, hfirst, -⟩ | ⟨e, rfl, hfirst⟩
  · exact .inl ((h hfirst).tags_of_ok.append rest)
  · exact (h hfirst).error

theorem Marks.update_bind {pass : Pass α} (h : Marks tag creation pass)
    (change : Status → Status) : Marks tag creation (update change >>= fun _ => pass) :=
  fun _ _ _ _ hrun => h (runs_update_bind.1 hrun)

/-! ## Accounting for what was created -/

def Accounts (plan : Plan) (pass : Pass α) : Prop :=
  ∀ ⦃s t r s'⦄, pass.Runs s t r s' → ∀ ⦃before exchange after creation⦄,
    t = before ++ exchange :: after → exchange.creation? = some creation →
      Accounted plan.clusterName creation after r

namespace Accounts

/-- Where nothing but tags and rules is made, there is nothing to account for. -/
theorem of_does {parts : List Observed.Part} {looks makes : List Kind} {pass : Pass α}
    (h : Always (Does parts looks makes) pass) (hmakes : makes ⊆ [.tag, .securityGroupRule]) :
    Accounts plan pass := by
  intro s t r s' hrun before exchange after creation ht hcreation
  obtain ⟨hchanges, hkind, hnot⟩ := exchange.request_of_creation? hcreation
  have hasks := (h hrun).asks exchange (by simp [ht])
  rw [if_pos hchanges, hkind] at hasks
  exact absurd (hmakes hasks) hnot

theorem ofExcept (result : Except Failure α) : Accounts plan (ofExcept result) :=
  of_does (Always.ofExcept (P := Does [] [] []) result) (by simp)

theorem pure (a : α) : Accounts plan (pure a) :=
  ofExcept (.ok a)

theorem fail (failure : Failure) : Accounts plan (fail failure : Pass α) :=
  ofExcept (.error failure)

theorem status : Accounts plan status :=
  of_does (Always.status (P := Does [] [] [])) (by simp)

theorem update (change : Status → Status) : Accounts plan (update change) := by
  intro s t r s' hrun before exchange after creation ht hcreation
  obtain ⟨rfl, -, -⟩ := runs_update.1 hrun
  cases before <;> cases ht

theorem bind {pass : Pass α} {next : α → Pass β} (h : Accounts plan pass)
    (hnext : ∀ a, Accounts plan (next a)) : Accounts plan (pass >>= next) := by
  intro s t r s' hrun before exchange after creation ht hcreation
  rcases runs_bind.1 hrun with ⟨a, mid, first, rest, rfl, hfirst, hrest⟩ | ⟨e, rfl, hfirst⟩
  · rcases Trace.append_eq_split ht with ⟨between, hbefore, rfl⟩ | ⟨between, rfl, hafter⟩
    · exact .inl ((h hfirst hbefore hcreation).tags_of_ok.append rest)
    · exact hnext a hrest hafter hcreation
  · exact (h hfirst ht hcreation).error

theorem look {target : String} {request : Cloud.Request} (hrequest : request.changes = false) :
    Accounts plan (call target request) := by
  have hasks : request.kind ∈ if request.changes then [] else [request.kind] := by
    rw [hrequest]
    exact List.mem_singleton_self _
  have hdoes : Always (Does [] [request.kind] []) (Pass.call target request) := .asks hasks
  exact of_does hdoes (by simp)

/-- What is created has to be tagged by all that comes after. -/
theorem create {target : String} {request : Cloud.Request} {next : request.Answer → Pass β}
    (creation : request.Answer → Creation)
    (hcreation : ∀ answer, Exchange.creation? ⟨request, .answer answer⟩ = some (creation answer))
    (hmarks : ∀ answer, Marks plan.clusterName (creation answer) (next answer))
    (hnext : ∀ answer, Accounts plan (next answer)) :
    Accounts plan (call target request >>= next) := by
  intro s t r s' hrun before exchange after made ht hmade
  rcases runs_bind.1 hrun with ⟨answer, mid, first, rest, rfl, hcall, hrest⟩ | ⟨e, rfl, hcall⟩
  · obtain ⟨rfl, rfl⟩ := runs_call_ok.1 hcall
    cases before with
    | nil =>
      obtain ⟨rfl, rfl⟩ := List.cons_eq_cons.1 ht
      rw [hcreation answer] at hmade
      cases hmade
      exact hmarks answer hrest
    | cons head before =>
      obtain ⟨rfl, hrest_eq⟩ := List.cons_eq_cons.1 ht
      exact hnext answer hrest hrest_eq hmade
  · obtain ⟨reply, rfl, hr, -⟩ := runs_call.1 hcall
    have hmem : exchange ∈ [(⟨request, reply⟩ : Exchange)] := by simp [ht]
    cases List.mem_singleton.1 hmem
    obtain ⟨answer, hreply⟩ := Exchange.answered_of_creation? hmade
    have hanswer : reply = .answer answer := hreply
    rw [hanswer] at hr
    cases hr

end Accounts

/-! ## The steps -/

theorem Ownership.mark_accounts (plan : Plan) (kind : Kind) (name crn : String) :
    Accounts plan (mark plan kind name crn) :=
  .of_does (mark_does plan kind name crn) (by simp)

theorem Vpc.create_accounts (plan : Plan) : Accounts plan (create plan) :=
  .bind .status fun _ => .bind (.ofExcept _) fun _ =>
    .create (fun vpc => ⟨.vpc, plan.vpcName, vpc.crn⟩) (fun _ => rfl)
      (fun _ => (Marks.bind (.mark plan _) _).update_bind _) fun _ =>
      .bind (.update _) fun _ => .bind (Ownership.mark_accounts plan _ _ _) fun _ => .pure _

theorem Vpc.step_accounts (plan : Plan) : Accounts plan (step plan) := by
  have hobserve : ∀ vpc, Accounts plan (observe vpc) :=
    fun vpc => .bind (.update _) fun _ => .pure _
  have hlookUp : ∀ id, Accounts plan (lookUp id) := by
    intro id
    cases id with
    | none => exact .pure _
    | some id => exact .look rfl
  refine .bind .status fun s => .bind (hlookUp _) fun found => ?_
  split
  · exact hobserve _
  · split
    · refine .bind (.look rfl) fun found => ?_
      split
      · exact .bind (.update _) fun _ => .pure _
      · exact create_accounts plan
    · refine .bind (.look rfl) fun found => ?_
      split
      · exact hobserve _
      · exact .fail _

theorem Image.create_accounts (plan : Plan) (image : Desired.Image) :
    Accounts plan (create plan image) := by
  have hneed : ∀ field value, Accounts plan (need image field value) := by
    intro field value
    unfold need
    split
    · exact .pure _
    · exact .fail _
  have hresourceGroupId : Accounts plan (resourceGroupId plan image) := by
    unfold resourceGroupId
    split
    · exact .pure _
    · split
      · exact .bind (.of_does (ResourceGroups.resolve_does _) (by simp)) fun _ => .pure _
      · exact .bind .status fun _ => .ofExcept _
  exact .bind (hneed _ _) fun _ => .bind (hneed _ _) fun _ => .bind (hneed _ _) fun _ =>
    .bind (hneed _ _) fun _ => .bind hresourceGroupId fun _ =>
    .create (fun live => ⟨.customImage, image.name, live.crn⟩) (fun _ => rfl)
      (fun _ => (Marks.bind (.mark plan _) _).update_bind _) fun _ =>
      .bind (.update _) fun _ => .bind (Ownership.mark_accounts plan _ _ _) fun _ => .pure _

theorem Image.step_accounts (plan : Plan) : Accounts plan (step plan) := by
  have hobserve : ∀ image, Accounts plan (observe image) :=
    fun image => .bind (.update _) fun _ => .pure _
  have hfindByName : ∀ name, Accounts plan (findByName name) := by
    intro name
    unfold findByName
    split
    · exact .pure _
    · exact .look rfl
  have hfindOrCreate : ∀ name, Accounts plan (findOrCreate plan name) := by
    intro name
    refine .bind (hfindByName name) fun found => ?_
    split
    · exact hobserve _
    · split
      · exact create_accounts plan _
      · exact .fail _
  refine .bind .status fun s => ?_
  dsimp only
  split
  · exact .pure _
  · split
    · exact hfindOrCreate _
    · split
      · exact .pure _
      · refine .bind (.look rfl) fun found => ?_
        split
        · exact hobserve _
        · exact .fail _

theorem Gateway.ofZone_accounts (plan : Plan) (zone : String) :
    Accounts plan (ofZone plan zone) := by
  have hcreate : ∀ resourceGroupId, Accounts plan (create plan zone resourceGroupId) :=
    fun resourceGroupId => .bind .status fun _ => .bind (.ofExcept _) fun _ =>
      .create (fun gateway => ⟨.publicGateway, plan.gatewayName zone, gateway.crn⟩) (fun _ => rfl)
        (fun _ => .bind (.mark plan _) _) fun _ =>
        .bind (Ownership.mark_accounts plan _ _ _) fun _ => .pure _
  refine .bind .status fun s => .bind (.ofExcept _) fun resourceGroupId =>
    .bind (.look rfl) fun found => ?_
  split
  · exact .pure _
  · exact hcreate _

theorem Subnets.create_accounts (plan : Plan) (role : Role) (name zone : String) :
    Accounts plan (create plan role name zone) :=
  .bind .status fun _ => .bind (.ofExcept _) fun _ =>
    .bind (Gateway.ofZone_accounts plan zone) fun _ => .bind .status fun _ =>
    .bind (.ofExcept _) fun _ =>
    .create (fun live => ⟨.subnet, name, live.crn⟩) (fun _ => rfl)
      (fun _ => (Marks.bind (.mark plan _) _).update_bind _) fun _ =>
      .bind (.update _) fun _ => .bind (Ownership.mark_accounts plan _ _ _) fun _ => .pure _

theorem Subnets.settleAll_accounts (plan : Plan) (role : Role) (subnets : List Desired.Subnet) :
    Accounts plan (settleAll plan role subnets) := by
  have hobserve : ∀ subnet live, Accounts plan (observe role subnet live) :=
    fun subnet live => .bind (.update _) fun _ => .pure _
  have hresolve : ∀ subnet, Accounts plan (resolve plan role subnet) := by
    intro subnet
    unfold resolve findOrCreate
    split
    · split
      · exact .fail _
      · refine .bind (.look rfl) fun found => ?_
        split
        · exact hobserve _ _
        · split
          · exact .fail _
          · exact create_accounts plan role _ _
    · refine .bind (.look rfl) fun found => ?_
      split
      · exact hobserve _ _
      · exact .fail _
  have hsettle : ∀ subnet, Accounts plan (settle plan role subnet) := by
    intro subnet
    refine .bind .status fun s => ?_
    split
    · exact hresolve subnet
    · split
      · exact .pure _
      · split
        · exact hresolve subnet
        · refine .bind (.look rfl) fun found => ?_
          split
          · exact hobserve _ _
          · exact hresolve subnet
  induction subnets with
  | nil => exact .pure _
  | cons subnet rest ih => exact .bind (hsettle subnet) fun _ => .bind ih fun _ => .pure _

theorem Groups.identifyAll_accounts (plan : Plan) (groups : List Desired.SecurityGroup) :
    Accounts plan (identifyAll plan groups) := by
  have hobserve : ∀ group live, Accounts plan (observe group live) :=
    fun group live => .bind (.update _) fun _ => .pure _
  have hcreate : ∀ name rules, Accounts plan (create plan name rules) := fun name rules =>
    .bind .status fun _ => .bind (.ofExcept _) fun _ => .bind .status fun _ =>
      .bind (.ofExcept _) fun _ =>
      .create (fun live => ⟨.securityGroup, name, live.crn⟩) (fun _ => rfl)
        (fun _ => (Marks.bind (.mark plan _) _).update_bind _) fun _ =>
        .bind (.update _) fun _ => .bind (Ownership.mark_accounts plan _ _ _) fun _ => .pure _
  have hresolve : ∀ group, Accounts plan (resolve plan group) := by
    intro group
    unfold resolve
    split
    · refine .bind (.look rfl) fun found => ?_
      split
      · exact .bind (hobserve _ _) fun _ => .pure _
      · exact .fail _
    · split
      · exact .fail _
      · refine .bind (.look rfl) fun found => ?_
        split
        · exact .bind (hobserve _ _) fun _ => .pure _
        · exact .bind (hcreate _ _) fun _ => .pure _
  induction groups with
  | nil => exact .pure _
  | cons group rest ih =>
    refine .bind (.bind .status fun s => ?_) fun _ => .bind ih fun _ => .pure _
    split
    · exact .pure _
    · exact hresolve group

theorem Groups.step_accounts (plan : Plan) : Accounts plan (step plan) := by
  refine .bind (identifyAll_accounts plan _) fun found => ?_
  dsimp only
  split
  · exact .pure _
  · exact .bind (.of_does (Rules.enforceAll_does _ _) (by simp)) fun _ => .pure _

theorem LoadBalancers.create_accounts (plan : Plan) (balancer : Desired.LoadBalancer) :
    Accounts plan (create plan balancer) := by
  refine .bind .status fun s => ?_
  dsimp only
  split
  · exact .fail _
  · exact .bind .status fun _ => .bind (.ofExcept _) fun _ =>
      .bind (.of_does (securityGroupIds_does balancer _) (by simp)) fun _ =>
      .create (fun live => ⟨.loadBalancer, balancer.name, live.crn⟩) (fun _ => rfl)
        (fun _ => (Marks.mark plan _).update_bind _) fun _ =>
        .bind (.update _) fun _ => Ownership.mark_accounts plan _ _ _

theorem LoadBalancers.step_accounts (plan : Plan) : Accounts plan (step plan) := by
  have hall : ∀ balancers created, Accounts plan (settleAll plan balancers created) := by
    intro balancers created
    induction balancers generalizing created with
    | nil => exact .pure _
    | cons balancer rest ih =>
      refine .bind (.of_does (find_does balancer) (by simp)) fun found => ?_
      split
      · refine .bind (.bind (.update _) fun _ => ?_) fun _ => .bind (ih _) fun _ => .pure _
        split
        · exact .fail _
        · exact .pure _
      · split
        · exact .bind (ih _) fun _ => .pure _
        · exact .bind (create_accounts plan balancer) fun _ => .bind (ih _) fun _ => .pure _
  exact hall _ _

/-! ## The two roles of subnets -/

/-- It was created for the workers, and what ended the workers' part is that it has no tag; but the
control-plane role had failed with `e` before. -/
inductive Eclipsed (plan : Plan) (creation : Creation) (e : Failure) :
    Trace → Exchange → Trace → Prop
  | intro {generated : List Desired.Subnet} {start between last : Status} {source : Failure}
      {earlier controlPlane since after : Trace} {exchange : Exchange}
      (controlPlane_fails :
        (Subnets.settleAll plan .controlPlane
          (Subnets.wanted (plan.spec.network.subnets .controlPlane) generated)).Runs
          start controlPlane (.error e) between)
      (workers_fail :
        (Subnets.settleAll plan .worker
          (Subnets.wanted (plan.spec.network.subnets .worker) generated)).Runs
          between (since ++ exchange :: after)
          (.error (.untagged creation.kind creation.name source)) last) :
      Eclipsed plan creation e (earlier ++ controlPlane ++ since) exchange after

theorem Eclipsed.preceded {e : Failure} (h : Eclipsed plan creation e before exchange after)
    (first : Trace) : Eclipsed plan creation e (first ++ before) exchange after := by
  cases h with
  | @intro _ _ _ _ _ earlier controlPlane since _ _ hcontrol hworkers =>
    have hbefore : first ++ (earlier ++ controlPlane ++ since) =
        first ++ earlier ++ controlPlane ++ since := by simp
    rw [hbefore]
    exact .intro hcontrol hworkers

/-- The failure of the control-plane role comes before that of the workers. -/
theorem Subnets.runs_both {first second r : Except Failure Outcome}
    (hrun : (ofExcept first >>= fun a => ofExcept second >>= fun b => pure (a.both b)).Runs s t r s') :
    t = [] ∧ r = (first.bind fun a => second.map a.both) ∧ s' = s := by
  cases first with
  | error e => exact runs_fail.1 hrun
  | ok a =>
    cases second with
    | error e => exact runs_fail.1 hrun
    | ok b => exact runs_pure.1 hrun

theorem Subnets.step_accounts {r : Except Failure Outcome}
    (hrun : (step plan).Runs s (before ++ exchange :: after) r s')
    (hcreation : exchange.creation? = some creation) :
    Accounted plan.clusterName creation after r ∨
      ∃ e, r = .error e ∧ Eclipsed plan creation e before exchange after := by
  have hgenerated : ∀ {s t r s'}, (generated plan).Runs s t r s' → exchange ∉ t := by
    intro s t r s' hlist hmem
    have hchanges := (generated_does plan hlist).changes_nothing exchange hmem
    rw [(exchange.request_of_creation? hcreation).1] at hchanges
    cases hchanges
  rcases runs_bind.1 hrun with ⟨generated, s₁, t₀, rest, ht, hlist, hrest⟩ | ⟨e, rfl, hlist⟩
  · obtain ⟨first, s₂, t₁, rest, rfl, hcontrol, hrest⟩ := runs_attempt_bind.1 hrest
    obtain ⟨second, s₃, t₂, t₃, rfl, hworkers, hend⟩ := runs_attempt_bind.1 hrest
    obtain ⟨rfl, rfl, -⟩ := runs_both hend
    rw [List.append_nil] at ht
    rcases Trace.append_eq_split ht.symm with ⟨between, rfl, -⟩ | ⟨b₁, rfl, hroles⟩
    · exact absurd (by simp) (hgenerated hlist)
    · rcases Trace.append_eq_split hroles with ⟨between, rfl, rfl⟩ | ⟨b₂, rfl, rfl⟩
      · rcases settleAll_accounts plan _ _ hcontrol rfl hcreation with htags | ⟨source, rfl⟩
        · exact .inl (.inl (htags.append t₂))
        · exact .inl (.inr ⟨source, rfl⟩)
      · rcases settleAll_accounts plan _ _ hworkers rfl hcreation with htags | ⟨source, rfl⟩
        · exact .inl (.inl htags)
        · cases first with
          | ok a => exact .inl (.inr ⟨source, rfl⟩)
          | error e =>
            rw [← List.append_assoc]
            exact .inr ⟨e, rfl, .intro hcontrol hworkers⟩
  · exact absurd (by simp) (hgenerated hlist)

/-- Nothing that a pass creates is left untracked in silence: it is tagged before anything else is
done, or the pass ends with the failure that tells of it, or else it is eclipsed. -/
theorem standard_accounts {r : Except Failure Outcome}
    (hrun : (standard plan).Runs s (before ++ exchange :: after) r s')
    (hcreation : exchange.creation? = some creation) :
    after.TagsFirst plan.clusterName creation.crn ∨
      (∃ source, r = .error (.untagged creation.kind creation.name source)) ∨
      ∃ e, r = .error e ∧ Eclipsed plan creation e before exchange after := by
  obtain ⟨step, -, earlier, first, start, outcome, stop, last, rest, rfl, rfl, hstep, hend⟩ :=
    runs_runSteps_exchange hrun
  have haccounts : Accounted plan.clusterName creation last outcome ∨
      ∃ e, outcome = .error e ∧ Eclipsed plan creation e first exchange last := by
    cases step with
    | resourceGroups =>
      exact .inl (Accounts.of_does (ResourceGroups.step_does plan) (by simp) hstep rfl hcreation)
    | vpc => exact .inl (Vpc.step_accounts plan hstep rfl hcreation)
    | image => exact .inl (Image.step_accounts plan hstep rfl hcreation)
    | subnets => exact Subnets.step_accounts hstep hcreation
    | securityGroups => exact .inl (Groups.step_accounts plan hstep rfl hcreation)
    | loadBalancers => exact .inl (LoadBalancers.step_accounts plan hstep rfl hcreation)
  rcases haccounts with (htags | ⟨source, rfl⟩) | ⟨e, rfl, heclipsed⟩
  · exact .inl (htags.append rest)
  · rcases hend with ⟨a, ha⟩ | ⟨-, rfl⟩
    · cases ha
    · exact .inr (.inl ⟨source, rfl⟩)
  · rcases hend with ⟨a, ha⟩ | ⟨rfl, rfl⟩
    · cases ha
    · rw [List.append_nil]
      exact .inr (.inr ⟨e, rfl, heclipsed.preceded earlier⟩)

/-! ## A subnet of the workers that is left untracked -/

/-- The control plane's subnet names no zone that it could be created in. -/
def zonelessPlan : Plan :=
  { clusterName := "a", resourceGroupName := "a"
    spec := { region := "r", resourceGroup := "", image := none, apiServerPort := none
              network :=
                { Desired.Network.empty with
                  controlPlaneSubnets := [{ id := none, name := some "c", zone := none }]
                  workerSubnets := [{ id := none, name := some "w", zone := some "z" }] } } }

/-- What leads up to the subnet of the workers: the zone has a gateway already. -/
def zonelessBefore : Trace :=
  [⟨.getVpc "2", .answer (some { id := "2", name := "v", crn := "", state := .available })⟩,
    ⟨.findSubnet "c", .answer none⟩,
    ⟨.findSubnet "w", .answer none⟩,
    ⟨.findGateway (zonelessPlan.gatewayName "z") "1",
      .answer (some { id := "3", name := "", crn := "", zone := "z", state := .available })⟩]

def zonelessCreation : Exchange :=
  ⟨.createSubnet { name := "w", vpcId := "2", zone := "z", resourceGroupId := "1", gatewayId := "3",
                   ipVersion := "ipv4", addressCount := 256 },
    .answer { id := "4", name := "w", crn := "crn", zone := "z", cidr := none, state := .pending }⟩

theorem zonelessPlan_runs :
    ∃ s', (standard zonelessPlan).Runs
      ((Status.empty.putResourceGroup ⟨"1", none⟩).put .vpc "" ⟨"2", "v", true⟩)
      (zonelessBefore ++ zonelessCreation :: [⟨.listTags, .aborted⟩])
      (.error (.precondition .subnet "c" "a zone is required to create the subnet")) s' :=
  ⟨_, .ask (.ask (.ask (.ask (.ask (.ask (.done _))))))⟩

theorem standard_accounts_zoneless :
    ∃ s' failure,
      (standard zonelessPlan).Runs
        ((Status.empty.putResourceGroup ⟨"1", none⟩).put .vpc "" ⟨"2", "v", true⟩)
        (zonelessBefore ++ zonelessCreation :: [⟨.listTags, .aborted⟩]) (.error failure) s' ∧
      zonelessCreation.creation? = some ⟨.subnet, "w", "crn"⟩ ∧
      Eclipsed zonelessPlan ⟨.subnet, "w", "crn"⟩ failure zonelessBefore zonelessCreation
        [⟨.listTags, .aborted⟩] := by
  obtain ⟨s', hrun⟩ := zonelessPlan_runs
  have hcreation : zonelessCreation.creation? = some ⟨.subnet, "w", "crn"⟩ := rfl
  refine ⟨s', _, hrun, hcreation, ?_⟩
  rcases standard_accounts hrun hcreation with ⟨before, rest, hafter, -⟩ | htold | ⟨e, he, h⟩
  · have hmem : (⟨.attachTag "a" "crn", .answer ()⟩ : Exchange) ∈
        ([⟨.listTags, .aborted⟩] : Trace) := by
      rw [hafter]
      exact List.mem_append_right _ List.mem_cons_self
    simp at hmem
  · simp at htold
  · cases he
    exact h

/-- The failure tells of the control plane's subnet only, though the workers' has no tag. -/
theorem untracked_in_silence :
    ∃ s' creation failure,
      (standard zonelessPlan).Runs
        ((Status.empty.putResourceGroup ⟨"1", none⟩).put .vpc "" ⟨"2", "v", true⟩)
        (zonelessBefore ++ zonelessCreation :: [⟨.listTags, .aborted⟩]) (.error failure) s' ∧
      zonelessCreation.creation? = some creation ∧
      (∀ exchange ∈ ([⟨.listTags, .aborted⟩] : Trace),
        exchange.request ≠ .attachTag zonelessPlan.clusterName creation.crn) ∧
      ∀ source, failure ≠ .untagged creation.kind creation.name source := by
  obtain ⟨s', hrun⟩ := zonelessPlan_runs
  exact ⟨s', _, _, hrun, rfl, by simp, by simp⟩

end Pass

end VpcOperator
