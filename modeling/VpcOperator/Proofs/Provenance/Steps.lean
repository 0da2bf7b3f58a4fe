import VpcOperator.Proofs.Provenance.Basic

/-! # Progress of the steps

Every write of a step is traced back to the exchange it follows. Load balancers
that are known to be active are not asked for again; their entries are put as
they are.
-/

namespace VpcOperator

open Observed (Status Shelf Entry BalancerEntry GroupReference)
open Desired (Role)

theorem Observed.Entry.shows_isAvailable (id name : String) (state : ResourceState) :
    Entry.Shows { id, name, ready := state.isAvailable } id state :=
  ⟨rfl, fun hready => of_decide_eq_true hready⟩

theorem Observed.Entry.shows_unready (id name : String) (state : ResourceState) :
    Entry.Shows { id, name, ready := false } id state :=
  ⟨rfl, fun hready => nomatch hready⟩

namespace Pass

variable {plan : Plan} {past : Trace} {s s' : Status} {t : Trace}

/-! ## The VPC and the image -/

theorem Vpc.create_after (plan : Plan) : Always (After past) (create plan) :=
  .bind .status fun _ => .bind (.ofExcept _) fun _ => After.call_bind fun _ =>
    .bind (After.puts List.mem_concat_self (Entry.shows_unready _ _ _)) fun _ =>
    .bind (After.of_quiet (Ownership.mark_quiet plan _ _ _)) fun _ => .pure _

theorem Vpc.step_after (plan : Plan) : Always (After past) (step plan) := by
  have hobserve : ∀ {past : Trace} {vpc : Cloud.Vpc} {id : String},
      ⟨.getVpc id, .answer (some vpc)⟩ ∈ past → Always (After past) (observe vpc) := fun hmem =>
    .bind (After.puts hmem (Entry.shows_isAvailable _ _ _)) fun _ => .pure _
  have hlookUp : ∀ {remembered s t found s'},
      (lookUp remembered).Runs s t (.ok found) s' → ∀ vpc, found = some vpc →
        ∃ id, ⟨.getVpc id, .answer (some vpc)⟩ ∈ t := by
    rintro (_ | id) s t found s' hrun vpc rfl
    · cases (runs_pure_ok.1 hrun).2.1
    · obtain ⟨rfl, -⟩ := runs_call_ok.1 hrun
      exact ⟨id, List.mem_cons_self⟩
  refine .bind .status fun s => After.bind_found (lookUp_quiet _) hlookUp fun found t hfound => ?_
  split
  · obtain ⟨id, hmem⟩ := hfound _ rfl
    exact hobserve (List.mem_append_right _ hmem)
  · split
    · refine After.call_bind fun found => ?_
      split
      · exact .bind (After.puts List.mem_concat_self (Entry.shows_unready _ _ _)) fun _ => .pure _
      · exact create_after plan
    · refine After.call_bind fun found => ?_
      split
      · exact hobserve List.mem_concat_self
      · exact .fail _

theorem Image.create_after (plan : Plan) (image : Desired.Image) :
    Always (After past) (create plan image) := by
  have hneed : ∀ field value, Always (After past) (need image field value) :=
    fun field value => After.of_quiet (need_quiet image field value)
  exact .bind (hneed _ _) fun _ => .bind (hneed _ _) fun _ => .bind (hneed _ _) fun _ =>
    .bind (hneed _ _) fun _ => .bind (After.of_quiet (resourceGroupId_quiet plan image)) fun _ =>
    After.call_bind fun _ =>
    .bind (After.puts List.mem_concat_self (Entry.shows_unready _ _ _)) fun _ =>
    .bind (After.of_quiet (Ownership.mark_quiet plan _ _ _)) fun _ => .pure _

theorem Image.step_after (plan : Plan) : Always (After past) (step plan) := by
  have hobserve : ∀ {past : Trace} {image : Cloud.Image} {exchange : Exchange}, exchange ∈ past →
      (∀ entry : Entry, entry.Shows image.id image.state → exchange.Backs .image "" entry) →
      Always (After past) (observe image) := fun hmem hbacks =>
    .bind (After.puts hmem (hbacks _ (Entry.shows_isAvailable _ _ _))) fun _ => .pure _
  have hfindByName : ∀ {name s t found s'},
      (findByName name).Runs s t (.ok found) s' → ∀ image, found = some image →
        ⟨.findImage name, .answer (some image)⟩ ∈ t := by
    rintro name s t found s' hrun image rfl
    unfold findByName at hrun
    split at hrun
    · cases (runs_pure_ok.1 hrun).2.1
    · obtain ⟨rfl, -⟩ := runs_call_ok.1 hrun
      exact List.mem_cons_self
  have hfindOrCreate : ∀ name, Always (After past) (findOrCreate plan name) := by
    intro name
    refine After.bind_found (findByName_quiet _) hfindByName fun found t hfound => ?_
    split
    · exact hobserve (List.mem_append_right _ (hfound _ rfl)) fun _ hshows => hshows
    · split
      · exact create_after plan _
      · exact .fail _
  refine .bind .status fun s => ?_
  dsimp only
  split
  · exact .pure _
  · split
    · exact hfindOrCreate _
    · split
      · exact .pure _
      · refine After.call_bind fun found => ?_
        split
        · exact hobserve List.mem_concat_self fun _ hshows => hshows
        · exact .fail _

/-! ## Subnets -/

theorem Subnets.create_after (plan : Plan) (role : Role) (name zone : String) :
    Always (After past) (create plan role name zone) :=
  .bind .status fun _ => .bind (.ofExcept _) fun _ =>
    .bind (After.of_quiet (Gateway.ofZone_quiet plan zone)) fun _ => .bind .status fun _ =>
    .bind (.ofExcept _) fun _ => After.call_bind fun _ =>
    .bind (After.puts List.mem_concat_self ⟨rfl, Entry.shows_unready _ _ _⟩) fun _ =>
    .bind (After.of_quiet (Ownership.mark_quiet plan _ _ _)) fun _ => .pure _

theorem Subnets.settleAll_after (plan : Plan) (role : Role) (subnets : List Desired.Subnet) :
    Always (After past) (settleAll plan role subnets) := by
  have hobserve : ∀ {past : Trace} {subnet : Desired.Subnet} {live : Cloud.Subnet} {exchange},
      exchange ∈ past →
      (∀ entry : Entry, entry.Shows live.id live.state →
        exchange.Backs (.subnets role) ((given? subnet.name).getD live.name) entry) →
      Always (After past) (observe role subnet live) := fun hmem hbacks =>
    .bind (After.puts hmem (hbacks _ (Entry.shows_isAvailable _ _ _))) fun _ => .pure _
  have hfindOrCreate : ∀ {past : Trace} subnet,
      Always (After past) (findOrCreate plan role subnet) := by
    intro past subnet
    unfold findOrCreate
    split
    · exact .fail _
    · rename_i name hname
      refine After.call_bind fun found => ?_
      split
      · refine hobserve List.mem_concat_self fun entry hshows => ⟨?_, hshows⟩
        rw [hname]
        rfl
      · split
        · exact .fail _
        · exact create_after plan role _ _
  have hresolve : ∀ {past : Trace} subnet, Always (After past) (resolve plan role subnet) := by
    intro past subnet
    unfold resolve
    split
    · exact hfindOrCreate subnet
    · refine After.call_bind fun found => ?_
      split
      · exact hobserve List.mem_concat_self fun _ hshows => hshows
      · exact .fail _
  have hsettle : ∀ subnet, Always (After past) (settle plan role subnet) := by
    intro subnet
    refine .bind .status fun s => ?_
    split
    · exact hresolve subnet
    · split
      · exact .pure _
      · split
        · exact hresolve subnet
        · refine After.call_bind fun found => ?_
          split
          · exact hobserve List.mem_concat_self fun _ hshows => hshows
          · exact hresolve subnet
  induction subnets with
  | nil => exact .pure _
  | cons subnet rest ih => exact .bind (hsettle subnet) fun _ => .bind ih fun _ => .pure _

/-- What one role has settled stays in the status, whatever becomes of the other. -/
theorem Subnets.step_after (plan : Plan) : Always (After past) (step plan) :=
  .bind (After.of_quiet (generated_quiet plan)) fun _ =>
    .bind (.attempt (settleAll_after plan _ _)) fun _ =>
    .bind (.attempt (settleAll_after plan _ _)) fun _ =>
    .bind (.ofExcept _) fun _ => .bind (.ofExcept _) fun _ => .pure _

/-! ## Security groups -/

theorem Groups.identifyAll_after (plan : Plan) (groups : List Desired.SecurityGroup) :
    Always (After past) (identifyAll plan groups) := by
  have hobserve : ∀ {past : Trace} {group : Desired.SecurityGroup} {live : Cloud.SecurityGroup}
      {exchange}, exchange ∈ past →
      (∀ entry : Entry, entry.id = live.id →
        exchange.Backs .securityGroups ((given? group.name).getD live.name) entry) →
      Always (After past) (observe group live) := fun hmem hbacks =>
    .bind (After.puts hmem (hbacks _ rfl)) fun _ => .pure _
  have hcreate : ∀ {past : Trace} name rules, Always (After past) (create plan name rules) :=
    fun name rules => .bind .status fun _ => .bind (.ofExcept _) fun _ => .bind .status fun _ =>
      .bind (.ofExcept _) fun _ => After.call_bind fun _ =>
      .bind (After.puts List.mem_concat_self ⟨rfl, rfl⟩) fun _ =>
      .bind (After.of_quiet (Ownership.mark_quiet plan _ _ _)) fun _ => .pure _
  have hresolve : ∀ group, Always (After past) (resolve plan group) := by
    intro group
    unfold resolve
    split
    · refine After.call_bind fun found => ?_
      split
      · exact .bind (hobserve List.mem_concat_self fun _ hid => hid) fun _ => .pure _
      · exact .fail _
    · split
      · exact .fail _
      · rename_i name hname
        refine After.call_bind fun found => ?_
        split
        · refine .bind (hobserve List.mem_concat_self fun entry hid => ⟨?_, hid⟩) fun _ => .pure _
          rw [hname]
          rfl
        · exact .bind (hcreate _ _) fun _ => .pure _
  induction groups with
  | nil => exact .pure _
  | cons group rest ih =>
    refine .bind (.bind .status fun s => ?_) fun _ => .bind ih fun _ => .pure _
    split
    · exact .pure _
    · exact hresolve group

theorem Groups.step_after (plan : Plan) : Always (After past) (step plan) := by
  refine .bind (identifyAll_after plan _) fun found => ?_
  dsimp only
  split
  · exact .pure _
  · exact .bind (After.of_quiet (Rules.enforceAll_quiet _ _)) fun _ => .pure _

/-! ## Resource groups -/

theorem ResourceGroups.resolve_backs {name : String} {reference : GroupReference}
    (hrun : (resolve name).Runs s t (.ok reference) s') :
    ∃ exchange ∈ t, exchange.BacksReference reference := by
  obtain ⟨group, rfl, rfl⟩ := resolve_answered hrun
  exact ⟨_, List.mem_singleton_self _, group, List.mem_singleton_self _, rfl⟩

theorem ResourceGroups.settleCluster_after (plan : Plan) :
    Always (After past) (settleCluster plan) := by
  refine .bind .status fun s => ?_
  split
  · exact .pure _
  · refine After.bind_found (resolve_quiet _) resolve_backs fun reference t hbacked => ?_
    obtain ⟨exchange, hmem, hbacks⟩ := hbacked
    refine .update fun s hkeyed => ⟨hkeyed.frame ?_, ?_⟩
    · exact Status.writes_putResourceGroup s reference .balancers (by simp)
    · rw [List.append_nil]
      exact .putResourceGroup s ⟨exchange, List.mem_append_right _ hmem, hbacks⟩

theorem ResourceGroups.networkReference_quiet (plan : Plan) (s : Status) (name : String) :
    Always Quiet (networkReference plan s name) := by
  unfold networkReference
  split
  · split
    · exact .pure _
    · exact resolve_quiet name
  · exact resolve_quiet name

theorem ResourceGroups.networkReference_backs {name : String} {before : Status}
    {reference : GroupReference}
    (hrun : (networkReference plan before name).Runs s t (.ok reference) s') :
    (∃ exchange ∈ t, exchange.BacksReference reference) ∨ before.resourceGroup = some reference := by
  unfold networkReference at hrun
  split at hrun
  · split at hrun
    · obtain ⟨-, rfl, -⟩ := runs_pure_ok.1 hrun
      exact .inr ‹_›
    · exact .inl (resolve_backs hrun)
  · exact .inl (resolve_backs hrun)

theorem ResourceGroups.settleNetwork_after (plan : Plan) :
    Always (After past) (settleNetwork plan) := by
  unfold settleNetwork
  split
  · exact .pure _
  · rename_i name hname
    intro s t r s' hrun
    rw [runs_status_bind] at hrun
    split at hrun
    · exact Always.pure _ hrun
    · refine After.bind_run (networkReference_quiet plan s name) (fun hfirst hput => ?_) hrun
      obtain ⟨rfl, -, rfl⟩ := runs_update.1 hput
      refine fun hkeyed => ⟨hkeyed.frame ?_, ?_⟩
      · exact Status.writes_putNetworkGroup s _ .balancers (by simp)
      · rw [List.append_nil]
        refine .putNetworkGroup s ((networkReference_backs hfirst).imp_left ?_)
        exact fun ⟨exchange, hmem, hbacks⟩ => ⟨exchange, List.mem_append_right _ hmem, hbacks⟩

theorem ResourceGroups.step_after (plan : Plan) : Always (After past) (step plan) :=
  .bind (settleCluster_after plan) fun _ => .bind (settleNetwork_after plan) fun _ => .pure _

/-! ## Load balancers -/

namespace LoadBalancers

variable {balancer : Desired.LoadBalancer} {live : Cloud.LoadBalancer}

theorem findByName_ok_some (hrun : (findByName balancer).Runs s t (.ok (some live)) s') :
    ∃ exchange ∈ t, exchange.balancer? = some live := by
  unfold findByName at hrun
  split at hrun
  · simp at hrun
  · obtain ⟨rfl, -⟩ := runs_call_ok.1 hrun
    exact ⟨_, List.mem_cons_self, rfl⟩

theorem lookUp_ok_some {entry : Option BalancerEntry}
    (hrun : (lookUp balancer entry).Runs s t (.ok (some live)) s') :
    ∃ exchange ∈ t, exchange.balancer? = some live := by
  unfold lookUp at hrun
  split at hrun
  · obtain ⟨found, rest, rfl, hrest⟩ := runs_call_bind_ok.1 hrun
    split at hrest
    · obtain ⟨-, hlive, -⟩ := runs_pure_ok.1 hrest
      cases hlive
      exact ⟨_, List.mem_cons_self, rfl⟩
    · simp at hrest
  · split at hrun
    · exact findByName_ok_some hrun
    · obtain ⟨found, rest, rfl, hrest⟩ := runs_call_bind_ok.1 hrun
      split at hrest
      · obtain ⟨-, hlive, -⟩ := runs_pure_ok.1 hrest
        cases hlive
        exact ⟨_, List.mem_cons_self, rfl⟩
      · obtain ⟨exchange, hmem, hbalancer⟩ := findByName_ok_some hrest
        exact ⟨exchange, List.mem_cons_of_mem _ hmem, hbalancer⟩

/-- The load balancer was answered, or it is what an entry says. -/
def Sourced (t : Trace) (s : Status) (live : Cloud.LoadBalancer) : Prop :=
  (∃ exchange ∈ t, exchange.balancer? = some live) ∨
    ∃ entry, s.balancer? entry.id = some entry ∧ live = ofEntry entry

theorem Sourced.mono (h : Sourced t s live) (hsub : t ⊆ past) : Sourced past s live := by
  rcases h with ⟨exchange, hmem, hlive⟩ | hentry
  · exact .inl ⟨exchange, hsub hmem, hlive⟩
  · exact .inr hentry

theorem find_sourced (hkeyed : s.KeyedById)
    (hrun : (find balancer).Runs s t (.ok (some live)) s') : Sourced t s live := by
  rw [find, runs_status_bind] at hrun
  dsimp only at hrun
  split at hrun
  · rename_i entry hentry
    obtain ⟨-, hlive, -⟩ := runs_pure_ok.1 hrun
    cases hlive
    have hremembered : remembered? s balancer = some entry :=
      (Option.filter_eq_some_iff.1 hentry).1
    refine .inr ⟨entry, hkeyed.balancer?_id ?_, rfl⟩
    unfold remembered? at hremembered
    split at hremembered
    · exact Status.mem_balancers_of_balancer? hremembered
    · exact List.mem_of_find?_eq_some hremembered
  · exact .inl (lookUp_ok_some hrun)

theorem observe_after {created : Bool} {exchange : Exchange} (hmem : exchange ∈ past)
    (hlive : exchange.balancer? = some live) : Always (After past) (observe live created) := by
  refine .update fun s hkeyed => ⟨hkeyed.putBalancer _, ?_⟩
  rw [List.append_nil]
  exact .putBalancer s (.inl ⟨exchange, hmem, live, hlive, rfl, rfl, rfl⟩)

/-- An entry that is put again is the same as before, the mark of its creation included. -/
theorem observe_ofEntry {entry : BalancerEntry} {r : Except Failure Unit}
    (hentry : s.balancer? entry.id = some entry)
    (hrun : (observe (ofEntry entry) false).Runs s t r s') : After past s t s' := by
  obtain ⟨rfl, -, rfl⟩ := runs_update.1 hrun
  refine fun hkeyed => ⟨hkeyed.putBalancer _, .putBalancer s (.inr ?_)⟩
  simp [ofEntry, hentry]

theorem settleFound_after {r : Except Failure Outcome}
    (h : Sourced past s live) (hrun : (settleFound live).Runs s t r s') : After past s t s' := by
  have hobserve : ∀ {t r s'}, (observe live false).Runs s t r s' → After past s t s' := by
    intro t r s' hrun
    rcases h with ⟨exchange, hmem, hlive⟩ | ⟨entry, hentry, rfl⟩
    · exact observe_after hmem hlive hrun
    · exact observe_ofEntry hentry hrun
  refine Always.bind_run hobserve (fun _ => ?_) hrun
  split
  · exact .fail _
  · exact .pure _

theorem create_after (plan : Plan) (balancer : Desired.LoadBalancer) :
    Always (After past) (create plan balancer) := by
  refine .bind .status fun s => ?_
  dsimp only
  split
  · exact .fail _
  · exact .bind .status fun _ => .bind (.ofExcept _) fun _ =>
      .bind (After.of_quiet (securityGroupIds_quiet balancer _)) fun _ => After.call_bind fun live =>
      .bind (observe_after List.mem_concat_self rfl) fun _ =>
      After.of_quiet (Ownership.mark_quiet plan _ _ _)

theorem settleAll_after (plan : Plan) (balancers : List Desired.LoadBalancer) (created : Bool) :
    Always (After past) (settleAll plan balancers created) := by
  induction balancers generalizing past created with
  | nil => exact .pure _
  | cons balancer rest ih =>
    intro s t r s' hrun hkeyed
    refine After.bind_run (find_quiet balancer) (fun {found t₁ t₂} hfind hrest => ?_) hrun hkeyed
    cases found with
    | some live =>
      have hfound : Sourced (past ++ t₁) s live :=
        (find_sourced hkeyed hfind).mono (List.subset_append_right past t₁)
      exact Always.bind_run (settleFound_after hfound)
        (fun _ => .bind (ih _) fun _ => .pure _) hrest
    | none =>
      dsimp only at hrest
      split at hrest
      · exact Always.bind (ih _) (fun _ => .pure _) hrest
      · exact Always.bind (create_after plan balancer)
          (fun _ => .bind (ih _) fun _ => .pure _) hrest

theorem step_after (plan : Plan) : Always (After past) (step plan) :=
  settleAll_after plan _ _

end LoadBalancers

/-! ## The pass -/

theorem standard_after (plan : Plan) : Always (After past) (standard plan) :=
  standard_of_steps .pure .bind (ResourceGroups.step_after plan) (Vpc.step_after plan)
    (Image.step_after plan) (Subnets.step_after plan) (Groups.step_after plan)
    (LoadBalancers.step_after plan)

/-- A pass that ends in whatever way has kept all that the status held, and what differs is backed
by its answers. Where it has no answer that backs anything, all is as it was: so a creation that
failed or was aborted leaves no entry. -/
theorem standard_progress {r : Except Failure Outcome} (hkeyed : s.KeyedById)
    (hrun : (standard plan).Runs s t r s') :
    Progress s t s' ∧
      (∀ shelf name,
        (∀ exchange ∈ t, ∀ answer, exchange.reply = .answer answer →
          ∀ entry, ¬ exchange.Backs shelf name entry) →
        s'.find? shelf name = s.find? shelf name) ∧
      ∀ id, (∀ exchange ∈ t, ∀ live, exchange.balancer? = some live → live.id ≠ id) →
        s'.balancer? id = s.balancer? id := by
  obtain ⟨hkeyed', hprogress⟩ := standard_after plan hrun hkeyed
  rw [List.nil_append] at hprogress
  refine ⟨hprogress, fun shelf name hnone => ?_, fun id hnone => ?_⟩
  · refine (hprogress.entries shelf name).eq_of_unbacked fun entry _ => ?_
    rintro ⟨exchange, hmem, hbacks⟩
    obtain ⟨answer, hanswer⟩ := hbacks.answered
    exact hnone exchange hmem answer hanswer entry hbacks
  · refine (hprogress.balancers id).eq_of_unbacked fun entry hentry => ?_
    rintro ⟨exchange, hmem, live, hlive, hid, -⟩
    exact hnone exchange hmem live hlive (hid.symm.trans (hkeyed' id entry hentry))

/-- The VPC is remembered although its tag was aborted, and the load balancer is still there. -/
theorem standard_progress_first_vpc :
    let before := (Status.empty.putResourceGroup ⟨"1", none⟩).putBalancer
      { id := "2", name := "b", state := .active, hostname := none, created := true }
    let vpc : Cloud.Vpc := { id := "3", name := "a-vpc", crn := "crn", state := .pending }
    let t : Trace :=
      [⟨.findVpc "a-vpc", .answer none⟩,
        ⟨.createVpc { name := "a-vpc", resourceGroupId := "1", addressPrefixes := "auto" },
          .answer vpc⟩,
        ⟨.listTags, .aborted⟩]
    ∃ r s', before.KeyedById ∧ (standard (.bare "a")).Runs before t r s' ∧ Progress before t s' ∧
      s'.find? .vpc "" = some { id := "3", name := "a-vpc", ready := false } := by
  intro before vpc t
  have hkeyed : before.KeyedById := by
    intro id entry hentry
    rw [Status.balancer?_putBalancer] at hentry
    split at hentry
    · cases hentry
      exact Eq.symm ‹_›
    · cases hentry
  have hrun : (standard (.bare "a")).Runs before t _ _ := .ask (.ask (.ask (.done _)))
  exact ⟨_, _, hkeyed, hrun, (standard_progress hkeyed hrun).1, rfl⟩

end Pass

end VpcOperator
