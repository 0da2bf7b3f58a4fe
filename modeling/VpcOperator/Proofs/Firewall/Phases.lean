import VpcOperator.Proofs.Firewall.Redundant

/-! # The two phases of the security groups

All declared groups are identified before any rule is looked at. As soon as one
of them has to be created, the rules wait for another pass.
-/

namespace VpcOperator.Pass.Groups

open Cloud (Reply)
open Observed (Status)
open Rules (Identified)

variable {plan : Plan} {group : Desired.SecurityGroup} {groups : List Desired.SecurityGroup}
  {found : Identified} {s s' : Status} {t before after : Trace} {exchange : Exchange}

/-! ## Identifying one group -/

/-- The status with a group that was looked up, kept under its declared name or else its own. -/
def keep (s : Status) (group : Desired.SecurityGroup) (live : Cloud.SecurityGroup) : Status :=
  s.put .securityGroups ((given? group.name).getD live.name)
    { id := live.id, name := live.name, ready := true }

/-- The group is there: it was remembered, or was looked up by its declared ID, or else by name. -/
inductive Resolved (group : Desired.SecurityGroup) (s : Status) : Trace → Identified → Status → Prop
  | remembered {entry : Observed.Entry} :
      remembered? s group = some entry → entry.id ≠ "" →
      Resolved group s [] ⟨entry.id, entry.name, group.rules⟩ s
  | byId {id : String} {live : Cloud.SecurityGroup} :
      given? group.id = some id →
      Resolved group s [⟨.getSecurityGroup id, .answer (some live)⟩]
        ⟨live.id, live.name, group.rules⟩ (keep s group live)
  | byName {name : String} {live : Cloud.SecurityGroup} :
      given? group.id = none → given? group.name = some name →
      Resolved group s [⟨.findSecurityGroup name, .answer (some live)⟩]
        ⟨live.id, live.name, group.rules⟩ (keep s group live)

/-- Without an ID, the group was looked up by name and not found, so it was asked for to be
created. -/
inductive Created (plan : Plan) (group : Desired.SecurityGroup) (s : Status) :
    Trace → Except Failure Identified → Status → Prop
  | intro {name : String} {rest : Trace} {r : Except Failure Identified} {s' : Status} :
      given? group.id = none → given? group.name = some name →
      (create plan name group.rules).Runs s rest r s' →
      Created plan group s (⟨.findSecurityGroup name, .answer none⟩ :: rest) r s'

/-- What identifying a group can come to; if it fails before anything is created, it has only
looked. -/
theorem identify_cases {r : Except Failure (Identified × Bool)}
    (hrun : (identify plan group).Runs s t r s') :
    (∃ found, r = .ok (found, false) ∧ Resolved group s t found s') ∨
    (∃ result, r = result.map (·, true) ∧ Created plan group s t result s') ∨
    ∃ e, r = .error e ∧ s' = s ∧ t.ChangesNothing := by
  have hobserve : ∀ {live rest}, (observe group live >>= fun one => pure (one, false)).Runs s rest r s' →
      rest = [] ∧ r = .ok (⟨live.id, live.name, group.rules⟩, false) ∧ s' = keep s group live :=
    fun h => runs_pure.1 h
  rw [identify, runs_status_bind] at hrun
  split at hrun
  · rename_i entry hentry
    obtain ⟨hentry, hid⟩ := Option.filter_eq_some_iff.1 hentry
    obtain ⟨rfl, rfl, rfl⟩ := runs_pure.1 hrun
    exact .inl ⟨_, rfl, .remembered hentry (of_decide_eq_true hid)⟩
  · unfold resolve at hrun
    split at hrun
    · rename_i id hid
      rcases runs_call_bind.1 hrun with ⟨answer, rest, rfl, hrest⟩ | ⟨reply, e, rfl, -, rfl, rfl⟩
      · split at hrest
        · obtain ⟨rfl, rfl, rfl⟩ := hobserve hrest
          exact .inl ⟨_, rfl, .byId hid⟩
        · obtain ⟨rfl, rfl, rfl⟩ := runs_fail.1 hrest
          exact .inr (.inr ⟨_, rfl, rfl, by simp⟩)
      · exact .inr (.inr ⟨_, rfl, rfl, by simp⟩)
    · rename_i hid
      split at hrun
      · obtain ⟨rfl, rfl, rfl⟩ := runs_fail.1 hrun
        exact .inr (.inr ⟨_, rfl, rfl, by simp⟩)
      · rename_i name hname
        rcases runs_call_bind.1 hrun with ⟨answer, rest, rfl, hrest⟩ | ⟨reply, e, rfl, -, rfl, rfl⟩
        · split at hrest
          · obtain ⟨rfl, rfl, rfl⟩ := hobserve hrest
            exact .inl ⟨_, rfl, .byName hid hname⟩
          · obtain ⟨result, rfl, hcreate⟩ := runs_bind_pure.1 hrest
            exact .inr (.inl ⟨result, rfl, .intro hid hname hcreate⟩)
        · exact .inr (.inr ⟨_, rfl, rfl, by simp⟩)

/-- What creating a group can come to: it fails before or with the request to create it, or else the
group is kept, and then tagged. -/
theorem create_cases {name : String} {rules : List Desired.Rule} {r : Except Failure Identified}
    (hrun : (create plan name rules).Runs s t r s') :
    (t = [] ∧ s' = s ∧ ∃ e, r = .error e) ∨
    (∃ prototype reply, prototype.name = name ∧ t = [⟨.createSecurityGroup prototype, reply⟩] ∧
      s' = s ∧ ∃ e, r = .error e) ∨
    ∃ prototype live tags, prototype.name = name ∧
      t = ⟨.createSecurityGroup prototype, .answer live⟩ :: tags ∧
      s' = s.put .securityGroups name { id := live.id, name, ready := true } ∧
      (∀ exchange ∈ tags, exchange.request.kind = .tag) ∧
      ∀ found, r = .ok found → found = ⟨live.id, name, rules⟩ := by
  rw [create, runs_status_bind] at hrun
  rcases runs_bind.1 hrun with ⟨vpcId, mid, t₁, t₂, rfl, hvpc, hrest⟩ | ⟨e, rfl, hvpc⟩
  · obtain ⟨rfl, -, rfl⟩ := runs_ofExcept.1 hvpc
    rw [runs_status_bind] at hrest
    rcases runs_bind.1 hrest with ⟨groupId, mid, t₂, t₃, rfl, hgroup, hcreate⟩ | ⟨e, rfl, hgroup⟩
    · obtain ⟨rfl, -, rfl⟩ := runs_ofExcept.1 hgroup
      rcases runs_call_bind.1 hcreate with ⟨live, tags, rfl, hlast⟩ | ⟨reply, e, rfl, -, rfl, rfl⟩
      · rw [runs_update_bind] at hlast
        obtain ⟨result, rfl, hmark⟩ := runs_bind_pure.1 hlast
        refine .inr (.inr ⟨_, live, tags, rfl, rfl, Ownership.mark_quiet _ _ _ _ hmark,
          fun exchange hmem => ?_, fun found hfound => ?_⟩)
        · have hasks := (Ownership.mark_does _ _ _ _ hmark).asks exchange hmem
          rw [ite_self] at hasks
          exact List.mem_singleton.1 hasks
        · cases result with
          | ok value => cases hfound; rfl
          | error e => cases hfound
      · exact .inr (.inl ⟨_, reply, rfl, rfl, rfl, e, rfl⟩)
    · obtain ⟨rfl, -, rfl⟩ := runs_ofExcept.1 hgroup
      exact .inl ⟨rfl, rfl, e, rfl⟩
  · obtain ⟨rfl, -, rfl⟩ := runs_ofExcept.1 hvpc
    exact .inl ⟨rfl, rfl, e, rfl⟩

/-! ## Identifying all groups -/

inductive AllResolved :
    List Desired.SecurityGroup → Status → Trace → List Identified → Status → Prop
  | nil (s : Status) : AllResolved [] s [] [] s
  | cons {group : Desired.SecurityGroup} {rest : List Desired.SecurityGroup} {one : Identified}
      {others : List Identified} {s mid s' : Status} {first last : Trace} :
      Resolved group s first one mid → AllResolved rest mid last others s' →
      AllResolved (group :: rest) s (first ++ last) (one :: others) s'

theorem identifyAll_resolved {found : List Identified}
    (hrun : (identifyAll plan groups).Runs s t (.ok (found, false)) s') :
    AllResolved groups s t found s' := by
  induction groups generalizing s t found with
  | nil =>
    obtain ⟨rfl, ⟨⟩, rfl⟩ := runs_pure_ok.1 hrun
    exact .nil s'
  | cons group rest ih =>
    obtain ⟨⟨one, created⟩, mid, t₁, t₂, rfl, hone, hrest⟩ := runs_bind_ok.1 hrun
    obtain ⟨⟨others, anyCreated⟩, mid', t₂, t₃, rfl, hothers, hend⟩ := runs_bind_ok.1 hrest
    obtain ⟨rfl, hpair, rfl⟩ := runs_pure_ok.1 hend
    simp only [Prod.mk.injEq, Bool.false_eq, Bool.or_eq_false_iff] at hpair
    obtain ⟨rfl, rfl, rfl⟩ := hpair
    rw [List.append_nil]
    rcases identify_cases hone with ⟨_, ⟨⟩, hresolved⟩ | ⟨result, hresult, -⟩ | ⟨e, he, -⟩
    · exact .cons hresolved (ih hothers)
    · cases result <;> cases hresult
    · cases he

theorem Resolved.changes_nothing (h : Resolved group s t found s') : t.ChangesNothing := by
  cases h <;> simp

theorem AllResolved.changes_nothing {found : List Identified}
    (h : AllResolved groups s t found s') : t.ChangesNothing := by
  induction h with
  | nil s => simp
  | cons hone _ ih => exact Trace.changesNothing_append.2 ⟨hone.changes_nothing, ih⟩

theorem identifyAll_no_rules {r : Except Failure (List Identified × Bool)}
    (hrun : (identifyAll plan groups).Runs s t r s') :
    ∀ exchange ∈ t, exchange.request.kind ≠ .securityGroupRule := by
  intro exchange hmem hkind
  have hasks := (identifyAll_does plan groups hrun).asks exchange hmem
  rw [hkind, ite_self] at hasks
  simp at hasks

/-! ## The step -/

/-- The step either creates groups or sees to rules, and it sees to them once all groups are
there. -/
structure Phased (plan : Plan) (s : Status) (t : Trace) (r : Except Failure Outcome) : Prop where
  creating : ∀ prototype reply, ⟨.createSecurityGroup prototype, reply⟩ ∈ t →
    (∀ exchange ∈ t, exchange.request.kind ≠ .securityGroupRule) ∧
      (r = .ok .requeue ∨ ∃ e, r = .error e)
  enforcing : ∀ before exchange after, t = before ++ exchange :: after →
    exchange.request.kind = .securityGroupRule →
    ∃ first rest found mid, before = first ++ rest ∧
      AllResolved plan.spec.network.securityGroups s first found mid

theorem step_phased {r : Except Failure Outcome} (hrun : (step plan).Runs s t r s') :
    Phased plan s t r := by
  have hends : ∀ {result}, (r = .ok .requeue ∨ ∃ e, r = .error e) →
      (identifyAll plan plan.spec.network.securityGroups).Runs s t result s' → Phased plan s t r := by
    intro result hr hall
    refine ⟨fun _ _ _ => ⟨identifyAll_no_rules hall, hr⟩, ?_⟩
    rintro before exchange after rfl hkind
    exact absurd hkind (identifyAll_no_rules hall exchange (by simp))
  rcases step_cases hrun with ⟨e, hr, hall⟩ | ⟨found, hr, hall⟩ |
    ⟨found, first, rest, result, rfl, hr, hall, henforce⟩
  · exact hends (.inr ⟨e, hr⟩) hall
  · exact hends (.inl hr) hall
  · have hresolved := identifyAll_resolved hall
    refine ⟨fun prototype reply hmem => ?_, fun before exchange after ht hkind => ?_⟩
    · rcases List.mem_append.1 hmem with hmem | hmem
      · cases hresolved.changes_nothing _ hmem
      · have hasks := (Rules.enforceAll_does _ _ henforce).asks _ hmem
        simp at hasks
    · have hnot : exchange ∉ first := fun hmem => identifyAll_no_rules hall exchange hmem hkind
      obtain ⟨between, rfl, -⟩ := Trace.append_eq_split_of_not_mem ht hnot
      exact ⟨first, between, found, s', rfl, hresolved⟩

/-- The group "g" has been found before, the group "h" is new. -/
def pairPlan : Plan :=
  onlyGroups [onlyGroup [.any], { id := none, name := some "h", rules := [] }]

def pairStart : Status :=
  (groupStart.putResourceGroup ⟨"1", none⟩).put .vpc "" ⟨"2", "v", true⟩

def pairTrace : Trace :=
  [⟨.findSecurityGroup "h", .answer none⟩,
    ⟨.createSecurityGroup ⟨"h", "2", "1"⟩, .answer { id := "5", name := "h", crn := "crn" }⟩,
    ⟨.listTags, .answer ["a"]⟩,
    ⟨.attachTag "a" "crn", .answer ()⟩]

/-- The rules of "g" wait for the next pass, which begins with them. -/
theorem step_phased_pair :
    (∃ s', (step pairPlan).Runs pairStart pairTrace (.ok .requeue) s' ∧
      Phased pairPlan pairStart pairTrace (.ok .requeue)) ∧
    ∃ r s', (step pairPlan).Runs (pairStart.put .securityGroups "h" ⟨"5", "h", true⟩)
        [⟨.listRules "4", .aborted⟩] r s' ∧
      Phased pairPlan (pairStart.put .securityGroups "h" ⟨"5", "h", true⟩)
        [⟨.listRules "4", .aborted⟩] r := by
  have hfirst : ∃ s', (step pairPlan).Runs pairStart pairTrace (.ok .requeue) s' :=
    ⟨_, .ask (.ask (.ask (.ask (.done _))))⟩
  have hnext : ∃ r s', (step pairPlan).Runs (pairStart.put .securityGroups "h" ⟨"5", "h", true⟩)
      [⟨.listRules "4", .aborted⟩] r s' :=
    ⟨_, _, .ask (.done _)⟩
  obtain ⟨s', hfirst⟩ := hfirst
  obtain ⟨r, s'', hnext⟩ := hnext
  exact ⟨⟨s', hfirst, step_phased hfirst⟩, r, s'', hnext, step_phased hnext⟩

end VpcOperator.Pass.Groups
