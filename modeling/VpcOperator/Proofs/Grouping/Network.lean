import Mathlib.Data.List.Nodup
import VpcOperator.Proofs.Provenance.Steps

/-! # The network's resource group

The groups are resolved by name, and a reference that is remembered is taken
over unless its name tells it apart from the declared one. The cluster's own
reference bears no such check: where the network is to share the cluster's
group, it is taken over whatever group it is for.
-/

namespace VpcOperator

open Observed (GroupReference Status)

/-! ## The groups of an account -/

/-- The resource groups of an account. Each has a name of its own. -/
structure Cloud.GroupDirectory where
  groups : List Cloud.ResourceGroup
  distinct : (groups.map (·.name)).Nodup

/-- How the group is remembered. -/
def Cloud.ResourceGroup.reference (group : Cloud.ResourceGroup) : GroupReference :=
  { id := group.id, name := some group.name }

namespace Cloud.GroupDirectory

variable {directory : GroupDirectory} {name : String} {group : ResourceGroup}
  {reference : GroupReference}

def named? (directory : GroupDirectory) (name : String) : Option ResourceGroup :=
  directory.groups.find? (·.name = name)

theorem named?_name (h : directory.named? name = some group) : group.name = name := by
  simpa using List.find?_some h

theorem named?_of_mem (h : group ∈ directory.groups) : directory.named? group.name = some group := by
  cases hfound : directory.named? group.name with
  | none => simpa using List.find?_eq_none.1 hfound group h
  | some other =>
    have hother := List.mem_of_find?_eq_some hfound
    exact congrArg some (List.inj_on_of_nodup_map directory.distinct hother h (named?_name hfound))

/-- The reference is for one of the groups. -/
def Has (directory : GroupDirectory) (reference : GroupReference) : Prop :=
  ∃ group ∈ directory.groups, reference = group.reference

theorem has_of_named? (h : directory.named? name = some group) : directory.Has group.reference :=
  ⟨group, List.mem_of_find?_eq_some h, rfl⟩

theorem Has.named? (h : directory.Has reference) (hname : reference.name = some name) :
    ∃ group, directory.named? name = some group ∧ reference = group.reference := by
  obtain ⟨group, hmem, rfl⟩ := h
  obtain rfl : group.name = name := Option.some.inj hname
  exact ⟨group, named?_of_mem hmem, rfl⟩

/-- What is remembered of resource groups is for groups of the account. -/
structure Knows (directory : GroupDirectory) (s : Status) : Prop where
  cluster : ∀ reference, s.resourceGroup = some reference → directory.Has reference
  network : ∀ reference, s.networkGroup? = some reference → directory.Has reference

end Cloud.GroupDirectory

/-- What is listed under a name are groups of that name. -/
def Exchange.ListsGroups (directory : Cloud.GroupDirectory) : Exchange → Prop
  | ⟨.listResourceGroups name, .answer listed⟩ => ∀ group ∈ listed, directory.named? name = some group
  | _ => True

def Trace.ListsGroups (directory : Cloud.GroupDirectory) (t : Trace) : Prop :=
  ∀ exchange ∈ t, exchange.ListsGroups directory

theorem Trace.listsGroups_append {directory : Cloud.GroupDirectory} {first rest : Trace} :
    ListsGroups directory (first ++ rest) ↔
      ListsGroups directory first ∧ ListsGroups directory rest := by
  simp [ListsGroups, or_imp, forall_and]

namespace Pass.ResourceGroups

variable {directory : Cloud.GroupDirectory} {plan : Plan} {name : String} {s s' : Status} {t : Trace}

theorem resolve_named {reference : GroupReference} (hrun : (resolve name).Runs s t (.ok reference) s')
    (hlists : t.ListsGroups directory) :
    ∃ group, directory.named? name = some group ∧ reference = group.reference := by
  obtain ⟨group, rfl, rfl⟩ := resolve_answered hrun
  exact ⟨group, hlists _ (List.mem_singleton_self _) group (List.mem_singleton_self _), rfl⟩

/-- The cluster's group is remembered. -/
def ClusterKnown (s : Status) : Prop :=
  ∃ reference, s.resourceGroup = some reference ∧ reference.id ≠ ""

/-- The network's group is remembered, by this name. -/
def NetworkKnown (s : Status) (name : String) : Prop :=
  ∃ reference, s.networkGroup? = some reference ∧ reference.id ≠ "" ∧ reference.name = some name

/-- A reference that is remembered is kept, and otherwise the group is resolved by name. -/
theorem settleCluster_settles (hrun : (settleCluster plan).Runs s t (.ok ()) s')
    (hlists : t.ListsGroups directory) :
    (ClusterKnown s ∧ s' = s) ∨
      ¬ ClusterKnown s ∧ ∃ group, directory.named? plan.resourceGroupName = some group ∧
        s' = s.putResourceGroup group.reference := by
  rw [settleCluster, runs_status_bind] at hrun
  split at hrun
  · rename_i hknown
    obtain ⟨-, -, rfl⟩ := runs_pure_ok.1 hrun
    exact .inl ⟨by simpa [ClusterKnown, Option.any_eq_true] using hknown, rfl⟩
  · rename_i hknown
    obtain ⟨reference, mid, first, rest, rfl, hresolve, hput⟩ := runs_bind_ok.1 hrun
    obtain rfl := (resolve_quiet _ hresolve).symm
    obtain ⟨-, -, rfl⟩ := runs_update.1 hput
    obtain ⟨group, hgroup, rfl⟩ := resolve_named hresolve (Trace.listsGroups_append.1 hlists).1
    refine .inr ⟨?_, group, hgroup, rfl⟩
    simpa [ClusterKnown, Option.any_eq_true] using hknown

theorem settleCluster_networkGroup {r : Except Failure Unit}
    (hrun : (settleCluster plan).Runs s t r s') : s'.networkGroup? = s.networkGroup? :=
  ((settleCluster_does plan hrun).writes .networkGroup (by simp)).networkGroup?

/-- A reference of the declared name is kept, and otherwise the group is resolved, unless it is to be
the cluster's. -/
theorem settleNetwork_settles (hname : given? plan.spec.network.resourceGroup = some name)
    (hrun : (settleNetwork plan).Runs s t (.ok ()) s') (hlists : t.ListsGroups directory) :
    (NetworkKnown s name ∧ s' = s) ∨
      ¬ NetworkKnown s name ∧ ∃ reference, s' = s.putNetworkGroup reference ∧
        ((name = plan.resourceGroupName ∧ s.resourceGroup = some reference) ∨
          (name = plan.resourceGroupName → s.resourceGroup = none) ∧
            ∃ group, directory.named? name = some group ∧ reference = group.reference) := by
  rw [settleNetwork, hname] at hrun
  dsimp only at hrun
  rw [runs_status_bind] at hrun
  split at hrun
  · rename_i hknown
    obtain ⟨-, -, rfl⟩ := runs_pure_ok.1 hrun
    exact .inl ⟨by simpa [NetworkKnown, Option.any_eq_true] using hknown, rfl⟩
  · rename_i hknown
    obtain ⟨reference, mid, first, rest, rfl, hreference, hput⟩ := runs_bind_ok.1 hrun
    obtain rfl := (networkReference_quiet _ _ _ hreference).symm
    obtain ⟨-, -, rfl⟩ := runs_update.1 hput
    have hlists := (Trace.listsGroups_append.1 hlists).1
    refine .inr ⟨by simpa [NetworkKnown, Option.any_eq_true] using hknown, reference, rfl, ?_⟩
    unfold networkReference at hreference
    split at hreference
    · split at hreference
      · rename_i hcluster
        obtain ⟨-, rfl, -⟩ := runs_pure_ok.1 hreference
        exact .inl ⟨‹_›, hcluster⟩
      · rename_i hnone
        exact .inr ⟨fun _ => hnone, resolve_named hreference hlists⟩
    · rename_i hother
      exact .inr ⟨fun hsame => absurd hsame hother, resolve_named hreference hlists⟩

theorem settleCluster_failed {e : Failure} (hrun : (settleCluster plan).Runs s t (.error e) s') :
    s' = s := by
  rw [settleCluster, runs_status_bind] at hrun
  split at hrun
  · cases (runs_pure.1 hrun).2.1
  · rcases runs_bind.1 hrun with ⟨_, _, _, _, _, _, hput⟩ | ⟨_, -, hresolve⟩
    · cases (runs_update.1 hput).2.1
    · exact resolve_quiet _ hresolve

theorem settleNetwork_failed {e : Failure} (hrun : (settleNetwork plan).Runs s t (.error e) s') :
    s' = s := by
  unfold settleNetwork at hrun
  split at hrun
  · cases (runs_pure.1 hrun).2.1
  · rw [runs_status_bind] at hrun
    split at hrun
    · cases (runs_pure.1 hrun).2.1
    · rcases runs_bind.1 hrun with ⟨_, _, _, _, _, _, hput⟩ | ⟨_, -, hreference⟩
      · cases (runs_update.1 hput).2.1
      · exact networkReference_quiet _ _ _ hreference

/-- A group that is not settled is left as it was. -/
theorem step_runs {r : Except Failure Outcome} (hrun : (step plan).Runs s t r s') :
    (∃ e, r = .error e ∧ s' = s) ∨
      ∃ mid first rest, t = first ++ rest ∧ (settleCluster plan).Runs s first (.ok ()) mid ∧
        ((∃ e, r = .error e ∧ s' = mid) ∨
          r = .ok .ready ∧ (settleNetwork plan).Runs mid rest (.ok ()) s') := by
  rcases runs_bind.1 hrun with ⟨_, mid, first, rest, rfl, hcluster, hrest⟩ | ⟨e, rfl, hcluster⟩
  · refine .inr ⟨mid, first, rest, rfl, hcluster, ?_⟩
    obtain ⟨result, rfl, hnetwork⟩ := runs_bind_pure.1 hrest
    cases result with
    | ok _ => exact .inr ⟨rfl, hnetwork⟩
    | error e => exact .inl ⟨e, rfl, settleNetwork_failed hnetwork⟩
  · exact .inl ⟨e, rfl, settleCluster_failed hcluster⟩

theorem step_ok_runs {outcome : Outcome} (hrun : (step plan).Runs s t (.ok outcome) s') :
    ∃ mid first rest, t = first ++ rest ∧ (settleCluster plan).Runs s first (.ok ()) mid ∧
      (settleNetwork plan).Runs mid rest (.ok ()) s' := by
  rcases step_runs hrun with ⟨e, he, -⟩ | ⟨mid, first, rest, ht, hcluster, ⟨e, he, -⟩ | ⟨-, hnetwork⟩⟩
  · cases he
  · cases he
  · exact ⟨mid, first, rest, ht, hcluster, hnetwork⟩

/-- The network is to share the cluster's group, but what is remembered as that is another group, and
the network's reference is yet to be taken from there. -/
structure Strays (plan : Plan) (s : Status) : Prop where
  shared : given? plan.spec.network.resourceGroup = some plan.resourceGroupName
  other : ∃ reference, s.resourceGroup = some reference ∧ reference.id ≠ "" ∧
    reference.name ≠ some plan.resourceGroupName
  unknown : ¬ NetworkKnown s plan.resourceGroupName

theorem Strays.name_eq (h : Strays plan s)
    (hname : given? plan.spec.network.resourceGroup = some name) : plan.resourceGroupName = name :=
  Option.some.inj (h.shared.symm.trans hname)

/-- The cluster's reference is for the group of its name, unless it has been remembered for another. -/
theorem settleCluster_reference {reference : GroupReference} (hknows : directory.Knows s)
    (hrun : (settleCluster plan).Runs s t (.ok ()) s') (hlists : t.ListsGroups directory)
    (hreference : s'.resourceGroup = some reference) :
    (∃ group, directory.named? plan.resourceGroupName = some group ∧ reference = group.reference) ∨
      s.resourceGroup = some reference ∧ reference.id ≠ "" ∧
        reference.name ≠ some plan.resourceGroupName := by
  rcases settleCluster_settles hrun hlists with ⟨⟨own, hown, hid⟩, rfl⟩ | ⟨-, group, hgroup, rfl⟩
  · obtain rfl : own = reference := Option.some.inj (hown.symm.trans hreference)
    by_cases hname : own.name = some plan.resourceGroupName
    · exact .inl ((hknows.cluster own hown).named? hname)
    · exact .inr ⟨hown, hid, hname⟩
  · cases hreference
    exact .inl ⟨group, hgroup, rfl⟩

/-- The network gets the group that has been remembered for the cluster. -/
theorem step_strays {outcome : Outcome} (hstrays : Strays plan s)
    (hrun : (step plan).Runs s t (.ok outcome) s') (hlists : t.ListsGroups directory) :
    s'.networkGroup? = s.resourceGroup := by
  obtain ⟨mid, first, rest, rfl, hcluster, hnetwork⟩ := step_ok_runs hrun
  obtain ⟨hfirst, hrest⟩ := Trace.listsGroups_append.1 hlists
  obtain ⟨other, hother, hid, -⟩ := hstrays.other
  rcases settleCluster_settles hcluster hfirst with ⟨-, rfl⟩ | ⟨hunknown, -⟩
  · rcases settleNetwork_settles hstrays.shared hnetwork hrest with
      ⟨hknown, -⟩ | ⟨-, reference, rfl, ⟨-, hreference⟩ | ⟨hnone, -⟩⟩
    · exact absurd hknown hstrays.unknown
    · exact hreference.symm
    · cases hother.symm.trans (hnone rfl)
  · exact absurd ⟨other, hother, hid⟩ hunknown

theorem step_settles {outcome : Outcome} (hstays : ¬ Strays plan s)
    (hname : given? plan.spec.network.resourceGroup = some name) (hknows : directory.Knows s)
    (hrun : (step plan).Runs s t (.ok outcome) s') (hlists : t.ListsGroups directory) :
    ∃ group, directory.named? name = some group ∧ s'.networkGroup? = some group.reference := by
  obtain ⟨mid, first, rest, rfl, hcluster, hnetwork⟩ := step_ok_runs hrun
  obtain ⟨hfirst, hrest⟩ := Trace.listsGroups_append.1 hlists
  have hsame := settleCluster_networkGroup hcluster
  rcases settleNetwork_settles hname hnetwork hrest with
    ⟨hknown, rfl⟩ | ⟨hunknown, reference, rfl, ⟨rfl, hreference⟩ | ⟨-, group, hgroup, rfl⟩⟩
  · -- it is remembered by the declared name
    obtain ⟨reference, hreference, -, hrefname⟩ := hknown
    obtain ⟨group, hgroup, rfl⟩ := (hknows.network reference (hsame ▸ hreference)).named? hrefname
    exact ⟨group, hgroup, hreference⟩
  · rcases settleCluster_reference hknows hcluster hfirst hreference with ⟨group, hgroup, rfl⟩ | hother
    · exact ⟨group, hgroup, rfl⟩
    · rw [NetworkKnown, hsame] at hunknown
      exact absurd ⟨hname, ⟨reference, hother⟩, hunknown⟩ hstays
  · exact ⟨group, hgroup, rfl⟩

/-- The network's group is the declared one, unless it strays to the cluster's. -/
theorem network_is_declared_iff {outcome : Outcome}
    (hname : given? plan.spec.network.resourceGroup = some name)
    (hknows : directory.Knows s) (hrun : (step plan).Runs s t (.ok outcome) s')
    (hlists : t.ListsGroups directory) :
    (∃ group, directory.named? name = some group ∧ s'.networkGroup? = some group.reference) ↔
      ¬ Strays plan s := by
  refine ⟨?_, fun hstays => step_settles hstays hname hknows hrun hlists⟩
  rintro ⟨group, hgroup, hreference⟩ hstrays
  obtain ⟨other, hother, -, hothername⟩ := hstrays.other
  rw [step_strays hstrays hrun hlists, hother] at hreference
  cases hreference
  rw [hstrays.name_eq hname] at hothername
  exact hothername (congrArg some (Cloud.GroupDirectory.named?_name hgroup))

/-! ## What is known stays known -/

theorem settleCluster_knows (hknows : directory.Knows s)
    (hrun : (settleCluster plan).Runs s t (.ok ()) s') (hlists : t.ListsGroups directory) :
    directory.Knows s' := by
  rcases settleCluster_settles hrun hlists with ⟨-, rfl⟩ | ⟨-, group, hgroup, rfl⟩
  · exact hknows
  · refine ⟨?_, hknows.network⟩
    rintro reference ⟨⟩
    exact Cloud.GroupDirectory.has_of_named? hgroup

theorem settleNetwork_undeclared (hnone : given? plan.spec.network.resourceGroup = none)
    (hrun : (settleNetwork plan).Runs s t (.ok ()) s') : s' = s := by
  rw [settleNetwork, hnone] at hrun
  exact (runs_pure.1 hrun).2.2

theorem settleNetwork_knows (hknows : directory.Knows s)
    (hrun : (settleNetwork plan).Runs s t (.ok ()) s') (hlists : t.ListsGroups directory) :
    directory.Knows s' := by
  cases hname : given? plan.spec.network.resourceGroup with
  | none =>
    obtain rfl := settleNetwork_undeclared hname hrun
    exact hknows
  | some name =>
    rcases settleNetwork_settles hname hrun hlists with ⟨-, rfl⟩ | ⟨-, reference, rfl, hreference⟩
    · exact hknows
    · refine ⟨hknows.cluster, ?_⟩
      rintro _ ⟨⟩
      rcases hreference with ⟨-, hcluster⟩ | ⟨-, group, hgroup, rfl⟩
      · exact hknows.cluster _ hcluster
      · exact Cloud.GroupDirectory.has_of_named? hgroup

theorem step_knows {r : Except Failure Outcome} (hknows : directory.Knows s)
    (hrun : (step plan).Runs s t r s') (hlists : t.ListsGroups directory) : directory.Knows s' := by
  rcases step_runs hrun with ⟨e, -, rfl⟩ | ⟨mid, first, rest, rfl, hcluster, hrest⟩
  · exact hknows
  · obtain ⟨hfirst, hlast⟩ := Trace.listsGroups_append.1 hlists
    have hmid := settleCluster_knows hknows hcluster hfirst
    rcases hrest with ⟨e, -, rfl⟩ | ⟨-, hnetwork⟩
    · exact hmid
    · exact settleNetwork_knows hmid hnetwork hlast

theorem step_failed {e : Failure} (hrun : (step plan).Runs s t (.error e) s') :
    s'.networkGroup? = s.networkGroup? := by
  rcases step_runs hrun with ⟨_, -, rfl⟩ | ⟨mid, first, rest, -, hcluster, ⟨_, -, rfl⟩ | ⟨hok, -⟩⟩
  · rfl
  · exact settleCluster_networkGroup hcluster
  · cases hok

theorem step_undeclared {outcome : Outcome}
    (hnone : given? plan.spec.network.resourceGroup = none)
    (hrun : (step plan).Runs s t (.ok outcome) s') : s'.networkGroup? = s.networkGroup? := by
  obtain ⟨mid, first, rest, -, hcluster, hnetwork⟩ := step_ok_runs hrun
  obtain rfl := settleNetwork_undeclared hnone hnetwork
  exact settleCluster_networkGroup hcluster

/-! ### A network that changes its group -/

def sharedDirectory : Cloud.GroupDirectory where
  groups := [⟨"1", "a"⟩, ⟨"2", "b"⟩, ⟨"3", "c"⟩]
  distinct := by decide

/-- The network is to be in the group `b`. -/
def networkedPlan (resourceGroupName : String) : Plan :=
  { Plan.bare "a" with
    resourceGroupName
    spec := { (Plan.bare "a").spec with
              resourceGroup := resourceGroupName
              network := { Desired.Network.empty with resourceGroup := some "b" } } }

/-- The cluster has been in the group `a` so far, and its network in `c`. -/
def movedStatus : Status :=
  (Status.empty.putResourceGroup ⟨"1", some "a"⟩).putNetworkGroup ⟨"3", some "c"⟩

theorem movedStatus_known : sharedDirectory.Knows movedStatus := by
  constructor
  · rintro reference ⟨⟩
    exact ⟨⟨"1", "a"⟩, by decide, rfl⟩
  · rintro reference ⟨⟩
    exact ⟨⟨"3", "c"⟩, by decide, rfl⟩

def movingTrace : Trace :=
  [⟨.listResourceGroups "b", .answer [⟨"2", "b"⟩]⟩]

theorem movingTrace_lists : movingTrace.ListsGroups sharedDirectory :=
  List.forall_mem_singleton.2 (List.forall_mem_singleton.2 (by decide))

theorem movingTrace_runs : (step (networkedPlan "a")).Runs movedStatus movingTrace (.ok .ready)
    (movedStatus.putNetworkGroup ⟨"2", some "b"⟩) :=
  .ask (.done _)

/-- With the cluster in `a`, the network moves from `c` to `b`. -/
theorem network_is_declared_iff_moved :
    given? (networkedPlan "a").spec.network.resourceGroup = some "b" ∧
    sharedDirectory.Knows movedStatus ∧ movingTrace.ListsGroups sharedDirectory ∧
    (step (networkedPlan "a")).Runs movedStatus movingTrace (.ok .ready)
      (movedStatus.putNetworkGroup ⟨"2", some "b"⟩) ∧
    ¬ Strays (networkedPlan "a") movedStatus := by
  refine ⟨rfl, movedStatus_known, movingTrace_lists, movingTrace_runs, ?_⟩
  exact (network_is_declared_iff rfl movedStatus_known movingTrace_runs movingTrace_lists).1
    ⟨⟨"2", "b"⟩, by decide, rfl⟩

/-- With the cluster to be in `b` as well, the network gets the group `a` that is remembered for the
cluster. -/
theorem shared_network_strays :
    given? (networkedPlan "b").spec.network.resourceGroup = some "b" ∧
    sharedDirectory.Knows movedStatus ∧
    (step (networkedPlan "b")).Runs movedStatus [] (.ok .ready)
      (movedStatus.putNetworkGroup ⟨"1", some "a"⟩) ∧
    sharedDirectory.named? "b" = some ⟨"2", "b"⟩ ∧
    (movedStatus.putNetworkGroup ⟨"1", some "a"⟩).networkGroup? ≠
      some (Cloud.ResourceGroup.reference ⟨"2", "b"⟩) :=
  ⟨rfl, movedStatus_known, .done _, by decide, by decide⟩

end Pass.ResourceGroups

end VpcOperator
