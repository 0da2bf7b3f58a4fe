import VpcOperator.Proofs.Grouping.Network
import VpcOperator.Proofs.Images.Creation

/-! # The resource group of an image

An image is created in its own resource group, else in the network's, else in
the cluster's. The network's is what the passes so far have made of it: it is
the one that was declared last, also when the plan no longer declares any.
-/

namespace VpcOperator

open Observed (GroupReference Status)

/-! ## The network's group, pass after pass -/

/-- What the network's reference is after a group of this name was settled on, or none. -/
def Cloud.GroupDirectory.Stands (directory : GroupDirectory) (name : Option String)
    (before after : Option GroupReference) : Prop :=
  match name with
  | some name => ∃ group, directory.named? name = some group ∧ after = some group.reference
  | none => after = before

theorem Cloud.GroupDirectory.Stands.trans {directory : GroupDirectory} {first second : Option String}
    {before mid after : Option GroupReference} (h₁ : directory.Stands first before mid)
    (h₂ : directory.Stands second mid after) : directory.Stands (second.or first) before after := by
  cases second with
  | some name => exact h₂
  | none =>
    obtain rfl : after = mid := h₂
    exact h₁

/-- The pass has got beyond the resource groups: it goes on with the VPC. -/
def Trace.goesOn (t : Trace) : Bool :=
  t.any fun exchange => exchange.request.kind = .vpc

theorem Trace.goesOn_iff {t : Trace} :
    t.goesOn = true ↔ ∃ exchange ∈ t, exchange.request.kind = .vpc := by
  simp only [goesOn, List.any_eq_true, decide_eq_true_eq]

/-- The network's resource group that a pass settles on, if it declares one and gets so far. -/
def Plan.settledName? (plan : Plan) (t : Trace) : Option String :=
  if t.goesOn then given? plan.spec.network.resourceGroup else none

/-- The network's resource group that the passes have last settled on. -/
def History.networkName? : History → Option String
  | [] => none
  | (plan, t) :: later => (networkName? later).or (plan.settledName? t)

/-- In the last pass that has settled on a group for the network, that group strays to the
cluster's. -/
def History.Strays (s : Status) (history : History) : Prop :=
  ∃ earlier plan t mid, ∃ later : History,
    history = earlier ++ (plan, t) :: later ∧ later.networkName? = none ∧
      Passes s earlier mid ∧ Pass.ResourceGroups.Strays plan mid ∧ t.goesOn = true

namespace Pass

variable {directory : Cloud.GroupDirectory} {plan : Plan} {s s' : Status} {t : Trace}
  {r : Except Failure Outcome}

theorem Vpc.step_goesOn (hrun : (Vpc.step plan).Runs s t r s') : t.goesOn = true := by
  have hlooks : ∀ {α : Type} {target : String} {request : Cloud.Request}
      {next : request.Answer → Pass α} {r : Except Failure α}, request.kind = .vpc →
      (call target request >>= next).Runs s t r s' → t.goesOn = true := by
    intro α target request next r hkind hcall
    rcases runs_call_bind.1 hcall with ⟨answer, rest, rfl, -⟩ | ⟨reply, e, rfl, -⟩
    · exact Trace.goesOn_iff.2 ⟨_, List.mem_cons_self, hkind⟩
    · exact Trace.goesOn_iff.2 ⟨_, List.mem_singleton_self _, hkind⟩
  rw [step, runs_status_bind] at hrun
  unfold lookUp at hrun
  split at hrun
  · rw [runs_pure_bind] at hrun
    dsimp only at hrun
    split at hrun
    · exact hlooks rfl hrun
    · exact hlooks rfl hrun
  · exact hlooks rfl hrun

theorem ResourceGroups.step_stands (hstays : ¬ ResourceGroups.Strays plan s)
    {outcome : Outcome} (hknows : directory.Knows s)
    (hrun : (ResourceGroups.step plan).Runs s t (.ok outcome) s') (hlists : t.ListsGroups directory) :
    directory.Stands (given? plan.spec.network.resourceGroup) s.networkGroup? s'.networkGroup? := by
  cases hname : given? plan.spec.network.resourceGroup with
  | none => exact step_undeclared hname hrun
  | some name => exact step_settles hstays hname hknows hrun hlists

/-- A pass that ends at the resource groups does not go on. -/
theorem ResourceGroups.step_not_goesOn (hrun : (ResourceGroups.step plan).Runs s t r s') :
    t.goesOn = false := by
  refine eq_false_of_ne_true fun hgoes => ?_
  obtain ⟨exchange, hmem, hkind⟩ := Trace.goesOn_iff.1 hgoes
  have hasks := (step_does plan hrun).asks exchange hmem
  rw [hkind] at hasks
  split at hasks <;> simp at hasks

theorem ResourceGroups.step_outcome {outcome : Outcome}
    (hrun : (ResourceGroups.step plan).Runs s t (.ok outcome) s') : outcome = .ready := by
  rcases step_runs hrun with ⟨_, he, -⟩ | ⟨_, _, _, -, -, ⟨_, he, -⟩ | ⟨hok, -⟩⟩
  · cases he
  · cases he
  · exact Except.ok.inj hok

/-- The part of a pass that comes after the resource groups. -/
def beyondGroups : List Step :=
  [.vpc, .image, .subnets, .securityGroups, .loadBalancers]

theorem beyondGroups_goesOn (hrun : (runSteps plan beyondGroups).Runs s t r s') :
    t.goesOn = true := by
  rcases runs_bind.1 hrun with ⟨outcome, mid, first, rest, rfl, hvpc, -⟩ | ⟨e, -, hvpc⟩
  · obtain ⟨exchange, hmem, hkind⟩ := Trace.goesOn_iff.1 (Vpc.step_goesOn hvpc)
    exact Trace.goesOn_iff.2 ⟨exchange, List.mem_append_left _ hmem, hkind⟩
  · exact Vpc.step_goesOn hvpc

/-- What is remembered of resource groups is left as it is. -/
theorem beyondGroups_same (hrun : (runSteps plan beyondGroups).Runs s t r s') :
    s'.resourceGroup = s.resourceGroup ∧ s'.networkGroup? = s.networkGroup? := by
  have hcluster : Status.Same .resourceGroup s s' := runSteps_same (by decide) hrun
  have hnetwork : Status.Same .networkGroup s s' := runSteps_same (by decide) hrun
  exact ⟨hcluster, hnetwork.networkGroup?⟩

theorem standard_stands (hknows : directory.Knows s) (hrun : (standard plan).Runs s t r s')
    (hlists : t.ListsGroups directory) :
    directory.Knows s' ∧ (¬ (ResourceGroups.Strays plan s ∧ t.goesOn = true) →
      directory.Stands (plan.settledName? t) s.networkGroup? s'.networkGroup?) := by
  rcases runs_bind.1 hrun with ⟨outcome, mid, first, rest, rfl, hgroups, hrest⟩ | ⟨e, -, hgroups⟩
  · obtain rfl := ResourceGroups.step_outcome hgroups
    have hlists := (Trace.listsGroups_append.1 hlists).1
    obtain ⟨hcluster, hnetwork⟩ := beyondGroups_same hrest
    have hmid := ResourceGroups.step_knows hknows hgroups hlists
    refine ⟨⟨hcluster ▸ hmid.cluster, hnetwork ▸ hmid.network⟩, fun hstays => ?_⟩
    obtain ⟨exchange, hmem, hkind⟩ := Trace.goesOn_iff.1 (beyondGroups_goesOn hrest)
    have hgoes : (first ++ rest).goesOn = true :=
      Trace.goesOn_iff.2 ⟨exchange, List.mem_append_right _ hmem, hkind⟩
    rw [Plan.settledName?, if_pos hgoes, hnetwork]
    exact ResourceGroups.step_stands (fun hstrays => hstays ⟨hstrays, hgoes⟩) hknows hgroups hlists
  · refine ⟨ResourceGroups.step_knows hknows hgroups hlists, fun _ => ?_⟩
    rw [Plan.settledName?, ResourceGroups.step_not_goesOn hgroups]
    exact ResourceGroups.step_failed hgroups

end Pass

namespace History

variable {plan : Plan} {t : Trace} {s mid : Status} {r : Except Failure Outcome} {later : History}

theorem Strays.cons (hrun : (Pass.standard plan).Runs s t r mid) (h : Strays mid later) :
    Strays s ((plan, t) :: later) := by
  obtain ⟨earlier, other, u, start, rest, rfl, hlast, hpasses, hstrays⟩ := h
  exact ⟨(plan, t) :: earlier, other, u, start, rest, rfl, hlast, .cons hrun hpasses, hstrays⟩

end History

/-- The network's reference is the one that the passes have last settled on, or else the one there was
at the outset. -/
theorem Passes.stands {directory : Cloud.GroupDirectory} {s s' : Status} {past : History}
    (h : Passes s past s') (hknows : directory.Knows s)
    (hlists : ∀ pass ∈ past, pass.2.ListsGroups directory) :
    directory.Knows s' ∧ (¬ past.Strays s →
      directory.Stands past.networkName? s.networkGroup? s'.networkGroup?) := by
  induction h with
  | nil s => exact ⟨hknows, fun _ => rfl⟩
  | @cons plan t r s mid last later hrun _ ih =>
    obtain ⟨hfirst, hrest⟩ := List.forall_mem_cons.1 hlists
    obtain ⟨hmid, hone⟩ := Pass.standard_stands hknows hrun hfirst
    obtain ⟨hend, hothers⟩ := ih hmid hrest
    refine ⟨hend, fun hstays => ?_⟩
    have hothers := hothers fun hstrays => hstays (hstrays.cons hrun)
    rw [History.networkName?]
    -- What a later pass has settled on stands whatever this one has left.
    cases hname : later.networkName? with
    | some name =>
      rw [hname] at hothers
      exact hothers
    | none =>
      have hone := hone fun ⟨hstrays, hgoes⟩ =>
        hstays ⟨[], plan, t, s, later, rfl, hname, .nil s, hstrays, hgoes⟩
      rw [hname] at hothers
      exact hone.trans hothers

/-! ## Where an image is created -/

namespace Desired.Image

def groupId? (image : Desired.Image) : Option String :=
  given? (image.resourceGroup.bind (·.id))

def groupName? (image : Desired.Image) : Option String :=
  given? (image.resourceGroup.bind (·.name))

end Desired.Image

/-- The ID of the cluster's resource group in a pass: the one that is remembered, or else that of the
group with this name. -/
def Cloud.GroupDirectory.clusterId? (directory : GroupDirectory) (plan : Plan) (s : Status) :
    Option String :=
  (given? (s.resourceGroup.map (·.id))).or ((directory.named? plan.resourceGroupName).map (·.id))

namespace Pass

variable {directory : Cloud.GroupDirectory} {plan : Plan} {image : Desired.Image}
  {start s s' : Status} {past : History} {t before after : Trace} {id : String}
  {prototype : Cloud.ImagePrototype} {reply : Cloud.Reply Cloud.Image} {r : Except Failure Outcome}

theorem ResourceGroups.settleCluster_id (hrun : (settleCluster plan).Runs s t (.ok ()) s')
    (hlists : t.ListsGroups directory) (hid : given? (s'.resourceGroup.map (·.id)) = some id) :
    directory.clusterId? plan s = some id := by
  rcases settleCluster_settles hrun hlists with ⟨-, rfl⟩ | ⟨hunknown, group, hgroup, rfl⟩
  · rw [Cloud.GroupDirectory.clusterId?, hid]
    rfl
  · have hnone : given? (s.resourceGroup.map (·.id)) = none := by
      refine Option.eq_none_iff_forall_ne_some.2 fun text htext => ?_
      obtain ⟨hvalue, htext⟩ := given?_eq_some.1 htext
      obtain ⟨reference, hreference, rfl⟩ := Option.map_eq_some_iff.1 hvalue
      exact hunknown ⟨reference, hreference, htext⟩
    rw [Cloud.GroupDirectory.clusterId?, hnone, hgroup]
    exact (given?_eq_some.1 hid).1

theorem ResourceGroups.step_id {outcome : Outcome} (hrun : (step plan).Runs s t (.ok outcome) s')
    (hlists : t.ListsGroups directory) (hid : given? (s'.resourceGroup.map (·.id)) = some id) :
    directory.clusterId? plan s = some id := by
  obtain ⟨mid, first, rest, rfl, hcluster, hnetwork⟩ := step_ok_runs hrun
  have hsame : s'.resourceGroup = mid.resourceGroup :=
    (settleNetwork_does plan hnetwork).writes .resourceGroup (by simp)
  exact settleCluster_id hcluster (Trace.listsGroups_append.1 hlists).1 (hsame ▸ hid)

theorem networkGroupId_ok (h : plan.networkGroupId s = .ok id) :
    (given? (s.networkGroup?.map (·.id))).or (given? (s.resourceGroup.map (·.id))) = some id := by
  unfold Plan.networkGroupId Plan.resourceGroupId at h
  split at h
  · rename_i hnetwork
    cases h
    rw [hnetwork]
    rfl
  · rename_i hnetwork
    split at h
    · rename_i hcluster
      cases h
      rw [hnetwork, hcluster]
      rfl
    · cases h

theorem Image.resourceGroupId_cases (hrun : (resourceGroupId plan image).Runs s t (.ok id) s')
    (hlists : t.ListsGroups directory) :
    image.groupId? = some id ∨
    (image.groupId? = none ∧ ∃ name group, image.groupName? = some name ∧
      directory.named? name = some group ∧ id = group.id) ∨
    (image.groupId? = none ∧ image.groupName? = none ∧ plan.networkGroupId s = .ok id) := by
  unfold resourceGroupId at hrun
  split at hrun
  · rename_i own hown
    obtain ⟨-, rfl, -⟩ := runs_pure_ok.1 hrun
    exact .inl hown
  · rename_i hunnumbered
    split at hrun
    · rename_i name hname
      obtain ⟨reference, mid, first, rest, rfl, hresolve, hend⟩ := runs_bind_ok.1 hrun
      obtain ⟨-, rfl, -⟩ := runs_pure_ok.1 hend
      obtain ⟨group, hgroup, rfl⟩ :=
        ResourceGroups.resolve_named hresolve (Trace.listsGroups_append.1 hlists).1
      exact .inr (.inl ⟨hunnumbered, name, group, hname, hgroup, rfl⟩)
    · rename_i hunnamed
      rw [runs_status_bind] at hrun
      exact .inr (.inr ⟨hunnumbered, hunnamed, (runs_ofExcept.1 hrun).2.1.symm⟩)

/-- How the ID of the resource group that an image is created in comes about, after passes from `start`
to `s`. It is the image's own, and if it has none, the one declared for the network; if none is, the one
that was declared last, or else the cluster's. -/
structure Placed (directory : Cloud.GroupDirectory) (start : Status) (past : History) (plan : Plan)
    (s : Status) (image : Desired.Image) (id : String) : Prop where
  ofId : ∀ own, image.groupId? = some own → id = own
  ofName : image.groupId? = none → ∀ name, image.groupName? = some name →
    ∃ group, directory.named? name = some group ∧ id = group.id
  ofNetwork : image.groupId? = none → image.groupName? = none →
    ∀ name, given? plan.spec.network.resourceGroup = some name → ¬ ResourceGroups.Strays plan s →
    ∃ group, directory.named? name = some group ∧
      (given? (some group.id)).or (directory.clusterId? plan s) = some id
  ofPast : image.groupId? = none → image.groupName? = none →
    given? plan.spec.network.resourceGroup = none → ¬ past.Strays start →
    ∃ network, directory.Stands past.networkName? start.networkGroup? network ∧
      (given? (network.map (·.id))).or (directory.clusterId? plan s) = some id

/-- When an image is asked for, the resource groups have been settled, and then its own has been
told. -/
theorem standard_asks_image
    (hrun : (standard plan).Runs s (before ++ ⟨.createImage prototype, reply⟩ :: after) r s') :
    ∃ image mid left first place, plan.spec.image = some image ∧ first ⊆ before ∧ place ⊆ before ∧
      (ResourceGroups.step plan).Runs s first (.ok .ready) mid ∧
      left.resourceGroup = mid.resourceGroup ∧ left.networkGroup? = mid.networkGroup? ∧
      (Image.resourceGroupId plan image).Runs left place (.ok prototype.resourceGroupId) left := by
  cases Reaches.of_createImage hrun with
  | intro hdone hstep =>
    obtain ⟨mid, first, rest, rfl, hgroups, hdone⟩ := runSteps_ready.1 hdone
    obtain ⟨left, second, last, rfl, hvpc, hdone⟩ := runSteps_ready.1 hdone
    obtain ⟨rfl, -, rfl⟩ := runs_pure_ok.1 hdone
    obtain ⟨image, hsought⟩ := Image.step_asks hstep
    obtain ⟨search, place, rfl, -, hplace⟩ := hsought.steps
    have hwrites := (Vpc.step_does plan hvpc).writes
    exact ⟨image, mid, _, first, place, hsought.declared,
      fun _ hmem => by simp [hmem], fun _ hmem => by simp [hmem], hgroups,
      hwrites .resourceGroup (by simp), (hwrites .networkGroup (by simp)).networkGroup?, hplace⟩

/-- Each image is created in the resource group of the first level that has one: its own, by ID or by
name, the network's and the cluster's. The network's is the one that was declared last. -/
theorem standard_places_image (hknows : directory.Knows start) (hpast : Passes start past s)
    (hlists : ∀ pass ∈ past, pass.2.ListsGroups directory)
    (hrun : (standard plan).Runs s (before ++ ⟨.createImage prototype, reply⟩ :: after) r s')
    (hbefore : before.ListsGroups directory) :
    ∃ image, plan.spec.image = some image ∧
      Placed directory start past plan s image prototype.resourceGroupId := by
  obtain ⟨hknown, hstands⟩ := hpast.stands hknows hlists
  obtain ⟨image, mid, left, first, place, himage, hfirst, hplace, hgroups, hcluster, hnetwork, htold⟩ :=
    standard_asks_image hrun
  have hfirst : first.ListsGroups directory := fun exchange hmem => hbefore exchange (hfirst hmem)
  have hplace : place.ListsGroups directory := fun exchange hmem => hbefore exchange (hplace hmem)
  have hcases := Image.resourceGroupId_cases htold hplace
  -- Below its own levels the image is created where the step of the resource groups has left off.
  have hlevels : image.groupId? = none → image.groupName? = none →
      (given? (mid.networkGroup?.map (·.id))).or (directory.clusterId? plan s) =
        some prototype.resourceGroupId := by
    intro hunnumbered hunnamed
    have hid : plan.networkGroupId left = .ok prototype.resourceGroupId := by
      simpa [hunnumbered, hunnamed] using hcases
    have hleft := networkGroupId_ok hid
    rw [hnetwork, hcluster] at hleft
    cases hgiven : given? (mid.networkGroup?.map (·.id)) with
    | some id =>
      rw [hgiven] at hleft
      exact hleft
    | none =>
      rw [hgiven, Option.none_or] at hleft
      exact ResourceGroups.step_id hgroups hfirst hleft
  refine ⟨image, himage, ?_, ?_, ?_, ?_⟩
  · intro own hown
    simpa [hown, eq_comm] using hcases
  · intro hunnumbered name hname
    simpa [hunnumbered, hname] using hcases
  · intro hunnumbered hunnamed name hname hstays
    obtain ⟨group, hgroup, hreference⟩ :=
      ResourceGroups.step_settles hstays hname hknown hgroups hfirst
    have hid := hlevels hunnumbered hunnamed
    rw [hreference] at hid
    exact ⟨group, hgroup, hid⟩
  · intro hunnumbered hunnamed hnone hstays
    have hid := hlevels hunnumbered hunnamed
    rw [ResourceGroups.step_undeclared hnone hgroups] at hid
    exact ⟨s.networkGroup?, hstands hstays, hid⟩

/-! ### A network that no longer has a group of its own -/

/-- The network is given the group `b`, and the VPC is found. -/
def groupedPass : Trace :=
  [⟨.listResourceGroups "a", .answer [⟨"1", "a"⟩]⟩, ⟨.listResourceGroups "b", .answer [⟨"2", "b"⟩]⟩,
    ⟨.findVpc "a-vpc", .answer (some ⟨"9", "a-vpc", "", .available⟩)⟩]

def groupedStatus : Status :=
  ((Status.empty.putResourceGroup ⟨"1", some "a"⟩).putNetworkGroup ⟨"2", some "b"⟩).put .vpc ""
    ⟨"9", "a-vpc", false⟩

/-- No group is declared any more, and there turns out to be no image. -/
def ungroupedPass : Trace :=
  [⟨.getVpc "9", .answer (some ⟨"9", "a-vpc", "", .available⟩)⟩, ⟨.findImage "n", .answer none⟩]

def ungroupedPrototype : Cloud.ImagePrototype :=
  { Image.importedPrototype with resourceGroupId := "2" }

theorem groupedPass_passes :
    Passes .empty [(ResourceGroups.networkedPlan "a", groupedPass)] groupedStatus :=
  .cons (.ask (.ask (.ask (.done _)))) (.nil _)

theorem ungroupedPass_runs : ∃ r s', (standard Image.importingPlan).Runs groupedStatus
    (ungroupedPass ++ [⟨.createImage ungroupedPrototype, .aborted⟩]) r s' :=
  ⟨_, _, .ask (.ask (.ask (.done _)))⟩

theorem groupedPass_stays :
    ¬ History.Strays .empty [(ResourceGroups.networkedPlan "a", groupedPass)] := by
  rintro ⟨earlier, plan, t, mid, later, hsplit, -, hpasses, hstrays, -⟩
  cases earlier with
  | nil =>
    cases hpasses
    obtain ⟨reference, hreference, -⟩ := hstrays.other
    cases hreference
  | cons head tail => simp at hsplit

theorem groupedPass_lists : groupedPass.ListsGroups ResourceGroups.sharedDirectory :=
  List.forall_mem_cons.2 ⟨List.forall_mem_singleton.2 (by decide), List.forall_mem_cons.2
    ⟨List.forall_mem_singleton.2 (by decide), List.forall_mem_singleton.2 trivial⟩⟩

theorem ungroupedPass_lists : ungroupedPass.ListsGroups ResourceGroups.sharedDirectory :=
  List.forall_mem_cons.2 ⟨trivial, List.forall_mem_singleton.2 trivial⟩

/-- The image is created in the group `b`, which has been declared last. -/
theorem standard_places_image_ungrouped :
    ResourceGroups.sharedDirectory.Knows .empty ∧
    Passes .empty [(ResourceGroups.networkedPlan "a", groupedPass)] groupedStatus ∧
    groupedPass.ListsGroups ResourceGroups.sharedDirectory ∧
    (∃ r s', (standard Image.importingPlan).Runs groupedStatus
      (ungroupedPass ++ [⟨.createImage ungroupedPrototype, .aborted⟩]) r s') ∧
    ungroupedPass.ListsGroups ResourceGroups.sharedDirectory ∧
    ∃ group, ResourceGroups.sharedDirectory.named? "b" = some group ∧
      ungroupedPrototype.resourceGroupId = group.id := by
  have hknows : ResourceGroups.sharedDirectory.Knows .empty := ⟨nofun, nofun⟩
  obtain ⟨r, s', hrun⟩ := ungroupedPass_runs
  obtain ⟨image, himage, hplaced⟩ := standard_places_image hknows groupedPass_passes
    (List.forall_mem_singleton.2 groupedPass_lists) hrun ungroupedPass_lists
  cases himage
  refine ⟨hknows, groupedPass_passes, groupedPass_lists, ⟨r, s', hrun⟩, ungroupedPass_lists, ?_⟩
  obtain ⟨network, ⟨group, hgroup, rfl⟩, hid⟩ :=
    hplaced.ofPast rfl rfl rfl groupedPass_stays
  have hsame : ResourceGroups.sharedDirectory.named? "b" = some ⟨"2", "b"⟩ := by decide
  obtain rfl : ⟨"2", "b"⟩ = group := Option.some.inj (hsame.symm.trans hgroup)
  exact ⟨_, hgroup, (Option.some.inj hid).symm⟩

/-- Nothing but the cluster's group is left to name one, and still the image is created in another. -/
theorem ungrouped_image_is_placed_elsewhere :
    given? Image.importingPlan.spec.network.resourceGroup = none ∧
    (∀ image, Image.importingPlan.spec.image = some image →
      image.groupId? = none ∧ image.groupName? = none) ∧
    Passes .empty [(ResourceGroups.networkedPlan "a", groupedPass)] groupedStatus ∧
    groupedPass.ListsGroups ResourceGroups.sharedDirectory ∧
    (∃ r s', (standard Image.importingPlan).Runs groupedStatus
      (ungroupedPass ++ [⟨.createImage ungroupedPrototype, .aborted⟩]) r s') ∧
    groupedStatus.resourceGroup = some ⟨"1", some "a"⟩ ∧
    ungroupedPrototype.resourceGroupId ≠ "1" := by
  refine ⟨rfl, ?_, groupedPass_passes, groupedPass_lists, ungroupedPass_runs, rfl, by decide⟩
  rintro image ⟨⟩
  exact ⟨rfl, rfl⟩

end Pass

end VpcOperator
