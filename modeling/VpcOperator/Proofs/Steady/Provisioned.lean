import VpcOperator.Proofs.Ready.Provisioned
import VpcOperator.Proofs.Steady.Basic

/-! # Resource groups, VPCs, images and subnets again

For each of these steps, what a ready run leaves in the status is enough for
the step to be ready again, as long as the account stands still.
-/

namespace VpcOperator

open Observed (Status)

variable {plan : Plan} {answers : Cloud.Answers} {s s' : Status} {t : Trace}

theorem Trace.AnsweredBy.answer_eq (h : t.AnsweredBy answers) {request : Cloud.Request}
    {answer : request.Answer} (hmem : ⟨request, .answer answer⟩ ∈ t) : answers request = answer := by
  have hreply := h _ hmem
  exact (Cloud.Reply.answer.inj hreply).symm

namespace Pass

/-! ## Resource groups -/

namespace ResourceGroups

def Resolvable (answers : Cloud.Answers) (name : String) : Prop :=
  ∃ group, answers (.listResourceGroups name) = [group]

/-- Each group is remembered or can be resolved. -/
structure Settled (plan : Plan) (answers : Cloud.Answers) (s : Status) : Prop where
  cluster : s.resourceGroup.any (fun reference => reference.id ≠ "") ∨
    Resolvable answers plan.resourceGroupName
  network : ∀ name, given? plan.spec.network.resourceGroup = some name →
    s.networkGroup?.any (fun reference => reference.id ≠ "" && reference.name = some name) ∨
      name = plan.resourceGroupName ∨ Resolvable answers name

theorem Settled.frame (h : Settled plan answers s) (hcluster : Status.Same .resourceGroup s s')
    (hnetwork : Status.Same .networkGroup s s') : Settled plan answers s' := by
  have hcluster : s'.resourceGroup = s.resourceGroup := hcluster
  refine ⟨?_, fun name hname => ?_⟩
  · rw [hcluster]
    exact h.cluster
  · rw [hnetwork.networkGroup?]
    exact h.network name hname

theorem resolve_ok {name : String} {reference : Observed.GroupReference}
    (h : (resolve name).Runs s t (.ok reference) s') (hanswered : t.AnsweredBy answers) :
    Resolvable answers name := by
  obtain ⟨group, rfl, -⟩ := resolve_answered h
  exact ⟨group, hanswered.answer_eq (List.mem_singleton_self _)⟩

theorem resolve_steady {name : String} (h : Resolvable answers name) :
    ∃ reference, Steady answers (resolve name) s reference s := by
  obtain ⟨group, hgroup⟩ := h
  refine ⟨{ id := group.id, name := some group.name }, .bind (.call rfl) ?_⟩
  rw [hgroup]
  exact .pure _

theorem settleCluster_ok (h : (settleCluster plan).Runs s t (.ok ()) s')
    (hanswered : t.AnsweredBy answers) :
    s'.resourceGroup.any (fun reference => reference.id ≠ "") ∨
      Resolvable answers plan.resourceGroupName := by
  rw [settleCluster, runs_status_bind] at h
  split at h
  · obtain ⟨rfl, -, rfl⟩ := runs_pure_ok.1 h
    exact .inl ‹_›
  · obtain ⟨reference, mid, first, rest, rfl, hresolve, -⟩ := runs_bind_ok.1 h
    exact .inr (resolve_ok hresolve (Trace.answeredBy_append.1 hanswered).1)

theorem settleNetwork_ok (h : (settleNetwork plan).Runs s t (.ok ()) s')
    (hanswered : t.AnsweredBy answers) {name : String}
    (hname : given? plan.spec.network.resourceGroup = some name) :
    s'.networkGroup?.any (fun reference => reference.id ≠ "" && reference.name = some name) ∨
      name = plan.resourceGroupName ∨ Resolvable answers name := by
  rw [settleNetwork, hname] at h
  dsimp only at h
  rw [runs_status_bind] at h
  split at h
  · obtain ⟨rfl, -, rfl⟩ := runs_pure_ok.1 h
    exact .inl ‹_›
  · obtain ⟨reference, mid, first, rest, rfl, hreference, -⟩ := runs_bind_ok.1 h
    unfold networkReference at hreference
    split at hreference
    · exact .inr (.inl ‹_›)
    · exact .inr (.inr (resolve_ok hreference (Trace.answeredBy_append.1 hanswered).1))

theorem step_ok {outcome : Outcome} (h : (step plan).Runs s t (.ok outcome) s')
    (hanswered : t.AnsweredBy answers) : outcome = .ready ∧ Settled plan answers s' := by
  obtain ⟨_, mid, first, rest, rfl, hcluster, h⟩ := runs_bind_ok.1 h
  obtain ⟨_, mid', second, rest, rfl, hnetwork, hend⟩ := runs_bind_ok.1 h
  obtain ⟨rfl, rfl, rfl⟩ := runs_pure_ok.1 hend
  simp only [Trace.answeredBy_append] at hanswered
  have hsame : s'.resourceGroup = mid.resourceGroup :=
    (settleNetwork_does plan hnetwork).writes .resourceGroup (by simp)
  refine ⟨rfl, ?_, fun name hname => settleNetwork_ok hnetwork hanswered.2.1 hname⟩
  rw [hsame]
  exact settleCluster_ok hcluster hanswered.1

theorem settleCluster_steady (h : s.resourceGroup.any (fun reference => reference.id ≠ "") ∨
      Resolvable answers plan.resourceGroupName) :
    ∃ mid, Steady answers (settleCluster plan) s () mid ∧ mid.resourceGroup.isSome := by
  by_cases hcached : s.resourceGroup.any (fun reference => reference.id ≠ "")
  · refine ⟨s, .status_bind ?_, Option.isSome_of_any hcached⟩
    rw [if_pos hcached]
    exact .pure _
  · obtain ⟨reference, hresolve⟩ := resolve_steady (h.resolve_left hcached)
    refine ⟨s.putResourceGroup reference, .status_bind ?_, rfl⟩
    rw [if_neg hcached]
    exact .bind hresolve (.update_bind (.pure _))

theorem settleNetwork_steady (hcluster : s.resourceGroup.isSome)
    (h : ∀ name, given? plan.spec.network.resourceGroup = some name →
      s.networkGroup?.any (fun reference => reference.id ≠ "" && reference.name = some name) ∨
        name = plan.resourceGroupName ∨ Resolvable answers name) :
    ∃ s', Steady answers (settleNetwork plan) s () s' := by
  unfold settleNetwork
  split
  · exact ⟨s, .pure _⟩
  · rename_i name hname
    by_cases hcached : s.networkGroup?.any fun reference =>
        reference.id ≠ "" && reference.name = some name
    · refine ⟨s, .status_bind ?_⟩
      rw [if_pos hcached]
      exact .pure _
    · have hreference : ∃ reference, Steady answers (networkReference plan s name) s reference s := by
        unfold networkReference
        split
        · obtain ⟨reference, hsome⟩ := Option.isSome_iff_exists.1 hcluster
          rw [hsome]
          exact ⟨reference, .pure _⟩
        · exact resolve_steady (((h name hname).resolve_left hcached).resolve_left ‹_›)
      obtain ⟨reference, hsteady⟩ := hreference
      refine ⟨s.putNetworkGroup reference, .status_bind ?_⟩
      rw [if_neg hcached]
      exact .bind hsteady (.update_bind (.pure _))

theorem step_steady (h : Settled plan answers s) : ∃ s', Steady answers (step plan) s .ready s' := by
  obtain ⟨mid, hcluster, hsome⟩ := settleCluster_steady h.cluster
  have hsame : Status.Same .networkGroup s mid := by
    obtain ⟨t, hrun, -⟩ := hcluster
    exact (settleCluster_does plan hrun).writes _ (by simp)
  have hmid := h.network
  rw [← hsame.networkGroup?] at hmid
  obtain ⟨s', hnetwork⟩ := settleNetwork_steady hsome hmid
  exact ⟨s', hcluster.bind (hnetwork.bind (.pure _))⟩

end ResourceGroups

/-! ## The VPC and the image -/

namespace Vpc

/-- The VPC is available, and is remembered so. -/
def Stands (answers : Cloud.Answers) (s : Status) : Prop :=
  ∃ vpc : Cloud.Vpc, answers (.getVpc vpc.id) = some vpc ∧ vpc.state = .available ∧ vpc.id ≠ "" ∧
    s.find? .vpc "" = some { id := vpc.id, name := vpc.name, ready := true }

theorem Seen.stands (h : Seen t s) (hanswered : t.AnsweredBy answers) : Stands answers s := by
  obtain ⟨vpc, hmem, hrest⟩ := h
  exact ⟨vpc, hanswered.answer_eq hmem, hrest⟩

theorem Stands.frame (h : Stands answers s) (hsame : Status.Same (.shelf .vpc) s s') :
    Stands answers s' := by
  obtain ⟨vpc, hanswer, hstate, hid, hfind⟩ := h
  exact ⟨vpc, hanswer, hstate, hid, (hsame.find? "").trans hfind⟩

theorem step_steady (h : Stands answers s) : ∃ s', Steady answers (step plan) s .ready s' := by
  obtain ⟨vpc, hanswer, hstate, hid, hfind⟩ := h
  have hgiven : given? ((s.find? .vpc "").map (·.id)) = some vpc.id := by
    rw [hfind]
    exact given?_eq_some.2 ⟨rfl, hid⟩
  have hlook : Steady answers (lookUp (some vpc.id)) s (some vpc) s := by
    rw [← hanswer]
    exact .call rfl
  have hobserve : ∃ s', Steady answers (observe vpc) s .ready s' := by
    refine ⟨s.put .vpc "" { id := vpc.id, name := vpc.name, ready := true }, .update_bind ?_⟩
    rw [hstate]
    exact .pure _
  obtain ⟨s', hsteady⟩ := hobserve
  refine ⟨s', .status_bind ?_⟩
  rw [hgiven]
  exact hlook.bind hsteady

end Vpc

namespace Image

theorem Settled.frame (h : Settled plan s) (hsame : Status.Same (.shelf .image) s s') :
    Settled plan s' := by
  have hsame : s'.image = s.image := hsame
  unfold Settled
  rw [hsame]
  exact h

theorem step_steady (h : Settled plan s) : Steady answers (step plan) s .ready s := by
  refine .status_bind ?_
  dsimp only
  rcases h with ⟨hnone, himage⟩ | ⟨entry, himage, hid, hready⟩
  · rw [if_pos (by simp [Status.find?, hnone, himage])]
    exact .pure _
  · rw [if_neg (by simp [Status.find?, himage])]
    have hentry : (s.find? .image "").filter (·.id ≠ "") = some entry := by
      simp [Status.find?, himage, hid]
    rw [hentry]
    dsimp only
    rw [if_pos hready]
    exact .pure _

end Image

/-! ## Subnets -/

namespace Subnets

variable {role : Desired.Role} {subnets : List Desired.Subnet}

/-- Every subnet that is wanted is remembered as ready. -/
def Stands (plan : Plan) (answers : Cloud.Answers) (s : Status) : Prop :=
  ∀ role,
    (∀ subnet ∈ plan.spec.network.subnets role, ∀ name, given? subnet.name = some name →
      s.HasReady (.subnets role) name) ∧
    (plan.spec.network.subnets role = [] →
      answers (.listZones plan.spec.region) ≠ [] ∧
        ∀ zone ∈ answers (.listZones plan.spec.region),
          s.HasReady (.subnets role) (plan.subnetName zone))

theorem Settled.stands (h : Settled plan t s) (hanswered : t.AnsweredBy answers) :
    Stands plan answers s := by
  intro role
  obtain ⟨hdeclared, hempty⟩ := h role
  refine ⟨hdeclared, fun hnone => ?_⟩
  obtain ⟨zones, hmem, hne, hzones⟩ := hempty hnone
  rw [hanswered.answer_eq hmem]
  exact ⟨hne, hzones⟩

theorem Stands.frame (h : Stands plan answers s)
    (hsame : ∀ role, Status.Same (.shelf (.subnets role)) s s') : Stands plan answers s' := by
  intro role
  obtain ⟨hdeclared, hempty⟩ := h role
  refine ⟨fun subnet hmem name hname => (hsame role).hasReady (hdeclared subnet hmem name hname),
    fun hnone => ?_⟩
  obtain ⟨hne, hzones⟩ := hempty hnone
  exact ⟨hne, fun zone hzone => (hsame role).hasReady (hzones zone hzone)⟩

theorem settleAll_steady
    (h : ∀ subnet ∈ subnets, ∃ name, given? subnet.name = some name ∧
      s.HasReady (.subnets role) name) :
    Steady answers (settleAll plan role subnets) s .ready s := by
  induction subnets with
  | nil => exact .pure _
  | cons subnet rest ih =>
    have hfirst : Steady answers (settle plan role subnet) s .ready s := by
      obtain ⟨name, hname, entry, hfind, hready⟩ := h subnet (by simp)
      have hentry : remembered? s role subnet = some entry := by
        rw [remembered?, hname]
        exact hfind
      refine .status_bind ?_
      rw [hentry]
      dsimp only
      rw [if_pos hready]
      exact .pure _
    exact hfirst.bind ((ih fun other hmem => h other (by simp [hmem])).bind (.pure _))

theorem generated_steady (h : ∀ role, plan.spec.network.subnets role = [] →
      answers (.listZones plan.spec.region) ≠ []) :
    ∃ generated, Steady answers (Subnets.generated plan) s generated s ∧
      ∀ role, plan.spec.network.subnets role = [] →
        generated = (answers (.listZones plan.spec.region)).map fun zone =>
          { id := none, name := some (plan.subnetName zone), zone := some zone } := by
  by_cases hboth : plan.spec.network.controlPlaneSubnets.isEmpty ||
      plan.spec.network.workerSubnets.isEmpty
  · have hne : answers (.listZones plan.spec.region) ≠ [] := by
      rcases Bool.or_eq_true_iff.1 hboth with hempty | hempty
      · exact h .controlPlane (List.isEmpty_iff.1 hempty)
      · exact h .worker (List.isEmpty_iff.1 hempty)
    refine ⟨_, ?_, fun role _ => rfl⟩
    unfold Subnets.generated zonal
    dsimp only
    rw [if_pos hboth]
    refine .bind (.call rfl) ?_
    split
    · exact absurd ‹_› hne
    · exact .pure _
  · refine ⟨[], ?_, fun role hempty => absurd ?_ hboth⟩
    · unfold Subnets.generated
      dsimp only
      rw [if_neg hboth]
      exact .pure _
    · cases role <;> simp_all [Desired.Network.subnets]

theorem step_steady (h : Stands plan answers s)
    (hnamed : ∀ role, ∀ subnet ∈ plan.spec.network.subnets role, (given? subnet.name).isSome) :
    Steady answers (step plan) s .ready s := by
  obtain ⟨generated, hsteady, hzonal⟩ :=
    generated_steady fun role hempty => ((h role).2 hempty).1
  have hall : ∀ role, Steady answers
      (settleAll plan role (wanted (plan.spec.network.subnets role) generated)) s .ready s := by
    intro role
    refine settleAll_steady fun subnet hmem => ?_
    unfold wanted at hmem
    split at hmem
    · rename_i hempty
      have hempty := List.isEmpty_iff.1 hempty
      rw [hzonal role hempty] at hmem
      obtain ⟨zone, hzone, rfl⟩ := List.mem_map.1 hmem
      exact ⟨_, given?_subnetName plan zone, ((h role).2 hempty).2 zone hzone⟩
    · obtain ⟨name, hname⟩ := Option.isSome_iff_exists.1 (hnamed role subnet hmem)
      exact ⟨name, hname, (h role).1 subnet hmem name hname⟩
  exact hsteady.bind ((hall .controlPlane).attempt.bind ((hall .worker).attempt.bind
    (.bind (.ofExcept _) (.bind (.ofExcept _) (.pure _)))))

end Subnets

end Pass

end VpcOperator
