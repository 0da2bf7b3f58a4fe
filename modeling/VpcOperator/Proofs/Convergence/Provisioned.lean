import VpcOperator.Proofs.Convergence.Calculus
import VpcOperator.Proofs.Convergence.Grounded

/-! # Resource groups, VPCs, images and subnets come about

Each of these steps leaves an entry for all it is about, and is ready once there
are entries and what they lead to has been provisioned.
-/

namespace VpcOperator.Pass

open Cloud (Inventory Site)
open Desired (Role)
open Observed (Status)

variable {plan : Plan} {site : Site} {s s' : Status} {held left : Inventory}

/-! ## Resource groups -/

namespace ResourceGroups

theorem resolve_meets {name : String}
    (h : ∃ group, site.resourceGroups.filter (·.name = name) = [group] ∧ group.id ≠ "") :
    Meets site (resolve name) s held fun reference s' _ => reference.id ≠ "" ∧ s' = s := by
  obtain ⟨group, hgroup, hid⟩ := h
  refine .look_bind rfl fun groups _ hgrants => ?_
  obtain rfl : groups = [group] := hgrants.trans hgroup
  exact .pure ⟨hid, rfl⟩

theorem settleCluster_meets (hcomplete : plan.Complete site held) :
    Meets site (settleCluster plan) s held fun _ s' _ =>
      s'.resourceGroup.any fun reference => reference.id ≠ "" := by
  refine .status_bind ?_
  split
  · exact .pure ‹_›
  · have hname :=
      hcomplete.resourceGroups plan.resourceGroupName (by simp [Plan.resourceGroupNames])
    refine .bind ((resolve_meets hname).mono ?_)
    rintro reference s' left ⟨hid, -⟩
    exact .update (by simpa using hid)

theorem settleNetwork_meets (hcomplete : plan.Complete site held) :
    Meets site (settleNetwork plan) s held fun _ s' _ => s'.resourceGroup = s.resourceGroup := by
  unfold settleNetwork
  split
  · exact .pure rfl
  · rename_i name hname
    refine .status_bind ?_
    split
    · exact .pure rfl
    · have hresolve : Meets site (resolve name) s held fun reference s' _ =>
          reference.id ≠ "" ∧ s' = s :=
        resolve_meets (hcomplete.resourceGroups name (by simp [Plan.resourceGroupNames, hname]))
      have hreference : Meets site (networkReference plan s name) s held fun _ s' _ => s' = s := by
        unfold networkReference
        split
        · split
          · exact .pure rfl
          · exact hresolve.mono And.right
        · exact hresolve.mono And.right
      refine .bind (hreference.mono ?_)
      rintro reference s' left rfl
      exact .update rfl

/-- The step is always ready, and the cluster's group is known after it. -/
theorem step_meets (hcomplete : plan.Complete site held) :
    Meets site (step plan) s held fun outcome s' left => outcome = .ready ∧ left = held ∧
      (∃ id, plan.resourceGroupId s' = .ok id) ∧
        Status.Writes [.resourceGroup, .networkGroup] s s' := by
  have hstep : Meets site (step plan) s held fun outcome s' _ =>
      outcome = .ready ∧ ∃ id, plan.resourceGroupId s' = .ok id := by
    refine .bind ((settleCluster_meets hcomplete).runs.mono ?_)
    rintro _ mid between ⟨hsome, t, hrun, hworks⟩
    obtain rfl := hworks.still (settleCluster_does plan hrun).changes_nothing
    refine .bind ((settleNetwork_meets hcomplete).mono fun {_ s' left} hsame => .pure ⟨rfl, ?_⟩)
    rw [← hsame] at hsome
    obtain ⟨reference, hreference, hid⟩ := (Option.any_eq_true _ _).1 hsome
    have hgiven : given? (s'.resourceGroup.map (·.id)) = some reference.id := by
      rw [hreference]
      exact given?_eq_some.2 ⟨rfl, of_decide_eq_true hid⟩
    rw [Plan.resourceGroupId, hgiven]
    exact ⟨_, rfl⟩
  refine hstep.runs.mono ?_
  rintro outcome s' left ⟨⟨houtcome, hid⟩, t, hrun, hworks⟩
  have hdoes := step_does plan hrun
  exact ⟨houtcome, hworks.still hdoes.changes_nothing, hid, hdoes.writes⟩

end ResourceGroups

/-! ## The VPC -/

namespace Vpc

theorem observe_meets {vpc : Cloud.Vpc} (hgrounded : s.Grounded held) (hmem : vpc ∈ held.vpcs) :
    Meets site (observe vpc) s held fun outcome s' left => s'.Grounded left ∧
      (s'.find? .vpc "").isSome ∧ (held.Provisioned → outcome = .ready) := by
  refine .update_bind (.pure ⟨hgrounded.put "" ⟨vpc, hmem, rfl⟩, rfl, fun hprovisioned => ?_⟩)
  rw [hprovisioned.vpcs vpc hmem]
  rfl

theorem create_meets (hgrounded : s.Grounded held)
    (hgroup : ∃ id, plan.resourceGroupId s = .ok id) :
    Meets site (create plan) s held fun _ s' left =>
      s'.Grounded left ∧ (s'.find? .vpc "").isSome := by
  obtain ⟨id, hid⟩ := hgroup
  refine .status_bind (.ofExcept_bind hid (.bind (.call fun vpc _ _ => ?_)))
  refine .update_bind (.bind (Ownership.mark_meets (.pure ⟨?_, rfl⟩)))
  have hgrown := hgrounded.grows (Inventory.grows_after held ⟨.createVpc _, .answer vpc⟩)
  exact hgrown.put "" ⟨vpc, List.mem_cons_self, rfl⟩

theorem step_meets (hsound : held.Sound) (hgrounded : s.Grounded held)
    (hcomplete : plan.Complete site held) (hgroup : ∃ id, plan.resourceGroupId s = .ok id) :
    Meets site (step plan) s held fun outcome s' left => s'.Grounded left ∧
      (s'.find? .vpc "").isSome ∧
        ((s.find? .vpc "").isSome → held.Provisioned → outcome = .ready) := by
  refine .status_bind ?_
  cases hentry : s.find? .vpc "" with
  | some entry =>
    have hhas := hgrounded.entries .vpc "" entry hentry
    have hgiven : given? (some entry.id) = some entry.id :=
      given?_eq_some.2 ⟨rfl, hsound.id_ne hhas⟩
    rw [Option.map_some, hgiven]
    refine .look_bind rfl fun found _ hgrants => ?_
    obtain ⟨vpc, hmem, hid⟩ := hhas
    cases found with
    | none => exact absurd hid (hgrants vpc hmem)
    | some live =>
      exact (observe_meets hgrounded hgrants.1).mono fun h => ⟨h.1, h.2.1, fun _ => h.2.2⟩
  | none =>
    rw [Option.map_none]
    refine .bind (.pure ?_)
    dsimp only
    split
    · refine .look_bind rfl fun found hadmits _ => ?_
      cases found with
      | some vpc =>
        exact .update_bind (.pure ⟨hgrounded.put "" ⟨vpc, hadmits.1, rfl⟩, rfl, by simp⟩)
      | none => exact (create_meets hgrounded hgroup).mono fun h => ⟨h.1, h.2, by simp⟩
    · rename_i id hid
      refine .look_bind rfl fun found _ hgrants => ?_
      obtain ⟨vpc, hmem, hid⟩ := hcomplete.vpc id hid
      cases found with
      | some live =>
        exact (observe_meets hgrounded hgrants.1).mono fun h => ⟨h.1, h.2.1, fun _ => h.2.2⟩
      | none => exact absurd hid (hgrants vpc hmem)

end Vpc

/-! ## The image -/

namespace Image

variable {image : Desired.Image}

theorem observe_meets {live : Cloud.Image} (hgrounded : s.Grounded held)
    (hmem : live ∈ held.images) :
    Meets site (observe live) s held fun outcome s' left => s'.Grounded left ∧
      s'.image.isSome ∧ (held.Provisioned → outcome = .ready) := by
  refine .update_bind (.pure ⟨hgrounded.put "" ⟨live, hmem, rfl⟩, rfl, fun hprovisioned => ?_⟩)
  rw [hprovisioned.images live hmem]
  rfl

theorem need_meets {field : String} {value : Option String} {goal : Goal String}
    (hvalue : (given? value).isSome) (h : ∀ text, goal text s held) :
    Meets site (need image field value) s held goal := by
  obtain ⟨text, htext⟩ := Option.isSome_iff_exists.1 hvalue
  rw [need, htext]
  exact .pure (h text)

theorem resourceGroupId_meets (hcomplete : plan.Complete site held)
    (himage : plan.spec.image = some image) (hgroup : ∃ id, plan.resourceGroupId s = .ok id) :
    Meets site (resourceGroupId plan image) s held fun _ s' left => s' = s ∧ left = held := by
  have hmeets : Meets site (resourceGroupId plan image) s held fun _ s' _ => s' = s := by
    unfold resourceGroupId
    split
    · exact .pure rfl
    · split
      · rename_i name hname
        have hnames : name ∈ plan.resourceGroupNames := by
          simp [Plan.resourceGroupNames, himage, hname]
        refine .bind ((ResourceGroups.resolve_meets (hcomplete.resourceGroups name hnames)).mono ?_)
        rintro reference s' left ⟨-, rfl⟩
        exact .pure rfl
      · have hnetwork : ∃ id, plan.networkGroupId s = .ok id := by
          unfold Plan.networkGroupId
          split
          · exact ⟨_, rfl⟩
          · exact hgroup
        obtain ⟨id, hid⟩ := hnetwork
        exact .status_bind (.ofExcept hid rfl)
  refine hmeets.runs.mono ?_
  rintro id s' left ⟨rfl, t, hrun, hworks⟩
  exact ⟨rfl, hworks.still (resourceGroupId_does plan image hrun).changes_nothing⟩

theorem create_meets (hgrounded : s.Grounded held) (hcomplete : plan.Complete site held)
    (himage : plan.spec.image = some image) (hgroup : ∃ id, plan.resourceGroupId s = .ok id) :
    Meets site (create plan image) s held fun _ s' left => s'.Grounded left ∧ s'.image.isSome := by
  have hfields := hcomplete.image image himage
  refine .bind (need_meets hfields.instanceName fun _ => ?_)
  refine .bind (need_meets hfields.bucket fun _ => .bind (need_meets hfields.object fun _ => ?_))
  refine .bind (need_meets hfields.operatingSystem fun _ => ?_)
  refine .bind ((resourceGroupId_meets hcomplete himage hgroup).mono ?_)
  rintro id s' left ⟨rfl, rfl⟩
  refine .bind (.call fun live _ _ => .update_bind (.bind (Ownership.mark_meets (.pure ⟨?_, rfl⟩))))
  have hgrown := hgrounded.grows (Inventory.grows_after left ⟨.createImage _, .answer live⟩)
  exact hgrown.put "" ⟨live, List.mem_cons_self, rfl⟩

theorem findOrCreate_meets (hgrounded : s.Grounded held) (hcomplete : plan.Complete site held)
    (himage : plan.spec.image = some image) (hgroup : ∃ id, plan.resourceGroupId s = .ok id) :
    Meets site (findOrCreate plan image.name) s held fun _ s' left =>
      s'.Grounded left ∧ s'.image.isSome := by
  have hnamed := (hcomplete.image image himage).name
  rw [findOrCreate, findByName, if_neg hnamed]
  refine .look_bind rfl fun found hadmits _ => ?_
  cases found with
  | some live => exact (observe_meets hgrounded hadmits.1).mono fun h => ⟨h.1, h.2.1⟩
  | none =>
    dsimp only
    rw [himage]
    exact create_meets hgrounded hcomplete himage hgroup

/-- An image that is declared is remembered. -/
def Remembered (plan : Plan) (s : Status) : Prop :=
  plan.spec.image.isSome → s.image.isSome

theorem step_meets (hsound : held.Sound) (hgrounded : s.Grounded held)
    (hcomplete : plan.Complete site held) (hgroup : ∃ id, plan.resourceGroupId s = .ok id) :
    Meets site (step plan) s held fun outcome s' left => s'.Grounded left ∧ Remembered plan s' ∧
      (Remembered plan s → held.Provisioned → outcome = .ready) := by
  refine .status_bind ?_
  dsimp only
  cases hentry : s.image with
  | some entry =>
    have hfind : s.find? .image "" = some entry := hentry
    have hhas := hgrounded.entries .image "" entry hfind
    rw [hfind, if_neg (by simp), Option.filter_some, if_pos (by simpa using hsound.id_ne hhas)]
    dsimp only
    split
    · exact .pure ⟨hgrounded, fun _ => by rw [hentry]; rfl, fun _ _ => rfl⟩
    · refine .look_bind rfl fun found _ hgrants => ?_
      obtain ⟨image, hmem, hid⟩ := hhas
      cases found with
      | some live =>
        refine (observe_meets hgrounded hgrants.1).mono ?_
        exact fun h => ⟨h.1, fun _ => h.2.1, fun _ => h.2.2⟩
      | none => exact absurd hid (hgrants image hmem)
  | none =>
    have hfind : s.find? .image "" = none := hentry
    rw [hfind]
    cases himage : plan.spec.image with
    | none => exact .pure ⟨hgrounded, by simp [Remembered, himage], fun _ _ => rfl⟩
    | some image =>
      have hname : wantedName none (some image) = image.name := rfl
      have hforgotten : ¬ Remembered plan s := by simp [Remembered, himage, hentry]
      dsimp only [Option.isNone_none, Option.isNone_some, Option.filter_none]
      rw [if_neg (by simp), hname]
      refine (findOrCreate_meets hgrounded hcomplete himage hgroup).mono ?_
      exact fun h => ⟨h.1, fun _ => h.2, fun hremembered => absurd hremembered hforgotten⟩

end Image

end VpcOperator.Pass
