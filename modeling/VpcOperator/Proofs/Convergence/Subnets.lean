import VpcOperator.Proofs.Convergence.Provisioned

/-! # Subnets come about

The step leaves an entry for every subnet that is wanted. Once all of these are
ready, it leaves the status alone.
-/

namespace VpcOperator

open Cloud (Inventory Site)
open Desired (Role)
open Observed (Entry Status)

variable {plan : Plan} {site : Site} {s s' mid : Status} {held left between : Inventory}

/-! ## Where resources are created -/

/-- The VPC and the resource group of the cluster are known. -/
structure Plan.Rooted (plan : Plan) (s : Status) : Prop where
  vpc : ∃ id, plan.vpcId s = .ok id
  group : ∃ id, plan.resourceGroupId s = .ok id

theorem Plan.Rooted.of_entry (hsound : held.Sound) (hgrounded : s.Grounded held)
    (hvpc : (s.find? .vpc "").isSome) (hgroup : ∃ id, plan.resourceGroupId s = .ok id) :
    plan.Rooted s := by
  obtain ⟨entry, hentry⟩ := Option.isSome_iff_exists.1 hvpc
  have hid := hsound.id_ne (hgrounded.entries .vpc "" entry hentry)
  have hgiven : given? ((s.find? .vpc "").map (·.id)) = some entry.id := by
    rw [hentry]
    exact given?_eq_some.2 ⟨rfl, hid⟩
  refine ⟨⟨entry.id, ?_⟩, hgroup⟩
  rw [Plan.vpcId, hgiven]

theorem Plan.resourceGroupId_of_same (h : ∃ id, plan.resourceGroupId s = .ok id)
    (hsame : Status.Same .resourceGroup s s') : ∃ id, plan.resourceGroupId s' = .ok id := by
  have hsame : s'.resourceGroup = s.resourceGroup := hsame
  rwa [Plan.resourceGroupId, hsame]

theorem Plan.Rooted.frame (h : plan.Rooted s) (hvpc : Status.Same (.shelf .vpc) s s')
    (hgroup : Status.Same .resourceGroup s s') : plan.Rooted s' := by
  refine ⟨?_, Plan.resourceGroupId_of_same h.group hgroup⟩
  rw [Plan.vpcId, hvpc.find?]
  exact h.vpc

namespace Pass

/-- A gateway is found or created; nothing is remembered about it. -/
theorem Gateway.ofZone_meets {zone : String} (hrooted : plan.Rooted s) :
    Meets site (ofZone plan zone) s held fun _ s' left => s' = s ∧ held.Grows left := by
  obtain ⟨⟨vpcId, hvpc⟩, groupId, hgroup⟩ := hrooted
  have hmeets : Meets site (ofZone plan zone) s held fun _ s' _ => s' = s := by
    refine .status_bind (.ofExcept_bind hgroup (.look_bind rfl fun found _ _ => ?_))
    cases found with
    | some gateway => exact .pure rfl
    | none =>
      refine .status_bind (.ofExcept_bind hvpc (.bind (.call fun gateway _ _ => ?_)))
      exact .bind (Ownership.mark_meets (.pure rfl))
  refine hmeets.runs.mono ?_
  rintro gateway s' left ⟨hsame, t, -, hworks⟩
  exact ⟨hsame, hworks.grows⟩

namespace Subnets

variable {role : Role} {subnet : Desired.Subnet} {subnets rest : List Desired.Subnet}

/-! ## What is remembered of subnets -/

/-- There is an entry under the name of each of these subnets. -/
def Remembered (s : Status) (role : Role) (subnets : List Desired.Subnet) : Prop :=
  ∀ subnet ∈ subnets, ∀ name, given? subnet.name = some name →
    (s.find? (.subnets role) name).isSome

/-- There is a ready entry under the name of each of these subnets. -/
def AllReady (s : Status) (role : Role) (subnets : List Desired.Subnet) : Prop :=
  ∀ subnet ∈ subnets, ∀ name, given? subnet.name = some name → s.HasReady (.subnets role) name

theorem Remembered.frame (h : Remembered s role subnets)
    (hsame : Status.Same (.shelf (.subnets role)) s s') : Remembered s' role subnets := by
  intro subnet hmem name hname
  rw [hsame.find? name]
  exact h subnet hmem name hname

theorem AllReady.frame (h : AllReady s role subnets)
    (hsame : Status.Same (.shelf (.subnets role)) s s') : AllReady s' role subnets :=
  fun subnet hmem name hname => hsame.hasReady (h subnet hmem name hname)

/-- What becomes of these subnets in a part of the step. -/
structure Advances (role : Role) (subnets : List Desired.Subnet) (s : Status) (held : Inventory)
    (outcome : Outcome) (s' : Status) (left : Inventory) : Prop where
  grounded : s'.Grounded left
  keeps : ∀ name, (s.find? (.subnets role) name).isSome → (s'.find? (.subnets role) name).isSome
  remembered : Remembered s' role subnets
  ready : Remembered s role subnets → held.Provisioned → outcome = .ready
  same : AllReady s role subnets → s' = s

theorem advances_put {name : String} {entry : Entry} {outcome : Outcome}
    (hname : given? subnet.name = some name)
    (hgrounded : (s.put (.subnets role) name entry).Grounded left)
    (hunready : ¬ s.HasReady (.subnets role) name)
    (hready : (s.find? (.subnets role) name).isSome → held.Provisioned → outcome = .ready) :
    Advances role [subnet] s held outcome (s.put (.subnets role) name entry) left := by
  refine ⟨hgrounded, fun _ => Status.isSome_find?_put, fun other hmem key hkey => ?_, fun h => ?_,
    fun h => ?_⟩
  · obtain rfl := List.mem_singleton.1 hmem
    obtain rfl := Option.some.inj (hname.symm.trans hkey)
    rw [Status.find?_put_self]
    rfl
  · exact hready (h subnet (List.mem_singleton_self subnet) name hname)
  · exact absurd (h subnet (List.mem_singleton_self subnet) name hname) hunready

theorem observe_meets {live : Cloud.Subnet} {name : String} (hname : given? subnet.name = some name)
    (hgrounded : s.Grounded held) (hmem : live ∈ held.subnets)
    (hunready : ¬ s.HasReady (.subnets role) name) :
    Meets site (observe role subnet live) s held (Advances role [subnet] s held) := by
  refine .update_bind (.pure ?_)
  rw [hname]
  refine advances_put hname (hgrounded.put name ⟨live, hmem, rfl⟩) hunready fun _ hprovisioned => ?_
  rw [hprovisioned.subnets live hmem]
  rfl

theorem create_meets {name zone : String} (hname : given? subnet.name = some name)
    (hgrounded : s.Grounded held) (hrooted : plan.Rooted s)
    (hnone : s.find? (.subnets role) name = none) :
    Meets site (create plan role name zone) s held (Advances role [subnet] s held) := by
  obtain ⟨vpcId, hvpc⟩ := hrooted.vpc
  refine .status_bind (.ofExcept_bind hvpc (.bind ((Gateway.ofZone_meets hrooted).mono ?_)))
  rintro gateway mid between ⟨rfl, hgrows⟩
  obtain ⟨groupId, hgroup⟩ := hrooted.group
  refine .status_bind (.ofExcept_bind hgroup (.bind (.call fun live _ _ => ?_)))
  refine .update_bind (.bind (Ownership.mark_meets (.pure ?_)))
  have hgrown := hgrounded.grows
    (hgrows.trans (Inventory.grows_after between ⟨.createSubnet _, .answer live⟩))
  refine advances_put hname (hgrown.put name ⟨live, List.mem_cons_self, rfl⟩) ?_ ?_
  · rintro ⟨entry, hentry, -⟩
    simp [hnone] at hentry
  · simp [hnone]

/-- A subnet without an entry is found or created. -/
theorem resolve_meets {name : String} (hname : given? subnet.name = some name)
    (hcomplete : subnet.Complete held) (hgrounded : s.Grounded held) (hrooted : plan.Rooted s)
    (hnone : s.find? (.subnets role) name = none) :
    Meets site (resolve plan role subnet) s held (Advances role [subnet] s held) := by
  have hunready : ¬ s.HasReady (.subnets role) name := by
    rintro ⟨entry, hentry, -⟩
    simp [hnone] at hentry
  unfold resolve
  split
  · rename_i hid
    rw [findOrCreate, hname]
    refine .look_bind rfl fun found hadmits _ => ?_
    cases found with
    | some live => exact observe_meets hname hgrounded hadmits.1 hunready
    | none =>
      obtain ⟨zone, hzone⟩ := Option.isSome_iff_exists.1 (hcomplete.zone hid)
      rw [hzone]
      exact create_meets hname hgrounded hrooted hnone
  · rename_i id hid
    refine .look_bind rfl fun found _ hgrants => ?_
    obtain ⟨declared, hmem, hsame⟩ := hcomplete.id id hid
    cases found with
    | some live => exact observe_meets hname hgrounded hgrants.1 hunready
    | none => exact absurd hsame (hgrants declared hmem)

theorem settle_meets (hcomplete : subnet.Complete held) (hsound : held.Sound)
    (hgrounded : s.Grounded held) (hrooted : plan.Rooted s) :
    Meets site (settle plan role subnet) s held (Advances role [subnet] s held) := by
  obtain ⟨name, hname⟩ := Option.isSome_iff_exists.1 hcomplete.name
  refine .status_bind ?_
  rw [remembered?, hname]
  dsimp only
  cases hentry : s.find? (.subnets role) name with
  | none => exact resolve_meets hname hcomplete hgrounded hrooted hentry
  | some entry =>
    have hhas := hgrounded.entries _ name entry hentry
    dsimp only
    by_cases hready : entry.ready = true
    · rw [if_pos hready]
      refine .pure ⟨hgrounded, fun _ h => h, fun other hmem key hkey => ?_, fun _ _ => rfl,
        fun _ => rfl⟩
      obtain rfl := List.mem_singleton.1 hmem
      obtain rfl := Option.some.inj (hname.symm.trans hkey)
      rw [hentry]
      rfl
    · rw [if_neg hready, if_neg (hsound.id_ne hhas)]
      refine .look_bind rfl fun found _ hgrants => ?_
      obtain ⟨known, hmem, hid⟩ := hhas
      cases found with
      | none => exact absurd hid (hgrants known hmem)
      | some live =>
        refine observe_meets hname hgrounded hgrants.1 ?_
        rintro ⟨other, hother, hother_ready⟩
        rw [hentry] at hother
        cases hother
        exact hready hother_ready

theorem remembered_cons :
    Remembered s role (subnet :: rest) ↔ Remembered s role [subnet] ∧ Remembered s role rest := by
  simp [Remembered]

theorem allReady_cons :
    AllReady s role (subnet :: rest) ↔ AllReady s role [subnet] ∧ AllReady s role rest := by
  simp [AllReady]

theorem Advances.remembers (h : Advances role subnets s held outcome s' left)
    (hrest : Remembered s role rest) : Remembered s' role rest :=
  fun subnet hmem name hname => h.keeps name (hrest subnet hmem name hname)

/-- A subnet that is ready leaves everything provisioned for the others. -/
theorem Advances.cons {first others : Outcome}
    (h₁ : Advances role [subnet] s held first mid between)
    (hstill : first = .ready → between = held)
    (h₂ : Advances role rest mid between others s' left) :
    Advances role (subnet :: rest) s held (first.both others) s' left := by
  refine ⟨h₂.grounded, fun name hname => h₂.keeps name (h₁.keeps name hname),
    remembered_cons.2 ⟨h₂.remembers h₁.remembered, h₂.remembered⟩, fun h hprovisioned => ?_,
    fun h => ?_⟩
  · obtain ⟨hone, hrest⟩ := remembered_cons.1 h
    obtain rfl := h₁.ready hone hprovisioned
    obtain rfl := hstill rfl
    exact h₂.ready (h₁.remembers hrest) hprovisioned
  · obtain ⟨hone, hrest⟩ := allReady_cons.1 h
    obtain rfl := h₁.same hone
    exact h₂.same hrest

theorem settleAll_meets (hcomplete : ∀ subnet ∈ subnets, subnet.Complete held)
    (hsound : held.Sound) (hgrounded : s.Grounded held) (hrooted : plan.Rooted s) :
    Meets site (settleAll plan role subnets) s held (Advances role subnets s held) := by
  induction subnets generalizing s held with
  | nil =>
    exact .pure ⟨hgrounded, fun _ h => h, by simp [Remembered], fun _ _ => rfl, fun _ => rfl⟩
  | cons subnet rest ih =>
    obtain ⟨hone, hothers⟩ := List.forall_mem_cons.1 hcomplete
    refine .bind ((settle_meets hone hsound hgrounded hrooted).runs.mono ?_)
    rintro first mid between ⟨hfirst, t, hrun, hworks⟩
    have hwrites := (settle_does plan role subnet hrun).writes
    have hrooted' := hrooted.frame (hwrites _ (by simp)) (hwrites _ (by simp))
    have hothers' : ∀ other ∈ rest, other.Complete between :=
      fun other hmem => (hothers other hmem).grows hworks.grows
    refine .bind ((ih hothers' (hworks.sound hsound) hfirst.grounded hrooted').mono ?_)
    intro others s' left hrest
    refine .pure (hfirst.cons ?_ hrest)
    rintro rfl
    exact hworks.still (settle_ready hrun).changes_nothing

/-! ## The step -/

theorem generated_meets (hcomplete : plan.Complete site held) :
    Meets site (Subnets.generated plan) s held fun generated s' left => s' = s ∧ left = held ∧
      ∀ role, wanted (plan.spec.network.subnets role) generated = plan.wantedSubnets site role := by
  unfold Subnets.generated
  dsimp only
  split
  · refine .look_bind rfl fun zones _ hgrants => ?_
    obtain rfl : zones = site.zones plan.spec.region := hgrants
    split
    · exact absurd ‹_› hcomplete.zones
    · exact .pure ⟨rfl, rfl, fun role => rfl⟩
  · rename_i hdeclared
    refine .pure ⟨rfl, rfl, fun role => ?_⟩
    have hrole : (plan.spec.network.subnets role).isEmpty = false := by
      simp only [Bool.or_eq_true, not_or, Bool.not_eq_true] at hdeclared
      cases role
      · exact hdeclared.1
      · exact hdeclared.2
    rw [Plan.wantedSubnets, wanted, wanted, hrole]
    rfl

/-- Every subnet that is wanted is remembered. -/
def AllRemembered (plan : Plan) (site : Site) (s : Status) : Prop :=
  ∀ role, Remembered s role (plan.wantedSubnets site role)

/-- Every subnet that is wanted is remembered as ready. -/
def Standing (plan : Plan) (site : Site) (s : Status) : Prop :=
  ∀ role, AllReady s role (plan.wantedSubnets site role)

theorem step_meets (hcomplete : plan.Complete site held) (hsound : held.Sound)
    (hgrounded : s.Grounded held) (hrooted : plan.Rooted s) :
    Meets site (step plan) s held fun outcome s' left => s'.Grounded left ∧
      AllRemembered plan site s' ∧ (outcome = .ready → Standing plan site s') ∧
      (AllRemembered plan site s → held.Provisioned → outcome = .ready) ∧
      (Standing plan site s → s' = s) := by
  refine .bind ((generated_meets hcomplete).mono ?_)
  rintro generated s held ⟨rfl, rfl, hwanted⟩
  dsimp only
  rw [hwanted, hwanted]
  refine .bind (.attempt
    ((settleAll_meets (hcomplete.subnets .controlPlane) hsound hgrounded hrooted).runs.mono ?_))
  rintro first mid between ⟨hfirst, t₁, hrun₁, hworks⟩
  have hwrites := (settleAll_does plan _ _ hrun₁).writes
  have hcomplete' := hcomplete.grows hworks.grows
  have hrooted' := hrooted.frame (hwrites _ (by simp)) (hwrites _ (by simp))
  refine .bind (.attempt ((settleAll_meets (hcomplete'.subnets .worker) (hworks.sound hsound)
    hfirst.grounded hrooted').runs.mono ?_))
  rintro second s' left ⟨hsecond, t₂, hrun₂, -⟩
  have hframe : Status.Same (.shelf (.subnets .worker)) s mid := hwrites _ (by simp)
  have hframe' : Status.Same (.shelf (.subnets .controlPlane)) mid s' :=
    (settleAll_does plan _ _ hrun₂).writes _ (by simp)
  refine .bind (.ofExcept rfl (.bind (.ofExcept rfl (.pure ⟨hsecond.grounded, ?_, ?_, ?_, ?_⟩))))
  · intro role
    cases role with
    | controlPlane => exact hfirst.remembered.frame hframe'
    | worker => exact hsecond.remembered
  · intro hready role
    obtain ⟨rfl, rfl⟩ := Outcome.both_eq_ready_iff.1 hready
    cases role with
    | controlPlane => exact AllReady.frame (settleAll_ready hrun₁).ready hframe'
    | worker => exact (settleAll_ready hrun₂).ready
  · intro hremembered hprovisioned
    obtain rfl := hfirst.ready (hremembered .controlPlane) hprovisioned
    obtain rfl := hworks.still (settleAll_ready hrun₁).changes_nothing
    exact hsecond.ready ((hremembered .worker).frame hframe) hprovisioned
  · intro hstanding
    obtain rfl := hfirst.same (hstanding .controlPlane)
    exact hsecond.same (hstanding .worker)

end Subnets

end Pass

end VpcOperator
