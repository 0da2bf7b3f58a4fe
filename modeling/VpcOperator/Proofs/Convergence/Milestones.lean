import VpcOperator.Proofs.Convergence.Balancers
import VpcOperator.Proofs.Ready.Soundness

/-! # What a pass brings about

A pass that does not end ready passes a milestone that was still ahead, or
creates a load balancer that was missing.
-/

namespace VpcOperator.Pass

open Cloud (Inventory Site)
open LoadBalancers (missing)
open Observed (Status)

variable {plan : Plan} {site : Site} {s s' mid : Status} {held left between : Inventory}

/-! ## Milestones -/

/-- What holds between passes. -/
structure Invariant (plan : Plan) (site : Site) (s : Status) (held : Inventory) : Prop where
  complete : plan.Complete site held
  sound : held.Sound
  distinct : held.Distinct
  grounded : s.Grounded held

theorem Invariant.provisioned (h : Invariant plan site s held) :
    Invariant plan site s held.provisioned where
  complete := h.complete.grows (Inventory.grows_provisioned held)
  sound := h.sound.provisioned
  distinct := h.distinct.provisioned
  grounded := h.grounded.grows (Inventory.grows_provisioned held)

/-- What passes have to bring about, in this order. Subnets have to be provisioned before groups are
looked at, so this takes no pass of its own. -/
def Milestone (plan : Plan) (site : Site) (s : Status) (held : Inventory) : Nat → Prop
  | 0 => (s.find? .vpc "").isSome
  | 1 => Image.Remembered plan s
  | 2 => Subnets.AllRemembered plan site s
  | 3 => Subnets.Standing plan site s ∧ Groups.Remembered s plan.spec.network.securityGroups
  | 4 => Groups.InForce s held plan.spec.network.securityGroups
  | _ => False

/-- The first `k` milestones have been passed. -/
def Reached (plan : Plan) (site : Site) (s : Status) (held : Inventory) (k : Nat) : Prop :=
  ∀ i < k, Milestone plan site s held i

/-- The shelves a milestone is about. -/
def concerns : Nat → List Observed.Shelf
  | 0 => [.vpc]
  | 1 => [.image]
  | 2 => [.subnets .controlPlane, .subnets .worker]
  | _ => [.subnets .controlPlane, .subnets .worker, .securityGroups]

theorem Milestone.writes {i : Nat} {parts : List Observed.Part} (h : Milestone plan site s held i)
    (hwrites : Status.Writes parts s s') (hout : ∀ shelf ∈ concerns i, .shelf shelf ∉ parts) :
    Milestone plan site s' held i := by
  have hsame : ∀ shelf ∈ concerns i, Status.Same (.shelf shelf) s s' :=
    fun shelf hmem => hwrites _ (hout shelf hmem)
  have hsubnets : 2 ≤ i → ∀ role, Status.Same (.shelf (.subnets role)) s s' := by
    intro hi role
    match i, hi with
    | 2, _ | _ + 3, _ => cases role <;> exact hsame _ (by simp [concerns])
  match i, h with
  | 0, h =>
    have hvpc : Status.Same (.shelf .vpc) s s' := hsame .vpc (by simp [concerns])
    rwa [Milestone, hvpc.find?]
  | 1, h =>
    have himage : s'.image = s.image := hsame .image (by simp [concerns])
    rwa [Milestone, Image.Remembered, himage]
  | 2, h => exact fun role => (h role).frame (hsubnets (by omega) role)
  | 3, h =>
    refine ⟨fun role => (h.1 role).frame (hsubnets (by omega) role), h.2.frame ?_⟩
    exact hsame .securityGroups (by simp [concerns])
  | 4, h =>
    exact Groups.InForce.frame h (hsubnets (by omega)) (hsame .securityGroups (by simp [concerns]))

theorem reached_succ {k : Nat} :
    Reached plan site s held (k + 1) ↔
      Reached plan site s held k ∧ Milestone plan site s held k := by
  unfold Reached
  constructor
  · intro h
    exact ⟨fun i hi => h i (by omega), h k (by omega)⟩
  · rintro ⟨h, hk⟩ i hi
    rcases Nat.lt_succ_iff_lt_or_eq.1 hi with hi | rfl
    · exact h i hi
    · exact hk

theorem Reached.le {k : Nat} (h : Reached plan site s held k) : k ≤ 5 := by
  by_contra hk
  exact h 5 (by omega)

theorem Reached.grows {k : Nat} (h : Reached plan site s held k) (hgrows : held.Grows left)
    (hleft : left.Unambiguous) : Reached plan site s left k := by
  intro i hi
  have hi := h i hi
  match i, hi with
  | 0, hi | 1, hi | 2, hi | 3, hi => exact hi
  | 4, hi => exact Groups.InForce.grows hi hgrows hleft

/-- More milestones have been passed, or as many and fewer load balancers are missing. Those that
were passed before count only if everything has been provisioned since. -/
def Advances (plan : Plan) (site : Site) (s : Status) (held : Inventory) (s' : Status)
    (left : Inventory) : Prop :=
  ∃ k, Reached plan site s' left k ∧ ∀ j, Reached plan site s held j → j = 0 ∨ held.Provisioned →
    j + missing left plan.spec.network.loadBalancers <
      k + missing held plan.spec.network.loadBalancers

/-- A step that is ready where its milestone has been passed passes it if it is not. -/
theorem advances_of_milestone {i : Nat} {outcome : Outcome} (hgrows : held.Grows left)
    (hreached : Reached plan site s' left (i + 1))
    (hready : Milestone plan site s held i → held.Provisioned → outcome = .ready)
    (houtcome : outcome = .requeue) : Advances plan site s held s' left := by
  refine ⟨i + 1, hreached, fun j hj hprovisioned => ?_⟩
  have hmissing := LoadBalancers.missing_mono hgrows plan.spec.network.loadBalancers
  have hle : j ≤ i := by
    by_contra hlt
    have hprovisioned : held.Provisioned := hprovisioned.resolve_left (by omega)
    rw [hready (hj i (by omega)) hprovisioned] at houtcome
    cases houtcome
  omega

/-- What becomes of a pass in one of its steps. -/
structure Moves (plan : Plan) (site : Site) (s : Status) (held : Inventory) (outcome : Outcome)
    (s' : Status) (left : Inventory) : Prop where
  invariant : Invariant plan site s' left
  keeps : ∀ k, Reached plan site s held k → Reached plan site s' left k
  still : outcome = .ready → left = held
  advances : outcome = .requeue → Advances plan site s held s' left

/-- What becomes of the steps of a pass. -/
structure Settles (plan : Plan) (site : Site) (s : Status) (held : Inventory) (outcome : Outcome)
    (s' : Status) (left : Inventory) : Prop where
  invariant : Invariant plan site s' left
  arrives : outcome = .ready →
    Reached plan site s' left 5 ∧ missing left plan.spec.network.loadBalancers = 0
  advances : outcome = .requeue → Advances plan site s held s' left

theorem runSteps_meets {step : Step} {rest : List Step}
    (h : Meets site (step.run plan) s held fun outcome s' left =>
      Moves plan site s held outcome s' left ∧
        (outcome = .ready → Meets site (runSteps plan rest) s' left (Settles plan site s' left))) :
    Meets site (runSteps plan (step :: rest)) s held (Settles plan site s held) := by
  refine .bind (h.mono ?_)
  rintro outcome mid between ⟨hmoves, hrest⟩
  cases outcome with
  | requeue => exact .pure ⟨hmoves.invariant, nofun, fun _ => hmoves.advances rfl⟩
  | ready =>
    obtain rfl := hmoves.still rfl
    refine (hrest rfl).mono ?_
    intro outcome s' left hsettles
    refine ⟨hsettles.invariant, hsettles.arrives, fun houtcome => ?_⟩
    obtain ⟨k, hreached, hless⟩ := hsettles.advances houtcome
    exact ⟨k, hreached, fun j hj => hless j (hmoves.keeps j hj)⟩

/-! ## From a step to the end of the pass -/

theorem Invariant.later {t : Trace} (h : Invariant plan site s held)
    (hworks : held.Works site t left) (hguarded : t.Guarded ∅) (hgrounded : s'.Grounded left) :
    Invariant plan site s' left where
  complete := h.complete.grows hworks.grows
  sound := hworks.sound h.sound
  distinct := hworks.distinct h.distinct hguarded
  grounded := hgrounded

theorem Invariant.unambiguous (h : Invariant plan site s held) : held.Unambiguous :=
  h.sound.unambiguous h.distinct

theorem loadBalancers_meets (h : Invariant plan site s held)
    (hgroup : ∃ id, plan.resourceGroupId s = .ok id) (hreached : Reached plan site s held 5) :
    Meets site (runSteps plan [.loadBalancers]) s held (Settles plan site s held) := by
  have hfurnished : LoadBalancers.Furnished plan site s held :=
    { h with
      rooted := .of_entry h.sound h.grounded (hreached 0 (by omega)) hgroup
      subnets := hreached 2 (by omega)
      groups := (hreached 3 (by omega)).2 }
  refine runSteps_meets ((LoadBalancers.step_meets hfurnished).runs.mono ?_)
  rintro outcome s' left ⟨⟨hgrounded, hnone, hprogress⟩, t, hrun, hworks⟩
  have hinvariant := h.later hworks (LoadBalancers.step_guarded plan hrun) hgrounded
  have hwrites := (LoadBalancers.step_does plan hrun).writes
  have hkeeps : ∀ k, Reached plan site s held k → Reached plan site s' left k := by
    intro k hk
    have hframe : Reached plan site s' held k := fun i hi =>
      (hk i hi).writes hwrites (by simp)
    exact hframe.grows hworks.grows hinvariant.unambiguous
  refine ⟨⟨hinvariant, hkeeps, ?_, ?_⟩, fun hready => ?_⟩
  · rintro rfl
    exact hworks.still (LoadBalancers.settleAll_ready hrun (List.Subset.refl _)
      (hworks.truthful h.sound) LoadBalancers.known_before).changes_nothing
  · rintro rfl
    refine ⟨5, hkeeps 5 hreached, fun j hj hprovisioned => ?_⟩
    have hmissing := LoadBalancers.missing_mono hworks.grows plan.spec.network.loadBalancers
    have hle := hj.le
    rcases hprovisioned with rfl | hprovisioned
    · omega
    · rcases hprogress hprovisioned with hready | hless
      · cases hready
      · omega
  · exact .pure ⟨hinvariant, fun _ => ⟨hkeeps 5 hreached, hnone hready⟩, nofun⟩

theorem securityGroups_meets (h : Invariant plan site s held)
    (hgroup : ∃ id, plan.resourceGroupId s = .ok id) (hreached : Reached plan site s held 3)
    (hstanding : Subnets.Standing plan site s) :
    Meets site (runSteps plan [.securityGroups, .loadBalancers]) s held
      (Settles plan site s held) := by
  have hrooted : plan.Rooted s := .of_entry h.sound h.grounded (hreached 0 (by omega)) hgroup
  refine runSteps_meets ((Groups.step_meets h.complete h.sound h.distinct h.grounded hrooted
    (hreached 2 (by omega))).runs.mono ?_)
  rintro outcome s' left ⟨⟨hgrounded, hremembered, hforce, hsame⟩, t, hrun, hworks⟩
  have hinvariant := h.later hworks (Groups.step_guarded plan hrun) hgrounded
  have hwrites := (Groups.step_does plan hrun).writes
  have hfour : Reached plan site s' left 4 := by
    refine reached_succ.2 ⟨fun i hi => ?_, fun role => (hstanding role).frame (hwrites _ (by simp)),
      hremembered⟩
    match i, hi with
    | 0, _ | 1, _ | 2, _ => exact (hreached _ (by omega)).writes hwrites (by simp [concerns])
  have hfive : Groups.InForce s' left plan.spec.network.securityGroups →
      Reached plan site s' left 5 := fun hforce => reached_succ.2 ⟨hfour, hforce⟩
  refine ⟨⟨hinvariant, fun k hk => ?_, ?_, ?_⟩, fun hready => ?_⟩
  · by_cases hfew : k ≤ 4
    · exact fun i hi => hfour i (by omega)
    · obtain rfl : k = 5 := Nat.le_antisymm hk.le (by omega)
      exact hfive (hforce (.inr (hk 3 (by omega)).2))
  · rintro rfl
    have hknown : Groups.Known plan s t s := fun name entry hfind => .remembered hfind
    exact hworks.still (Groups.step_ready hrun (List.Subset.refl _)
      (hworks.truthful h.sound) hknown).1
  · -- a pass that has to create a group leaves its rules to the next one
    by_cases hbefore : Groups.Remembered s plan.spec.network.securityGroups
    · exact advances_of_milestone hworks.grows (hfive (hforce (.inr hbefore)))
        fun hforced _ => (hsame hbefore).2 hforced
    · exact advances_of_milestone hworks.grows hfour
        fun hpassed _ => absurd hpassed.2 hbefore
  · exact loadBalancers_meets hinvariant (Plan.resourceGroupId_of_same hgroup (hwrites _ (by simp)))
      (hfive (hforce (.inl hready)))

theorem subnets_meets (h : Invariant plan site s held)
    (hgroup : ∃ id, plan.resourceGroupId s = .ok id) (hreached : Reached plan site s held 2) :
    Meets site (runSteps plan [.subnets, .securityGroups, .loadBalancers]) s held
      (Settles plan site s held) := by
  have hrooted : plan.Rooted s := .of_entry h.sound h.grounded (hreached 0 (by omega)) hgroup
  refine runSteps_meets ((Subnets.step_meets h.complete h.sound h.grounded hrooted).runs.mono ?_)
  rintro outcome s' left ⟨⟨hgrounded, hremembered, hstanding, hready, hsame⟩, t, hrun, hworks⟩
  have hinvariant := h.later hworks (Subnets.step_guarded plan hrun) hgrounded
  have hwrites := (Subnets.step_does plan hrun).writes
  have hthree : Reached plan site s' left 3 := by
    refine reached_succ.2 ⟨fun i hi => ?_, hremembered⟩
    match i, hi with
    | 0, _ | 1, _ => exact (hreached _ (by omega)).writes hwrites (by simp [concerns])
  refine ⟨⟨hinvariant, fun k hk => ?_, ?_, advances_of_milestone hworks.grows hthree hready⟩,
    fun houtcome => ?_⟩
  · by_cases hfew : k ≤ 3
    · exact fun i hi => hthree i (by omega)
    · obtain rfl := hsame (hk 3 (by omega)).1
      exact hk.grows hworks.grows hinvariant.unambiguous
  · rintro rfl
    exact hworks.still (Subnets.step_ready hrun).1
  · exact securityGroups_meets hinvariant
      (Plan.resourceGroupId_of_same hgroup (hwrites _ (by simp))) hthree (hstanding houtcome)

theorem image_meets (h : Invariant plan site s held)
    (hgroup : ∃ id, plan.resourceGroupId s = .ok id) (hreached : Reached plan site s held 1) :
    Meets site (runSteps plan [.image, .subnets, .securityGroups, .loadBalancers]) s held
      (Settles plan site s held) := by
  refine runSteps_meets ((Image.step_meets h.sound h.grounded h.complete hgroup).runs.mono ?_)
  rintro outcome s' left ⟨⟨hgrounded, hremembered, hready⟩, t, hrun, hworks⟩
  have hinvariant := h.later hworks (Image.step_guarded plan hrun) hgrounded
  have hwrites := (Image.step_does plan hrun).writes
  have htwo : Reached plan site s' left 2 := by
    refine reached_succ.2 ⟨fun i hi => ?_, hremembered⟩
    match i, hi with
    | 0, _ => exact (hreached 0 (by omega)).writes hwrites (by simp [concerns])
  have hgroup' := Plan.resourceGroupId_of_same hgroup (hwrites _ (by simp))
  refine ⟨⟨hinvariant, fun k hk => ?_, ?_, advances_of_milestone hworks.grows htwo hready⟩,
    fun _ => subnets_meets hinvariant hgroup' htwo⟩
  · have hframe : Reached plan site s' held k := by
      intro i hi
      match i, hi with
      | 1, _ => exact hremembered
      | 0, hi | 2, hi | _ + 3, hi => exact (hk _ hi).writes hwrites (by simp [concerns])
    exact hframe.grows hworks.grows hinvariant.unambiguous
  · rintro rfl
    exact hworks.still (Image.step_ready hrun (hworks.truthful h.sound)).1

theorem vpc_meets (h : Invariant plan site s held)
    (hgroup : ∃ id, plan.resourceGroupId s = .ok id) :
    Meets site (runSteps plan [.vpc, .image, .subnets, .securityGroups, .loadBalancers]) s held
      (Settles plan site s held) := by
  refine runSteps_meets ((Vpc.step_meets h.sound h.grounded h.complete hgroup).runs.mono ?_)
  rintro outcome s' left ⟨⟨hgrounded, hentry, hready⟩, t, hrun, hworks⟩
  have hinvariant := h.later hworks (Vpc.step_guarded plan hrun) hgrounded
  have hwrites := (Vpc.step_does plan hrun).writes
  have hone : Reached plan site s' left 1 := reached_succ.2 ⟨fun i hi => by omega, hentry⟩
  have hgroup' := Plan.resourceGroupId_of_same hgroup (hwrites _ (by simp))
  refine ⟨⟨hinvariant, fun k hk => ?_, ?_, advances_of_milestone hworks.grows hone hready⟩,
    fun _ => image_meets hinvariant hgroup' hone⟩
  · have hframe : Reached plan site s' held k := by
      intro i hi
      match i, hi with
      | 0, _ => exact hentry
      | 1, hi | 2, hi | _ + 3, hi => exact (hk _ hi).writes hwrites (by simp [concerns])
    exact hframe.grows hworks.grows hinvariant.unambiguous
  · rintro rfl
    exact hworks.still (Vpc.step_ready hrun (hworks.truthful h.sound)).1

theorem standard_meets (h : Invariant plan site s held) :
    Meets site (standard plan) s held (Settles plan site s held) := by
  refine runSteps_meets ((ResourceGroups.step_meets h.complete).runs.mono ?_)
  rintro outcome s' left ⟨⟨houtcome, rfl, hgroup, hwrites⟩, t, hrun, hworks⟩
  have hgrounded : s'.Grounded left :=
    h.grounded.frame (fun shelf => hwrites _ (by simp)) (hwrites _ (by simp))
  have hinvariant := h.later hworks (ResourceGroups.step_guarded plan hrun) hgrounded
  refine ⟨⟨hinvariant, fun k hk i hi => (hk i hi).writes hwrites (by simp), fun _ => rfl, ?_⟩,
    fun _ => vpc_meets hinvariant hgroup⟩
  rintro rfl
  cases houtcome

end VpcOperator.Pass
