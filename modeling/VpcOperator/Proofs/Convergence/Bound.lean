import VpcOperator.Proofs.Account.Ledger
import VpcOperator.Proofs.Convergence.Milestones

/-! # Passes converge

The milestones and the load balancers bound how many passes can end without
being ready. Once one is, all later ones are.
-/

namespace VpcOperator.Pass

open Cloud (Inventory Responder Site)
open LoadBalancers (missing)
open Observed (Status)

variable {plan : Plan} {site : Site} {s : Status} {σ : Type} {responder : Responder σ}
  {inventory : σ → Inventory} {provision : σ → σ} {state start : σ}

/-! ## One pass -/

theorem Invariant.empty {held : Inventory} (hcomplete : plan.Complete site held)
    (hsound : held.Sound) (hdistinct : held.Distinct) : Invariant plan site .empty held :=
  ⟨hcomplete, hsound, hdistinct, Status.grounded_empty held⟩

/-- How a pass against an account that works ends. -/
structure Concludes (plan : Plan) (site : Site) (inventory : σ → Inventory) (s : Status)
    (state : σ) (ended : Ended σ) (outcome : Outcome) : Prop where
  result : ended.result = .ok outcome
  settles : Settles plan site s (inventory state) outcome ended.status (inventory ended.state)
  still : outcome = .ready → ended.trace.ChangesNothing

theorem Invariant.concludes (h : Invariant plan site s (inventory state))
    (hworks : responder.Works site inventory) :
    ∃ outcome, Concludes plan site inventory s state (responder.pass plan s state) outcome := by
  have hrun := responder.pass_runs plan s state
  have hserved := hworks.serve (standard plan s) state
  obtain ⟨outcome, hresult, hsettles⟩ := standard_meets h hrun hserved
  refine ⟨outcome, hresult, hsettles, ?_⟩
  rintro rfl
  rw [hresult] at hrun
  exact (standard_ready_sound hrun (hserved.truthful h.sound)).1

/-! ## Pass after pass -/

/-- Progress from one pass to the next, when everything has been provisioned between them. -/
theorem Advances.of_provisioned {held left : Inventory} {s' : Status} {k : Nat}
    (h : Advances plan site s held.provisioned s' left) (hinvariant : Invariant plan site s held)
    (hreached : Reached plan site s held k) :
    ∃ k', Reached plan site s' left k' ∧ k + missing left plan.spec.network.loadBalancers <
      k' + missing held plan.spec.network.loadBalancers := by
  obtain ⟨k', hreached', hless⟩ := h
  have hgrows := Inventory.grows_provisioned held
  have hfewer := LoadBalancers.missing_mono hgrows plan.spec.network.loadBalancers
  have hkept : Reached plan site s held.provisioned k :=
    hreached.grows hgrows hinvariant.provisioned.unambiguous
  have hless := hless k hkept (.inr (Inventory.provisioned_provisioned held))
  exact ⟨k', hreached', by omega⟩

section

variable (hworks : responder.Works site inventory)
  (hprovision : ∀ state, inventory (provision state) = (inventory state).provisioned)
  (hstart : Invariant plan site .empty (inventory start))

include hworks hprovision in
theorem Invariant.next_concludes (h : Invariant plan site s (inventory state)) :
    ∃ outcome, Concludes plan site inventory s (provision state)
      (responder.pass plan s (provision state)) outcome := by
  refine Invariant.concludes ?_ hworks
  rw [hprovision]
  exact h.provisioned

include hworks hprovision hstart

theorem passes_invariant (n : Nat) :
    let ended := responder.passes plan provision .empty start n
    Invariant plan site ended.status (inventory ended.state) := by
  induction n with
  | zero =>
    obtain ⟨outcome, hconcludes⟩ := hstart.concludes hworks
    exact hconcludes.settles.invariant
  | succ n ih =>
    obtain ⟨outcome, hconcludes⟩ := ih.next_concludes hworks hprovision
    exact hconcludes.settles.invariant

theorem passes_conclude (n : Nat) :
    ∃ s state outcome, Concludes plan site inventory s state
      (responder.passes plan provision .empty start n) outcome := by
  cases n with
  | zero =>
    obtain ⟨outcome, hconcludes⟩ := hstart.concludes hworks
    exact ⟨_, _, outcome, hconcludes⟩
  | succ n =>
    obtain ⟨outcome, hconcludes⟩ :=
      (passes_invariant hworks hprovision hstart n).next_concludes hworks hprovision
    exact ⟨_, _, outcome, hconcludes⟩

/-- Every pass that does not end ready adds to what has been achieved. -/
theorem passes_advance (n : Nat)
    (hunready : ∀ m ≤ n, (responder.passes plan provision .empty start m).result ≠ .ok .ready) :
    let ended := responder.passes plan provision .empty start n
    let balancers := plan.spec.network.loadBalancers
    ∃ k, Reached plan site ended.status (inventory ended.state) k ∧
      n + 1 + missing (inventory ended.state) balancers ≤
        k + missing (inventory start) balancers := by
  induction n with
  | zero =>
    obtain ⟨outcome, hconcludes⟩ := hstart.concludes hworks
    cases outcome with
    | ready => exact absurd hconcludes.result (hunready 0 (Nat.le_refl 0))
    | requeue =>
      obtain ⟨k, hreached, hless⟩ := hconcludes.settles.advances rfl
      have hless := hless 0 (fun i hi => absurd hi (Nat.not_lt_zero i)) (.inl rfl)
      exact ⟨k, hreached, by dsimp only [Responder.passes]; omega⟩
  | succ n ih =>
    obtain ⟨k, hreached, hbound⟩ := ih fun m hm => hunready m (by omega)
    have hinvariant := passes_invariant hworks hprovision hstart n
    obtain ⟨outcome, hconcludes⟩ := hinvariant.next_concludes hworks hprovision
    cases outcome with
    | ready => exact absurd hconcludes.result (hunready (n + 1) (Nat.le_refl _))
    | requeue =>
      have hadvances := hconcludes.settles.advances rfl
      rw [hprovision] at hadvances
      obtain ⟨k', hreached', hless⟩ := hadvances.of_provisioned hinvariant hreached
      exact ⟨k', hreached', by dsimp only [Responder.passes] at *; omega⟩

/-- Not all of these passes can fall short of being ready. -/
theorem exists_ready : ∃ n < 6 + plan.spec.network.loadBalancers.length,
    (responder.passes plan provision .empty start n).result = .ok .ready := by
  by_contra hnever
  have hunready : ∀ m ≤ 5 + plan.spec.network.loadBalancers.length,
      (responder.passes plan provision .empty start m).result ≠ .ok .ready :=
    fun m hm hready => hnever ⟨m, by omega, hready⟩
  obtain ⟨k, hreached, hbound⟩ := passes_advance hworks hprovision hstart _ hunready
  have hmilestones := hreached.le
  have hmissing : missing (inventory start) plan.spec.network.loadBalancers ≤
      plan.spec.network.loadBalancers.length := List.countP_le_length
  omega

/-- There is nothing left to achieve after a ready pass. -/
theorem ready_succ (n : Nat)
    (hready : (responder.passes plan provision .empty start n).result = .ok .ready) :
    (responder.passes plan provision .empty start (n + 1)).result = .ok .ready := by
  obtain ⟨s, state, outcome, hconcludes⟩ := passes_conclude hworks hprovision hstart n
  obtain rfl : outcome = .ready := by
    rw [hconcludes.result] at hready
    exact Except.ok.inj hready
  obtain ⟨hreached, hnone⟩ := hconcludes.settles.arrives rfl
  have hinvariant := passes_invariant hworks hprovision hstart n
  obtain ⟨outcome, hnext⟩ := hinvariant.next_concludes hworks hprovision
  cases outcome with
  | ready => exact hnext.result
  | requeue =>
    have hadvances := hnext.settles.advances rfl
    rw [hprovision] at hadvances
    obtain ⟨k, hreached', hless⟩ := hadvances.of_provisioned hinvariant hreached
    have hmilestones := hreached'.le
    omega

theorem ready_of_le {n m : Nat} (hle : n ≤ m)
    (hready : (responder.passes plan provision .empty start n).result = .ok .ready) :
    (responder.passes plan provision .empty start m).result = .ok .ready := by
  induction m, hle using Nat.le_induction with
  | base => exact hready
  | succ m _ ih => exact ready_succ hworks hprovision hstart m ih

end

/-- No pass fails. One of the first is ready, and from then on all are and change nothing. -/
theorem converges (hworks : responder.Works site inventory)
    (hprovision : ∀ state, inventory (provision state) = (inventory state).provisioned)
    (hcomplete : plan.Complete site (inventory start)) (hsound : (inventory start).Sound)
    (hdistinct : (inventory start).Distinct) :
    let passes := responder.passes plan provision .empty start
    (∀ n, ∃ outcome, (passes n).result = .ok outcome) ∧
      ∃ n < 6 + plan.spec.network.loadBalancers.length, ∀ m, n ≤ m →
        (passes m).result = .ok .ready ∧ (passes m).trace.ChangesNothing := by
  intro passes
  have hstart : Invariant plan site .empty (inventory start) := .empty hcomplete hsound hdistinct
  have hconcludes := passes_conclude hworks hprovision hstart
  constructor
  · intro n
    obtain ⟨s, state, outcome, hconcludes⟩ := hconcludes n
    exact ⟨outcome, hconcludes.result⟩
  · obtain ⟨n, hbound, hready⟩ := exists_ready hworks hprovision hstart
    refine ⟨n, hbound, fun m hle => ?_⟩
    have hlater := ready_of_le hworks hprovision hstart hle hready
    obtain ⟨s, state, outcome, hconcludes⟩ := hconcludes m
    refine ⟨hlater, hconcludes.still ?_⟩
    rw [hconcludes.result] at hlater
    exact Except.ok.inj hlater

/-! ## The small plan -/

/-- The VPC of the small plan, and what the plan needs besides. -/
def smallSite : Site :=
  { zones := fun _ => ["z"], resourceGroups := [⟨"1", "a"⟩] }

def smallStart : Inventory :=
  { Inventory.empty with vpcs := [{ id := "2", name := "a-vpc", crn := "", state := .pending }] }

theorem small_complete : Plan.small.Complete smallSite smallStart where
  resourceGroups name hmem := by
    obtain rfl : name = "a" := by
      simpa [Plan.resourceGroupNames, Plan.small, Desired.Network.empty, given?] using hmem
    exact ⟨⟨"1", "a"⟩, by decide, by decide⟩
  zones := by decide
  vpc id hid := by
    obtain rfl : "2" = id := Option.some.inj hid
    exact ⟨_, List.mem_singleton.2 rfl, rfl⟩
  image image himage := by cases himage
  subnets role subnet hmem := by
    obtain rfl : subnet = Plan.small.zonalSubnet "z" := by
      cases role <;> exact List.mem_singleton.1 hmem
    exact ⟨rfl, fun _ => rfl, fun id hid => by cases hid⟩
  securityGroups group hmem := by
    obtain rfl := List.mem_singleton.1 hmem
    refine ⟨rfl, fun id hid => ?_, fun rule hrule remote hremote => ?_⟩
    · cases hid
    · obtain rfl := List.mem_singleton.1 hrule
      obtain rfl := List.mem_singleton.1 hremote
      exact .inl ⟨_, List.mem_singleton.2 rfl, rfl⟩
  loadBalancers balancer hmem := by
    obtain rfl := List.mem_singleton.1 hmem
    refine ⟨by decide, fun id hid => ?_, fun reference href => ?_⟩
    · cases hid
    · cases href

theorem small_sound : smallStart.Sound := by
  constructor <;> simp [smallStart, Inventory.empty]

theorem small_distinct : smallStart.Distinct := by
  constructor <;> simp [smallStart, Inventory.empty]

/-- The VPC is still pending in the first pass. -/
theorem converges_small :
    let passes :=
      (Cloud.Ledger.responder smallSite).passes .small Inventory.provisioned .empty smallStart
    (passes 0).result = .ok .requeue ∧ ∃ n < 7, ∀ m, n ≤ m →
      (passes m).result = .ok .ready ∧ (passes m).trace.ChangesNothing := by
  intro passes
  exact ⟨rfl, (converges (Cloud.Ledger.works smallSite) (fun _ => rfl) small_complete small_sound
    small_distinct).2⟩

end VpcOperator.Pass
