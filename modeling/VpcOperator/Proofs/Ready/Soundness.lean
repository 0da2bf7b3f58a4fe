import VpcOperator.Proofs.Ready.Balancers
import VpcOperator.Proofs.Ready.Firewall
import VpcOperator.Proofs.Ready.Provisioned

/-! # What a ready pass vouches for

A pass that ends ready has found everything that is declared, and everything it
found is in place.
-/

namespace VpcOperator.Pass

open Observed (Status)

variable {plan : Plan} {before after s s' : Status} {t : Trace}

theorem runSteps_ready {step : Step} {rest : List Step} :
    (runSteps plan (step :: rest)).Runs s t (.ok .ready) s' ↔
      ∃ mid t₁ t₂, t = t₁ ++ t₂ ∧ (step.run plan).Runs s t₁ (.ok .ready) mid ∧
        (runSteps plan rest).Runs mid t₂ (.ok .ready) s' := by
  refine runs_bind_ok.trans ?_
  constructor
  · rintro ⟨outcome, mid, t₁, t₂, rfl, hstep, hrest⟩
    cases outcome with
    | ready => exact ⟨mid, t₁, t₂, rfl, hstep, hrest⟩
    | requeue => simp at hrest
  · rintro ⟨mid, t₁, t₂, rfl, hstep, hrest⟩
    exact ⟨.ready, mid, t₁, t₂, rfl, hstep, hrest⟩

/-- The steps of a ready pass, with the status and the exchanges of each. -/
structure Stages (plan : Plan) (before : Status) (t : Trace) (after : Status) where
  grouped : Status
  placed : Status
  imaged : Status
  subnetted : Status
  guarded : Status
  t₁ : Trace
  t₂ : Trace
  t₃ : Trace
  t₄ : Trace
  t₅ : Trace
  t₆ : Trace
  resourceGroups : (ResourceGroups.step plan).Runs before t₁ (.ok .ready) grouped
  vpc : (Vpc.step plan).Runs grouped t₂ (.ok .ready) placed
  image : (Image.step plan).Runs placed t₃ (.ok .ready) imaged
  subnets : (Subnets.step plan).Runs imaged t₄ (.ok .ready) subnetted
  securityGroups : (Groups.step plan).Runs subnetted t₅ (.ok .ready) guarded
  loadBalancers : (LoadBalancers.step plan).Runs guarded t₆ (.ok .ready) after
  trace : t = t₁ ++ t₂ ++ t₃ ++ t₄ ++ t₅ ++ t₆

theorem standard_stages (h : (standard plan).Runs before t (.ok .ready) after) :
    Nonempty (Stages plan before t after) := by
  obtain ⟨s₁, t₁, u₁, rfl, h₁, h⟩ := runSteps_ready.1 h
  obtain ⟨s₂, t₂, u₂, rfl, h₂, h⟩ := runSteps_ready.1 h
  obtain ⟨s₃, t₃, u₃, rfl, h₃, h⟩ := runSteps_ready.1 h
  obtain ⟨s₄, t₄, u₄, rfl, h₄, h⟩ := runSteps_ready.1 h
  obtain ⟨s₅, t₅, u₅, rfl, h₅, h⟩ := runSteps_ready.1 h
  obtain ⟨s₆, t₆, u₆, rfl, h₆, h⟩ := runSteps_ready.1 h
  obtain ⟨rfl, -, rfl⟩ := runs_pure_ok.1 h
  exact ⟨⟨s₁, s₂, s₃, s₄, s₅, t₁, t₂, t₃, t₄, t₅, t₆, h₁, h₂, h₃, h₄, h₅, h₆, by simp⟩⟩

/-- Everything the plan declares is in place, by what was answered in `t` and remembered. -/
structure InPlace (plan : Plan) (before : Status) (t : Trace) (after : Status) : Prop where
  vpc : Vpc.Seen t after
  image : plan.spec.image.isSome → after.HasReady .image ""
  subnets : Subnets.Settled plan t after
  securityGroups : Groups.Settled plan before t after
  loadBalancers : ∀ balancer ∈ plan.spec.network.loadBalancers,
    ∃ id, LoadBalancers.Resolves before t balancer id ∧ after.HasActive id

/-- Before a stage nothing has touched what it reads first. -/
theorem Stages.untouched (run : Stages plan before t after) :
    Status.Same (.shelf .securityGroups) before run.subnetted ∧
      Status.Same .balancers before run.guarded := by
  have hfirst : Status.Writes [.resourceGroup, .networkGroup, .shelf .vpc, .shelf .image,
      .shelf (.subnets .controlPlane), .shelf (.subnets .worker)] before run.subnetted :=
    ((((ResourceGroups.step_does plan run.resourceGroups).writes.mono (by simp)).trans
      ((Vpc.step_does plan run.vpc).writes.mono (by simp))).trans
      ((Image.step_does plan run.image).writes.mono (by simp))).trans
      ((Subnets.step_does plan run.subnets).writes.mono (by simp))
  exact ⟨hfirst _ (by simp), (hfirst _ (by simp)).trans
    ((Groups.step_does plan run.securityGroups).writes _ (by simp))⟩

/-! What is still written after each stage: -/

theorem Stages.guarded_writes (run : Stages plan before t after) :
    Status.Writes [.balancers] run.guarded after :=
  (LoadBalancers.step_does plan run.loadBalancers).writes

theorem Stages.subnetted_writes (run : Stages plan before t after) :
    Status.Writes [.shelf .securityGroups, .balancers] run.subnetted after :=
  ((Groups.step_does plan run.securityGroups).writes.mono (by simp)).trans
    (run.guarded_writes.mono (by simp))

theorem Stages.imaged_writes (run : Stages plan before t after) :
    Status.Writes [.shelf (.subnets .controlPlane), .shelf (.subnets .worker),
      .shelf .securityGroups, .balancers] run.imaged after :=
  ((Subnets.step_does plan run.subnets).writes.mono (by simp)).trans
    (run.subnetted_writes.mono (by simp))

theorem Stages.placed_writes (run : Stages plan before t after) :
    Status.Writes [.shelf .image, .shelf (.subnets .controlPlane), .shelf (.subnets .worker),
      .shelf .securityGroups, .balancers] run.placed after :=
  ((Image.step_does plan run.image).writes.mono (by simp)).trans
    (run.imaged_writes.mono (by simp))

theorem Stages.grouped_writes (run : Stages plan before t after) :
    Status.Writes [.shelf .vpc, .shelf .image, .shelf (.subnets .controlPlane),
      .shelf (.subnets .worker), .shelf .securityGroups, .balancers] run.grouped after :=
  ((Vpc.step_does plan run.vpc).writes.mono (by simp)).trans (run.placed_writes.mono (by simp))

/-- A ready pass has changed nothing, and everything is in place. -/
theorem standard_ready_sound (h : (standard plan).Runs before t (.ok .ready) after)
    (htruthful : t.Truthful) : t.ChangesNothing ∧ InPlace plan before t after := by
  obtain ⟨run⟩ := standard_stages h
  have hsub : run.t₁ ++ run.t₂ ++ run.t₃ ++ run.t₄ ++ run.t₅ ++ run.t₆ ⊆ t :=
    fun _ hmem => run.trace ▸ hmem
  have htrue := run.trace ▸ htruthful
  simp only [List.append_subset, Trace.truthful_append] at hsub htrue
  obtain ⟨⟨⟨⟨⟨hsub₁, hsub₂⟩, hsub₃⟩, hsub₄⟩, hsub₅⟩, hsub₆⟩ := hsub
  obtain ⟨⟨⟨⟨⟨htrue₁, htrue₂⟩, htrue₃⟩, htrue₄⟩, htrue₅⟩, htrue₆⟩ := htrue
  have hsubnets : ∀ role, Status.Same (.shelf (.subnets role)) run.subnetted after :=
    fun role => run.subnetted_writes _ (by simp)
  have hguarded : ∀ role, Status.Same (.shelf (.subnets role)) run.guarded after :=
    fun role => run.guarded_writes _ (by simp)
  have hnothing₁ := (ResourceGroups.step_does plan run.resourceGroups).changes_nothing
  obtain ⟨hnothing₂, hseen⟩ := Vpc.step_ready run.vpc htrue₂
  obtain ⟨hnothing₃, hsettled₃⟩ := Image.step_ready run.image htrue₃
  obtain ⟨hnothing₄, hsettled₄⟩ := Subnets.step_ready run.subnets
  have hknown : Groups.Known plan before t run.subnetted := fun name entry hfind =>
    .remembered (run.untouched.1.find? name ▸ hfind)
  obtain ⟨hnothing₅, hsettled₅⟩ := Groups.step_ready run.securityGroups hsub₅ htruthful hknown
  have hkept : LoadBalancers.Known before t run.guarded :=
    LoadBalancers.known_before.frame run.untouched.2
  have hsettled₆ := LoadBalancers.settleAll_ready run.loadBalancers hsub₆ htruthful hkept
  refine ⟨?_, hseen.frame hsub₂ (run.placed_writes _ (by simp)), fun hsome => ?_,
    hsettled₄.frame hsub₄ hsubnets, hsettled₅.frame hguarded (run.guarded_writes _ (by simp)),
    hsettled₆.active⟩
  · rw [run.trace]
    simp only [Trace.changesNothing_append]
    exact ⟨⟨⟨⟨⟨hnothing₁, hnothing₂⟩, hnothing₃⟩, hnothing₄⟩, hnothing₅⟩, hsettled₆.changes_nothing⟩
  · rcases hsettled₃ with ⟨hnone, -⟩ | ⟨entry, hentry, -, hready⟩
    · simp [hnone] at hsome
    · exact (run.imaged_writes _ (by simp)).hasReady ⟨entry, hentry, hready⟩

theorem small_truthful (request : Cloud.Request) :
    Exchange.Truthful ⟨request, .answer (Simulation.Account.small.still request)⟩ := by
  cases request <;>
    simp only [Simulation.Account.still, Simulation.Account.answer, Simulation.Account.small,
      Simulation.Account.empty, List.find?_singleton, List.find?_nil] <;>
    (try split) <;> simp_all [Exchange.Truthful] <;> subst_vars <;> simp

theorem standard_ready_sound_small :
    let run := Program.follow Simulation.Account.small.still (standard .small .empty)
    run.2.1 = .ok .ready ∧ run.1.ChangesNothing ∧ InPlace .small .empty run.1 run.2.2 := by
  intro run
  have hready : run.2.1 = .ok .ready := rfl
  have hrun : (standard .small).Runs .empty run.1 (.ok .ready) run.2.2 := Program.runs_follow _ _
  exact ⟨hready, standard_ready_sound hrun (Program.follow_forall small_truthful _)⟩

end VpcOperator.Pass
