import VpcOperator.Proofs.Effects
import VpcOperator.Proofs.Ready.Soundness

/-! # Where in a pass a request is made

A request belongs to one of the steps, and all steps before that one have ended
ready by then.
-/

namespace VpcOperator

open Cloud (Request)
open Observed (Part Status)

namespace Step

/-- The parts of the status that a step writes. -/
def parts : Step → List Part
  | resourceGroups => [.resourceGroup, .networkGroup]
  | vpc => [.shelf .vpc]
  | image => [.shelf .image]
  | subnets => [.shelf (.subnets .controlPlane), .shelf (.subnets .worker)]
  | securityGroups => [.shelf .securityGroups]
  | loadBalancers => [.balancers]

/-- The kinds of resources that a step looks up. -/
def looks : Step → List Kind
  | resourceGroups => [.resourceGroup]
  | vpc => [.vpc, .tag]
  | image => [.customImage, .resourceGroup, .tag]
  | subnets => [.zone, .subnet, .publicGateway, .tag]
  | securityGroups => [.securityGroupRule, .subnet, .securityGroup, .tag]
  | loadBalancers => [.loadBalancer, .securityGroup, .tag]

/-- The kinds of resources that a step creates. -/
def makes : Step → List Kind
  | resourceGroups => []
  | vpc => [.vpc, .tag]
  | image => [.customImage, .tag]
  | subnets => [.subnet, .publicGateway, .tag]
  | securityGroups => [.securityGroupRule, .securityGroup, .tag]
  | loadBalancers => [.loadBalancer, .tag]

/-- The steps that a pass has gone through when it comes to this one. -/
def earlier (step : Step) : List Step :=
  standard.takeWhile (· ≠ step)

theorem eq_earlier {step : Step} {done rest : List Step} (h : standard = done ++ step :: rest) :
    done = step.earlier := by
  have hnodup : (done ++ step :: rest).Nodup := h ▸ by decide
  have hdone : ∀ other ∈ done, decide (other ≠ step) = true := by
    intro other hother
    exact decide_eq_true ((List.nodup_append.1 hnodup).2.2 other hother step List.mem_cons_self)
  rw [earlier, h, List.takeWhile_append_of_pos hdone]
  simp

end Step

namespace Pass

variable {plan : Plan} {s s' : Status} {t before after : Trace} {exchange : Exchange}
  {r : Except Failure Outcome}

theorem Step.run_does (plan : Plan) (step : Step) :
    Always (Does step.parts step.looks step.makes) (step.run plan) := by
  cases step with
  | resourceGroups => exact ResourceGroups.step_does plan
  | vpc => exact Vpc.step_does plan
  | image => exact Image.step_does plan
  | subnets => exact Subnets.step_does plan
  | securityGroups => exact Groups.step_does plan
  | loadBalancers => exact LoadBalancers.step_does plan

theorem runSteps_same {part : Part} {steps : List Step} (hpart : ∀ step ∈ steps, part ∉ step.parts)
    (hrun : (runSteps plan steps).Runs s t r s') : Status.Same part s s' := by
  induction steps generalizing s t with
  | nil =>
    obtain ⟨-, -, rfl⟩ := runs_pure.1 hrun
    exact .refl _ _
  | cons step rest ih =>
    obtain ⟨hstep, hrest⟩ := List.forall_mem_cons.1 hpart
    have hfirst : ∀ {outcome t mid}, (step.run plan).Runs s t outcome mid → Status.Same part s mid :=
      fun h => (Step.run_does plan step h).writes part hstep
    rcases runs_bind.1 hrun with ⟨outcome, mid, t₁, t₂, rfl, h₁, h₂⟩ | ⟨e, -, h₁⟩
    · cases outcome with
      | ready => exact (hfirst h₁).trans (ih hrest h₂)
      | requeue =>
        obtain ⟨-, -, rfl⟩ := runs_pure.1 h₂
        exact hfirst h₁
    · exact hfirst h₁

theorem runSteps_none (plan : Plan) (s : Status) : (runSteps plan []).Runs s [] (.ok .ready) s :=
  runs_pure_ok.2 ⟨rfl, rfl, rfl⟩

/-- These exchanges have led from `s` through these steps, which ended ready, and into another,
which makes this one next. -/
inductive Reaches (plan : Plan) (s : Status) (done : List Step) (step : Step)
    (exchange : Exchange) : Trace → Prop
  | intro {start stop : Status} {first inner last : Trace} {outcome : Except Failure Outcome} :
      (runSteps plan done).Runs s first (.ok .ready) start →
      (step.run plan).Runs start (inner ++ exchange :: last) outcome stop →
      Reaches plan s done step exchange (first ++ inner)

theorem runSteps_reaches {steps : List Step}
    (hrun : (runSteps plan steps).Runs s (before ++ exchange :: after) r s') :
    ∃ done step rest, steps = done ++ step :: rest ∧ Reaches plan s done step exchange before := by
  induction steps generalizing s before with
  | nil =>
    obtain ⟨ht, -, -⟩ := runs_pure.1 hrun
    simp at ht
  | cons step rest ih =>
    rcases runs_bind.1 hrun with ⟨outcome, mid, t₁, t₂, ht, h₁, h₂⟩ | ⟨e, -, h₁⟩
    · rcases Trace.append_eq_split ht.symm with ⟨between, rfl, -⟩ | ⟨between, rfl, rfl⟩
      · exact ⟨[], step, rest, rfl, .intro (runSteps_none plan s) h₁⟩
      · cases outcome with
        | requeue =>
          obtain ⟨ht, -, -⟩ := runs_pure.1 h₂
          simp at ht
        | ready =>
          obtain ⟨done, other, rest', rfl, hdone, hother⟩ := ih h₂
          refine ⟨step :: done, other, rest', rfl, ?_⟩
          rw [← List.append_assoc]
          exact .intro (runSteps_ready.2 ⟨mid, t₁, _, rfl, h₁, hdone⟩) hother
    · exact ⟨[], step, rest, rfl, .intro (runSteps_none plan s) h₁⟩

theorem standard_reaches (hrun : (standard plan).Runs s (before ++ exchange :: after) r s') :
    ∃ step, Reaches plan s step.earlier step exchange before := by
  obtain ⟨done, step, rest, hsteps, hreaches⟩ := runSteps_reaches hrun
  exact ⟨step, Step.eq_earlier hsteps ▸ hreaches⟩

theorem Reaches.asks {done : List Step} {step : Step}
    (h : Reaches plan s done step exchange before) :
    exchange.request.kind ∈ if exchange.request.changes then step.makes else step.looks := by
  cases h with
  | intro _ hstep => exact (Step.run_does plan step hstep).asks exchange (by simp)

/-- What just one step can ask for, that step does ask for. -/
theorem standard_reaches_of {step : Step}
    (hrun : (standard plan).Runs s (before ++ exchange :: after) r s')
    (honly : ∀ other : Step,
      exchange.request.kind ∈ (if exchange.request.changes then other.makes else other.looks) →
        other = step) :
    Reaches plan s step.earlier step exchange before := by
  obtain ⟨other, hreaches⟩ := standard_reaches hrun
  obtain rfl := honly other hreaches.asks
  exact hreaches

theorem runSteps_ready_split {early later : List Step} {other : Step}
    (hrun : (runSteps plan (early ++ other :: later)).Runs s t (.ok .ready) s') :
    ∃ start mid first inner rest, t = first ++ inner ++ rest ∧
      (runSteps plan early).Runs s first (.ok .ready) start ∧
      (other.run plan).Runs start inner (.ok .ready) mid ∧
      (runSteps plan later).Runs mid rest (.ok .ready) s' := by
  induction early generalizing s t with
  | nil =>
    obtain ⟨mid, t₁, t₂, rfl, hother, hlater⟩ := runSteps_ready.1 hrun
    exact ⟨s, mid, [], t₁, t₂, rfl, runSteps_none plan s, hother, hlater⟩
  | cons one early ih =>
    obtain ⟨mid, t₁, t₂, rfl, hone, hrest⟩ := runSteps_ready.1 hrun
    obtain ⟨start, mid', first, inner, rest, rfl, hearly, hothers⟩ := ih hrest
    refine ⟨start, mid', t₁ ++ first, inner, rest, by simp, ?_, hothers⟩
    exact runSteps_ready.2 ⟨mid, t₁, first, rfl, hone, hearly⟩

/-- From one of the steps that have ended ready the later ones lead on. -/
theorem Reaches.split {early later : List Step} {other step : Step}
    (h : Reaches plan s (early ++ other :: later) step exchange before) :
    ∃ start mid first inner rest, before = first ++ inner ++ rest ∧
      (runSteps plan early).Runs s first (.ok .ready) start ∧
      (other.run plan).Runs start inner (.ok .ready) mid ∧
      Reaches plan mid later step exchange rest := by
  cases h with
  | @intro _ _ _ within _ _ hdone hstep =>
    obtain ⟨start, mid, first, inner, rest, rfl, hearly, hother, hlater⟩ :=
      runSteps_ready_split hdone
    exact ⟨start, mid, first, inner, rest ++ within, by simp, hearly, hother, .intro hlater hstep⟩

/-- Within these exchanges the step was gone through: it came after those before it, ended ready,
and this is what it did. -/
def Completed (plan : Plan) (s : Status) (step : Step) (P : Effect) (t : Trace) : Prop :=
  ∃ start mid first inner rest, t = first ++ inner ++ rest ∧
    (runSteps plan step.earlier).Runs s first (.ok .ready) start ∧
    (step.run plan).Runs start inner (.ok .ready) mid ∧ P start inner mid

theorem Completed.mono {step : Step} {P Q : Effect} (h : Completed plan s step P t)
    (hPQ : ∀ {start inner mid}, (step.run plan).Runs start inner (.ok .ready) mid →
      P start inner mid → Q start inner mid) : Completed plan s step Q t := by
  obtain ⟨start, mid, first, inner, rest, ht, hearlier, hstep, hP⟩ := h
  exact ⟨start, mid, first, inner, rest, ht, hearlier, hstep, hPQ hstep hP⟩

/-- The step is among those that have ended ready when the request is made. -/
theorem Reaches.completed {later : List Step} {other step : Step} {P : Effect}
    (h : Reaches plan s step.earlier step exchange before)
    (hsteps : step.earlier = other.earlier ++ other :: later)
    (hP : ∀ {start inner mid rest}, (other.run plan).Runs start inner (.ok .ready) mid →
      Reaches plan mid later step exchange rest → P start inner mid) :
    Completed plan s other P before := by
  rw [hsteps] at h
  obtain ⟨start, mid, first, inner, rest, hbefore, hearlier, hother, hlater⟩ := h.split
  exact ⟨start, mid, first, inner, rest, hbefore, hearlier, hother, hP hother hlater⟩

end Pass

end VpcOperator
