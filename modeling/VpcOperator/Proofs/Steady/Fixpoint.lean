import VpcOperator.Proofs.Account.Responder
import VpcOperator.Proofs.Halting
import VpcOperator.Proofs.Ready.Soundness
import VpcOperator.Proofs.Steady.Balancers
import VpcOperator.Proofs.Steady.Firewall
import VpcOperator.Proofs.Steady.Provisioned

/-! # Ready stays ready

After a ready pass everything it relied on is remembered or will be answered
again, so on an account that stands still every later pass is ready, too, and
changes nothing.
-/

namespace VpcOperator.Pass

open Observed (Status)

variable {plan : Plan} {answers : Cloud.Answers} {nameOf : String → String}
  {before after s s' : Status} {t : Trace}

/-- Subnets and security groups are declared by name. -/
structure Named (plan : Plan) : Prop where
  subnets : ∀ role, ∀ subnet ∈ plan.spec.network.subnets role, (given? subnet.name).isSome
  securityGroups : ∀ group ∈ plan.spec.network.securityGroups, (given? group.name).isSome

/-- What passes can leave in a status that was empty at first, whatever plans they had and however
they ended. -/
inductive Left (nameOf : String → String) : Status → Prop
  | empty : Left nameOf .empty
  | pass {s s' : Status} {plan : Plan} {t : Trace} {r : Except Failure Outcome} :
      Left nameOf s → (standard plan).Runs s t r s' → t.Names nameOf → Left nameOf s'

theorem standard_keepsKeyed (plan : Plan) :
    Always (LoadBalancers.KeepsKeyed nameOf) (standard plan) :=
  standard_of_steps .pure .bind
    (LoadBalancers.keepsKeyed_of_does (ResourceGroups.step_does plan) (by simp))
    (LoadBalancers.keepsKeyed_of_does (Vpc.step_does plan) (by simp))
    (LoadBalancers.keepsKeyed_of_does (Image.step_does plan) (by simp))
    (LoadBalancers.keepsKeyed_of_does (Subnets.step_does plan) (by simp))
    (LoadBalancers.keepsKeyed_of_does (Groups.step_does plan) (by simp))
    LoadBalancers.settleAll_keepsKeyed

theorem Left.keyed (h : Left nameOf s) : s.Keyed nameOf := by
  induction h with
  | empty =>
    intro id entry hmem
    cases hmem
  | pass _ hrun hnames ih => exact standard_keepsKeyed _ hrun hnames ih

/-- Every step finds in the status and at the account what it needs to be ready. -/
structure Stands (plan : Plan) (answers : Cloud.Answers) (nameOf : String → String) (s : Status) :
    Prop where
  resourceGroups : ResourceGroups.Settled plan answers s
  vpc : Vpc.Stands answers s
  image : Image.Settled plan s
  subnets : Subnets.Stands plan answers s
  securityGroups : Groups.Stands plan answers s
  keyed : s.Keyed nameOf
  loadBalancers : ∀ balancer ∈ plan.spec.network.loadBalancers,
    LoadBalancers.Stands answers nameOf s balancer

theorem stands_of_ready (h : (standard plan).Runs before t (.ok .ready) after)
    (hanswered : t.AnsweredBy answers) (htruthful : t.Truthful) (hnames : t.Names nameOf)
    (hkeyed : before.Keyed nameOf) (hplan : Named plan) : Stands plan answers nameOf after := by
  obtain ⟨run⟩ := standard_stages h
  have hafter := standard_keepsKeyed plan h hnames hkeyed
  rw [run.trace] at hanswered htruthful hnames
  simp only [Trace.answeredBy_append, Trace.truthful_append, Trace.names_append]
    at hanswered htruthful hnames
  obtain ⟨⟨⟨⟨⟨hanswered₁, hanswered₂⟩, -⟩, hanswered₄⟩, hanswered₅⟩, hanswered₆⟩ := hanswered
  obtain ⟨⟨⟨⟨⟨-, htruthful₂⟩, htruthful₃⟩, -⟩, htruthful₅⟩, -⟩ := htruthful
  have hguarded : run.guarded.Keyed nameOf := hkeyed.frame run.untouched.2
  refine ⟨?_, ?_, ?_, ?_, ?_, hafter, ?_⟩
  · exact (ResourceGroups.step_ok run.resourceGroups hanswered₁).2.frame
      (run.grouped_writes _ (by simp)) (run.grouped_writes _ (by simp))
  · exact ((Vpc.step_ready run.vpc htruthful₂).2.stands hanswered₂).frame
      (run.placed_writes _ (by simp))
  · exact (Image.step_ready run.image htruthful₃).2.frame (run.imaged_writes _ (by simp))
  · exact ((Subnets.step_ready run.subnets).2.stands hanswered₄).frame
      fun role => run.subnetted_writes _ (by simp)
  · exact (Groups.step_stands run.securityGroups htruthful₅ hanswered₅ hplan.securityGroups).frame
      (fun role => run.guarded_writes _ (by simp)) (run.guarded_writes _ (by simp))
  · exact (LoadBalancers.settleAll_stands run.loadBalancers hanswered₆ hnames.2 hguarded).2

theorem Steady.writes {α : Type} {pass : Pass α} {a : α} {parts : List Observed.Part}
    {looks makes : List Kind} (h : Steady answers pass s a s')
    (hdoes : Always (Does parts looks makes) pass) : Status.Writes parts s s' := by
  obtain ⟨t, hrun, -⟩ := h
  exact (hdoes hrun).writes

theorem Steady.step {step : Step} {rest : List Step} {mid : Status}
    (h : Steady answers (step.run plan) s .ready mid)
    (hrest : Steady answers (runSteps plan rest) mid .ready s') :
    Steady answers (runSteps plan (step :: rest)) s .ready s' :=
  h.bind hrest

theorem Stands.steady (h : Stands plan answers nameOf s) (hplan : Named plan) :
    ∃ s', Steady answers (standard plan) s .ready s' := by
  obtain ⟨s₁, hgrouped⟩ := ResourceGroups.step_steady h.resourceGroups
  have hwrites := hgrouped.writes (ResourceGroups.step_does plan)
  obtain ⟨s₂, hplaced⟩ := Vpc.step_steady (h.vpc.frame (hwrites _ (by simp)))
  have hwrites : Status.Writes [.resourceGroup, .networkGroup, .shelf .vpc] s s₂ :=
    (hwrites.mono (by simp)).trans ((hplaced.writes (Vpc.step_does plan)).mono (by simp))
  have himage : Steady answers (Image.step plan) s₂ .ready s₂ :=
    Image.step_steady (h.image.frame (hwrites _ (by simp)))
  have hsubnets := Subnets.step_steady (h.subnets.frame fun role => hwrites _ (by simp))
    hplan.subnets
  have hgroups := Groups.step_steady
    (h.securityGroups.frame (fun role => hwrites _ (by simp)) (hwrites _ (by simp)))
  obtain ⟨s₃, hbalancers⟩ := LoadBalancers.settleAll_steady (h.keyed.frame (hwrites _ (by simp)))
    fun balancer hmem => (h.loadBalancers balancer hmem).frame (hwrites _ (by simp))
  exact ⟨s₃, .step hgrouped (.step hplaced (.step himage (.step hsubnets (.step hgroups
    (.step hbalancers (.pure _))))))⟩

/-! ## Pass after pass -/

variable {σ : Type} {responder : Cloud.Responder σ} {state last : σ}

/-- The answer is about what was looked up, and a load balancer has the name it always has. -/
def Faithful (nameOf : String → String) (exchange : Exchange) : Prop :=
  exchange.Truthful ∧ exchange.Names nameOf

theorem Stands.pass (h : Stands plan (responder.answers state) nameOf s) (hplan : Named plan)
    (hlook : ∀ request state, request.changes = false → (responder request state).2 = state)
    (hfaithful : ∀ request, request.changes = false →
      Faithful nameOf ⟨request, .answer (responder request state).1⟩) :
    let ended := responder.pass plan s state
    ended.result = .ok .ready ∧ ended.trace.ChangesNothing ∧ ended.state = state ∧
      Stands plan (responder.answers state) nameOf ended.status := by
  obtain ⟨s', t, hrun, hanswered, hnothing⟩ := h.steady hplan
  have hserve := Cloud.Responder.serve_of_still hrun hanswered hnothing hlook
  intro ended
  have hended : ended = { trace := t, result := .ok .ready, status := s', state } := by
    simp only [ended, Cloud.Responder.pass, hserve]
  rw [hended]
  have hall : ∀ exchange ∈ t, Faithful nameOf exchange :=
    hanswered.forall fun exchange hmem => hfaithful exchange.request (hnothing exchange hmem)
  have htruthful : t.Truthful := fun exchange hmem => (hall exchange hmem).1
  have hnames : t.Names nameOf := fun exchange hmem => (hall exchange hmem).2
  exact ⟨rfl, hnothing, rfl, stands_of_ready hrun hanswered htruthful hnames h.keyed hplan⟩

/-- Once a pass is ready, and if neither the plan nor the account changes any more, every later pass
is ready and changes nothing. -/
theorem ready_is_fixpoint
    (hlook : ∀ request state, request.changes = false → (responder request state).2 = state)
    (hplan : Named plan) (hbefore : Left nameOf before)
    (hready : (standard plan).Runs before t (.ok .ready) after)
    (hserves : responder.Serves state t last) (hfaithful : ∀ exchange ∈ t, Faithful nameOf exchange)
    (hlast : ∀ request, request.changes = false →
      Faithful nameOf ⟨request, .answer (responder request last).1⟩) (n : Nat) :
    let later := responder.passes plan id after last n
    later.result = .ok .ready ∧ later.trace.ChangesNothing := by
  have htruthful : t.Truthful := fun exchange hmem => (hfaithful exchange hmem).1
  have hnames : t.Names nameOf := fun exchange hmem => (hfaithful exchange hmem).2
  have hnothing := (standard_ready_sound hready htruthful).1
  obtain ⟨rfl, hanswered⟩ := hserves.still (standard_strict plan hready) hnothing hlook
  have hstands := stands_of_ready hready hanswered htruthful hnames hbefore.keyed hplan
  have hall : ∀ n, (responder.passes plan id after last n).result = .ok .ready ∧
      (responder.passes plan id after last n).trace.ChangesNothing ∧
      (responder.passes plan id after last n).state = last ∧
      Stands plan (responder.answers last) nameOf (responder.passes plan id after last n).status := by
    intro n
    induction n with
    | zero => exact hstands.pass hplan hlook hlast
    | succ n ih =>
      obtain ⟨-, -, hstate, hlater⟩ := ih
      have hpass := hlater.pass hplan hlook hlast
      simp only [Cloud.Responder.passes, hstate, id]
      exact hpass
  exact ⟨(hall n).1, (hall n).2.1⟩

theorem small_look (request : Cloud.Request) (account : Simulation.Account)
    (hlook : request.changes = false) : (account.answer request).2 = account := by
  cases request <;> first | rfl | cases hlook

theorem small_named : Named .small := by
  refine ⟨fun role => ?_, ?_⟩
  · cases role <;> simp [Plan.small, Desired.Network.empty, Desired.Network.subnets]
  · simp [Plan.small, given?]

theorem small_faithful (request : Cloud.Request) (hlook : request.changes = false) :
    Faithful (fun _ => "b") ⟨request, .answer (Simulation.Account.small.answer request).1⟩ := by
  refine ⟨small_truthful request, ?_⟩
  cases request <;> first
    | trivial
    | simp only [Simulation.Account.answer, Simulation.Account.small, List.find?_singleton]
      split <;> simp [Exchange.Names]

theorem ready_is_fixpoint_small :
    let responder : Cloud.Responder Simulation.Account := fun request account => account.answer request
    let first := responder.pass .small .empty .small
    let third := responder.passes .small id first.status first.state 1
    first.result = .ok .ready ∧ third.result = .ok .ready ∧ third.trace.ChangesNothing := by
  intro responder first third
  have hready : first.result = .ok .ready := rfl
  have hrun : (standard .small).Runs .empty first.trace first.result first.status :=
    responder.pass_runs .small .empty .small
  rw [hready] at hrun
  have hserves : responder.Serves .small first.trace first.state :=
    responder.pass_serves .small .empty .small
  have hnothing : first.trace.ChangesNothing := by
    have hall : first.trace.all fun exchange => !exchange.request.changes := rfl
    simpa [Trace.ChangesNothing] using hall
  have hlook : ∀ request account, request.changes = false → (responder request account).2 = account :=
    small_look
  obtain ⟨hlast, hanswered⟩ := hserves.still (standard_strict _ hrun) hnothing hlook
  have hfaithful : ∀ exchange ∈ first.trace, Faithful (fun _ => "b") exchange :=
    hanswered.forall fun exchange hmem => small_faithful exchange.request (hnothing exchange hmem)
  exact ⟨hready, ready_is_fixpoint hlook small_named .empty hrun hserves hfaithful
    (by rw [hlast]; exact small_faithful) 1⟩

end VpcOperator.Pass
