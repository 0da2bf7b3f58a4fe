import VpcOperator.Proofs.Firewall.Phases
import VpcOperator.Proofs.Order.Steps
import VpcOperator.Proofs.Prompt
import VpcOperator.Proofs.Tracked

/-! # The first failure is told

A halting pass does not go on after any failure, so it ends with the first one
that comes up. A pass ends as the halting one does and asks for the same, except
that the workers' subnets are still settled after a failure of the control-plane
role.
-/

namespace VpcOperator

open Observed (Status)

/-! ## Halting passes -/

/-- Without going on after a failure. -/
def Pass.Subnets.halting (plan : Plan) : Pass Outcome := do
  let generated ← generated plan
  let subnetsOf := fun role => wanted (plan.spec.network.subnets role) generated
  let first ← settleAll plan .controlPlane (subnetsOf .controlPlane)
  let second ← settleAll plan .worker (subnetsOf .worker)
  return first.both second

def Step.halting (plan : Plan) : Step → Pass Outcome
  | subnets => Pass.Subnets.halting plan
  | step => step.run plan

namespace Pass

def haltingSteps (plan : Plan) : List Step → Pass Outcome
  | [] => return .ready
  | step :: rest => do
    match ← step.halting plan with
    | .ready => haltingSteps plan rest
    | .requeue => return .requeue

def halting (plan : Plan) : Pass Outcome :=
  haltingSteps plan Step.standard

variable {plan : Plan} {named : String → String → Prop} {s s₀ s' : Status}
  {t more first rest : Trace} {e : Failure} {r : Except Failure Outcome}

/-! ## After a failure of the control-plane role -/

/-- After the first exchanges the control-plane role fails, and the others settle the workers'
subnets. -/
inductive Subnets.GoesOn (plan : Plan) (s : Status) (e : Failure) : Trace → Trace → Status → Prop
  | intro {generated : List Desired.Subnet} {start mid s' : Status}
      {listing controlPlane workers : Trace} {result : Except Failure Outcome} :
      (Subnets.generated plan).Runs s listing (.ok generated) start →
      (settleAll plan .controlPlane
        (wanted (plan.spec.network.subnets .controlPlane) generated)).Runs
        start controlPlane (.error e) mid →
      (settleAll plan .worker (wanted (plan.spec.network.subnets .worker) generated)).Runs
        mid workers result s' →
      GoesOn plan s e (listing ++ controlPlane) workers s'

/-- It does so once these steps have ended ready. -/
inductive GoesOn (plan : Plan) (done : List Step) (s : Status) (e : Failure) :
    Trace → Trace → Status → Prop
  | intro {start s' : Status} {before inner rest : Trace} :
      (runSteps plan done).Runs s before (.ok .ready) start →
      Subnets.GoesOn plan start e inner rest s' →
      GoesOn plan done s e (before ++ inner) rest s'

theorem Subnets.step_halts (hrun : (step plan).Runs s t r s') :
    (halting plan).Runs s t r s' ∨ ∃ first rest e mid, t = first ++ rest ∧ r = .error e ∧
      (halting plan).Runs s first (.error e) mid ∧ GoesOn plan s e first rest s' := by
  rcases runs_bind.1 hrun with ⟨generated, s₁, t₀, t₁, rfl, hlist, hrest⟩ | ⟨e, rfl, hlist⟩
  · obtain ⟨first, s₂, t₁, t₂, rfl, hcontrol, hrest⟩ := runs_attempt_bind.1 hrest
    obtain ⟨second, s₃, t₂, t₃, rfl, hworkers, hend⟩ := runs_attempt_bind.1 hrest
    obtain ⟨rfl, rfl, rfl⟩ := runs_both hend
    rw [List.append_nil]
    cases first with
    | ok a =>
      refine .inl (runs_bind.2 (.inl ⟨generated, s₁, t₀, t₁ ++ t₂, rfl, hlist, ?_⟩))
      refine runs_bind.2 (.inl ⟨a, s₂, t₁, t₂, rfl, hcontrol, ?_⟩)
      exact runs_bind_pure.2 ⟨second, rfl, hworkers⟩
    | error e =>
      refine .inr ⟨t₀ ++ t₁, t₂, e, s₂, by simp, rfl, ?_, .intro hlist hcontrol hworkers⟩
      refine runs_bind.2 (.inl ⟨generated, s₁, t₀, t₁, rfl, hlist, ?_⟩)
      exact runs_bind.2 (.inr ⟨e, rfl, hcontrol⟩)
  · exact .inl (runs_bind.2 (.inr ⟨e, rfl, hlist⟩))

theorem Step.run_halts {step : Step} (hrun : (step.run plan).Runs s t r s') :
    (step.halting plan).Runs s t r s' ∨ step = .subnets ∧ ∃ first rest e mid, t = first ++ rest ∧
      r = .error e ∧ (step.halting plan).Runs s first (.error e) mid ∧
      Subnets.GoesOn plan s e first rest s' := by
  cases step with
  | subnets => exact (Subnets.step_halts hrun).imp_right fun h => ⟨rfl, h⟩
  | _ => exact .inl hrun

/-- What was still done after the halting pass had come to its end. -/
theorem runSteps_halts {steps : List Step} (hrun : (runSteps plan steps).Runs s t r s') :
    ∃ first rest mid, t = first ++ rest ∧ (haltingSteps plan steps).Runs s first r mid ∧
      (rest = [] ∧ s' = mid ∨ ∃ e done later, r = .error e ∧
        steps = done ++ .subnets :: later ∧ GoesOn plan done s e first rest s') := by
  induction steps generalizing s t with
  | nil =>
    obtain ⟨rfl, rfl, rfl⟩ := runs_pure.1 hrun
    exact ⟨[], [], s', rfl, runs_pure.2 ⟨rfl, rfl, rfl⟩, .inl ⟨rfl, rfl⟩⟩
  | cons step steps ih =>
    rcases runs_bind.1 hrun with ⟨a, mid, t₁, t₂, rfl, hstep, hrest⟩ | ⟨e, rfl, hstep⟩
    · rcases Step.run_halts hstep with hhalts | ⟨-, -, -, -, -, -, ⟨⟩, -⟩
      cases a with
      | ready =>
        obtain ⟨first, rest, stop, rfl, hfirst, hmore⟩ := ih hrest
        refine ⟨t₁ ++ first, rest, stop, by simp, ?_, hmore.imp_right ?_⟩
        · exact runs_bind.2 (.inl ⟨.ready, mid, t₁, first, rfl, hhalts, hfirst⟩)
        · rintro ⟨e, done, later, hr, rfl, ⟨hdone, hgoes⟩⟩
          refine ⟨e, step :: done, later, hr, rfl, ?_⟩
          rw [← List.append_assoc]
          exact .intro (runSteps_ready.2 ⟨mid, t₁, _, rfl, hstep, hdone⟩) hgoes
      | requeue =>
        obtain ⟨rfl, rfl, rfl⟩ := runs_pure.1 hrest
        refine ⟨t₁, [], s', rfl, ?_, .inl ⟨rfl, rfl⟩⟩
        exact runs_bind.2 (.inl ⟨.requeue, s', t₁, [], by simp, hhalts,
          runs_pure.2 ⟨rfl, rfl, rfl⟩⟩)
    · rcases Step.run_halts hstep with hhalts | ⟨rfl, first, rest, _, mid, rfl, ⟨⟩, hhalts, hgoes⟩
      · exact ⟨t, [], s', by simp, runs_bind.2 (.inr ⟨e, rfl, hhalts⟩), .inl ⟨rfl, rfl⟩⟩
      · refine ⟨first, rest, mid, rfl, runs_bind.2 (.inr ⟨e, rfl, hhalts⟩), .inr ?_⟩
        exact ⟨e, [], steps, rfl, rfl, .intro (runSteps_none plan s) hgoes⟩

/-! ## Which name a group is told by -/

/-- A group with this ID has this name, as the status has it or one of the exchanges has shown. -/
inductive Groups.Shown (s : Status) (t : Trace) : String → String → Prop
  | remembered {key : String} {entry : Observed.Entry} :
      s.find? .securityGroups key = some entry → Shown s t entry.id entry.name
  | byId {id : String} {live : Cloud.SecurityGroup} :
      ⟨.getSecurityGroup id, .answer (some live)⟩ ∈ t → Shown s t live.id live.name
  | byName {name : String} {live : Cloud.SecurityGroup} :
      ⟨.findSecurityGroup name, .answer (some live)⟩ ∈ t → Shown s t live.id live.name

namespace Groups

open Rules (Identified)

variable {id name : String}

theorem Shown.mono (h : Shown s t id name) (hsame : Status.Same (.shelf .securityGroups) s₀ s)
    (hsub : t ⊆ more) : Shown s₀ more id name := by
  cases h with
  | remembered hfind => exact .remembered ((hsame.find? _).symm.trans hfind)
  | byId hmem => exact .byId (hsub hmem)
  | byName hmem => exact .byName (hsub hmem)

theorem Shown.of_keep {group : Desired.SecurityGroup} {live : Cloud.SecurityGroup}
    (h : Shown (keep s group live) t id name) :
    Shown s t id name ∨ id = live.id ∧ name = live.name := by
  cases h with
  | remembered hfind =>
    rw [keep, Status.find?_put_securityGroups] at hfind
    split at hfind
    · cases hfind
      exact .inr ⟨rfl, rfl⟩
    · exact .inl (.remembered hfind)
  | byId hmem => exact .inl (.byId hmem)
  | byName hmem => exact .inl (.byName hmem)

theorem Resolved.shown {group : Desired.SecurityGroup} {found : Identified}
    (h : Resolved group s t found s') : Shown s t found.id found.name := by
  cases h with
  | remembered hentry =>
    unfold remembered? at hentry
    split at hentry
    · exact .remembered hentry
    · obtain ⟨id, -, hfind⟩ := Option.bind_eq_some_iff.1 hentry
      obtain ⟨⟨key, entry⟩, hmem, rfl⟩ := List.mem_map.1 (List.mem_of_find?_eq_some hfind)
      exact .remembered (Status.find?_of_mem_entries hmem)
  | byId => exact .byId List.mem_cons_self
  | byName => exact .byName List.mem_cons_self

/-- What the status has after a group was found, it had before, or the answer has shown it. -/
theorem Resolved.shown_before {group : Desired.SecurityGroup} {found : Identified}
    (h : Resolved group s t found s') (hshown : Shown s' rest id name) :
    Shown s (t ++ rest) id name := by
  have hbefore : ∀ {s'}, Shown s' rest id name → s' = s → Shown s (t ++ rest) id name := by
    rintro _ hshown rfl
    exact hshown.mono (.refl _ _) (List.subset_append_right _ _)
  cases h with
  | remembered => exact hbefore hshown rfl
  | byId =>
    rcases hshown.of_keep with hshown | ⟨rfl, rfl⟩
    · exact hbefore hshown rfl
    · exact .byId List.mem_cons_self
  | byName =>
    rcases hshown.of_keep with hshown | ⟨rfl, rfl⟩
    · exact hbefore hshown rfl
    · exact .byName List.mem_cons_self

theorem AllResolved.shown {groups : List Desired.SecurityGroup} {found : List Identified}
    (h : AllResolved groups s t found s') : ∀ one ∈ found, Shown s t one.id one.name := by
  induction h with
  | nil s => exact nofun
  | cons hone _ ih =>
    refine List.forall_mem_cons.2 ⟨?_, fun other hmem => hone.shown_before (ih other hmem)⟩
    exact hone.shown.mono (.refl _ _) (List.subset_append_left _ _)

theorem step_judged (hrun : (step plan).Runs s t r s') : Judged (Raised plan (Shown s t)) t r := by
  rcases step_cases hrun with ⟨e, rfl, hall⟩ | ⟨found, rfl, hall⟩ |
    ⟨found, first, rest, result, rfl, rfl, hall, henforce⟩
  · exact identifyAll_prompt plan _ hall
  · exact (identifyAll_prompt plan _ : Prompt (Raised plan (Shown s t)) _).answered hall
  · have hanswered : first.Answered :=
      (identifyAll_prompt plan _ : Prompt (Raised plan (Shown s first)) _).answered hall
    have hnamed : ∀ one ∈ found, Shown s (first ++ rest) one.id one.name := fun one hmem =>
      ((identifyAll_resolved hall).shown one hmem).mono (.refl _ _) (List.subset_append_left _ _)
    exact ((Rules.enforceAll_prompt _ hnamed henforce).after hanswered).map _

end Groups

/-! ## The steps of a halting pass -/

theorem Subnets.halting_prompt (plan : Plan) : Prompt (Raised plan named) (halting plan) :=
  .bind (generated_prompt plan) fun _ => .bind (settleAll_prompt plan _ _) fun _ =>
    .bind (settleAll_prompt plan _ _) fun _ => .pure _

theorem Subnets.halting_does (plan : Plan) :
    Always (Does [.shelf (.subnets .controlPlane), .shelf (.subnets .worker)]
      [.zone, .subnet, .publicGateway, .tag] [.subnet, .publicGateway, .tag]) (halting plan) :=
  .bind ((generated_does plan).wider (by simp) (by simp) (by simp)) fun _ =>
    .bind ((settleAll_does plan _ _).wider (by simp) (by simp) (by simp)) fun _ =>
    .bind ((settleAll_does plan _ _).wider (by simp) (by simp) (by simp)) fun _ => .pure _

theorem Step.halting_does (plan : Plan) (step : Step) :
    Always (Does step.parts step.looks step.makes) (step.halting plan) := by
  cases step with
  | subnets => exact Subnets.halting_does plan
  | _ => exact Step.run_does plan _

theorem Step.halting_judged {step : Step}
    (hsame : step = .securityGroups → Status.Same (.shelf .securityGroups) s₀ s)
    (hrun : (step.halting plan).Runs s t r s') :
    Judged (Raised plan (Groups.Shown s₀ t)) t r := by
  cases step with
  | resourceGroups => exact ResourceGroups.step_prompt plan hrun
  | vpc => exact Vpc.step_prompt plan hrun
  | image => exact Image.step_prompt plan hrun
  | subnets => exact Subnets.halting_prompt plan hrun
  | securityGroups =>
    exact (Groups.step_judged hrun).mono fun h => h.mono (hsame rfl) (List.Subset.refl _)
  | loadBalancers => exact LoadBalancers.step_prompt plan hrun

theorem haltingSteps_judged {steps : List Step} (hnodup : steps.Nodup)
    (hsame : .securityGroups ∈ steps → Status.Same (.shelf .securityGroups) s₀ s)
    (hrun : (haltingSteps plan steps).Runs s t r s') :
    Judged (Raised plan (Groups.Shown s₀ t)) t r := by
  induction steps generalizing s t with
  | nil =>
    obtain ⟨rfl, rfl, -⟩ := runs_pure.1 hrun
    exact Trace.answered_nil
  | cons step steps ih =>
    obtain ⟨hnot, hnodup⟩ := List.nodup_cons.1 hnodup
    have hstart : step = .securityGroups → Status.Same (.shelf .securityGroups) s₀ s := by
      rintro rfl
      exact hsame List.mem_cons_self
    rcases runs_bind.1 hrun with ⟨a, mid, t₁, t₂, rfl, hstep, hrest⟩ | ⟨e, rfl, hstep⟩
    · have hanswered : t₁.Answered := Step.halting_judged hstart hstep
      cases a with
      | ready =>
        -- Until the groups have their turn, which comes once, their shelf is as the pass found it.
        have hmid : .securityGroups ∈ steps → Status.Same (.shelf .securityGroups) s₀ mid := by
          intro hin
          have hpart : .shelf .securityGroups ∉ step.parts := by
            cases step <;> first | exact absurd hin hnot | simp [Step.parts]
          exact (hsame (List.mem_cons_of_mem _ hin)).trans
            ((Step.halting_does plan step hstep).writes _ hpart)
        have hjudged := (ih hnodup hmid hrest).mono fun h =>
          h.mono (.refl _ _) (List.subset_append_right t₁ t₂)
        exact hjudged.after hanswered
      | requeue =>
        obtain ⟨rfl, rfl, -⟩ := runs_pure.1 hrest
        simpa [Judged] using hanswered
    · exact Step.halting_judged hstart hstep

theorem halting_judged (hrun : (halting plan).Runs s t r s') :
    Judged (Raised plan (Groups.Shown s t)) t r :=
  haltingSteps_judged (by decide) (fun _ => .refl _ _) hrun

/-! ## The whole pass -/

theorem standard_halts (hrun : (standard plan).Runs s t r s') :
    ∃ first rest mid, t = first ++ rest ∧ (halting plan).Runs s first r mid ∧
      (rest = [] ∧ s' = mid ∨
        ∃ e, r = .error e ∧ GoesOn plan Step.subnets.earlier s e first rest s') := by
  obtain ⟨first, rest, mid, rfl, hfirst, hmore⟩ := runSteps_halts hrun
  refine ⟨first, rest, mid, rfl, hfirst, hmore.imp_right ?_⟩
  rintro ⟨e, done, later, rfl, hsteps, hgoes⟩
  exact ⟨e, rfl, Step.eq_earlier hsteps ▸ hgoes⟩

theorem standard_strict (plan : Plan) {outcome : Outcome}
    (hrun : (standard plan).Runs s t (.ok outcome) s') : t.Answered := by
  obtain ⟨first, rest, mid, rfl, hfirst, ⟨rfl, -⟩ | ⟨e, ⟨⟩, -⟩⟩ := standard_halts hrun
  rw [List.append_nil]
  exact halting_judged hfirst

/-- A failure that comes up is the one that the pass ends with, and then nothing is asked any more,
the workers' subnets apart; nothing else makes a pass fail, and one that does not fail has met with
no failure at all. -/
structure Told (plan : Plan) (s : Status) (t : Trace) (r : Except Failure Outcome) (s' : Status) :
    Prop where
  tells : ∀ first rest e mid, t = first ++ rest → (halting plan).Runs s first (.error e) mid →
    r = .error e ∧ Raised plan (Groups.Shown s first) first e ∧
      (rest = [] ∨ GoesOn plan Step.subnets.earlier s e first rest s')
  fails : ∀ e, r = .error e →
    ∃ first rest mid, t = first ++ rest ∧ (halting plan).Runs s first (.error e) mid
  succeeds : ∀ outcome, r = .ok outcome →
    t.Answered ∧ (halting plan).Runs s t (.ok outcome) s'

/-- However the account behaves, the first failure to come up is told, and no failure is passed
over. -/
theorem standard_told (hrun : (standard plan).Runs s t r s') : Told plan s t r s' := by
  obtain ⟨first, rest, mid, rfl, hfirst, hmore⟩ := standard_halts hrun
  refine ⟨fun first' rest' e mid' ht hother => ?_, ?_, ?_⟩
  · obtain ⟨rfl, rfl, ⟨⟩⟩ := Program.Runs.unique hfirst hother ht
    refine ⟨rfl, halting_judged hother, ?_⟩
    rcases hmore with ⟨rfl, -⟩ | ⟨_, ⟨⟩, hgoes⟩
    · exact .inl rfl
    · exact .inr hgoes
  · rintro e rfl
    exact ⟨first, rest, mid, rfl, hfirst⟩
  · rintro outcome rfl
    rcases hmore with ⟨rfl, rfl⟩ | ⟨e, ⟨⟩, -⟩
    rw [List.append_nil]
    exact ⟨halting_judged hfirst, hfirst⟩

def zonelessStart : Status :=
  (Status.empty.putResourceGroup ⟨"1", none⟩).put .vpc "" ⟨"2", "v", true⟩

/-- What is told is that the control plane's subnet lacks a zone, though later a request for the
workers' subnet is aborted. -/
theorem standard_told_zoneless :
    ∃ s' mid, let t := zonelessBefore ++ zonelessCreation :: [⟨.listTags, .aborted⟩]
      let r := .error (.precondition .subnet "c" "a zone is required to create the subnet")
      (standard zonelessPlan).Runs zonelessStart t r s' ∧
      (halting zonelessPlan).Runs zonelessStart (t.take 2) r mid ∧
      Told zonelessPlan zonelessStart t r s' := by
  obtain ⟨s', hrun⟩ := zonelessPlan_runs
  have hhalts : ∃ mid, (halting zonelessPlan).Runs zonelessStart (zonelessBefore.take 2)
      (.error (.precondition .subnet "c" "a zone is required to create the subnet")) mid :=
    ⟨_, .ask (.ask (.done _))⟩
  obtain ⟨mid, hhalts⟩ := hhalts
  exact ⟨s', mid, hrun, hhalts, standard_told hrun⟩

end Pass

end VpcOperator
