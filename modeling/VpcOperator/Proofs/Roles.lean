import VpcOperator.Proofs.Convergence.Subnets
import VpcOperator.Proofs.Prompt
import VpcOperator.Proofs.Quiet
import VpcOperator.Proofs.Tracked

/-! # The roles of subnets are independent

Once it is known which subnets are wanted, each role is settled by exchanges of
its own and keeps to its own shelf. If its subnets can be had, they are
remembered, whatever becomes of the other role. Both roles wait for the zones,
though, even a role that needs none.
-/

namespace VpcOperator

open Desired (Role)
open Observed (Status)

/-- Wherever zones were listed, there were some. -/
def Trace.ListsZones (t : Trace) : Prop :=
  ∀ region reply, (⟨.listZones region, reply⟩ : Exchange) ∈ t →
    ∃ zones, reply = .answer zones ∧ zones ≠ []

namespace Pass

variable {α β : Type} {plan : Plan} {known : Status → Prop} {T t : Trace} {before s s' : Status}
  {role : Role} {subnet : Desired.Subnet} {subnets : List Desired.Subnet} {outcome : Outcome}

/-! ## How a composed pass goes on -/

/-- A quiet part either ends the pass with its failure, or the pass goes on from the same status. -/
theorem runs_quiet_bind {pass : Pass α} {next : α → Pass β} {r : Except Failure β}
    (hquiet : Always Quiet pass) (hrun : (pass >>= next).Runs s t r s') :
    (∃ e, r = .error e ∧ s' = s) ∨ ∃ a rest, rest ⊆ t ∧ (next a).Runs s rest r s' := by
  rcases runs_bind.1 hrun with ⟨a, mid, first, rest, rfl, hfirst, hrest⟩ | ⟨e, rfl, hfirst⟩
  · obtain rfl : mid = s := hquiet hfirst
    exact .inr ⟨a, rest, List.subset_append_right _ _, hrest⟩
  · exact .inl ⟨e, rfl, hquiet hfirst⟩

/-- What a call is answered with is among the exchanges. -/
theorem runs_call_bind_mem {target : String} {request : Cloud.Request}
    {next : request.Answer → Pass β} {r : Except Failure β}
    (hrun : (call target request >>= next).Runs s t r s') (hsub : t ⊆ T) :
    (∃ e, r = .error e ∧ s' = s) ∨
      ∃ answer rest, (⟨request, .answer answer⟩ : Exchange) ∈ T ∧ rest ⊆ T ∧
        (next answer).Runs s rest r s' := by
  rcases runs_call_bind.1 hrun with ⟨answer, rest, rfl, hrest⟩ | ⟨reply, e, rfl, -, rfl, rfl⟩
  · obtain ⟨hmem, hrest_sub⟩ := List.cons_subset.1 hsub
    exact .inr ⟨answer, rest, hmem, hrest_sub, hrest⟩
  · exact .inl ⟨e, rfl, rfl⟩

/-! ## Passes that nothing stands in the way of -/

/-- From a status of this kind, with exchanges from `T` only, the pass ends well and in such a
status. -/
def EndsWell (known : Status → Prop) (T : Trace) (pass : Pass α) : Prop :=
  ∀ ⦃s t r s'⦄, pass.Runs s t r s' → known s → t ⊆ T → (∃ a, r = .ok a) ∧ known s'

namespace EndsWell

theorem pure (a : α) : EndsWell known T (pure a) := by
  intro s t r s' hrun hs _
  obtain ⟨-, rfl, rfl⟩ := runs_pure.1 hrun
  exact ⟨⟨a, rfl⟩, hs⟩

theorem update {change : Status → Status} (h : ∀ s, known s → known (change s)) :
    EndsWell known T (update change) := by
  intro s t r s' hrun hs _
  obtain ⟨-, rfl, rfl⟩ := runs_update.1 hrun
  exact ⟨⟨(), rfl⟩, h s hs⟩

theorem status_bind {next : Status → Pass β} (h : ∀ s, known s → EndsWell known T (next s)) :
    EndsWell known T (status >>= next) :=
  fun s _ _ _ hrun hs hsub => h s hs (runs_status_bind.1 hrun) hs hsub

theorem ofExcept_bind {result : Except Failure α} {next : α → Pass β}
    (hresult : ∃ a, result = .ok a) (h : ∀ a, EndsWell known T (next a)) :
    EndsWell known T (ofExcept result >>= next) := by
  obtain ⟨a, rfl⟩ := hresult
  exact h a

theorem bind {pass : Pass α} {next : α → Pass β} (h : EndsWell known T pass)
    (hnext : ∀ a, EndsWell known T (next a)) : EndsWell known T (pass >>= next) := by
  intro s t r s' hrun hs hsub
  rcases runs_bind.1 hrun with ⟨a, mid, first, rest, rfl, hfirst, hrest⟩ | ⟨e, rfl, hfirst⟩
  · obtain ⟨hfirst_sub, hrest_sub⟩ := List.append_subset.1 hsub
    exact hnext a hrest (h hfirst hs hfirst_sub).2 hrest_sub
  · obtain ⟨⟨a, ha⟩, -⟩ := h hfirst hs hsub
    cases ha

theorem mapFailure {g : Failure → Failure} {pass : Pass α} (h : EndsWell known T pass) :
    EndsWell known T (mapFailure g pass) := by
  intro s t r s' hrun hs hsub
  obtain ⟨result, rfl, hpass⟩ := runs_mapFailure.1 hrun
  obtain ⟨⟨a, rfl⟩, hs'⟩ := h hpass hs hsub
  exact ⟨⟨a, rfl⟩, hs'⟩

theorem call_bind {target : String} {request : Cloud.Request} {next : request.Answer → Pass β}
    (hT : T.Answered)
    (h : ∀ answer, (⟨request, .answer answer⟩ : Exchange) ∈ T → EndsWell known T (next answer)) :
    EndsWell known T (call target request >>= next) := by
  intro s t r s' hrun hs hsub
  rcases runs_call_bind.1 hrun with ⟨answer, rest, rfl, hrest⟩ | ⟨reply, e, rfl, hfailed, -, -⟩
  · obtain ⟨hmem, hrest_sub⟩ := List.cons_subset.1 hsub
    exact h answer hmem hrest hs hrest_sub
  · obtain ⟨answer, hanswer⟩ := hT _ (hsub List.mem_cons_self)
    have hanswer : reply = .answer answer := hanswer
    rw [hanswer] at hfailed
    cases hfailed

theorem call {target : String} {request : Cloud.Request} (hT : T.Answered) :
    EndsWell known T (call target request) := by
  intro s t r s' hrun hs hsub
  obtain ⟨reply, rfl, rfl, rfl⟩ := runs_call.1 hrun
  obtain ⟨answer, hanswer⟩ := hT _ (hsub List.mem_cons_self)
  have hanswer : reply = .answer answer := hanswer
  rw [hanswer]
  exact ⟨⟨answer, rfl⟩, hs⟩

end EndsWell

theorem Ownership.mark_endsWell (hT : T.Answered) (plan : Plan) (kind : Kind) (name crn : String) :
    EndsWell known T (mark plan kind name crn) := by
  refine .mapFailure (.call_bind hT fun tags _ => ?_)
  split
  · exact .call hT
  · exact .call_bind hT fun _ _ => .call hT

/-- The VPC and the resource group are known if they were known before. -/
def StillRooted (plan : Plan) (before s : Status) : Prop :=
  plan.Rooted before → plan.Rooted s

theorem StillRooted.put (h : StillRooted plan before s) (name : String) (entry : Observed.Entry) :
    StillRooted plan before (s.put (.subnets role) name entry) := by
  have hwrites := Status.writes_put s (.subnets role) name entry
  exact fun hrooted => (h hrooted).frame (hwrites _ (by simp)) (hwrites _ (by simp))

theorem Gateway.ofZone_endsWell (hT : T.Answered) (hrooted : plan.Rooted before) (zone : String) :
    EndsWell (StillRooted plan before) T (ofZone plan zone) := by
  refine .status_bind fun s hs => .ofExcept_bind (hs hrooted).group fun groupId =>
    .call_bind hT fun found _ => ?_
  split
  · exact .pure _
  · exact .status_bind fun s hs => .ofExcept_bind (hs hrooted).vpc fun vpcId =>
      .call_bind hT fun gateway _ => .bind (Ownership.mark_endsWell hT plan _ _ _) fun _ => .pure _

namespace Subnets

theorem observe_endsWell (live : Cloud.Subnet) :
    EndsWell (StillRooted plan before) T (observe role subnet live) :=
  .bind (.update fun _ hs => hs.put _ _) fun _ => .pure _

theorem create_endsWell (hT : T.Answered) (hrooted : plan.Rooted before) (name zone : String) :
    EndsWell (StillRooted plan before) T (create plan role name zone) :=
  .status_bind fun _ hs => .ofExcept_bind (hs hrooted).vpc fun _ =>
    .bind (Gateway.ofZone_endsWell hT hrooted zone) fun _ =>
    .status_bind fun _ hs => .ofExcept_bind (hs hrooted).group fun _ =>
    .call_bind hT fun _ _ => .bind (.update fun _ hs => hs.put _ _) fun _ =>
    .bind (Ownership.mark_endsWell hT plan _ _ _) fun _ => .pure _

/-- Going by these answers the subnet can be had: there is one with its ID, or else one with its name,
or else one can be created. -/
structure Obtainable (plan : Plan) (s : Status) (t : Trace) (subnet : Desired.Subnet) : Prop where
  identified : given? subnet.id = none → given? subnet.name ≠ none
  existing : ∀ id, given? subnet.id = some id → ⟨.getSubnet id, .answer none⟩ ∉ t
  creatable : ∀ name, given? subnet.id = none → given? subnet.name = some name →
    ⟨.findSubnet name, .answer none⟩ ∈ t → given? subnet.zone ≠ none ∧ plan.Rooted s

theorem resolve_endsWell (hT : T.Answered) (h : Obtainable plan before T subnet) :
    EndsWell (StillRooted plan before) T (resolve plan role subnet) := by
  unfold resolve
  split
  · rename_i hid
    unfold findOrCreate
    split
    · exact absurd ‹_› (h.identified hid)
    · rename_i name hname
      refine .call_bind hT fun found hmem => ?_
      split
      · exact observe_endsWell _
      · obtain ⟨hzone, hrooted⟩ := h.creatable name hid hname hmem
        split
        · exact absurd ‹_› hzone
        · exact create_endsWell hT hrooted name _
  · rename_i id hid
    refine .call_bind hT fun found hmem => ?_
    split
    · exact observe_endsWell _
    · exact absurd hmem (h.existing id hid)

theorem settle_endsWell (hT : T.Answered) (h : Obtainable plan before T subnet) :
    EndsWell (StillRooted plan before) T (settle plan role subnet) := by
  refine .status_bind fun s _ => ?_
  split
  · exact resolve_endsWell hT h
  · split
    · exact .pure _
    · split
      · exact resolve_endsWell hT h
      · refine .call_bind hT fun found _ => ?_
        split
        · exact observe_endsWell _
        · exact resolve_endsWell hT h

theorem settleAll_endsWell (hT : T.Answered)
    (h : ∀ subnet ∈ subnets, Obtainable plan before T subnet) :
    EndsWell (StillRooted plan before) T (settleAll plan role subnets) := by
  induction subnets with
  | nil => exact .pure _
  | cons subnet rest ih =>
    obtain ⟨hone, hothers⟩ := List.forall_mem_cons.1 h
    exact .bind (settle_endsWell hT hone) fun _ => .bind (ih hothers) fun _ => .pure _

/-! ## What settling a subnet comes to -/

/-- What can become of a subnet that is settled, with exchanges that are among these. -/
inductive Settling (role : Role) (subnet : Desired.Subnet) (s : Status) (T : Trace) :
    Except Failure Outcome → Status → Prop
  | failed (e : Failure) : Settling role subnet s T (.error e) s
  | known {entry : Observed.Entry} :
      remembered? s role subnet = some entry → Settling role subnet s T (.ok .ready) s
  | looked {id : String} {live : Cloud.Subnet} :
      (given? subnet.id = some id ∨
        id ≠ "" ∧ ∃ entry, remembered? s role subnet = some entry ∧ entry.id = id) →
      ⟨.getSubnet id, .answer (some live)⟩ ∈ T →
      Settling role subnet s T (.ok (.ofReady live.state.isAvailable))
        (s.put (.subnets role) ((given? subnet.name).getD live.name)
          { id := live.id, name := live.name, ready := live.state.isAvailable })
  | found {name : String} {live : Cloud.Subnet} :
      given? subnet.id = none → given? subnet.name = some name →
      ⟨.findSubnet name, .answer (some live)⟩ ∈ T →
      Settling role subnet s T (.ok (.ofReady live.state.isAvailable))
        (s.put (.subnets role) name
          { id := live.id, name := live.name, ready := live.state.isAvailable })
  | created {prototype : Cloud.SubnetPrototype} {live : Cloud.Subnet} (r : Except Failure Outcome) :
      given? subnet.id = none → given? subnet.name = some prototype.name →
      ⟨.createSubnet prototype, .answer live⟩ ∈ T →
      Settling role subnet s T r
        (s.put (.subnets role) prototype.name { id := live.id, name := live.name, ready := false })

variable {r : Except Failure Outcome}

theorem runs_observe {live : Cloud.Subnet} :
    (observe role subnet live).Runs s t r s' ↔
      t = [] ∧ r = .ok (.ofReady live.state.isAvailable) ∧
        s' = s.put (.subnets role) ((given? subnet.name).getD live.name)
          { id := live.id, name := live.name, ready := live.state.isAvailable } := by
  simp only [observe, runs_update_bind, runs_pure]

theorem create_settling {name zone : String} (hid : given? subnet.id = none)
    (hname : given? subnet.name = some name) (hrun : (create plan role name zone).Runs s t r s')
    (hsub : t ⊆ T) : Settling role subnet s T r s' := by
  rw [create, runs_status_bind] at hrun
  obtain ⟨e, rfl, rfl⟩ | ⟨vpcId, t₁, h₁, hgateway⟩ := runs_quiet_bind (.ofExcept _) hrun
  · exact .failed e
  obtain ⟨e, rfl, rfl⟩ | ⟨gateway, t₂, h₂, hrest⟩ :=
    runs_quiet_bind (Gateway.ofZone_quiet plan zone) hgateway
  · exact .failed e
  rw [runs_status_bind] at hrest
  obtain ⟨e, rfl, rfl⟩ | ⟨groupId, t₃, h₃, hcreate⟩ := runs_quiet_bind (.ofExcept _) hrest
  · exact .failed e
  have hsub : t₃ ⊆ T := fun _ h => hsub (h₁ (h₂ (h₃ h)))
  obtain ⟨e, rfl, rfl⟩ | ⟨live, rest, hmem, -, hput⟩ := runs_call_bind_mem hcreate hsub
  · exact .failed e
  rw [runs_update_bind] at hput
  -- The entry is put before the tag is attached, so it stays when that fails.
  have hquiet := Always.bind (Ownership.mark_quiet plan .subnet name live.crn)
    (fun _ => Always.pure Outcome.requeue) hput
  rw [hquiet]
  exact .created r hid hname hmem

theorem fail_settling {e : Failure} (hrun : (fail e : Pass Outcome).Runs s t r s') :
    Settling role subnet s T r s' := by
  obtain ⟨-, rfl, rfl⟩ := runs_fail.1 hrun
  exact .failed e

theorem resolve_settling (hrun : (resolve plan role subnet).Runs s t r s') (hsub : t ⊆ T) :
    Settling role subnet s T r s' := by
  unfold resolve findOrCreate at hrun
  split at hrun
  · rename_i hid
    split at hrun
    · exact fail_settling hrun
    · rename_i name hname
      obtain ⟨e, rfl, rfl⟩ | ⟨found, rest, hmem, hrest_sub, hrest⟩ := runs_call_bind_mem hrun hsub
      · exact .failed e
      split at hrest
      · obtain ⟨-, rfl, rfl⟩ := runs_observe.1 hrest
        rw [hname, Option.getD_some]
        exact .found hid hname hmem
      · split at hrest
        · exact fail_settling hrest
        · exact create_settling hid hname hrest hrest_sub
  · rename_i id hid
    obtain ⟨e, rfl, rfl⟩ | ⟨found, rest, hmem, -, hrest⟩ := runs_call_bind_mem hrun hsub
    · exact .failed e
    split at hrest
    · obtain ⟨-, rfl, rfl⟩ := runs_observe.1 hrest
      exact .looked (.inl hid) hmem
    · exact fail_settling hrest

theorem settle_settling (hrun : (settle plan role subnet).Runs s t r s') (hsub : t ⊆ T) :
    Settling role subnet s T r s' := by
  rw [settle, runs_status_bind] at hrun
  split at hrun
  · exact resolve_settling hrun hsub
  · rename_i entry hentry
    split at hrun
    · obtain ⟨-, rfl, rfl⟩ := runs_pure.1 hrun
      exact .known hentry
    · split at hrun
      · exact resolve_settling hrun hsub
      · obtain ⟨e, rfl, rfl⟩ | ⟨found, rest, hmem, hrest_sub, hrest⟩ := runs_call_bind_mem hrun hsub
        · exact .failed e
        split at hrest
        · obtain ⟨-, rfl, rfl⟩ := runs_observe.1 hrest
          exact .looked (.inr ⟨‹¬ entry.id = ""›, entry, hentry, rfl⟩) hmem
        · exact resolve_settling hrest hrest_sub

/-! ## What a role leaves behind -/

/-- A part of the step that ended well: what was remembered for the role still is, and so are these
subnets. -/
structure Files (role : Role) (subnets : List Desired.Subnet) (s s' : Status) : Prop where
  keeps : ∀ name, (s.find? (.subnets role) name).isSome → (s'.find? (.subnets role) name).isSome
  remembered : Remembered s' role subnets

theorem files_put {name : String} {entry : Observed.Entry}
    (hname : ∀ declared, given? subnet.name = some declared → declared = name) :
    Files role [subnet] s (s.put (.subnets role) name entry) := by
  refine ⟨fun _ => Status.isSome_find?_put, fun other hmem declared hdeclared => ?_⟩
  obtain rfl := List.mem_singleton.1 hmem
  rw [hname declared hdeclared, Status.find?_put_self]
  rfl

theorem settle_files (hrun : (settle plan role subnet).Runs s t (.ok outcome) s') :
    Files role [subnet] s s' := by
  cases settle_settling hrun (List.Subset.refl t) with
  | known hentry =>
    refine ⟨fun _ h => h, fun other hmem name hname => ?_⟩
    obtain rfl := List.mem_singleton.1 hmem
    rw [remembered?, hname] at hentry
    exact Option.isSome_of_eq_some hentry
  | looked _ _ =>
    refine files_put fun declared hdeclared => ?_
    rw [hdeclared, Option.getD_some]
  | found _ hname _ =>
    exact files_put fun declared hdeclared => Option.some_inj.1 (hdeclared.symm.trans hname)
  | created _ _ hname _ =>
    exact files_put fun declared hdeclared => Option.some_inj.1 (hdeclared.symm.trans hname)

theorem settleAll_files (hrun : (settleAll plan role subnets).Runs s t (.ok outcome) s') :
    Files role subnets s s' := by
  induction subnets generalizing s t outcome with
  | nil =>
    obtain ⟨-, -, rfl⟩ := runs_pure_ok.1 hrun
    exact ⟨fun _ h => h, by simp [Remembered]⟩
  | cons subnet rest ih =>
    obtain ⟨first, mid, t₁, t₂, rfl, hfirst, hrest⟩ := runs_bind_ok.1 hrun
    obtain ⟨others, last, t₃, t₄, rfl, hothers, hend⟩ := runs_bind_ok.1 hrest
    obtain ⟨-, -, rfl⟩ := runs_pure_ok.1 hend
    have hone := settle_files hfirst
    have hall := ih hothers
    refine ⟨fun name h => hall.keeps name (hone.keeps name h), remembered_cons.2 ⟨?_, hall.remembered⟩⟩
    exact fun other hmem name hname => hall.keeps name (hone.remembered other hmem name hname)

/-! ## Both roles -/

theorem generated_ok_of_listsZones {r : Except Failure (List Desired.Subnet)}
    (hrun : (generated plan).Runs s t r s') (hzones : t.ListsZones) :
    ∃ generated, r = .ok generated := by
  unfold generated at hrun
  dsimp only at hrun
  split at hrun
  · rcases runs_call_bind.1 hrun with ⟨zones, rest, rfl, hrest⟩ | ⟨reply, e, rfl, hfailed, rfl, -⟩
    · obtain ⟨_, hlisted, hsome⟩ := hzones _ _ List.mem_cons_self
      cases hlisted
      split at hrest
      · exact absurd rfl hsome
      · obtain ⟨-, rfl, -⟩ := runs_pure.1 hrest
        exact ⟨_, rfl⟩
    · obtain ⟨zones, rfl, -⟩ := hzones _ _ List.mem_cons_self
      cases hfailed
  · obtain ⟨-, rfl, -⟩ := runs_pure.1 hrun
    exact ⟨_, rfl⟩

/-- One of two, by role. -/
def ofRoles (controlPlane worker : α) : Role → α
  | .controlPlane => controlPlane
  | .worker => worker

/-- A run of the step, taken apart: it is first found out which subnets are wanted, then the roles
are settled one after the other. -/
structure ByRole (plan : Plan) (s : Status) (t : Trace) (s' : Status) where
  generated : List Desired.Subnet
  listing : Trace
  exchanges : Role → Trace
  results : Role → Except Failure Outcome
  mid : Status
  listed : (Subnets.generated plan).Runs s listing (.ok generated) s
  controlPlane :
    (settleAll plan .controlPlane (wanted (plan.spec.network.subnets .controlPlane) generated)).Runs s
      (exchanges .controlPlane) (results .controlPlane) mid
  workers :
    (settleAll plan .worker (wanted (plan.spec.network.subnets .worker) generated)).Runs mid
      (exchanges .worker) (results .worker) s'
  split : t = listing ++ exchanges .controlPlane ++ exchanges .worker

/-- Without a list of what is wanted, nothing is done. -/
theorem step_runs {r : Except Failure Outcome} (hrun : (step plan).Runs s t r s') :
    (∃ run : ByRole plan s t s',
      r = (run.results .controlPlane).bind fun a => (run.results .worker).map a.both) ∨
    ∃ e, r = .error e ∧ s' = s ∧ (generated plan).Runs s t (.error e) s := by
  rcases runs_bind.1 hrun with ⟨generated, s₁, t₀, rest, rfl, hlist, hrest⟩ | ⟨e, rfl, hlist⟩
  · obtain rfl : s₁ = s := generated_quiet plan hlist
    obtain ⟨first, s₂, t₁, rest, rfl, hcontrol, hrest⟩ := runs_attempt_bind.1 hrest
    obtain ⟨second, s₃, t₂, t₃, rfl, hworkers, hend⟩ := runs_attempt_bind.1 hrest
    obtain ⟨rfl, rfl, rfl⟩ := runs_both hend
    exact .inl ⟨⟨generated, t₀, ofRoles t₁ t₂, ofRoles first second, s₂, hlist, hcontrol, hworkers,
      by simp [ofRoles]⟩, rfl⟩
  · obtain rfl : s' = s := generated_quiet plan hlist
    exact .inr ⟨e, rfl, rfl, hlist⟩

theorem step_byRole {r : Except Failure Outcome} (hrun : (step plan).Runs s t r s')
    (hzones : t.ListsZones) :
    ∃ run : ByRole plan s t s',
      r = (run.results .controlPlane).bind fun a => (run.results .worker).map a.both := by
  refine (step_runs hrun).resolve_right ?_
  rintro ⟨e, -, -, hlist⟩
  obtain ⟨generated, hok⟩ := generated_ok_of_listsZones hlist hzones
  cases hok

/-- The failure of the control plane comes first, then that of the workers; without a failure, either
role can ask for another pass. -/
structure Combined (controlPlane workers r : Except Failure Outcome) : Prop where
  controlPlane_fails : ∀ e, controlPlane = .error e → r = .error e
  workers_fail : ∀ a e, controlPlane = .ok a → workers = .error e → r = .error e
  both_end : ∀ a b, controlPlane = .ok a → workers = .ok b →
    ∃ c, r = .ok c ∧ (c = .requeue ↔ a = .requeue ∨ b = .requeue)

theorem combined (controlPlane workers : Except Failure Outcome) :
    Combined controlPlane workers (controlPlane.bind fun a => workers.map a.both) := by
  refine ⟨?_, ?_, ?_⟩
  · rintro e rfl
    rfl
  · rintro a e rfl rfl
    rfl
  · rintro a b rfl rfl
    refine ⟨a.both b, rfl, ?_⟩
    cases a <;> simp [Outcome.both]

theorem ByRole.writes_controlPlane (run : ByRole plan s t s') :
    Status.Writes [.shelf (.subnets .controlPlane)] s run.mid :=
  (settleAll_does plan .controlPlane _ run.controlPlane).writes

theorem ByRole.writes_workers (run : ByRole plan s t s') :
    Status.Writes [.shelf (.subnets .worker)] run.mid s' :=
  (settleAll_does plan .worker _ run.workers).writes

theorem wanted_of_declared {generated : List Desired.Subnet} (h : subnets ≠ []) :
    wanted subnets generated = subnets := by
  rw [wanted, if_neg (by simpa using h)]

theorem ByRole.remembered (run : ByRole plan s t s')
    (hdeclared : plan.spec.network.subnets role ≠ []) (hresult : run.results role = .ok outcome) :
    Remembered s' role (plan.spec.network.subnets role) := by
  cases role with
  | controlPlane =>
    have hcontrol := run.controlPlane
    rw [wanted_of_declared hdeclared, hresult] at hcontrol
    exact (settleAll_files hcontrol).remembered.frame (run.writes_workers _ (by simp))
  | worker =>
    have hworkers := run.workers
    rw [wanted_of_declared hdeclared, hresult] at hworkers
    exact (settleAll_files hworkers).remembered

theorem ByRole.endsWell (run : ByRole plan s t s')
    (hdeclared : plan.spec.network.subnets role ≠ []) (hanswered : (run.exchanges role).Answered)
    (h : ∀ subnet ∈ plan.spec.network.subnets role, Obtainable plan s (run.exchanges role) subnet) :
    ∃ outcome, run.results role = .ok outcome := by
  cases role with
  | controlPlane =>
    have hcontrol := run.controlPlane
    rw [wanted_of_declared hdeclared] at hcontrol
    exact (settleAll_endsWell hanswered h hcontrol id (List.Subset.refl _)).1
  | worker =>
    have hworkers := run.workers
    rw [wanted_of_declared hdeclared] at hworkers
    -- What the control plane has written is no root of a subnet.
    have hrooted : StillRooted plan s run.mid := fun hrooted =>
      hrooted.frame (run.writes_controlPlane _ (by simp)) (run.writes_controlPlane _ (by simp))
    exact (settleAll_endsWell hanswered h hworkers hrooted (List.Subset.refl _)).1

/-- Unless the zones cannot be listed, a role that has declared subnets is settled by its own
exchanges: if these subnets can be had, all that have a name are remembered in the end, however the
other role fares. Each role writes to its own shelf only, and the results of both make that of the
step. -/
theorem step_roles_independent {r : Except Failure Outcome} (hrun : (step plan).Runs s t r s')
    (hzones : t.ListsZones) :
    ∃ run : ByRole plan s t s',
      Status.Writes [.shelf (.subnets .controlPlane)] s run.mid ∧
      Status.Writes [.shelf (.subnets .worker)] run.mid s' ∧
      Combined (run.results .controlPlane) (run.results .worker) r ∧
      ∀ role, plan.spec.network.subnets role ≠ [] →
        (∀ outcome, run.results role = .ok outcome →
          Remembered s' role (plan.spec.network.subnets role)) ∧
        ((run.exchanges role).Answered →
          (∀ subnet ∈ plan.spec.network.subnets role,
            Obtainable plan s (run.exchanges role) subnet) →
          Remembered s' role (plan.spec.network.subnets role)) := by
  obtain ⟨run, rfl⟩ := step_byRole hrun hzones
  refine ⟨run, run.writes_controlPlane, run.writes_workers, combined _ _, fun role hdeclared =>
    ⟨fun outcome hresult => run.remembered hdeclared hresult, fun hanswered h => ?_⟩⟩
  obtain ⟨outcome, hresult⟩ := run.endsWell hdeclared hanswered h
  exact run.remembered hdeclared hresult

def zonelessStart : Status :=
  (Status.empty.putResourceGroup ⟨"1", none⟩).put .vpc "" ⟨"2", "v", true⟩

/-- The control plane's subnet is not found, nor is that of the workers. -/
def zonelessExchanges : Trace :=
  [⟨.findSubnet "c", .answer none⟩,
    ⟨.findSubnet "w", .answer none⟩,
    ⟨.findGateway (zonelessPlan.gatewayName "z") "1",
      .answer (some { id := "3", name := "", crn := "", zone := "z", state := .available })⟩,
    zonelessCreation,
    ⟨.listTags, .answer ["a"]⟩,
    ⟨.attachTag "a" "crn", .answer ()⟩]

/-- The control plane fails, and the subnet of the workers is created all the same. -/
theorem step_roles_independent_zoneless :
    zonelessExchanges.ListsZones ∧
    ∃ s', (step zonelessPlan).Runs zonelessStart zonelessExchanges
        (.error (.precondition .subnet "c" "a zone is required to create the subnet")) s' ∧
      (s'.find? (.subnets .worker) "w").isSome := by
  have hrun : ∃ s', (step zonelessPlan).Runs zonelessStart zonelessExchanges
      (.error (.precondition .subnet "c" "a zone is required to create the subnet")) s' :=
    ⟨_, .ask (.ask (.ask (.ask (.ask (.ask (.done _))))))⟩
  obtain ⟨s', hrun⟩ := hrun
  have hzones : zonelessExchanges.ListsZones := by
    intro region reply hmem
    simp [zonelessExchanges, zonelessCreation] at hmem
  obtain ⟨run, -, -, -, hroles⟩ := step_roles_independent hrun hzones
  have hanswered : (run.exchanges .worker).Answered := by
    have hall : zonelessExchanges.Answered := by
      simp [zonelessExchanges, zonelessCreation]
    rw [run.split] at hall
    exact (Trace.answered_append.1 hall).2
  have hrooted : zonelessPlan.Rooted zonelessStart := ⟨⟨"2", by decide⟩, ⟨"1", by decide⟩⟩
  have hobtainable : ∀ subnet ∈ zonelessPlan.spec.network.subnets .worker,
      Obtainable zonelessPlan zonelessStart (run.exchanges .worker) subnet := by
    intro subnet hsubnet
    obtain rfl := List.mem_singleton.1 hsubnet
    exact ⟨by decide, nofun, fun _ _ _ _ => ⟨by decide, hrooted⟩⟩
  refine ⟨hzones, s', hrun, ?_⟩
  exact (hroles .worker (by decide)).2 hanswered hobtainable _ (List.mem_singleton_self _) "w" rfl

/-- The workers declare a subnet, and the control plane does not. -/
def workersPlan : Plan :=
  { Plan.bare "a" with
    spec := { (Plan.bare "a").spec with
              region := "r"
              network :=
                { Desired.Network.empty with
                  workerSubnets := [{ id := none, name := some "w", zone := none }] } } }

/-- Although the account has the subnet of the workers, it is not asked for where the control plane
finds no zones. -/
theorem workers_wait_for_zones :
    (settleAll workersPlan .worker (workersPlan.spec.network.subnets .worker)).Runs .empty
      [⟨.findSubnet "w", .answer (some ⟨"3", "w", "", "z", none, .available⟩)⟩] (.ok .ready)
      (Status.empty.put (.subnets .worker) "w" ⟨"3", "w", true⟩) ∧
    (step workersPlan).Runs .empty [⟨.listZones "r", .answer []⟩]
      (.error (.notFound .zone "r" "region has no availability zones")) .empty ∧
    ¬ Remembered .empty .worker (workersPlan.spec.network.subnets .worker) := by
  refine ⟨.ask (.done _), .ask (.done _), fun h => ?_⟩
  have hentry := h _ (List.mem_singleton_self _) "w" rfl
  simp [Status.find?, Status.empty] at hentry

end Subnets

end Pass

end VpcOperator
