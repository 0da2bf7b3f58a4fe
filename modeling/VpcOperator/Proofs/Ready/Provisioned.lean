import VpcOperator.Proofs.Ready.Answers

/-! # Ready VPCs, images and subnets

What a ready run of each of these steps leaves in the status. A step that is
ready has put only ready entries, so no entry is undone by a later one.
-/

namespace VpcOperator.Observed.Status

/-- There is a ready entry under this name. -/
def HasReady (s : Status) (shelf : Shelf) (name : String) : Prop :=
  ∃ entry, s.find? shelf name = some entry ∧ entry.ready = true

theorem Same.hasReady {shelf : Shelf} {s s' : Status} {name : String} (h : Same (.shelf shelf) s s')
    (hready : s.HasReady shelf name) : s'.HasReady shelf name := by
  obtain ⟨entry, hfind, hready⟩ := hready
  exact ⟨entry, (h.find? name).trans hfind, hready⟩

end VpcOperator.Observed.Status

namespace VpcOperator.Pass

open Observed (Status)
open Desired (Role)

variable {plan : Plan} {s s' : Status} {t : Trace}

/-! ## The VPC -/

namespace Vpc

/-- The VPC was seen to be available, and is remembered so. -/
def Seen (t : Trace) (s : Status) : Prop :=
  ∃ vpc : Cloud.Vpc, ⟨.getVpc vpc.id, .answer (some vpc)⟩ ∈ t ∧ vpc.state = .available ∧
    vpc.id ≠ "" ∧ s.find? .vpc "" = some { id := vpc.id, name := vpc.name, ready := true }

theorem Seen.frame {few many : Trace} (h : Seen few s) (hsub : few ⊆ many)
    (hsame : Status.Same (.shelf .vpc) s s') : Seen many s' := by
  obtain ⟨vpc, hmem, hstate, hid, hfind⟩ := h
  exact ⟨vpc, hsub hmem, hstate, hid, (hsame.find? "").trans hfind⟩

theorem observe_ready {id : String} {vpc : Cloud.Vpc} (h : (observe vpc).Runs s t (.ok .ready) s')
    (htruthful : Exchange.Truthful ⟨.getVpc id, .answer (some vpc)⟩) :
    t = [] ∧ Seen [⟨.getVpc id, .answer (some vpc)⟩] s' := by
  simp only [observe, remember, runs_update_bind, runs_pure_ok] at h
  obtain ⟨rfl, hready, rfl⟩ := h
  obtain ⟨rfl, hid⟩ := htruthful
  have havailable := Outcome.ofReady_eq_ready_iff.1 hready.symm
  refine ⟨rfl, vpc, by simp, of_decide_eq_true havailable, hid, ?_⟩
  rw [Status.find?_put_self, havailable]

theorem step_ready (h : (step plan).Runs s t (.ok .ready) s') (htruthful : t.Truthful) :
    t.ChangesNothing ∧ Seen t s' := by
  rw [step, runs_status_bind] at h
  obtain ⟨found, mid, first, rest, rfl, hlook, hrest⟩ := runs_bind_ok.1 h
  have hfirst := (lookUp_does _ hlook).changes_nothing
  split at hrest
  · unfold lookUp at hlook
    split at hlook
    · simp at hlook
    · obtain ⟨rfl, rfl⟩ := runs_call_ok.1 hlook
      obtain ⟨hvpc, -⟩ := Trace.truthful_cons.1 htruthful
      obtain ⟨rfl, hseen⟩ := observe_ready hrest hvpc
      exact ⟨by simp, hseen⟩
  · split at hrest
    · exact absurd hrest (adoptOrCreate_unready ·)
    · obtain ⟨found, last, rfl, hlast⟩ := runs_call_bind_ok.1 hrest
      split at hlast
      · obtain ⟨hvpc, -⟩ := Trace.truthful_cons.1 (Trace.truthful_append.1 htruthful).2
        obtain ⟨rfl, hseen⟩ := observe_ready hlast hvpc
        exact ⟨by simpa using hfirst, hseen.frame (by simp) (.refl _ _)⟩
      · simp at hlast

end Vpc

/-! ## The image -/

namespace Image

/-- Nothing is wanted, or an image is remembered that is ready. -/
def Settled (plan : Plan) (s : Status) : Prop :=
  (plan.spec.image = none ∧ s.image = none) ∨
    ∃ entry, s.image = some entry ∧ entry.id ≠ "" ∧ entry.ready = true

theorem observe_ready {image : Cloud.Image} (h : (observe image).Runs s t (.ok .ready) s')
    (hid : image.id ≠ "") : t = [] ∧ Settled plan s' := by
  simp only [observe, runs_update_bind, runs_pure_ok] at h
  obtain ⟨rfl, hready, rfl⟩ := h
  exact ⟨rfl, .inr ⟨_, rfl, hid, Outcome.ofReady_eq_ready_iff.1 hready.symm⟩⟩

theorem findOrCreate_ready {name : String} (h : (findOrCreate plan name).Runs s t (.ok .ready) s')
    (htruthful : t.Truthful) : t.ChangesNothing ∧ Settled plan s' := by
  obtain ⟨found, mid, first, rest, rfl, hlook, hrest⟩ := runs_bind_ok.1 h
  split at hrest
  · unfold findByName at hlook
    split at hlook
    · simp at hlook
    · obtain ⟨rfl, rfl⟩ := runs_call_ok.1 hlook
      obtain ⟨-, hid⟩ := htruthful _ (List.mem_append_left _ (List.mem_singleton_self _))
      obtain ⟨rfl, hsettled⟩ := observe_ready hrest hid
      exact ⟨by simp, hsettled⟩
  · split at hrest
    · exact absurd hrest (create_unready ·)
    · simp at hrest

theorem step_ready (h : (step plan).Runs s t (.ok .ready) s') (htruthful : t.Truthful) :
    t.ChangesNothing ∧ Settled plan s' := by
  rw [step, runs_status_bind] at h
  dsimp only at h
  split at h
  · rename_i hnone
    obtain ⟨rfl, -, rfl⟩ := runs_pure_ok.1 h
    simp only [Bool.and_eq_true, Option.isNone_iff_eq_none] at hnone
    exact ⟨by simp, .inl hnone.symm⟩
  · split at h
    · exact findOrCreate_ready h htruthful
    · rename_i entry hentry
      obtain ⟨hfind, hid⟩ := Option.filter_eq_some_iff.1 hentry
      split at h
      · rename_i hready
        obtain ⟨rfl, -, rfl⟩ := runs_pure_ok.1 h
        exact ⟨by simp, .inr ⟨entry, hfind, of_decide_eq_true hid, hready⟩⟩
      · obtain ⟨found, rest, rfl, hrest⟩ := runs_call_bind_ok.1 h
        split at hrest
        · obtain ⟨-, hid⟩ := htruthful _ List.mem_cons_self
          obtain ⟨rfl, hsettled⟩ := observe_ready hrest hid
          exact ⟨by simp, hsettled⟩
        · simp at hrest

end Image

/-! ## Subnets -/

namespace Subnets

variable {role : Role} {subnet : Desired.Subnet} {subnets : List Desired.Subnet}

/-- A ready part of a step: what was ready in a role's shelf still is, and so are these subnets. -/
structure Settles (role : Role) (subnets : List Desired.Subnet) (s : Status) (t : Trace)
    (s' : Status) : Prop where
  changes_nothing : t.ChangesNothing
  keeps : ∀ name, s.HasReady (.subnets role) name → s'.HasReady (.subnets role) name
  ready : ∀ subnet ∈ subnets, ∀ name, given? subnet.name = some name →
    s'.HasReady (.subnets role) name

theorem Settles.asked {exchange : Exchange} (h : Settles role subnets s t s')
    (hlook : exchange.request.changes = false) : Settles role subnets s (exchange :: t) s' :=
  ⟨Trace.changesNothing_cons.2 ⟨hlook, h.changes_nothing⟩, h.keeps, h.ready⟩

theorem observe_ready {live : Cloud.Subnet}
    (h : (observe role subnet live).Runs s t (.ok .ready) s') : Settles role [subnet] s t s' := by
  simp only [observe, runs_update_bind, runs_pure_ok] at h
  obtain ⟨rfl, hready, rfl⟩ := h
  have hput := Status.find?_put_subnets s role ((given? subnet.name).getD live.name)
  refine ⟨by simp, fun name hname => ?_, fun other hmem name hname => ?_⟩
  · unfold Status.HasReady
    rw [hput]
    split
    · exact ⟨_, rfl, Outcome.ofReady_eq_ready_iff.1 hready.symm⟩
    · exact hname
  · obtain rfl := List.mem_singleton.1 hmem
    rw [hname]
    exact ⟨_, Status.find?_put_self .., Outcome.ofReady_eq_ready_iff.1 hready.symm⟩

theorem findOrCreate_ready (h : (findOrCreate plan role subnet).Runs s t (.ok .ready) s') :
    Settles role [subnet] s t s' := by
  unfold findOrCreate at h
  split at h
  · simp at h
  · obtain ⟨found, rest, rfl, hrest⟩ := runs_call_bind_ok.1 h
    split at hrest
    · exact (observe_ready hrest).asked rfl
    · split at hrest
      · simp at hrest
      · exact absurd hrest (create_unready ·)

theorem resolve_ready (h : (resolve plan role subnet).Runs s t (.ok .ready) s') :
    Settles role [subnet] s t s' := by
  unfold resolve at h
  split at h
  · exact findOrCreate_ready h
  · obtain ⟨found, rest, rfl, hrest⟩ := runs_call_bind_ok.1 h
    split at hrest
    · exact (observe_ready hrest).asked rfl
    · simp at hrest

theorem settle_ready (h : (settle plan role subnet).Runs s t (.ok .ready) s') :
    Settles role [subnet] s t s' := by
  rw [settle, runs_status_bind] at h
  split at h
  · exact resolve_ready h
  · rename_i entry hentry
    split at h
    · rename_i hready
      obtain ⟨rfl, -, rfl⟩ := runs_pure_ok.1 h
      refine ⟨by simp, fun name hname => hname, fun other hmem name hname => ?_⟩
      obtain rfl := List.mem_singleton.1 hmem
      simp only [remembered?, hname] at hentry
      exact ⟨entry, hentry, hready⟩
    · split at h
      · exact resolve_ready h
      · obtain ⟨found, rest, rfl, hrest⟩ := runs_call_bind_ok.1 h
        split at hrest
        · exact (observe_ready hrest).asked rfl
        · exact (resolve_ready hrest).asked rfl

theorem settleAll_ready (h : (settleAll plan role subnets).Runs s t (.ok .ready) s') :
    Settles role subnets s t s' := by
  induction subnets generalizing s t with
  | nil =>
    obtain ⟨rfl, -, rfl⟩ := runs_pure_ok.1 h
    exact ⟨by simp, fun name hname => hname, by simp⟩
  | cons subnet rest ih =>
    obtain ⟨first, mid, t₁, t₂, rfl, hfirst, hothers⟩ := runs_bind_ok.1 h
    obtain ⟨others, mid', t₂, t₃, rfl, hothers, hend⟩ := runs_bind_ok.1 hothers
    obtain ⟨rfl, hboth, rfl⟩ := runs_pure_ok.1 hend
    obtain ⟨rfl, rfl⟩ := Outcome.both_eq_ready_iff.1 hboth.symm
    have hone := settle_ready hfirst
    have hrest := ih hothers
    refine ⟨by simp [hone.changes_nothing, hrest.changes_nothing],
      fun name hname => hrest.keeps name (hone.keeps name hname), fun other hmem name hname => ?_⟩
    rcases List.mem_cons.1 hmem with rfl | hmem
    · exact hrest.keeps name (hone.ready other (List.mem_singleton_self other) name hname)
    · exact hrest.ready other hmem name hname

theorem generated_ok {generated : List Desired.Subnet}
    (h : (Subnets.generated plan).Runs s t (.ok generated) s')
    (hempty : plan.spec.network.subnets role = []) :
    ∃ zones, t = [⟨.listZones plan.spec.region, .answer zones⟩] ∧ zones ≠ [] ∧
      generated = zones.map fun zone =>
        { id := none, name := some (plan.subnetName zone), zone := some zone } := by
  have hboth : (plan.spec.network.controlPlaneSubnets.isEmpty ||
      plan.spec.network.workerSubnets.isEmpty) = true := by
    cases role <;> simp_all [Desired.Network.subnets]
  simp only [Subnets.generated, hboth, if_true] at h
  obtain ⟨zones, rest, rfl, hrest⟩ := runs_call_bind_ok.1 h
  split at hrest
  · simp at hrest
  · obtain ⟨rfl, rfl, rfl⟩ := runs_pure_ok.1 hrest
    exact ⟨zones, rfl, ‹_›, rfl⟩

/-- Every named subnet of each role is remembered as ready. -/
def Settled (plan : Plan) (t : Trace) (s : Status) : Prop :=
  ∀ role,
    (∀ subnet ∈ plan.spec.network.subnets role, ∀ name, given? subnet.name = some name →
      s.HasReady (.subnets role) name) ∧
    (plan.spec.network.subnets role = [] →
      ∃ zones, ⟨.listZones plan.spec.region, .answer zones⟩ ∈ t ∧ zones ≠ [] ∧
        ∀ zone ∈ zones, s.HasReady (.subnets role) (plan.subnetName zone))

theorem Settled.frame {t' : Trace} (h : Settled plan t s) (hsub : t ⊆ t')
    (hsame : ∀ role, Status.Same (.shelf (.subnets role)) s s') : Settled plan t' s' := by
  intro role
  obtain ⟨hdeclared, hempty⟩ := h role
  refine ⟨fun subnet hmem name hname => (hsame role).hasReady (hdeclared subnet hmem name hname),
    fun hnone => ?_⟩
  obtain ⟨zones, hmem, hne, hzones⟩ := hempty hnone
  exact ⟨zones, hsub hmem, hne, fun zone hzone => (hsame role).hasReady (hzones zone hzone)⟩

theorem given?_subnetName (plan : Plan) (zone : String) :
    given? (some (plan.subnetName zone)) = some (plan.subnetName zone) := by
  refine given?_eq_some.2 ⟨rfl, fun h => ?_⟩
  simp [Plan.subnetName, String.append_eq_empty_iff] at h

theorem step_ready (h : (step plan).Runs s t (.ok .ready) s') :
    t.ChangesNothing ∧ Settled plan t s' := by
  obtain ⟨generated, mid, t₀, rest, rfl, hgenerated, hrest⟩ := runs_bind_ok.1 h
  dsimp only at hrest
  obtain ⟨_, s₁, t₁, rest, rfl, hattempt, hrest₁⟩ := runs_bind_ok.1 hrest
  obtain ⟨controlPlane, hok, hcontrol⟩ := runs_attempt.1 hattempt
  cases hok
  obtain ⟨_, s₂, t₂, rest, rfl, hattempt, hrest₂⟩ := runs_bind_ok.1 hrest₁
  obtain ⟨workers, hok, hworker⟩ := runs_attempt.1 hattempt
  cases hok
  simp only [runs_ofExcept_bind_ok, runs_pure_ok] at hrest₂
  obtain ⟨first, rfl, second, rfl, rfl, hboth, rfl⟩ := hrest₂
  obtain ⟨rfl, rfl⟩ := Outcome.both_eq_ready_iff.1 hboth.symm
  have hcontrol' := settleAll_ready hcontrol
  have hworker' := settleAll_ready hworker
  have hframe : Status.Same (.shelf (.subnets .controlPlane)) s₁ s' :=
    (settleAll_does plan _ _ hworker).writes _ (by simp)
  have hnone := (generated_does plan hgenerated).changes_nothing
  refine ⟨by simp [hnone, hcontrol'.changes_nothing, hworker'.changes_nothing], fun role => ?_⟩
  have hready : ∀ subnet ∈ wanted (plan.spec.network.subnets role) generated, ∀ name,
      given? subnet.name = some name → s'.HasReady (.subnets role) name := by
    cases role with
    | controlPlane =>
      exact fun subnet hmem name hname => hframe.hasReady (hcontrol'.ready subnet hmem name hname)
    | worker => exact hworker'.ready
  refine ⟨fun subnet hmem name hname => hready subnet ?_ name hname, fun hempty => ?_⟩
  · rw [wanted, if_neg (by simpa using List.ne_nil_of_mem hmem)]
    exact hmem
  · obtain ⟨zones, rfl, hne, rfl⟩ := generated_ok hgenerated hempty
    rw [hempty] at hready
    refine ⟨zones, by simp, hne, fun zone hzone => ?_⟩
    exact hready _ (List.mem_map_of_mem hzone) _ (given?_subnetName plan zone)

end Subnets

end VpcOperator.Pass
