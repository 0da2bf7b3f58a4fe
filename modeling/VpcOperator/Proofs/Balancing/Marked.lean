import VpcOperator.Proofs.Balancing.Placement
import VpcOperator.Proofs.Provenance.Steps

/-! # Load balancers that were created

The mark on an entry tells exactly whether one of the passes so far has created
the load balancer. It is made with the creation, even if nothing after that goes
well; what is found, by whatever look-up, leaves every mark as it was.
-/

namespace VpcOperator

open Observed (BalancerEntry Part Status)

/-- A creation was answered with a load balancer of this ID. -/
def Trace.MakesBalancer (id : String) (t : Trace) : Prop :=
  ∃ prototype live, ⟨.createLoadBalancer prototype, .answer live⟩ ∈ t ∧ live.id = id

/-- What is remembered under the ID is marked as created. -/
def Observed.Status.MarksCreated (s : Status) (id : String) : Prop :=
  (s.balancer? id).any (·.created) = true

variable {id : String} {s s' : Status} {t first rest : Trace}

theorem Trace.makesBalancer_append :
    (first ++ rest).MakesBalancer id ↔ first.MakesBalancer id ∨ rest.MakesBalancer id := by
  simp [Trace.MakesBalancer, or_and_right, exists_or]

theorem Does.not_makesBalancer {parts : List Part} {looks makes : List Kind}
    (h : Does parts looks makes s t s') (hmakes : .loadBalancer ∉ makes) :
    ¬ t.MakesBalancer id := by
  rintro ⟨prototype, live, hmem, -⟩
  exact hmakes (h.asks _ hmem)

theorem Observed.Status.Same.marksCreated_iff (h : Status.Same .balancers s s') :
    s'.MarksCreated id ↔ s.MarksCreated id := by
  unfold Status.MarksCreated
  rw [h.balancer? id]

namespace Pass

variable {α : Type} {plan : Plan}

/-- Marked afterwards is what was marked before, and what has been created. -/
def MarksMade (id : String) : Effect := fun s t s' =>
  s'.MarksCreated id ↔ s.MarksCreated id ∨ t.MakesBalancer id

instance (id : String) : Composes (MarksMade id) where
  nil s := by simp [MarksMade, Trace.MakesBalancer]
  append {s₁ s₂ s₃ t₁ t₂} h₁ h₂ := by
    unfold MarksMade at h₁ h₂ ⊢
    rw [h₂, h₁, Trace.makesBalancer_append, or_assoc]

theorem marksMade_of_does {parts : List Part} {looks makes : List Kind}
    (h : Does parts looks makes s t s') (hparts : .balancers ∉ parts)
    (hmakes : .loadBalancer ∉ makes) : MarksMade id s t s' := by
  have hsame : s'.MarksCreated id ↔ s.MarksCreated id := (h.writes _ hparts).marksCreated_iff
  have hnone : ¬ t.MakesBalancer id := h.not_makesBalancer hmakes
  unfold MarksMade
  rw [hsame, or_iff_left hnone]

namespace LoadBalancers

variable {balancer : Desired.LoadBalancer} {live : Cloud.LoadBalancer}

/-- An observation marks nothing but what has just been created. -/
theorem observe_marks {created : Bool} {r : Except Failure Unit}
    (hrun : (observe live created).Runs s t r s') :
    s'.MarksCreated id ↔ s.MarksCreated id ∨ created = true ∧ live.id = id := by
  obtain ⟨-, -, rfl⟩ := runs_update.1 hrun
  unfold Status.MarksCreated
  rw [Status.balancer?_putBalancer]
  by_cases hid : id = live.id
  · subst hid
    simp [or_comm]
  · simp [hid, Ne.symm hid]

theorem settleFound_marksMade (live : Cloud.LoadBalancer) :
    Always (MarksMade id) (settleFound live) := by
  have hobserve : Always (MarksMade id) (observe live false) := by
    intro s t r s' hrun
    have hmarks : s'.MarksCreated id ↔ s.MarksCreated id ∨ false = true ∧ live.id = id :=
      observe_marks hrun
    have hnone : ¬ t.MakesBalancer id := (observe_does live false hrun).not_makesBalancer (by simp)
    unfold MarksMade
    rw [hmarks, or_iff_left hnone]
    simp
  refine .bind hobserve fun _ => ?_
  split
  · exact .fail _
  · exact .pure _

/-- The answer to a creation is observed at once, before anything else can fail. -/
theorem createdNext_marksMade (prototype : Cloud.LoadBalancerPrototype) {name : String}
    {next : Cloud.LoadBalancer → Pass α} (hnext : ∀ live, Always (MarksMade id) (next live)) :
    Always (MarksMade id) (call name (.createLoadBalancer prototype) >>= fun live =>
      observe live true >>= fun _ => next live) := by
  intro s t r s' hrun
  rcases runs_call_bind.1 hrun with ⟨live, rest, rfl, hrest⟩ | ⟨reply, e, rfl, hfailed, -, rfl⟩
  · obtain ⟨mid, hobserve, hgone⟩ : ∃ mid, (observe live true).Runs s [] (.ok ()) mid ∧
        (next live).Runs mid rest r s' := by
      rw [observe, runs_update_bind] at hrest
      exact ⟨_, runs_update.2 ⟨rfl, rfl, rfl⟩, hrest⟩
    have hmade : MarksMade id s [⟨.createLoadBalancer prototype, .answer live⟩] mid := by
      unfold MarksMade
      rw [observe_marks hobserve]
      simp [Trace.MakesBalancer]
    exact Composes.append hmade (hnext live hgone)
  · have hnone : ¬ Trace.MakesBalancer id [⟨.createLoadBalancer prototype, reply⟩] := by
      rintro ⟨other, live, hmem, -⟩
      cases List.mem_singleton.1 hmem
      cases hfailed
    exact (or_iff_left hnone).symm

theorem create_marksMade (plan : Plan) (balancer : Desired.LoadBalancer) :
    Always (MarksMade id) (create plan balancer) := by
  refine .bind .status fun s => ?_
  dsimp only
  split
  · exact .fail _
  · refine .bind .status fun _ => .bind (.ofExcept _) fun _ => .bind ?_ fun _ => ?_
    · exact (securityGroupIds_does balancer _).mono fun h => marksMade_of_does h (by simp) (by simp)
    · apply createdNext_marksMade
      intro live
      exact (Ownership.mark_does plan _ _ _).mono fun h => marksMade_of_does h (by simp) (by simp)

theorem settleAll_marksMade (plan : Plan) (balancers : List Desired.LoadBalancer)
    (created : Bool) : Always (MarksMade id) (settleAll plan balancers created) := by
  induction balancers generalizing created with
  | nil => exact .pure _
  | cons balancer rest ih =>
    have hfind : Always (MarksMade id) (find balancer) :=
      (find_does balancer).mono fun h => marksMade_of_does h (by simp) (by simp)
    refine .bind hfind fun found => ?_
    cases found with
    | some live => exact .bind (settleFound_marksMade live) fun _ => .bind (ih created) fun _ => .pure _
    | none =>
      dsimp only
      split
      · exact .bind (ih true) fun _ => .pure _
      · exact .bind (create_marksMade plan balancer) fun _ => .bind (ih true) fun _ => .pure _

end LoadBalancers

theorem standard_marksMade (plan : Plan) : Always (MarksMade id) (standard plan) :=
  standard_of_balancers (fun h hparts _ hmakes => marksMade_of_does h hparts hmakes)
    (LoadBalancers.settleAll_marksMade plan _ _)

end Pass

/-! ## Pass after pass -/

namespace Passes

variable {passes : History}

theorem marksCreated_iff (h : Passes s passes s') :
    s'.MarksCreated id ↔ s.MarksCreated id ∨ ∃ pass ∈ passes, pass.2.MakesBalancer id := by
  induction h with
  | nil => simp
  | cons hrun _ ih =>
    have hfirst : Pass.MarksMade id _ _ _ := Pass.standard_marksMade _ hrun
    unfold Pass.MarksMade at hfirst
    rw [ih, hfirst, or_assoc]
    simp

theorem keyedById (h : Passes s passes s') (hs : s.KeyedById) : s'.KeyedById := by
  induction h with
  | nil => exact hs
  | cons hrun _ ih =>
    have hafter : Pass.After [] _ _ _ := Pass.standard_after _ hrun
    exact ih (hafter hs).1

theorem keyedById_of_empty (h : Passes .empty passes s) : s.KeyedById := by
  apply h.keyedById
  intro id entry hentry
  cases hentry

/-- Whatever specs the passes worked from, however the account behaved and however each of them ended:
an entry is marked if and only if one of them has created the load balancer. -/
theorem created_iff_made {entry : BalancerEntry} (h : Passes .empty passes s)
    (hmem : entry ∈ s.balancers) :
    entry.created = true ↔ ∃ pass ∈ passes, pass.2.MakesBalancer entry.id := by
  have hentry : s.balancer? entry.id = some entry := h.keyedById_of_empty.balancer?_id hmem
  have hmarks : s.MarksCreated entry.id ↔ Status.empty.MarksCreated entry.id ∨
      ∃ pass ∈ passes, pass.2.MakesBalancer entry.id := h.marksCreated_iff
  have hnone : ¬ Status.empty.MarksCreated entry.id := Bool.false_ne_true
  rw [or_iff_right hnone] at hmarks
  rw [← hmarks, Status.MarksCreated, hentry]
  rfl

open Pass.LoadBalancers in
/-- A load balancer is created, and the look for the tag that it is to carry is cut off. -/
def untaggedTrace : Trace :=
  [⟨.getVpc "2", .answer (some ⟨"2", "a-vpc", "", .available⟩)⟩, ⟨.findLoadBalancer "b", .answer none⟩,
    ⟨.createLoadBalancer movedPrototype, .answer ⟨"8", "b", "crn", .createPending, none⟩⟩,
    ⟨.listTags, .aborted⟩]

open Pass.LoadBalancers in
theorem created_iff_made_untagged :
    ∃ s, Passes .empty (beforeMove ++ [(movingPlan "x", untaggedTrace)]) s ∧
      ⟨"8", "b", .createPending, none, true⟩ ∈ s.balancers ∧
      ∃ pass ∈ beforeMove ++ [(movingPlan "x", untaggedTrace)], pass.2.MakesBalancer "8" := by
  have hlast : ∃ r, (Pass.standard (movingPlan "x")).Runs settledStatus untaggedTrace r
      ((settledStatus.put .vpc "" ⟨"2", "a-vpc", true⟩).putBalancer
        ⟨"8", "b", .createPending, none, true⟩) :=
    ⟨_, .ask (.ask (.ask (.ask (.done _))))⟩
  obtain ⟨r, hlast⟩ := hlast
  have hpasses := beforeMove_passes.append (.cons hlast (.nil _))
  have hmem : ⟨"8", "b", .createPending, none, true⟩ ∈
      ((settledStatus.put .vpc "" ⟨"2", "a-vpc", true⟩).putBalancer
        ⟨"8", "b", .createPending, none, true⟩).balancers := List.mem_singleton_self _
  exact ⟨_, hpasses, hmem, (created_iff_made hpasses hmem).1 rfl⟩

end Passes

end VpcOperator
