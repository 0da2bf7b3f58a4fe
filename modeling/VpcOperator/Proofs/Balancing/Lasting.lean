import VpcOperator.Proofs.Account.Guarded
import VpcOperator.Proofs.Order.Prepared
import VpcOperator.Proofs.Passes
import VpcOperator.Proofs.Provenance.Steps

/-! # Load balancers that are remembered

A load balancer is remembered under its ID and is recognised by the name the
account gives it. While the account gives it the name it is declared by, no
later pass creates it again; under another name it is not recognised.
-/

namespace VpcOperator

open Observed (BalancerEntry Part Status)

namespace Trace

/-- Wherever this load balancer was answered, it had this name. -/
def GivesName (id name : String) (t : Trace) : Prop :=
  ∀ exchange ∈ t, ∀ live, exchange.balancer? = some live → live.id = id → live.name = name

/-- The account has answered with this load balancer. -/
def Shows (id : String) (t : Trace) : Prop :=
  ∃ exchange ∈ t, ∃ live, exchange.balancer? = some live ∧ live.id = id

/-- The load balancer exists all the while, under this name: where another one is gone, the name
still leads to something. -/
structure Upholds (id name : String) (t : Trace) : Prop where
  stays : ⟨.getLoadBalancer id, .answer none⟩ ∉ t
  names : t.GivesName id name
  leads : ∀ other, other ≠ id → ⟨.getLoadBalancer other, .answer none⟩ ∈ t →
    ⟨.findLoadBalancer name, .answer none⟩ ∉ t

/-- Nothing with this name is created. -/
def Spares (name : String) (t : Trace) : Prop :=
  ∀ exchange ∈ t, ∀ prototype, exchange.request = .createLoadBalancer prototype →
    prototype.name ≠ name

variable {id name : String} {first rest t : Trace}

theorem GivesName.mono (h : t.GivesName id name) (hsub : first ⊆ t) : first.GivesName id name :=
  fun exchange hmem => h exchange (hsub hmem)

theorem Shows.mono (h : first.Shows id) (hsub : first ⊆ t) : t.Shows id := by
  obtain ⟨exchange, hmem, hlive⟩ := h
  exact ⟨exchange, hsub hmem, hlive⟩

theorem shows_append : (first ++ rest).Shows id ↔ first.Shows id ∨ rest.Shows id := by
  simp [Shows, or_and_right, exists_or]

theorem Upholds.mono (h : t.Upholds id name) (hsub : first ⊆ t) : first.Upholds id name :=
  ⟨fun hmem => h.stays (hsub hmem), h.names.mono hsub,
    fun other hne hgone hnone => h.leads other hne (hsub hgone) (hsub hnone)⟩

theorem spares_append : (first ++ rest).Spares name ↔ first.Spares name ∧ rest.Spares name := by
  simp [Spares, or_imp, forall_and]

end Trace

theorem Exchange.kind_of_balancer? {exchange : Exchange} {live : Cloud.LoadBalancer}
    (h : exchange.balancer? = some live) : exchange.request.kind = .loadBalancer := by
  unfold balancer? at h
  split at h <;> first | rfl | cases h

/-- The load balancer is remembered by this name. -/
def Observed.Status.RemembersAs (s : Status) (id name : String) : Prop :=
  ∃ entry, s.balancer? id = some entry ∧ entry.name = name

theorem Does.not_shows {s s' : Status} {t : Trace} {id : String} {parts : List Part}
    {looks makes : List Kind} (h : Does parts looks makes s t s') (hlooks : .loadBalancer ∉ looks)
    (hmakes : .loadBalancer ∉ makes) : ¬ t.Shows id := by
  rintro ⟨exchange, hmem, live, hlive, -⟩
  have hasks := h.asks exchange hmem
  rw [Exchange.kind_of_balancer? hlive] at hasks
  split at hasks
  · exact hmakes hasks
  · exact hlooks hasks

namespace Pass

variable {plan : Plan} {s s' : Status} {t first : Trace} {id name : String}

/-! ## What is answered is remembered -/

/-- While the account gives the load balancer this name, it is remembered by this name if it was
before or is answered now. -/
def Remembers (id name : String) : Effect := fun s t s' =>
  t.GivesName id name → s.KeyedById →
    s'.KeyedById ∧ (s.RemembersAs id name ∨ t.Shows id → s'.RemembersAs id name)

instance : Composes (Remembers id name) where
  nil s _ hkeyed := ⟨hkeyed, fun h => h.resolve_right (by simp [Trace.Shows])⟩
  append {s₁ s₂ s₃ t₁ t₂} h₁ h₂ hnames hkeyed := by
    obtain ⟨hkeyed, hfirst⟩ := h₁ (hnames.mono (List.subset_append_left _ _)) hkeyed
    obtain ⟨hkeyed, hrest⟩ := h₂ (hnames.mono (List.subset_append_right _ _)) hkeyed
    refine ⟨hkeyed, fun h => hrest ?_⟩
    rw [Trace.shows_append, ← or_assoc] at h
    exact h.imp_left hfirst

theorem remembers_of_same (hsame : Status.Same .balancers s s') (hnone : ¬ t.Shows id) :
    Remembers id name s t s' := by
  refine fun _ hkeyed => ⟨hkeyed.frame hsame, fun h => ?_⟩
  unfold Status.RemembersAs
  rw [hsame.balancer? id]
  exact h.resolve_right hnone

theorem remembers_of_does {parts : List Part} {looks makes : List Kind}
    (h : Does parts looks makes s t s') (hparts : .balancers ∉ parts)
    (hlooks : .loadBalancer ∉ looks) (hmakes : .loadBalancer ∉ makes) : Remembers id name s t s' :=
  remembers_of_same (h.writes _ hparts) (h.not_shows hlooks hmakes)

namespace LoadBalancers

variable {balancer : Desired.LoadBalancer} {live : Cloud.LoadBalancer} {entry : BalancerEntry}

/-- The only load balancer that was answered is put. -/
theorem remembers_put (honly : ∀ exchange ∈ t, ∀ other, exchange.balancer? = some other → other = live)
    (hsourced : s.KeyedById → Sourced t s live) (hid : entry.id = live.id)
    (hname : entry.name = live.name) : Remembers id name s t (s.putBalancer entry) := by
  refine fun hnames hkeyed => ⟨hkeyed.putBalancer entry, fun h => ?_⟩
  unfold Status.RemembersAs
  rw [Status.balancer?_putBalancer]
  split
  · rename_i hput
    have hlive : live.id = id := hid.symm.trans hput.symm
    refine ⟨entry, rfl, hname.trans ?_⟩
    rcases hsourced hkeyed with ⟨exchange, hmem, hanswered⟩ | ⟨known, hknown, rfl⟩
    · exact hnames exchange hmem live hanswered hlive
    · rcases h with ⟨other, hother, hothername⟩ | ⟨exchange, hmem, other, hanswered, hother⟩
      · have hsame : known.id = id := hlive
        rw [hsame, hother] at hknown
        cases hknown
        exact hothername
      · rw [← honly exchange hmem other hanswered]
        exact hnames exchange hmem other hanswered hother
  · rename_i hput
    rcases h with hremembered | ⟨exchange, hmem, other, hanswered, hother⟩
    · exact hremembered
    · rw [honly exchange hmem other hanswered] at hother
      exact absurd (hother.symm.trans hid.symm) hput

/-- Whatever load balancer it is answered with, that is the one it comes to. -/
def Faithful (pass : Pass (Option Cloud.LoadBalancer)) : Prop :=
  ∀ ⦃s t r s'⦄, pass.Runs s t r s' →
    ∀ exchange ∈ t, ∀ live, exchange.balancer? = some live → r = .ok (some live)

theorem Faithful.ofExcept (result : Except Failure (Option Cloud.LoadBalancer)) :
    Faithful (ofExcept result) := by
  intro s t r s' hrun exchange hmem
  obtain ⟨rfl, -, -⟩ := runs_ofExcept.1 hrun
  cases hmem

theorem Faithful.findByName (balancer : Desired.LoadBalancer) : Faithful (findByName balancer) := by
  unfold LoadBalancers.findByName
  split
  · exact .ofExcept _
  · intro s t r s' hrun exchange hmem live hlive
    obtain ⟨reply, rfl, rfl, -⟩ := runs_call.1 hrun
    obtain rfl := List.mem_singleton.1 hmem
    cases reply with
    | answer found => exact congrArg Except.ok hlive
    | error source => cases hlive
    | aborted => cases hlive

/-- By ID first: what follows comes about only if nothing has the ID. -/
theorem Faithful.get_bind {target id : String}
    {next : Option Cloud.LoadBalancer → Pass (Option Cloud.LoadBalancer)}
    (hsome : ∀ live, next (some live) = pure (some live)) (hnone : Faithful (next none)) :
    Faithful (call target (.getLoadBalancer id) >>= next) := by
  intro s t r s' hrun exchange hmem live hlive
  rcases runs_call_bind.1 hrun with ⟨found, rest, rfl, hrest⟩ | ⟨reply, e, rfl, hfailed, rfl, -⟩
  · cases found with
    | some other =>
      rw [hsome] at hrest
      obtain ⟨rfl, rfl, -⟩ := runs_pure.1 hrest
      obtain rfl := List.mem_singleton.1 hmem
      exact congrArg Except.ok hlive
    | none =>
      rcases List.mem_cons.1 hmem with rfl | hmem
      · cases hlive
      · exact hnone hrest exchange hmem live hlive
  · obtain rfl := List.mem_singleton.1 hmem
    cases reply with
    | answer found => cases hfailed
    | error source => cases hlive
    | aborted => cases hlive

theorem find_faithful (balancer : Desired.LoadBalancer) : Faithful (find balancer) := by
  intro s t r s' hrun
  rw [find, runs_status_bind] at hrun
  dsimp only at hrun
  split at hrun
  · exact Faithful.ofExcept _ hrun
  · unfold lookUp at hrun
    split at hrun
    · refine Faithful.get_bind (fun _ => ?_) ?_ hrun
      · rfl
      · exact .ofExcept _
    · split at hrun
      · exact Faithful.findByName balancer hrun
      · refine Faithful.get_bind (fun _ => ?_) ?_ hrun
        · rfl
        · exact .findByName balancer

theorem find_ok_answered {found : Option Cloud.LoadBalancer} {exchange : Exchange}
    (hrun : (find balancer).Runs s t (.ok found) s') (hmem : exchange ∈ t)
    (hlive : exchange.balancer? = some live) : found = some live :=
  Except.ok.inj (find_faithful balancer hrun exchange hmem live hlive)

theorem settleFound_remembers {r : Except Failure Outcome} {mid : Status}
    (hfind : (find balancer).Runs s first (.ok (some live)) mid)
    (hrun : (settleFound live).Runs mid t r s') : Remembers id name s (first ++ t) s' := by
  obtain rfl : mid = s := find_quiet balancer hfind
  have hput : ∃ entry : BalancerEntry, entry.id = live.id ∧ entry.name = live.name ∧ t = [] ∧
      s' = mid.putBalancer entry := by
    simp only [settleFound, observe, runs_update_bind] at hrun
    split at hrun
    · obtain ⟨rfl, -, rfl⟩ := runs_fail.1 hrun
      exact ⟨_, rfl, rfl, rfl, rfl⟩
    · obtain ⟨rfl, -, rfl⟩ := runs_pure.1 hrun
      exact ⟨_, rfl, rfl, rfl, rfl⟩
  obtain ⟨entry, hid, hname, rfl, rfl⟩ := hput
  rw [List.append_nil]
  refine remembers_put (fun exchange hmem other hother => ?_) (find_sourced · hfind) hid hname
  exact (Option.some.inj (find_ok_answered hfind hmem hother)).symm

theorem find_remembers {r : Except Failure (Option Cloud.LoadBalancer)}
    (hrun : (find balancer).Runs s t r s') (hr : ∀ live, r ≠ .ok (some live)) :
    Remembers id name s t s' := by
  obtain rfl : s' = s := find_quiet balancer hrun
  refine remembers_of_same (.refl _ _) ?_
  rintro ⟨exchange, hmem, live, hlive, -⟩
  exact hr live (find_faithful balancer hrun exchange hmem live hlive)

theorem create_remembers (plan : Plan) (balancer : Desired.LoadBalancer) :
    Always (Remembers id name) (create plan balancer) := by
  have hmark : ∀ crn, Always (Remembers id name)
      (Ownership.mark plan .loadBalancer balancer.name crn) := fun crn =>
    (Ownership.mark_does plan _ _ _).mono fun h =>
      remembers_of_does h (by simp) (by simp) (by simp)
  have hcreate : ∀ prototype, Always (Remembers id name)
      (call balancer.name (.createLoadBalancer prototype) >>= fun live =>
        observe live true >>= fun _ => Ownership.mark plan .loadBalancer balancer.name live.crn) := by
    intro prototype s t r s' hrun
    rcases runs_call_bind.1 hrun with ⟨live, rest, rfl, hrest⟩ | ⟨reply, e, rfl, hfailed, -, rfl⟩
    · rw [observe, runs_update_bind] at hrest
      rw [← List.singleton_append]
      refine Composes.append (remembers_put ?_ ?_ rfl rfl) (hmark _ hrest)
      · intro exchange hmem other hother
        obtain rfl := List.mem_singleton.1 hmem
        exact (Option.some.inj hother).symm
      · exact fun _ => .inl ⟨_, List.mem_cons_self, rfl⟩
    · refine remembers_of_same (.refl _ _) ?_
      rintro ⟨exchange, hmem, live, hlive, -⟩
      obtain rfl := List.mem_singleton.1 hmem
      cases reply with
      | answer found => cases hfailed
      | error source => cases hlive
      | aborted => cases hlive
  refine .bind .status fun s => ?_
  dsimp only
  split
  · exact .fail _
  · refine .bind .status fun _ => .bind (.ofExcept _) fun _ => .bind ?_ fun _ => hcreate _
    exact (securityGroupIds_does balancer _).mono fun h =>
      remembers_of_does h (by simp) (by simp) (by simp)

theorem settleAll_remembers (plan : Plan) (balancers : List Desired.LoadBalancer) (created : Bool) :
    Always (Remembers id name) (settleAll plan balancers created) := by
  induction balancers generalizing created with
  | nil => exact .pure _
  | cons balancer rest ih =>
    intro s t r s' hrun
    rcases runs_bind.1 hrun with ⟨found, mid, t₁, t₂, rfl, hfind, hrest⟩ | ⟨e, rfl, hfind⟩
    · cases found with
      | some live =>
        rcases runs_bind.1 hrest with ⟨first, mid', t₂, t₃, rfl, hfound, hothers⟩ | ⟨e, -, hfound⟩
        · rw [← List.append_assoc]
          exact Composes.append (settleFound_remembers hfind hfound)
            (Always.bind (ih created) (fun _ => .pure _) hothers)
        · exact settleFound_remembers hfind hfound
      | none =>
        refine Composes.append (find_remembers hfind nofun) ?_
        dsimp only at hrest
        split at hrest
        · exact Always.bind (ih true) (fun _ => .pure _) hrest
        · exact Always.bind (create_remembers plan balancer)
            (fun _ => .bind (ih true) fun _ => .pure _) hrest
    · exact find_remembers hfind nofun

end LoadBalancers

theorem standard_remembers (plan : Plan) : Always (Remembers id name) (standard plan) :=
  standard_of_balancers remembers_of_does (LoadBalancers.settleAll_remembers plan _ _)

/-! ## What is remembered is not created -/

/-- While the account upholds the load balancer and it is remembered, it stays remembered and nothing
with its name is created. -/
def Preserves (id name : String) : Effect := fun s t s' =>
  t.Upholds id name → s.KeyedById → s.RemembersAs id name →
    s'.KeyedById ∧ s'.RemembersAs id name ∧ t.Spares name

instance : Composes (Preserves id name) where
  nil s _ hkeyed hremembers := ⟨hkeyed, hremembers, by simp [Trace.Spares]⟩
  append h₁ h₂ hupholds hkeyed hremembers := by
    obtain ⟨hkeyed, hremembers, hfirst⟩ :=
      h₁ (hupholds.mono (List.subset_append_left _ _)) hkeyed hremembers
    obtain ⟨hkeyed, hremembers, hrest⟩ :=
      h₂ (hupholds.mono (List.subset_append_right _ _)) hkeyed hremembers
    exact ⟨hkeyed, hremembers, Trace.spares_append.2 ⟨hfirst, hrest⟩⟩

theorem Remembers.preserves (h : Remembers id name s t s')
    (hspares : t.Upholds id name → s.RemembersAs id name → t.Spares name) :
    Preserves id name s t s' := by
  intro hupholds hkeyed hremembers
  obtain ⟨hkeyed', hremembers'⟩ := h hupholds.names hkeyed
  exact ⟨hkeyed', hremembers' (.inl hremembers), hspares hupholds hremembers⟩

theorem spares_of_does {parts : List Part} {looks makes : List Kind}
    (h : Does parts looks makes s t s') (hmakes : .loadBalancer ∉ makes) : t.Spares name := by
  intro exchange hmem prototype hrequest
  have hasks := h.asks exchange hmem
  rw [hrequest] at hasks
  exact absurd hasks hmakes

theorem preserves_of_does {parts : List Part} {looks makes : List Kind}
    (h : Does parts looks makes s t s') (hparts : .balancers ∉ parts)
    (hlooks : .loadBalancer ∉ looks) (hmakes : .loadBalancer ∉ makes) : Preserves id name s t s' :=
  (remembers_of_does h hparts hlooks hmakes).preserves fun _ _ => spares_of_does h hmakes

namespace LoadBalancers

variable {balancer : Desired.LoadBalancer} {live : Cloud.LoadBalancer}

/-- What is created for a declared load balancer has its name. -/
theorem create_spares (hname : balancer.name ≠ name) {r : Except Failure Unit}
    (hrun : (create plan balancer).Runs s t r s') : t.Spares name := by
  let Spared : Effect := fun _ t _ => t.Spares name
  have hcomposes : Composes Spared :=
    ⟨fun _ => by simp [Spared, Trace.Spares], fun h₁ h₂ => Trace.spares_append.2 ⟨h₁, h₂⟩⟩
  have hcall : ∀ prototype : Cloud.LoadBalancerPrototype, prototype.name = balancer.name →
      Always Spared (call balancer.name (.createLoadBalancer prototype)) := by
    intro prototype hprototype
    refine .call fun _ reply exchange hmem other hrequest => ?_
    obtain rfl := List.mem_singleton.1 hmem
    cases hrequest
    rwa [hprototype]
  have hall : Always Spared (create plan balancer) := by
    refine .bind .status fun s => ?_
    dsimp only
    split
    · exact .fail _
    · refine .bind .status fun _ => .bind (.ofExcept _) fun _ => .bind ?_ fun _ =>
        .bind (hcall _ rfl) fun _ => .bind ?_ fun _ => ?_
      · exact (securityGroupIds_does balancer _).mono fun h => spares_of_does h (by simp)
      · exact (observe_does _ _).mono fun h => spares_of_does h (by simp)
      · exact (Ownership.mark_does plan _ _ _).mono fun h => spares_of_does h (by simp)
  exact hall hrun

/-- A load balancer that is remembered by its name does not go unnoticed. -/
theorem name_ne_of_find_none (hupholds : t.Upholds id name) (hremembers : s.RemembersAs id name)
    (hrun : (find balancer).Runs s t (.ok none) s') : balancer.name ≠ name := by
  rintro rfl
  obtain ⟨entry, hentry, hname⟩ := hremembers
  have hsome : (s.balancers.find? (·.name = balancer.name)).isSome :=
    List.find?_isSome.2 ⟨entry, Status.mem_balancers_of_balancer? hentry, by simpa using hname⟩
  rw [find, runs_status_bind] at hrun
  dsimp only at hrun
  split at hrun
  · simp at hrun
  · unfold lookUp at hrun
    split at hrun
    · obtain ⟨found, rest, rfl, hrest⟩ := runs_call_bind_ok.1 hrun
      split at hrest <;> simp at hrest
    · rename_i hid
      rw [remembered?, hid] at hrun
      dsimp only at hrun
      split at hrun
      · rename_i hnone
        rw [hnone] at hsome
        cases hsome
      · rename_i other hother
        obtain ⟨found, rest, rfl, hrest⟩ := runs_call_bind_ok.1 hrun
        split at hrest
        · simp at hrest
        · rw [findByName_none hrest] at hupholds
          by_cases hsame : other.id = id
          · rw [hsame] at hupholds
            exact hupholds.stays List.mem_cons_self
          · exact hupholds.leads other.id hsame List.mem_cons_self (by simp)

theorem settleAll_preserves (plan : Plan) (balancers : List Desired.LoadBalancer) (created : Bool) :
    Always (Preserves id name) (settleAll plan balancers created) := by
  have hfind : ∀ {balancer s t r s'}, (find balancer).Runs s t r s' → t.Spares name :=
    fun hrun => spares_of_does (find_does _ hrun) (by simp)
  induction balancers generalizing created with
  | nil => exact .pure _
  | cons balancer rest ih =>
    have hothers : ∀ created {β : Type} (f : Outcome → β),
        Always (Preserves id name) (settleAll plan rest created >>= fun others => pure (f others)) :=
      fun created _ f => .bind (ih created) fun _ => .pure _
    intro s t r s' hrun
    rcases runs_bind.1 hrun with ⟨found, mid, t₁, t₂, rfl, hlook, hrest⟩ | ⟨e, rfl, hlook⟩
    · cases found with
      | some live =>
        have hfound : ∀ {t r s'}, (settleFound live).Runs mid t r s' →
            Preserves id name s (t₁ ++ t) s' := fun hrun =>
          (settleFound_remembers hlook hrun).preserves fun _ _ =>
            Trace.spares_append.2 ⟨hfind hlook, spares_of_does (settleFound_does live hrun) (by simp)⟩
        rcases runs_bind.1 hrest with ⟨first, mid', t₂, t₃, rfl, hsettled, hrest⟩ | ⟨e, -, hsettled⟩
        · rw [← List.append_assoc]
          exact Composes.append (hfound hsettled) (hothers _ _ hrest)
        · exact hfound hsettled
      | none =>
        obtain rfl : mid = s := find_quiet balancer hlook
        have hmissed : Preserves id name mid t₁ mid :=
          (find_remembers hlook nofun).preserves fun _ _ => hfind hlook
        dsimp only at hrest
        split at hrest
        · exact Composes.append hmissed (hothers _ _ hrest)
        · intro hupholds hkeyed hremembers
          have hname : balancer.name ≠ name :=
            name_ne_of_find_none (hupholds.mono (List.subset_append_left _ _)) hremembers hlook
          have hcreate : ∀ {t r s'}, (create plan balancer).Runs mid t r s' →
              Preserves id name mid t s' := fun hrun =>
            (create_remembers plan balancer hrun).preserves fun _ _ => create_spares hname hrun
          have hrest' : Preserves id name mid t₂ s' :=
            Always.bind_run hcreate (fun _ => hothers _ _) hrest
          exact Composes.append hmissed hrest' hupholds hkeyed hremembers
    · exact (find_remembers hlook nofun).preserves fun _ _ => hfind hlook

end LoadBalancers

theorem standard_preserves (plan : Plan) : Always (Preserves id name) (standard plan) :=
  standard_of_balancers preserves_of_does (LoadBalancers.settleAll_preserves plan _ _)

/-! ## Pass after pass -/

namespace LoadBalancers

variable {balancer : Desired.LoadBalancer} {live : Cloud.LoadBalancer}

/-- In a pass with these exchanges, the load balancer with this ID was found for a declared one, or
was created for it. -/
inductive Obtains (plan : Plan) (s : Status) (balancer : Desired.LoadBalancer) (id : String) :
    Trace → Prop
  | found {earlier later : List Desired.LoadBalancer} {start mid : Status}
      {before others mine after : Trace} {outcome : Outcome} {live : Cloud.LoadBalancer} :
      plan.spec.network.loadBalancers = earlier ++ balancer :: later →
      (runSteps plan (Step.earlier .loadBalancers)).Runs s before (.ok .ready) start →
      (settleAll plan earlier false).Runs start others (.ok outcome) mid →
      (find balancer).Runs mid mine (.ok (some live)) mid → live.id = id →
      Obtains plan s balancer id (before ++ others ++ mine ++ after)
  | created {before after : Trace} {prototype : Cloud.LoadBalancerPrototype}
      {live : Cloud.LoadBalancer} :
      prototype.name = balancer.name → live.id = id →
      Obtains plan s balancer id
        (before ++ ⟨.createLoadBalancer prototype, .answer live⟩ :: after)

/-- What is found for a load balancer without an ID was answered, or is remembered by its name. -/
theorem find_recognises (hid : given? balancer.id = none) (hkeyed : s.KeyedById)
    (hrun : (find balancer).Runs s t (.ok (some live)) s') :
    t.Shows live.id ∨ s.RemembersAs live.id balancer.name := by
  rw [find, runs_status_bind] at hrun
  dsimp only at hrun
  split at hrun
  · rename_i entry hentry
    obtain ⟨-, hlive, -⟩ := runs_pure_ok.1 hrun
    cases hlive
    have hremembered := (Option.filter_eq_some_iff.1 hentry).1
    rw [remembered?, hid] at hremembered
    have hname : entry.name = balancer.name := by simpa using List.find?_some hremembered
    exact .inr ⟨entry, hkeyed.balancer?_id (List.mem_of_find?_eq_some hremembered), hname⟩
  · obtain ⟨exchange, hmem, hlive⟩ := lookUp_ok_some hrun
    exact .inl ⟨exchange, hmem, live, hlive, rfl⟩

/-- What has come to be remembered was answered. -/
theorem Progress.remembersAs (h : Progress s t s') (hkeyed : s'.KeyedById)
    (hremembers : s'.RemembersAs id name) : t.Shows id ∨ s.RemembersAs id name := by
  obtain ⟨entry, hentry, hname⟩ := hremembers
  by_cases hbefore : s.balancer? id = some entry
  · exact .inr ⟨entry, hbefore, hname⟩
  · obtain ⟨exchange, hmem, live, hlive, hid, -⟩ := (h.balancers id).backs entry hentry hbefore
    exact .inl ⟨exchange, hmem, live, hlive, hid.symm.trans (hkeyed id entry hentry)⟩

theorem Obtains.shows_or_remembers (h : Obtains plan s balancer id t)
    (hid : given? balancer.id = none) (hkeyed : s.KeyedById) :
    t.Shows id ∨ s.RemembersAs id balancer.name := by
  cases h with
  | @found _ _ start mid before others mine after _ live _ hsteps hothers hfind hlive =>
    subst hlive
    have hsame : Status.Same .balancers s start := runSteps_same (by decide) hsteps
    have hafter : After [] start others mid := settleAll_after plan _ _ hothers
    obtain ⟨hkeyed', hprogress⟩ := hafter (hkeyed.frame hsame)
    rw [List.nil_append] at hprogress
    have hshown : ∀ {part : Trace}, part.Shows live.id → part ⊆ before ++ others ++ mine ++ after →
        (before ++ others ++ mine ++ after).Shows live.id ∨ s.RemembersAs live.id balancer.name :=
      fun hshows hsub => .inl (hshows.mono hsub)
    rcases find_recognises hid hkeyed' hfind with hshows | hremembers
    · exact hshown hshows fun _ hmem => by simp [hmem]
    · rcases Progress.remembersAs hprogress hkeyed' hremembers with hshows | ⟨entry, hentry, hname⟩
      · exact hshown hshows fun _ hmem => by simp [hmem]
      · rw [hsame.balancer? live.id] at hentry
        exact .inr ⟨entry, hentry, hname⟩
  | created _ hlive =>
    exact .inl ⟨_, List.mem_append_right _ List.mem_cons_self, _, rfl, hlive⟩

/-- Once a load balancer was found or created for one that is declared without an ID, and the account
upholds it under the declared name, no later pass creates anything with that name: it is found by
what is remembered of it. -/
theorem obtained_not_created_again {r : Except Failure Outcome} {later : History}
    {last : Status} (hid : given? balancer.id = none) (hkeyed : s.KeyedById)
    (hrun : (standard plan).Runs s t r s') (hobtains : Obtains plan s balancer id t)
    (hnames : t.GivesName id balancer.name) (hlater : Passes s' later last)
    (hupholds : ∀ pass ∈ later, pass.2.Upholds id balancer.name) :
    ∀ pass ∈ later, ∀ exchange ∈ pass.2, ∀ prototype,
      exchange.request = .createLoadBalancer prototype → prototype.name ≠ balancer.name := by
  obtain ⟨hkeyed', hremembers⟩ := standard_remembers plan hrun hnames hkeyed
  have hremembers := hremembers (hobtains.shows_or_remembers hid hkeyed).symm
  obtain ⟨-, hspares⟩ := hlater.induct
    (P := fun s => s.KeyedById ∧ s.RemembersAs id balancer.name)
    (Q := fun pass => pass.2.Spares balancer.name)
    (fun hmem hpass hstart => by
      obtain ⟨hkeyed, hremembers, hspares⟩ :=
        standard_preserves _ hpass (hupholds _ hmem) hstart.1 hstart.2
      exact ⟨⟨hkeyed, hremembers⟩, hspares⟩)
    ⟨hkeyed', hremembers⟩
  exact hspares

/-- What the only load balancer of `balancedPlan` is created with. -/
def balancedPrototype : Cloud.LoadBalancerPrototype :=
  { name := "l", resourceGroupId := "1", isPublic := true, subnetIds := ["5", "6"],
    securityGroupIds := [], pools := [Pool.default "l-pool-6443"],
    listeners := [⟨6443, "tcp", "l-pool-6443"⟩] }

def balancedDeclared : Desired.LoadBalancer :=
  { name := "l", id := none, isPublic := true, listeners := [], pools := [], securityGroups := [] }

/-- The load balancer is created, and the account gives it this name. -/
def creatingTrace (name : String) : Trace :=
  balancedFirst ++
    [⟨.createLoadBalancer balancedPrototype, .answer ⟨"8", name, "crn", .createPending, none⟩⟩,
      ⟨.listTags, .answer ["a"]⟩, ⟨.attachTag "a" "crn", .answer ()⟩]

def createdStatus (name : String) : Status :=
  (balancedStart.put .vpc "" ⟨"2", "v", true⟩).putBalancer ⟨"8", name, .createPending, none, true⟩

theorem creatingTrace_runs (name : String) :
    (standard balancedPlan).Runs balancedStart (creatingTrace name) (.ok .requeue)
      (createdStatus name) :=
  .ask (.ask (.ask (.ask (.ask (.ask (.done _))))))

theorem creatingTrace_obtains (name : String) :
    Obtains balancedPlan balancedStart balancedDeclared "8" (creatingTrace name) :=
  .created rfl rfl

theorem balancedStart_keyedById : balancedStart.KeyedById := by
  intro id entry hentry
  cases hentry

/-- The load balancer is looked up by its ID, and is active by now. -/
def recognisingTrace : Trace :=
  [⟨.getVpc "2", .answer (some ⟨"2", "v", "", .available⟩)⟩,
    ⟨.listRules "4", .answer [⟨"7", .inbound, .cidr anyBlock, .all⟩]⟩,
    ⟨.getLoadBalancer "8", .answer (some ⟨"8", "l", "crn", .active, some "h"⟩)⟩]

theorem obtained_not_created_again_balanced :
    given? balancedDeclared.id = none ∧ balancedStart.KeyedById ∧
    (standard balancedPlan).Runs balancedStart (creatingTrace "l") (.ok .requeue)
      (createdStatus "l") ∧
    Obtains balancedPlan balancedStart balancedDeclared "8" (creatingTrace "l") ∧
    (creatingTrace "l").GivesName "8" balancedDeclared.name ∧
    (∃ last, Passes (createdStatus "l") [(balancedPlan, recognisingTrace)] last) ∧
    recognisingTrace.Upholds "8" balancedDeclared.name ∧
    ∀ exchange ∈ recognisingTrace, ∀ prototype,
      exchange.request = .createLoadBalancer prototype → prototype.name ≠ balancedDeclared.name := by
  have hid : given? balancedDeclared.id = none := rfl
  have hcreating : (creatingTrace "l").GivesName "8" balancedDeclared.name := by
    simp [Trace.GivesName, creatingTrace, balancedFirst, Exchange.balancer?, balancedDeclared]
  have hrecognising : recognisingTrace.Upholds "8" balancedDeclared.name := by
    refine ⟨?_, ?_, ?_⟩ <;>
      simp [Trace.GivesName, recognisingTrace, Exchange.balancer?, balancedDeclared]
  have hnext : ∃ r last, (standard balancedPlan).Runs (createdStatus "l") recognisingTrace r last :=
    ⟨_, _, .ask (.ask (.ask (.done _)))⟩
  obtain ⟨r, last, hnext⟩ := hnext
  have hlater : Passes (createdStatus "l") [(balancedPlan, recognisingTrace)] last :=
    .cons hnext (.nil last)
  refine ⟨hid, balancedStart_keyedById, creatingTrace_runs "l", creatingTrace_obtains "l", hcreating,
    ⟨last, hlater⟩, hrecognising, ?_⟩
  exact obtained_not_created_again hid balancedStart_keyedById (creatingTrace_runs "l")
    (creatingTrace_obtains "l") hcreating hlater (by simpa using hrecognising) _
    (List.mem_singleton_self _)

/-- Under another name than the declared one the load balancer is not recognised in the next pass,
and another one is created. -/
theorem renamed_is_created_again :
    (standard balancedPlan).Runs balancedStart (creatingTrace "l-x") (.ok .requeue)
      (createdStatus "l-x") ∧
    Obtains balancedPlan balancedStart balancedDeclared "8" (creatingTrace "l-x") ∧
    (createdStatus "l-x").RemembersAs "8" "l-x" ∧
    (∃ last, Passes (createdStatus "l-x")
      [(balancedPlan, balancedFirst ++ [⟨.createLoadBalancer balancedPrototype, .aborted⟩])] last) ∧
    ⟨.getLoadBalancer "8", .answer none⟩ ∉
      balancedFirst ++ [⟨.createLoadBalancer balancedPrototype, .aborted⟩] ∧
    balancedPrototype.name = balancedDeclared.name := by
  have hnext : ∃ r last, (standard balancedPlan).Runs (createdStatus "l-x")
      (balancedFirst ++ [⟨.createLoadBalancer balancedPrototype, .aborted⟩]) r last :=
    ⟨_, _, .ask (.ask (.ask (.ask (.done _))))⟩
  obtain ⟨r, last, hnext⟩ := hnext
  exact ⟨creatingTrace_runs "l-x", creatingTrace_obtains "l-x", ⟨_, rfl, rfl⟩,
    ⟨last, .cons hnext (.nil last)⟩, by simp [balancedFirst], rfl⟩

end LoadBalancers

end Pass

end VpcOperator
