import VpcOperator.Proofs.Ready.Answers

/-! # Ready load balancers

A step that ends ready has found every declared load balancer and has put only
active entries, so no entry is undone by a later one. `T` stands for all
exchanges of the pass.
-/

namespace VpcOperator

open Observed (Status BalancerEntry)

variable {plan : Plan} {before s s' : Status} {t T : Trace} {balancer : Desired.LoadBalancer}
  {live : Cloud.LoadBalancer} {entry : BalancerEntry} {name id : String}

namespace Observed.Status

/-- There is an entry under this ID, and it is active. -/
def HasActive (s : Status) (id : String) : Prop :=
  ∃ entry, s.balancer? id = some entry ∧ entry.state = .active

theorem mem_balancers_of_balancer? (h : s.balancer? id = some entry) : entry ∈ s.balancers := by
  rw [balancer?_eq] at h
  rw [balancers_eq]
  exact List.mem_map.2 ⟨(id, entry), Table.mem_of_find? h, rfl⟩

theorem mem_balancers_putBalancer {other : BalancerEntry}
    (h : other ∈ (s.putBalancer entry).balancers) : other = entry ∨ other ∈ s.balancers := by
  rw [balancers_eq] at h ⊢
  obtain ⟨pair, hmem, rfl⟩ := List.mem_map.1 h
  rcases Table.mem_insertEntry hmem with rfl | hmem
  · exact .inl rfl
  · exact .inr (List.mem_map_of_mem hmem)

theorem HasActive.putBalancer (h : s.HasActive id) (hactive : entry.state = .active) :
    (s.putBalancer entry).HasActive id := by
  unfold HasActive
  rw [balancer?_putBalancer]
  split
  · exact ⟨entry, rfl, hactive⟩
  · exact h

end Observed.Status

namespace Pass.LoadBalancers

/-- The load balancer with this ID goes by the name: it was remembered so before the pass, or was
answered so in the pass. -/
inductive GoesBy (before : Status) (T : Trace) (name : String) : String → Prop
  | remembered {entry : BalancerEntry} :
      entry ∈ before.balancers → entry.name = name → GoesBy before T name entry.id
  | lookedUp {live : Cloud.LoadBalancer} :
      ⟨.getLoadBalancer live.id, .answer (some live)⟩ ∈ T → live.name = name →
      GoesBy before T name live.id
  | found {live : Cloud.LoadBalancer} :
      ⟨.findLoadBalancer name, .answer (some live)⟩ ∈ T → GoesBy before T name live.id

/-- The declared ID decides, or what was remembered under it; without one the name does. -/
def Resolves (before : Status) (T : Trace) (balancer : Desired.LoadBalancer) (id : String) : Prop :=
  match given? balancer.id with
  | some declared => id = declared ∨ (before.balancer? declared).map (·.id) = some id
  | none => GoesBy before T balancer.name id

/-- The entries of a status in the middle of the pass are as they were before it or new. -/
structure Known (before : Status) (T : Trace) (s : Status) : Prop where
  goesBy : ∀ entry ∈ s.balancers, GoesBy before T entry.name entry.id
  keyed : ∀ id entry, s.balancer? id = some entry →
    entry.id = id ∨ before.balancer? id = some entry

theorem known_before : Known before T before :=
  ⟨fun _ hmem => .remembered hmem rfl, fun _ _ hfind => .inr hfind⟩

theorem Known.frame (h : Known before T s) (hsame : Status.Same .balancers s s') :
    Known before T s' :=
  ⟨hsame.balancers ▸ h.goesBy, fun id entry hfind => h.keyed id entry (hsame.balancer? id ▸ hfind)⟩

theorem Known.putBalancer (h : Known before T s) (hgoes : GoesBy before T entry.name entry.id) :
    Known before T (s.putBalancer entry) := by
  refine ⟨fun other hmem => ?_, fun id other hfind => ?_⟩
  · rcases Status.mem_balancers_putBalancer hmem with rfl | hmem
    · exact hgoes
    · exact h.goesBy other hmem
  · rw [Status.balancer?_putBalancer] at hfind
    split at hfind
    · cases hfind
      exact .inl ‹id = _›.symm
    · exact h.keyed id other hfind

theorem findByName_ok (h : (findByName balancer).Runs s t (.ok (some live)) s') (hsub : t ⊆ T)
    (htruthful : T.Truthful) : s' = s ∧ live.name = balancer.name ∧
      GoesBy before T balancer.name live.id := by
  unfold findByName at h
  split at h
  · simp at h
  · obtain ⟨rfl, rfl⟩ := runs_call_ok.1 h
    have hmem := hsub List.mem_cons_self
    exact ⟨rfl, (htruthful _ hmem).1, .found hmem⟩

theorem remembered_ok (hknown : Known before T s) (h : remembered? s balancer = some entry) :
    entry ∈ s.balancers ∧ Resolves before T balancer entry.id := by
  unfold remembered? at h
  split at h
  · rename_i declared hid
    simp only [Resolves, hid]
    refine ⟨Status.mem_balancers_of_balancer? h, ?_⟩
    exact (hknown.keyed declared entry h).imp_right fun hbefore => by rw [hbefore, Option.map_some]
  · rename_i hnone
    have hmem := List.mem_of_find?_eq_some h
    obtain hname : entry.name = balancer.name := by simpa using List.find?_some h
    simp only [Resolves, hnone]
    exact ⟨hmem, hname ▸ hknown.goesBy entry hmem⟩

theorem lookUp_ok (hknown : Known before T s)
    (h : (lookUp balancer (remembered? s balancer)).Runs s t (.ok (some live)) s') (hsub : t ⊆ T)
    (htruthful : T.Truthful) :
    s' = s ∧ GoesBy before T live.name live.id ∧ Resolves before T balancer live.id := by
  have hlooked : ∀ {id}, ⟨.getLoadBalancer id, .answer (some live)⟩ ∈ T →
      live.id = id ∧ GoesBy before T live.name live.id := by
    intro id hmem
    obtain ⟨rfl, -⟩ := htruthful _ hmem
    exact ⟨rfl, .lookedUp hmem rfl⟩
  have hfound : ∀ {t}, given? balancer.id = none → t ⊆ T →
      (findByName balancer).Runs s t (.ok (some live)) s' →
      s' = s ∧ GoesBy before T live.name live.id ∧ Resolves before T balancer live.id := by
    intro t hnone hsub h
    have hgoes : s' = s ∧ live.name = balancer.name ∧ GoesBy before T balancer.name live.id :=
      findByName_ok h hsub htruthful
    simp only [Resolves, hnone]
    exact ⟨hgoes.1, hgoes.2.1 ▸ hgoes.2.2, hgoes.2.2⟩
  unfold lookUp at h
  split at h
  · rename_i declared hid
    obtain ⟨answer, rest, rfl, hrest⟩ := runs_call_bind_ok.1 h
    split at hrest
    · obtain ⟨rfl, hlive, rfl⟩ := runs_pure_ok.1 hrest
      cases hlive
      obtain ⟨hsame, hgoes⟩ := hlooked (hsub List.mem_cons_self)
      exact ⟨rfl, hgoes, by simp only [Resolves, hid]; exact .inl hsame⟩
    · simp at hrest
  · rename_i hnone
    split at h
    · exact hfound hnone hsub h
    · rename_i entry hentry
      obtain ⟨answer, rest, rfl, hrest⟩ := runs_call_bind_ok.1 h
      split at hrest
      · obtain ⟨rfl, hlive, rfl⟩ := runs_pure_ok.1 hrest
        cases hlive
        obtain ⟨hsame, hgoes⟩ := hlooked (hsub List.mem_cons_self)
        exact ⟨rfl, hgoes, hsame ▸ (remembered_ok hknown hentry).2⟩
      · exact hfound hnone (List.cons_subset.1 hsub).2 hrest

theorem find_ok (hknown : Known before T s) (h : (find balancer).Runs s t (.ok (some live)) s')
    (hsub : t ⊆ T) (htruthful : T.Truthful) :
    s' = s ∧ GoesBy before T live.name live.id ∧ Resolves before T balancer live.id := by
  rw [find, runs_status_bind] at h
  dsimp only at h
  split at h
  · rename_i entry hentry
    obtain ⟨hremembered, -⟩ := Option.filter_eq_some_iff.1 hentry
    obtain ⟨rfl, hlive, rfl⟩ := runs_pure_ok.1 h
    cases hlive
    obtain ⟨hmem, hresolves⟩ := remembered_ok hknown hremembered
    exact ⟨rfl, hknown.goesBy entry hmem, hresolves⟩
  · exact lookUp_ok hknown h hsub htruthful

theorem settleFound_ready (h : (settleFound live).Runs s t (.ok .ready) s') :
    t = [] ∧ live.state = .active ∧
      ∃ entry, entry.id = live.id ∧ entry.name = live.name ∧ entry.state = .active ∧
        s' = s.putBalancer entry := by
  simp only [settleFound, observe, runs_update_bind] at h
  split at h
  · simp at h
  · obtain ⟨rfl, hready, rfl⟩ := runs_pure_ok.1 h
    have hactive := of_decide_eq_true (Outcome.ofReady_eq_ready_iff.1 hready.symm)
    exact ⟨rfl, hactive, _, rfl, rfl, hactive, rfl⟩

/-- What holds after a part of the step that ends ready. -/
structure Settles (before : Status) (T : Trace) (balancers : List Desired.LoadBalancer)
    (s : Status) (t : Trace) (s' : Status) : Prop where
  changes_nothing : t.ChangesNothing
  keeps : ∀ id, s.HasActive id → s'.HasActive id
  active : ∀ balancer ∈ balancers, ∃ id, Resolves before T balancer id ∧ s'.HasActive id

theorem settleAll_ready {balancers : List Desired.LoadBalancer} {created : Bool}
    (h : (settleAll plan balancers created).Runs s t (.ok .ready) s') (hsub : t ⊆ T)
    (htruthful : T.Truthful) (hknown : Known before T s) : Settles before T balancers s t s' := by
  induction balancers generalizing s t with
  | nil =>
    obtain ⟨rfl, -, rfl⟩ := runs_pure_ok.1 h
    exact ⟨by simp, fun id hactive => hactive, by simp⟩
  | cons balancer rest ih =>
    obtain ⟨found, mid, t₁, t₂, rfl, hfind, hrest⟩ := runs_bind_ok.1 h
    have hnothing := (find_does balancer hfind).changes_nothing
    split at hrest
    · rename_i live
      obtain ⟨first, s₁, t₂, t₃, rfl, hfirst, hrest⟩ := runs_bind_ok.1 hrest
      obtain ⟨others, s₂, t₃, t₄, rfl, hothers, hend⟩ := runs_bind_ok.1 hrest
      obtain ⟨rfl, hboth, rfl⟩ := runs_pure_ok.1 hend
      obtain ⟨rfl, rfl⟩ := Outcome.both_eq_ready_iff.1 hboth.symm
      simp only [List.append_subset] at hsub
      obtain ⟨rfl, hgoes, hresolves⟩ := find_ok hknown hfind hsub.1 htruthful
      obtain ⟨rfl, -, entry, hid, hname, hactive, rfl⟩ := settleFound_ready hfirst
      have hothers := ih hothers hsub.2.2.1 (hknown.putBalancer (by rwa [hid, hname]))
      refine ⟨by simp [hnothing, hothers.changes_nothing],
        fun id hid => hothers.keeps id (hid.putBalancer hactive), fun other hmem => ?_⟩
      rcases List.mem_cons.1 hmem with rfl | hmem
      · refine ⟨live.id, hresolves, hothers.keeps _ ⟨entry, ?_, hactive⟩⟩
        rw [Status.balancer?_putBalancer, if_pos hid.symm]
      · exact hothers.active other hmem
    · split at hrest
      · obtain ⟨_, _, _, _, -, -, hend⟩ := runs_bind_ok.1 hrest
        simp at hend
      · obtain ⟨_, _, _, _, -, -, hrest⟩ := runs_bind_ok.1 hrest
        obtain ⟨_, _, _, _, -, -, hend⟩ := runs_bind_ok.1 hrest
        simp at hend

end Pass.LoadBalancers

end VpcOperator
