import VpcOperator.Proofs.Ready.Balancers
import VpcOperator.Proofs.Steady.Basic

/-! # Load balancers again

A status that passes have built up keeps every load balancer under its own ID,
so an entry that is put anew has the name of the one it replaces. The first
entry with a name then is the new one or the one it was before, and a load
balancer that was found is found again.
-/

namespace VpcOperator

open Observed (Status BalancerEntry)

variable {plan : Plan} {answers : Cloud.Answers} {nameOf : String → String} {s s' : Status}
  {t : Trace}
  {balancer : Desired.LoadBalancer} {live : Cloud.LoadBalancer} {entry : BalancerEntry}

theorem Table.find?_insertEntry {α : Type} {key : String} {value : α} {p : α → Bool}
    {entries : List (String × α)}
    (hold : ∀ old, (key, old) ∈ entries → p old = true → p value = true) :
    ((insertEntry key value entries).map (·.2)).find? p = some value ∨
      ((insertEntry key value entries).map (·.2)).find? p = (entries.map (·.2)).find? p := by
  induction entries with
  | nil =>
    by_cases hvalue : p value
    · exact .inl (by simp [insertEntry, hvalue])
    · exact .inr (by simp [insertEntry, hvalue])
  | cons head rest ih =>
    obtain ⟨other, first⟩ := head
    unfold insertEntry
    by_cases hvalue : p value
    · split
      · exact .inl (by simp [hvalue])
      · split
        · exact .inl (by simp [hvalue])
        · simp only [List.map_cons, List.find?_cons]
          split
          · exact .inr rfl
          · exact ih fun old hmem => hold old (List.mem_cons_of_mem _ hmem)
    · refine .inr ?_
      split
      · simp [hvalue]
      · split
        · rename_i hkey
          dsimp only at hkey
          subst hkey
          have hfirst : p first = false :=
            eq_false_of_ne_true fun h => hvalue (hold first (by simp) h)
          simp [hvalue, hfirst]
        · simp only [List.map_cons, List.find?_cons]
          split
          · rfl
          · refine (ih fun old hmem => hold old (List.mem_cons_of_mem _ hmem)).resolve_left ?_
            intro h
            exact hvalue (List.find?_some h)

/-- A load balancer never changes its name. -/
def Exchange.Names (nameOf : String → String) : Exchange → Prop
  | ⟨.getLoadBalancer _, .answer (some live)⟩ => live.name = nameOf live.id
  | ⟨.findLoadBalancer _, .answer (some live)⟩ => live.name = nameOf live.id
  | ⟨.createLoadBalancer _, .answer live⟩ => live.name = nameOf live.id
  | _ => True

def Trace.Names (nameOf : String → String) (t : Trace) : Prop :=
  ∀ exchange ∈ t, exchange.Names nameOf

namespace Trace

variable {exchange : Exchange} {first rest : Trace}

@[simp] theorem names_cons :
    Names nameOf (exchange :: rest) ↔ exchange.Names nameOf ∧ Names nameOf rest := by
  simp [Names]

@[simp] theorem names_append :
    Names nameOf (first ++ rest) ↔ Names nameOf first ∧ Names nameOf rest := by
  simp [Names, or_imp, forall_and]

end Trace

/-- Every load balancer is remembered under its own ID and by its own name. -/
def Observed.Status.Keyed (nameOf : String → String) (s : Status) : Prop :=
  ∀ id entry, (id, entry) ∈ s.net.loadBalancers.entries → entry.id = id ∧ entry.name = nameOf id

namespace Observed.Status

theorem Keyed.frame (h : s.Keyed nameOf) (hsame : Same .balancers s s') : s'.Keyed nameOf := by
  have hsame : s'.net.loadBalancers = s.net.loadBalancers := hsame
  rw [Keyed, hsame]
  exact h

theorem Keyed.putBalancer (h : s.Keyed nameOf) (hname : entry.name = nameOf entry.id) :
    (s.putBalancer entry).Keyed nameOf := by
  intro id other hmem
  rcases Table.mem_insertEntry hmem with hnew | hmem
  · cases hnew
    exact ⟨rfl, hname⟩
  · exact h id other hmem

theorem Keyed.mem_balancers (h : s.Keyed nameOf) (hmem : entry ∈ s.balancers) :
    entry.name = nameOf entry.id := by
  rw [balancers_eq] at hmem
  obtain ⟨⟨id, other⟩, hentry, rfl⟩ := List.mem_map.1 hmem
  obtain ⟨rfl, hname⟩ := h id other hentry
  exact hname

end Observed.Status

namespace Pass.LoadBalancers

theorem remembered?_named (hkeyed : s.Keyed nameOf) (h : remembered? s balancer = some entry) :
    entry.name = nameOf entry.id := by
  unfold remembered? at h
  split at h
  · exact hkeyed.mem_balancers (Status.mem_balancers_of_balancer? h)
  · exact hkeyed.mem_balancers (List.mem_of_find?_eq_some h)

theorem remembered?_putBalancer (hkeyed : s.Keyed nameOf) (hname : entry.name = nameOf entry.id) :
    remembered? (s.putBalancer entry) balancer = some entry ∨
      remembered? (s.putBalancer entry) balancer = remembered? s balancer := by
  unfold remembered?
  split
  · rw [Status.balancer?_putBalancer]
    split
    · exact .inl rfl
    · exact .inr rfl
  · rw [Status.balancers_eq, Status.balancers_eq]
    refine Table.find?_insertEntry fun old hmem hold => ?_
    have hsame : old.name = nameOf entry.id := (hkeyed entry.id old hmem).2
    have hwanted : old.name = balancer.name := by simpa using hold
    simp [hname, ← hsame, hwanted]

/-! ## What a history of passes leaves -/

theorem find_named (hkeyed : s.Keyed nameOf) (hnames : t.Names nameOf)
    (h : (find balancer).Runs s t (.ok (some live)) s') : live.name = nameOf live.id := by
  have hfound : ∀ {s t}, t.Names nameOf → (findByName balancer).Runs s t (.ok (some live)) s' →
      live.name = nameOf live.id := by
    intro s t hnames h
    unfold findByName at h
    split at h
    · simp at h
    · obtain ⟨rfl, -⟩ := runs_call_ok.1 h
      exact (Trace.names_cons.1 hnames).1
  rw [find, runs_status_bind] at h
  dsimp only at h
  split at h
  · rename_i entry hentry
    obtain ⟨rfl, hlive, rfl⟩ := runs_pure_ok.1 h
    cases hlive
    exact remembered?_named hkeyed (Option.filter_eq_some_iff.1 hentry).1
  · unfold lookUp at h
    split at h
    · obtain ⟨answer, rest, rfl, hrest⟩ := runs_call_bind_ok.1 h
      split at hrest
      · obtain ⟨-, ⟨⟩, -⟩ := runs_pure_ok.1 hrest
        exact (Trace.names_cons.1 hnames).1
      · simp at hrest
    · split at h
      · exact hfound hnames h
      · obtain ⟨answer, rest, rfl, hrest⟩ := runs_call_bind_ok.1 h
        split at hrest
        · obtain ⟨-, ⟨⟩, -⟩ := runs_pure_ok.1 hrest
          exact (Trace.names_cons.1 hnames).1
        · exact hfound (Trace.names_cons.1 hnames).2 hrest

/-- As long as load balancers keep their names, a status stays keyed by ID. -/
def KeepsKeyed (nameOf : String → String) : Effect :=
  fun s t s' => t.Names nameOf → s.Keyed nameOf → s'.Keyed nameOf

instance : Composes (KeepsKeyed nameOf) where
  nil _ _ hkeyed := hkeyed
  append h₁ h₂ hnames hkeyed :=
    h₂ (Trace.names_append.1 hnames).2 (h₁ (Trace.names_append.1 hnames).1 hkeyed)

theorem keepsKeyed_of_does {α : Type} {pass : Pass α} {parts : List Observed.Part}
    {looks makes : List Kind} (h : Always (Does parts looks makes) pass)
    (hparts : .balancers ∉ parts) : Always (KeepsKeyed nameOf) pass :=
  h.mono fun hdoes _ hkeyed => hkeyed.frame (hdoes.writes _ hparts)

theorem observe_keepsKeyed {created : Bool} (hname : live.name = nameOf live.id) :
    Always (KeepsKeyed nameOf) (observe live created) :=
  .update fun _ _ hkeyed => hkeyed.putBalancer hname

theorem create_keepsKeyed : Always (KeepsKeyed nameOf) (create plan balancer) := by
  refine .bind .status fun s => ?_
  dsimp only
  split
  · exact .fail _
  · refine .bind .status fun _ => .bind (.ofExcept _) fun _ =>
      .bind (keepsKeyed_of_does (securityGroupIds_does balancer _) (by simp)) fun ids => ?_
    intro s t r s' hrun hnames
    rcases runs_bind.1 hrun with ⟨live, mid, first, rest, rfl, hcall, hrest⟩ | ⟨e, rfl, hcall⟩
    · obtain ⟨rfl, rfl⟩ := runs_call_ok.1 hcall
      obtain ⟨hname, hnames⟩ := Trace.names_cons.1 hnames
      have hmark : Always (KeepsKeyed nameOf)
          (Ownership.mark plan .loadBalancer balancer.name live.crn) :=
        keepsKeyed_of_does (Ownership.mark_does plan _ _ _) (by simp)
      exact Always.bind (observe_keepsKeyed hname) (fun _ => hmark) hrest hnames
    · obtain ⟨reply, rfl, -, rfl⟩ := runs_call.1 hcall
      exact id

theorem settleFound_keepsKeyed (hname : live.name = nameOf live.id) :
    Always (KeepsKeyed nameOf) (settleFound live) := by
  refine .bind (observe_keepsKeyed hname) fun _ => ?_
  split
  · exact .fail _
  · exact .pure _

theorem settleAll_keepsKeyed {balancers : List Desired.LoadBalancer} {created : Bool} :
    Always (KeepsKeyed nameOf) (settleAll plan balancers created) := by
  induction balancers generalizing created with
  | nil => exact .pure _
  | cons balancer rest ih =>
    have hfind : Always (KeepsKeyed nameOf) (find balancer) :=
      keepsKeyed_of_does (find_does balancer) (by simp)
    intro s t r s' hrun hnames hkeyed
    rcases runs_bind.1 hrun with ⟨found, mid, first, last, rfl, hfirst, hrest⟩ | ⟨e, rfl, hfirst⟩
    · obtain ⟨hnames₁, hnames₂⟩ := Trace.names_append.1 hnames
      have hmid := hfind hfirst hnames₁ hkeyed
      cases found with
      | some live =>
        have hname := find_named hkeyed hnames₁ hfirst
        exact Always.bind (settleFound_keepsKeyed hname) (fun _ => .bind ih fun _ => .pure _) hrest
          hnames₂ hmid
      | none =>
        dsimp only at hrest
        split at hrest
        · exact Always.bind ih (fun _ => .pure _) hrest hnames₂ hmid
        · exact Always.bind create_keepsKeyed (fun _ => .bind ih fun _ => .pure _) hrest hnames₂ hmid
    · exact hfind hfirst hnames hkeyed

/-! ## Load balancers that are found again -/

theorem find_sees (balancer : Desired.LoadBalancer) :
    Sees (fun s s₂ => remembered? s₂ balancer = remembered? s balancer) (find balancer) := by
  have hbyName : ∀ {alike}, Sees alike (findByName balancer) := by
    intro alike
    unfold findByName
    split
    · exact .fail _
    · exact .call _ _
  refine .status_bind (fun hsame => ?_) fun s => ?_
  · dsimp only
    rw [hsame]
  · dsimp only
    split
    · exact .pure _
    · unfold lookUp
      split
      · refine .bind (.call _ _) fun found => ?_
        split
        · exact .pure _
        · exact .fail _
      · split
        · exact hbyName
        · refine .bind (.call _ _) fun found => ?_
          split
          · exact .pure _
          · exact hbyName

/-- From this status the load balancer is found, and it is active. -/
def Stands (answers : Cloud.Answers) (nameOf : String → String) (s : Status)
    (balancer : Desired.LoadBalancer) : Prop :=
  ∃ live, Steady answers (find balancer) s (some live) s ∧ live.state = .active ∧
    live.name = nameOf live.id

theorem stands_of_remembered (h : remembered? s balancer = some entry)
    (hactive : entry.state = .active) (hname : entry.name = nameOf entry.id) :
    Stands answers nameOf s balancer := by
  refine ⟨ofEntry entry, .status_bind ?_, hactive, hname⟩
  dsimp only
  rw [h, Option.filter_some, if_pos (decide_eq_true hactive)]
  exact .pure _

theorem Stands.alike (h : Stands answers nameOf s balancer)
    (hsame : remembered? s' balancer = remembered? s balancer) :
    Stands answers nameOf s' balancer := by
  obtain ⟨live, hsteady, hlive⟩ := h
  exact ⟨live, ((find_sees balancer).steady hsame hsteady).2, hlive⟩

theorem Stands.frame (h : Stands answers nameOf s balancer)
    (hsame : Status.Same .balancers s s') : Stands answers nameOf s' balancer := by
  refine h.alike ?_
  unfold remembered?
  split
  · exact hsame.balancer? _
  · rw [hsame.balancers]

/-- What is put into the status on the way does not come between. -/
theorem Stands.putBalancer (h : Stands answers nameOf s balancer) (hkeyed : s.Keyed nameOf)
    (hactive : entry.state = .active) (hname : entry.name = nameOf entry.id) :
    Stands answers nameOf (s.putBalancer entry) balancer := by
  rcases remembered?_putBalancer hkeyed hname with hnew | hsame
  · exact stands_of_remembered hnew hactive hname
  · exact h.alike hsame

theorem settleAll_stands {balancers : List Desired.LoadBalancer} {created : Bool}
    (h : (settleAll plan balancers created).Runs s t (.ok .ready) s')
    (hanswered : t.AnsweredBy answers) (hnames : t.Names nameOf) (hkeyed : s.Keyed nameOf) :
    (∀ balancer, Stands answers nameOf s balancer → Stands answers nameOf s' balancer) ∧
      ∀ balancer ∈ balancers, Stands answers nameOf s' balancer := by
  induction balancers generalizing s t with
  | nil =>
    obtain ⟨rfl, -, rfl⟩ := runs_pure_ok.1 h
    exact ⟨fun balancer hstands => hstands, by simp⟩
  | cons balancer rest ih =>
    obtain ⟨found, mid, t₁, t₂, rfl, hfind, hrest⟩ := runs_bind_ok.1 h
    split at hrest
    · rename_i live
      obtain ⟨first, s₁, t₂, t₃, rfl, hfirst, hrest⟩ := runs_bind_ok.1 hrest
      obtain ⟨others, s₂, t₃, t₄, rfl, hothers, hend⟩ := runs_bind_ok.1 hrest
      obtain ⟨rfl, hboth, rfl⟩ := runs_pure_ok.1 hend
      obtain ⟨rfl, rfl⟩ := Outcome.both_eq_ready_iff.1 hboth.symm
      simp only [Trace.answeredBy_append, Trace.names_append] at hanswered hnames
      obtain ⟨rfl, -⟩ := find_sees balancer rfl hfind
      have hlive := find_named hkeyed hnames.1 hfind
      obtain ⟨rfl, hstate, entry, hid, hname, hactive, rfl⟩ := settleFound_ready hfirst
      have hentry : entry.name = nameOf entry.id := by rw [hname, hid, hlive]
      have hput : ∀ other, Stands answers nameOf mid other →
          Stands answers nameOf (mid.putBalancer entry) other :=
        fun other hstands => hstands.putBalancer hkeyed hactive hentry
      obtain ⟨hkeeps, hothers⟩ :=
        ih hothers hanswered.2.2.1 hnames.2.2.1 (hkeyed.putBalancer hentry)
      refine ⟨fun other hstands => hkeeps other (hput other hstands), fun other hmem => ?_⟩
      rcases List.mem_cons.1 hmem with rfl | hmem
      · have hnothing := (find_does other hfind).changes_nothing
        exact hkeeps other (hput other ⟨live, ⟨t₁, hfind, hanswered.1, hnothing⟩, hstate, hlive⟩)
      · exact hothers other hmem
    · split at hrest
      · obtain ⟨_, _, _, _, -, -, hend⟩ := runs_bind_ok.1 hrest
        simp at hend
      · obtain ⟨_, _, _, _, -, -, hrest⟩ := runs_bind_ok.1 hrest
        obtain ⟨_, _, _, _, -, -, hend⟩ := runs_bind_ok.1 hrest
        simp at hend

theorem settleAll_steady {balancers : List Desired.LoadBalancer} (hkeyed : s.Keyed nameOf)
    (h : ∀ balancer ∈ balancers, Stands answers nameOf s balancer) :
    ∃ s', Steady answers (settleAll plan balancers false) s .ready s' := by
  induction balancers generalizing s with
  | nil => exact ⟨s, .pure _⟩
  | cons balancer rest ih =>
    obtain ⟨live, hfind, hactive, hname⟩ := h balancer (by simp)
    have hfound : ∃ entry, entry.state = .active ∧ entry.name = nameOf entry.id ∧
        Steady answers (settleFound live) s .ready (s.putBalancer entry) := by
      refine ⟨{ id := live.id, name := live.name, state := live.state, hostname := live.hostname
                created := false || (s.balancer? live.id).any (·.created) },
        hactive, hname, .update_bind ?_⟩
      rw [hactive]
      exact .pure _
    obtain ⟨entry, hstate, hentry, hfirst⟩ := hfound
    obtain ⟨s', hrest⟩ := ih (hkeyed.putBalancer hentry) fun other hmem =>
      (h other (by simp [hmem])).putBalancer hkeyed hstate hentry
    exact ⟨s', hfind.bind (hfirst.bind (hrest.bind (.pure _)))⟩

end Pass.LoadBalancers

end VpcOperator
