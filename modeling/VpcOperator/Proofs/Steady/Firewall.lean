import Mathlib.Data.List.Forall2
import VpcOperator.Proofs.Ready.Firewall
import VpcOperator.Proofs.Steady.Basic

/-! # Security groups again

Rules are matched by live rules and by the remembered IDs of subnets and groups,
so they are found in place again wherever these IDs are the same. A group that
has once been identified under its name keeps its ID.
-/

namespace VpcOperator.Pass

open Observed (Status)

variable {plan : Plan} {answers : Cloud.Answers} {s s' : Status} {t : Trace}

/-- The same IDs are remembered for subnets and for groups. -/
def SameIds (s s₂ : Status) : Prop :=
  s₂.subnetId? = s.subnetId? ∧ s₂.securityGroupId? = s.securityGroupId?

theorem sameIds_of_same {s₂ : Status}
    (hsubnets : ∀ role, Status.Same (.shelf (.subnets role)) s s₂)
    (hgroups : Status.Same (.shelf .securityGroups) s s₂) : SameIds s s₂ :=
  ⟨funext (Status.Same.subnetId? hsubnets), funext hgroups.securityGroupId?⟩

/-! ## What rules are matched by -/

theorem Lookups.fetchSubnet_sees (name : String) : Sees SameIds (fetchSubnet name) := by
  refine .status_bind (fun hsame => ?_) fun s => ?_
  · rw [hsame.1]
  · split <;> exact .call _ _

theorem Lookups.fetchGroup_sees (name : String) : Sees SameIds (fetchGroup name) := by
  refine .status_bind (fun hsame => ?_) fun s => ?_
  · rw [hsame.2]
  · split <;> exact .call _ _

theorem Lookups.cidr_sees (name : String) (known : Lookups) : Sees SameIds (cidr name known) := by
  unfold cidr
  split
  · exact .pure _
  · refine .bind (fetchSubnet_sees name) fun found => ?_
    split
    · exact .pure _
    · exact .fail _

theorem Lookups.group_sees (name : String) (known : Lookups) :
    Sees SameIds (group name known) := by
  unfold group
  split
  · exact .pure _
  · refine .bind (fetchGroup_sees name) fun found => ?_
    split
    · exact .pure _
    · exact .fail _

theorem Lookups.matchesRule_sees (direction : Direction) (protocol : Protocol)
    (remote : Desired.Remote) (live : Cloud.Rule) (known : Lookups) :
    Sees SameIds (known.matchesRule direction protocol remote live) := by
  unfold matchesRule
  split
  · unfold matchesRemote
    split
    · exact .pure _
    · exact .pure _
    · exact .pure _
    · exact .bind (cidr_sees _ _) fun _ => .pure _
    · refine .status_bind (fun hsame => ?_) fun s => ?_
      · rw [hsame.2]
      · split
        · exact .pure _
        · split
          · exact .pure _
          · exact .bind (group_sees _ _) fun _ => .pure _
    · exact .pure _
  · exact .pure _

theorem Lookups.prototype_sees (remote : Desired.Remote) (known : Lookups) :
    Sees SameIds (known.prototype remote) := by
  unfold prototype
  split
  · exact .pure _
  · exact .pure _
  · exact .bind (cidr_sees _ _) fun _ => .pure _
  · exact .bind (group_sees _ _) fun _ => .pure _

namespace Rules

theorem isSatisfied_sees (direction : Direction) (protocol : Protocol) (remote : Desired.Remote)
    (live : List Cloud.Rule) (known : Lookups) :
    Sees SameIds (isSatisfied direction protocol remote live known) := by
  induction live generalizing known with
  | nil => exact .pure _
  | cons rule rest ih =>
    refine .bind (Lookups.matchesRule_sees _ _ _ _ _) fun found => ?_
    dsimp only
    split
    · exact .pure _
    · exact ih _

theorem enforceRemotes_sees (group : Identified) (direction : Direction) (protocol : Protocol)
    (live : List Cloud.Rule) (remotes : List Desired.Remote) (known : Lookups) :
    Sees SameIds (enforceRemotes group direction protocol live remotes known) := by
  induction remotes generalizing known with
  | nil => exact .pure _
  | cons remote rest ih =>
    refine .bind (isSatisfied_sees _ _ _ _ _) fun found => ?_
    dsimp only
    split
    · exact ih _
    · refine .bind (.bind (Lookups.prototype_sees _ _) fun _ => ?_) fun known =>
        .bind (ih known) fun _ => .pure _
      exact .bind (.call _ _) fun _ => .pure _

theorem enforceRules_sees (group : Identified) (rules : List Desired.Rule) (known : Lookups) :
    Sees SameIds (enforceRules group rules known) := by
  induction rules generalizing known with
  | nil => exact .pure _
  | cons rule rest ih =>
    refine .bind (.bind (.call _ _) fun live => ?_) fun found => .bind (ih _) fun _ => .pure _
    exact enforceRemotes_sees _ _ _ _ _ _

theorem enforceAll_sees (groups : List Identified) (known : Lookups) :
    Sees SameIds (enforceAll groups known) := by
  induction groups generalizing known with
  | nil => exact .pure _
  | cons group rest ih => exact .bind (enforceRules_sees _ _ _) fun _ => .bind (ih _) fun _ => .pure _

end Rules

/-! ## Groups that keep their IDs -/

namespace Groups

open Rules (Identified)

variable {group : Desired.SecurityGroup} {found : Identified}

/-- The group was identified by the entry under its name. -/
def Remembers (s : Status) (group : Desired.SecurityGroup) (found : Identified) : Prop :=
  ∃ name entry, given? group.name = some name ∧ s.find? .securityGroups name = some entry ∧
    entry.id ≠ "" ∧ found = { id := entry.id, name := entry.name, rules := group.rules }

/-- Entries with an ID are kept as they are. -/
def Keeps (s s' : Status) : Prop :=
  ∀ name entry, s.find? .securityGroups name = some entry → entry.id ≠ "" →
    s'.find? .securityGroups name = some entry

theorem Remembers.keeps (h : Remembers s group found) (hkeeps : Keeps s s') :
    Remembers s' group found := by
  obtain ⟨name, entry, hname, hfind, hid, hfound⟩ := h
  exact ⟨name, entry, hname, hkeeps name entry hfind hid, hid, hfound⟩

theorem observe_remembers {name : String} {live : Cloud.SecurityGroup}
    (h : (observe group live).Runs s t (.ok found) s') (hname : given? group.name = some name)
    (hnew : ∀ entry, s.find? .securityGroups name = some entry → entry.id = "")
    (hid : live.id ≠ "") : Keeps s s' ∧ Remembers s' group found := by
  simp only [observe, hname, Option.getD_some, runs_update_bind, runs_pure_ok] at h
  obtain ⟨rfl, rfl, rfl⟩ := h
  refine ⟨fun other entry hfind hne => ?_, name, _, hname, Status.find?_put_self .., hid, rfl⟩
  rw [Status.find?_put_securityGroups]
  split
  · subst other
    exact absurd (hnew entry hfind) hne
  · exact hfind

theorem resolve_remembers {name : String}
    (h : (resolve plan group).Runs s t (.ok (found, false)) s') (htruthful : t.Truthful)
    (hname : given? group.name = some name)
    (hnew : ∀ entry, s.find? .securityGroups name = some entry → entry.id = "") :
    Keeps s s' ∧ Remembers s' group found := by
  unfold resolve at h
  split at h
  · obtain ⟨answer, rest, rfl, hrest⟩ := runs_call_bind_ok.1 h
    split at hrest
    · obtain ⟨one, mid, first, last, rfl, hobserve, hend⟩ := runs_bind_ok.1 hrest
      obtain ⟨rfl, ⟨⟩, rfl⟩ := runs_pure_ok.1 hend
      exact observe_remembers hobserve hname hnew (htruthful _ List.mem_cons_self).2
    · simp at hrest
  · rw [hname] at h
    dsimp only at h
    obtain ⟨answer, rest, rfl, hrest⟩ := runs_call_bind_ok.1 h
    split at hrest
    · obtain ⟨one, mid, first, last, rfl, hobserve, hend⟩ := runs_bind_ok.1 hrest
      obtain ⟨rfl, ⟨⟩, rfl⟩ := runs_pure_ok.1 hend
      exact observe_remembers hobserve hname hnew (htruthful _ List.mem_cons_self).2
    · obtain ⟨_, _, _, _, -, -, hend⟩ := runs_bind_ok.1 hrest
      simp at hend

theorem identify_remembers (h : (identify plan group).Runs s t (.ok (found, false)) s')
    (htruthful : t.Truthful) (hname : (given? group.name).isSome) :
    Keeps s s' ∧ Remembers s' group found := by
  obtain ⟨name, hname⟩ := Option.isSome_iff_exists.1 hname
  have hremembered : remembered? s group = s.find? .securityGroups name := by
    rw [remembered?, hname]
  rw [identify, runs_status_bind, hremembered] at h
  split at h
  · rename_i entry hentry
    obtain ⟨hfind, hne⟩ := Option.filter_eq_some_iff.1 hentry
    obtain ⟨rfl, ⟨⟩, rfl⟩ := runs_pure_ok.1 h
    exact ⟨fun _ _ hfind _ => hfind, name, entry, hname, hfind, of_decide_eq_true hne, rfl⟩
  · rename_i hnone
    refine resolve_remembers h htruthful hname fun entry hfind => ?_
    simpa using Option.filter_eq_none_iff.1 hnone entry hfind

theorem identifyAll_remembers {groups : List Desired.SecurityGroup} {all : List Identified}
    (h : (identifyAll plan groups).Runs s t (.ok (all, false)) s') (htruthful : t.Truthful)
    (hnamed : ∀ group ∈ groups, (given? group.name).isSome) :
    Keeps s s' ∧ List.Forall₂ (Remembers s') groups all := by
  induction groups generalizing s t all with
  | nil =>
    obtain ⟨rfl, ⟨⟩, rfl⟩ := runs_pure_ok.1 h
    exact ⟨fun _ _ hfind _ => hfind, .nil⟩
  | cons group rest ih =>
    obtain ⟨⟨one, created⟩, mid, t₁, t₂, rfl, hfirst, hrest⟩ := runs_bind_ok.1 h
    obtain ⟨⟨others, anyCreated⟩, mid', t₂, t₃, rfl, hothers, hend⟩ := runs_bind_ok.1 hrest
    obtain ⟨rfl, hall, rfl⟩ := runs_pure_ok.1 hend
    simp only [Prod.mk.injEq, Bool.false_eq, Bool.or_eq_false_iff] at hall
    obtain ⟨rfl, rfl, rfl⟩ := hall
    simp only [Trace.truthful_append] at htruthful
    obtain ⟨hkeeps, hone⟩ := identify_remembers hfirst htruthful.1 (hnamed group (by simp))
    obtain ⟨hkeeps', hothers⟩ :=
      ih hothers htruthful.2.1 fun other hmem => hnamed other (by simp [hmem])
    refine ⟨fun name entry hfind hne => ?_, .cons (hone.keeps hkeeps') hothers⟩
    exact hkeeps' name entry (hkeeps name entry hfind hne) hne

theorem identifyAll_steady {groups : List Desired.SecurityGroup} {all : List Identified}
    (h : List.Forall₂ (Remembers s) groups all) :
    Steady answers (identifyAll plan groups) s (all, false) s := by
  induction h with
  | nil => exact .pure _
  | @cons group found rest others hone _ ih =>
    have hfirst : Steady answers (identify plan group) s (found, false) s := by
      obtain ⟨name, entry, hname, hfind, hid, rfl⟩ := hone
      have hremembered : (remembered? s group).filter (·.id ≠ "") = some entry := by
        rw [remembered?, hname]
        simp [hfind, hid]
      refine .status_bind ?_
      rw [hremembered]
      exact .pure _
    exact hfirst.bind (ih.bind (.pure _))

/-- The declared groups are remembered by their names, and their rules are in place. -/
def Stands (plan : Plan) (answers : Cloud.Answers) (s : Status) : Prop :=
  ∃ all known, List.Forall₂ (Remembers s) plan.spec.network.securityGroups all ∧
    Steady answers (Rules.enforceAll all .none) s (true, known) s

theorem Stands.frame (h : Stands plan answers s)
    (hsubnets : ∀ role, Status.Same (.shelf (.subnets role)) s s')
    (hgroups : Status.Same (.shelf .securityGroups) s s') : Stands plan answers s' := by
  obtain ⟨all, known, hall, hsteady⟩ := h
  refine ⟨all, known, hall.imp fun group found hone => ?_, ?_⟩
  · exact hone.keeps fun name entry hfind _ => (hgroups.find? name).trans hfind
  · exact ((Rules.enforceAll_sees all .none).steady (sameIds_of_same hsubnets hgroups) hsteady).2

theorem step_stands (h : (step plan).Runs s t (.ok .ready) s') (htruthful : t.Truthful)
    (hanswered : t.AnsweredBy answers)
    (hnamed : ∀ group ∈ plan.spec.network.securityGroups, (given? group.name).isSome) :
    Stands plan answers s' := by
  obtain ⟨⟨all, created⟩, mid, t₁, t₂, rfl, hall, hrest⟩ := runs_bind_ok.1 h
  dsimp only at hrest
  split at hrest
  · simp at hrest
  · rename_i hcreated
    obtain rfl := eq_false_of_ne_true hcreated
    obtain ⟨⟨kept, known⟩, mid', t₂, t₃, rfl, hkept, hend⟩ := runs_bind_ok.1 hrest
    obtain ⟨rfl, hready, rfl⟩ := runs_pure_ok.1 hend
    obtain rfl := Outcome.ofReady_eq_ready_iff.1 hready.symm
    simp only [Trace.truthful_append, Trace.answeredBy_append] at htruthful hanswered
    have hpasses :=
      (Rules.enforceAll_kept hkept (List.Subset.refl _) Lookups.backed_none).1
    obtain rfl := hpasses.same
    exact ⟨all, known, (identifyAll_remembers hall htruthful.1 hnamed).2, t₂, hkept,
      hanswered.2.1, hpasses.changes_nothing⟩

theorem step_steady (h : Stands plan answers s) : Steady answers (step plan) s .ready s := by
  obtain ⟨all, known, hall, hsteady⟩ := h
  exact (identifyAll_steady hall).bind (hsteady.bind (.pure _))

end Groups

end VpcOperator.Pass
