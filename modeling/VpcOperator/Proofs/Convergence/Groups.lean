import VpcOperator.Proofs.Convergence.Rules
import VpcOperator.Proofs.Steady.Firewall

/-! # Security groups come about

First there is an entry for every declared group, then the rules of all groups
come into force. By then everything that rules refer to can be looked up.
-/

namespace VpcOperator.Pass.Groups

open Cloud (Inventory Site)
open Observed (Entry Status)
open Rules (Identified)

variable {plan : Plan} {site : Site} {s s' mid : Status} {held left between : Inventory}
  {group : Desired.SecurityGroup} {groups rest : List Desired.SecurityGroup}

/-! ## Groups are identified -/

/-- There is an entry under the name of each of these groups. -/
def Remembered (s : Status) (groups : List Desired.SecurityGroup) : Prop :=
  ∀ group ∈ groups, ∀ name, given? group.name = some name → (s.find? .securityGroups name).isSome

theorem remembered_cons :
    Remembered s (group :: rest) ↔ Remembered s [group] ∧ Remembered s rest := by
  simp [Remembered]

theorem Remembered.frame (h : Remembered s groups)
    (hsame : Status.Same (.shelf .securityGroups) s s') : Remembered s' groups := by
  intro group hmem name hname
  rw [hsame.find? name]
  exact h group hmem name hname

/-- What becomes of these groups in a part of the step. -/
structure Advances (groups : List Desired.SecurityGroup) (s : Status) (created : Bool) (s' : Status)
    (left : Inventory) : Prop where
  grounded : s'.Grounded left
  keeps : ∀ name, (s.find? .securityGroups name).isSome → (s'.find? .securityGroups name).isSome
  remembered : Remembered s' groups
  same : Remembered s groups → s' = s ∧ created = false

theorem advances_put {name : String} {entry : Entry} {created : Bool}
    (hname : given? group.name = some name) (hnone : s.find? .securityGroups name = none)
    (hgrounded : (s.put .securityGroups name entry).Grounded left) :
    Advances [group] s created (s.put .securityGroups name entry) left := by
  refine ⟨hgrounded, fun _ => Status.isSome_find?_put, fun other hmem key hkey => ?_, fun h => ?_⟩
  · obtain rfl := List.mem_singleton.1 hmem
    obtain rfl := Option.some.inj (hname.symm.trans hkey)
    rw [Status.find?_put_self]
    rfl
  · have hsome := h group (List.mem_singleton_self group) name hname
    simp [hnone] at hsome

theorem observe_meets {live : Cloud.SecurityGroup} {name : String}
    (hname : given? group.name = some name) (hgrounded : s.Grounded held)
    (hmem : live ∈ held.securityGroups) (hnone : s.find? .securityGroups name = none) :
    Meets site (observe group live) s held fun _ s' left => Advances [group] s false s' left := by
  refine .update_bind (.pure ?_)
  rw [hname]
  exact advances_put hname hnone (hgrounded.put name ⟨live, hmem, rfl⟩)

theorem create_meets {name : String} {rules : List Desired.Rule}
    (hname : given? group.name = some name) (hgrounded : s.Grounded held) (hrooted : plan.Rooted s)
    (hnone : s.find? .securityGroups name = none) :
    Meets site (create plan name rules) s held fun _ s' left =>
      Advances [group] s true s' left := by
  obtain ⟨⟨vpcId, hvpc⟩, groupId, hgroup⟩ := hrooted
  refine .status_bind (.ofExcept_bind hvpc (.status_bind (.ofExcept_bind hgroup ?_)))
  refine .bind (.call fun live _ _ => .update_bind (.bind (Ownership.mark_meets (.pure ?_))))
  have hgrown := hgrounded.grows (Inventory.grows_after held ⟨.createSecurityGroup _, .answer live⟩)
  exact advances_put hname hnone (hgrown.put name ⟨live, List.mem_cons_self, rfl⟩)

theorem resolve_meets {name : String} (hname : given? group.name = some name)
    (hcomplete : plan.CompleteGroup site held group) (hgrounded : s.Grounded held)
    (hrooted : plan.Rooted s) (hnone : s.find? .securityGroups name = none) :
    Meets site (resolve plan group) s held fun found s' left =>
      Advances [group] s found.2 s' left := by
  unfold resolve
  split
  · rename_i id hid
    refine .look_bind rfl fun found _ hgrants => ?_
    obtain ⟨declared, hmem, hsame⟩ := hcomplete.id id hid
    cases found with
    | none => exact absurd hsame (hgrants declared hmem)
    | some live =>
      exact .bind ((observe_meets hname hgrounded hgrants.1 hnone).mono fun h => .pure h)
  · rw [hname]
    refine .look_bind rfl fun found hadmits _ => ?_
    cases found with
    | some live =>
      exact .bind ((observe_meets hname hgrounded hadmits.1 hnone).mono fun h => .pure h)
    | none => exact .bind ((create_meets hname hgrounded hrooted hnone).mono fun h => .pure h)

theorem identify_meets (hcomplete : plan.CompleteGroup site held group) (hsound : held.Sound)
    (hgrounded : s.Grounded held) (hrooted : plan.Rooted s) :
    Meets site (identify plan group) s held fun found s' left =>
      Advances [group] s found.2 s' left := by
  obtain ⟨name, hname⟩ := Option.isSome_iff_exists.1 hcomplete.name
  have hremembered : remembered? s group = s.find? .securityGroups name := by
    rw [remembered?, hname]
  refine .status_bind ?_
  rw [hremembered]
  cases hentry : s.find? .securityGroups name with
  | none => exact resolve_meets hname hcomplete hgrounded hrooted hentry
  | some entry =>
    have hid := hsound.id_ne (hgrounded.entries .securityGroups name entry hentry)
    rw [Option.filter_some, if_pos (by simpa using hid)]
    refine .pure ⟨hgrounded, fun _ h => h, fun other hmem key hkey => ?_, fun _ => ⟨rfl, rfl⟩⟩
    obtain rfl := List.mem_singleton.1 hmem
    obtain rfl := Option.some.inj (hname.symm.trans hkey)
    rw [hentry]
    rfl

theorem Advances.cons {created anyCreated : Bool} (h₁ : Advances [group] s created mid between)
    (h₂ : Advances rest mid anyCreated s' left) :
    Advances (group :: rest) s (created || anyCreated) s' left := by
  have hkept : ∀ {groups}, Remembered mid groups → Remembered s' groups :=
    fun h other hmem name hname => h₂.keeps name (h other hmem name hname)
  refine ⟨h₂.grounded, fun name hname => h₂.keeps name (h₁.keeps name hname),
    remembered_cons.2 ⟨hkept h₁.remembered, h₂.remembered⟩, fun h => ?_⟩
  obtain ⟨hone, hrest⟩ := remembered_cons.1 h
  obtain ⟨rfl, rfl⟩ := h₁.same hone
  obtain ⟨hsame, rfl⟩ := h₂.same hrest
  exact ⟨hsame, rfl⟩

theorem identifyAll_meets (hcomplete : ∀ group ∈ groups, plan.CompleteGroup site held group)
    (hsound : held.Sound) (hgrounded : s.Grounded held) (hrooted : plan.Rooted s) :
    Meets site (identifyAll plan groups) s held fun found s' left =>
      Advances groups s found.2 s' left := by
  induction groups generalizing s held with
  | nil => exact .pure ⟨hgrounded, fun _ h => h, by simp [Remembered], fun _ => ⟨rfl, rfl⟩⟩
  | cons group rest ih =>
    obtain ⟨hone, hothers⟩ := List.forall_mem_cons.1 hcomplete
    refine .bind ((identify_meets hone hsound hgrounded hrooted).runs.mono ?_)
    rintro ⟨first, created⟩ mid between ⟨hfirst, t, hrun, hworks⟩
    have hwrites := (identify_does plan group hrun).writes
    have hrooted' := hrooted.frame (hwrites _ (by simp)) (hwrites _ (by simp))
    have hothers' : ∀ other ∈ rest, plan.CompleteGroup site between other :=
      fun other hmem => (hothers other hmem).grows hworks.grows
    refine .bind ((ih hothers' (hworks.sound hsound) hfirst.grounded hrooted').mono ?_)
    rintro ⟨others, anyCreated⟩ s' left hrest
    exact .pure (hfirst.cons hrest)

/-! ## What rules refer to -/

theorem subnet_of_subnetId? {name id : String} (hgrounded : s.Grounded held)
    (hid : s.subnetId? name = some id) : ∃ subnet ∈ held.subnets, subnet.id = id := by
  have hlive : ∀ role, given? ((s.find? (.subnets role) name).map (·.id)) = some id →
      ∃ subnet ∈ held.subnets, subnet.id = id := by
    intro role hgiven
    obtain ⟨entry, hentry, rfl⟩ := Option.map_eq_some_iff.1 (given?_eq_some.1 hgiven).1
    exact hgrounded.entries (.subnets role) name entry hentry
  rcases Option.or_eq_some_iff.1 hid with hid | ⟨-, hid⟩
  · exact hlive .controlPlane hid
  · exact hlive .worker hid

theorem group_of_securityGroupId? {name id : String} (hgrounded : s.Grounded held)
    (hid : s.securityGroupId? name = some id) : ∃ group ∈ held.securityGroups, group.id = id := by
  obtain ⟨entry, hentry, rfl⟩ := Option.map_eq_some_iff.1 (given?_eq_some.1 hid).1
  exact hgrounded.entries .securityGroups name entry hentry

/-- The ID of what an entry leads to is not blank. -/
theorem given?_of_entry {shelf : Observed.Shelf} {name : String} (hsound : held.Sound)
    (hgrounded : s.Grounded held) (hentry : (s.find? shelf name).isSome) :
    (given? ((s.find? shelf name).map (·.id))).isSome := by
  obtain ⟨entry, hentry⟩ := Option.isSome_iff_exists.1 hentry
  have hid := hsound.id_ne (hgrounded.entries shelf name entry hentry)
  rw [hentry, Option.map_some, given?_eq_some.2 ⟨rfl, hid⟩]
  rfl

theorem subnet?_of_names {name : String} (hsound : held.Sound) (hgrounded : s.Grounded held)
    (hsubnets : Subnets.AllRemembered plan site s) (hnames : plan.NamesSubnet site held name) :
    (Lookups.subnet? s held name).isSome := by
  unfold Lookups.subnet?
  cases hid : s.subnetId? name with
  | some id =>
    obtain ⟨subnet, hmem, hsame⟩ := subnet_of_subnetId? hgrounded hid
    exact List.find?_isSome.2 ⟨subnet, hmem, decide_eq_true hsame⟩
  | none =>
    rcases hnames with ⟨role, subnet, hmem, hname⟩ | ⟨subnet, hmem, hsame⟩
    · have hgiven := given?_of_entry hsound hgrounded (hsubnets role subnet hmem name hname)
      rw [Status.subnetId?, Option.or_eq_none_iff] at hid
      cases role
      · simp [hid.1] at hgiven
      · simp [hid.2] at hgiven
    · exact List.find?_isSome.2 ⟨subnet, hmem, decide_eq_true hsame⟩

theorem group?_of_names {name : String} (hsound : held.Sound) (hgrounded : s.Grounded held)
    (hgroups : Remembered s plan.spec.network.securityGroups)
    (hnames : plan.NamesGroup held name) : (Lookups.group? s held name).isSome := by
  unfold Lookups.group?
  cases hid : s.securityGroupId? name with
  | some id =>
    obtain ⟨group, hmem, hsame⟩ := group_of_securityGroupId? hgrounded hid
    exact List.find?_isSome.2 ⟨group, hmem, decide_eq_true hsame⟩
  | none =>
    rcases hnames with ⟨group, hmem, hname⟩ | ⟨group, hmem, hsame⟩
    · have hgiven := given?_of_entry hsound hgrounded (hgroups group hmem name hname)
      rw [Status.securityGroupId?] at hid
      simp [hid] at hgiven
    · exact List.find?_isSome.2 ⟨group, hmem, decide_eq_true hsame⟩

/-- Whatever has a name in a complete plan can be looked up by now. -/
theorem leads_of_names {remote : Desired.Remote} (hsound : held.Sound) (hgrounded : s.Grounded held)
    (hsubnets : Subnets.AllRemembered plan site s)
    (hgroups : Remembered s plan.spec.network.securityGroups)
    (hnames : plan.Names site held remote) : Lookups.Leads s held remote := by
  cases remote with
  | any => trivial
  | address ip => trivial
  | group name => exact group?_of_names hsound hgrounded hgroups hnames
  | subnet name =>
    obtain ⟨subnet, hsubnet⟩ :=
      Option.isSome_iff_exists.1 (subnet?_of_names hsound hgrounded hsubnets hnames)
    have hmem : subnet ∈ held.subnets := by
      unfold Lookups.subnet? at hsubnet
      split at hsubnet <;> exact List.mem_of_find?_eq_some hsubnet
    have hcidr := (hsound.subnets subnet hmem).2
    show ((Lookups.subnet? s held name).bind (·.cidr)).isSome
    rwa [hsubnet]

/-! ## The step -/

/-- The rules of these groups are in force wherever there is an entry for a group. -/
def InForce (s : Status) (held : Inventory) (groups : List Desired.SecurityGroup) : Prop :=
  ∀ group ∈ groups, ∀ name entry, given? group.name = some name →
    s.find? .securityGroups name = some entry → Rules.AllInForce s held entry.id group.rules

theorem InForce.grows (h : InForce s held groups) (hgrows : held.Grows left)
    (hleft : left.Unambiguous) : InForce s left groups := by
  intro group hmem name entry hname hentry rule hrule remote hremote
  obtain ⟨one, hone, hfits⟩ := h group hmem name entry hname hentry rule hrule remote hremote
  exact ⟨one, hgrows.rules entry.id hone, Lookups.fits_grows hgrows hleft hfits⟩

theorem InForce.frame (h : InForce s held groups)
    (hsubnets : ∀ role, Status.Same (.shelf (.subnets role)) s s')
    (hgroups : Status.Same (.shelf .securityGroups) s s') : InForce s' held groups := by
  intro group hmem name entry hname hentry rule hrule remote hremote
  rw [hgroups.find? name] at hentry
  obtain ⟨one, hone, hfits⟩ := h group hmem name entry hname hentry rule hrule remote hremote
  refine ⟨one, hone, ?_⟩
  unfold Lookups.fits Lookups.serves Lookups.block? Lookups.subnet? Lookups.group? at *
  simpa only [Status.Same.subnetId? hsubnets, hgroups.securityGroupId?] using hfits

theorem inForce_iff {all : List Identified} (h : List.Forall₂ (Remembers s) groups all) :
    InForce s held groups ↔ ∀ found ∈ all, Rules.AllInForce s held found.id found.rules := by
  induction h with
  | nil => simp [InForce]
  | @cons group found rest others hone _ ih =>
    obtain ⟨name, entry, hname, hentry, -, rfl⟩ := hone
    rw [List.forall_mem_cons, ← ih]
    unfold InForce
    rw [List.forall_mem_cons]
    refine and_congr_left fun _ => ⟨fun h => h name entry hname hentry, ?_⟩
    intro h key found hkey hfound
    obtain rfl := Option.some.inj (hname.symm.trans hkey)
    obtain rfl := Option.some.inj (hentry.symm.trans hfound)
    exact h

theorem rules_of_remembers {all : List Identified} (h : List.Forall₂ (Remembers s) groups all) :
    ∀ found ∈ all, ∃ group ∈ groups, found.rules = group.rules := by
  induction h with
  | nil => simp
  | @cons group found rest others hone _ ih =>
    obtain ⟨name, entry, -, -, -, rfl⟩ := hone
    refine List.forall_mem_cons.2 ⟨⟨group, List.mem_cons_self, rfl⟩, fun other hother => ?_⟩
    obtain ⟨declared, hmem, hsame⟩ := ih other hother
    exact ⟨declared, List.mem_cons_of_mem _ hmem, hsame⟩

/-- The rules of groups that are all remembered come into force. -/
theorem enforceAll_meets {all : List Identified} (hcomplete : plan.Complete site held)
    (hsound : held.Sound) (hdistinct : held.Distinct) (hgrounded : s.Grounded held)
    (hsubnets : Subnets.AllRemembered plan site s)
    (hgroups : Remembered s plan.spec.network.securityGroups)
    (hall : List.Forall₂ (Remembers s) plan.spec.network.securityGroups all) :
    Meets site (Rules.enforceAll all .none) s held fun found s' left => s' = s ∧ held.Grows left ∧
      InForce s left plan.spec.network.securityGroups ∧
      (InForce s held plan.spec.network.securityGroups → found.1 = true) := by
  have hleads : ∀ found ∈ all, ∀ rule ∈ found.rules, ∀ remote ∈ rule.body.remotes,
      Lookups.Leads s held remote := by
    intro found hmem rule hrule remote hremote
    obtain ⟨group, hmem, hsame⟩ := rules_of_remembers hall found hmem
    rw [hsame] at hrule
    have hnames := (hcomplete.securityGroups group hmem).remotes rule hrule remote hremote
    exact leads_of_names hsound hgrounded hsubnets hgroups hnames
  refine (Rules.enforceAll_meets (hsound.unambiguous hdistinct) Lookups.current_none
    hleads).runs.mono ?_
  rintro found s' left ⟨henforces, t, -, hworks⟩
  refine ⟨henforces.same, hworks.grows, (inForce_iff hall).2 henforces.done, fun hbefore => ?_⟩
  exact henforces.kept ((inForce_iff hall).1 hbefore)

theorem step_meets (hcomplete : plan.Complete site held) (hsound : held.Sound)
    (hdistinct : held.Distinct) (hgrounded : s.Grounded held) (hrooted : plan.Rooted s)
    (hsubnets : Subnets.AllRemembered plan site s) :
    let groups := plan.spec.network.securityGroups
    Meets site (step plan) s held fun outcome s' left => s'.Grounded left ∧ Remembered s' groups ∧
      (outcome = .ready ∨ Remembered s groups → InForce s' left groups) ∧
      (Remembered s groups → s' = s ∧ (InForce s held groups → outcome = .ready)) := by
  intro groups
  refine .bind ((identifyAll_meets hcomplete.securityGroups hsound hgrounded hrooted).runs.mono ?_)
  rintro ⟨all, created⟩ mid between ⟨hall, t, hrun, hworks⟩
  dsimp only
  split
  · rename_i hcreated
    obtain rfl : created = true := hcreated
    have hnew : ¬ Remembered s groups := fun h => Bool.noConfusion (hall.same h).2
    refine .pure ⟨hall.grounded, hall.remembered, ?_, fun h => absurd h hnew⟩
    rintro (h | h)
    · cases h
    · exact absurd h hnew
  · rename_i hcreated
    obtain rfl : created = false := eq_false_of_ne_true hcreated
    have hsound' := hworks.sound hsound
    have hdistinct' := hworks.distinct hdistinct (identifyAll_guarded plan _ hrun)
    have hwrites := (identifyAll_does plan _ hrun).writes
    have hsubnets' : Subnets.AllRemembered plan site mid := fun role =>
      (hsubnets role).frame (hwrites _ (by simp))
    have hfound := (identifyAll_remembers hrun (hworks.truthful hsound)
      fun group hmem => (hcomplete.securityGroups group hmem).name).2
    refine .bind ((enforceAll_meets (hcomplete.grows hworks.grows) hsound' hdistinct' hall.grounded
      hsubnets' hall.remembered hfound).mono ?_)
    rintro ⟨kept, known⟩ s' left ⟨rfl, hgrows, hforce, hkept⟩
    refine .pure ⟨hall.grounded.grows hgrows, hall.remembered, fun _ => hforce, fun h => ?_⟩
    obtain ⟨rfl, -⟩ := hall.same h
    refine ⟨rfl, fun hbefore => ?_⟩
    rw [hkept (hbefore.grows hworks.grows (hsound'.unambiguous hdistinct'))]
    rfl

end VpcOperator.Pass.Groups
