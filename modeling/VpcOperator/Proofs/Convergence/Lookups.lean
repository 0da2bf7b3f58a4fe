import Mathlib.Data.List.Nodup
import VpcOperator.Proofs.Convergence.Subnets

/-! # What remotes stand for

What a remote of a rule refers to is computed from the status and from what the
account holds, and so is whether a live rule fits it. The look-ups of a pass
give just that, and a rule that is created fits what it was created for.
-/

namespace VpcOperator

open Cloud (Inventory Site)
open Observed (Status)

variable {plan : Plan} {site : Site} {s s' : Status} {held left mid : Inventory}

/-! ## Look-ups with one answer -/

namespace Cloud

theorem Finds.eq_find? {α : Type} {items : List α} {key : α → String} {text : String}
    {found : Option α} (h : Finds items (key · = text) found) (hnodup : (items.map key).Nodup) :
    found = items.find? (key · = text) := by
  cases found with
  | none => exact (List.find?_eq_none.2 fun item hmem => by simpa using h item hmem).symm
  | some item =>
    obtain ⟨hmem, hkey⟩ := h
    have hsome : (items.find? (key · = text)).isSome :=
      List.find?_isSome.2 ⟨item, hmem, decide_eq_true hkey⟩
    obtain ⟨other, hother⟩ := Option.isSome_iff_exists.1 hsome
    have htext : key other = text := by simpa using List.find?_some hother
    have hsame : key other = key item := htext.trans hkey.symm
    rw [hother, List.inj_on_of_nodup_map hnodup (List.mem_of_find?_eq_some hother) hmem hsame]

/-- Subnets and security groups can be told apart by ID and by name. -/
structure Inventory.Unambiguous (held : Inventory) : Prop where
  subnetIds : (held.subnets.map (·.id)).Nodup
  subnetNames : (held.subnets.map (·.name)).Nodup
  groupIds : (held.securityGroups.map (·.id)).Nodup
  groupNames : (held.securityGroups.map (·.name)).Nodup

theorem Inventory.Sound.unambiguous (h : held.Sound) (hdistinct : held.Distinct) :
    held.Unambiguous :=
  ⟨h.subnetIds, hdistinct.subnets, h.groupIds, hdistinct.securityGroups⟩

/-- Only rules have been added. -/
structure Inventory.AddsRules (held left : Inventory) : Prop where
  subnets : left.subnets = held.subnets
  securityGroups : left.securityGroups = held.securityGroups
  rules : ∀ groupId, held.rules groupId ⊆ left.rules groupId

theorem Inventory.AddsRules.refl (held : Inventory) : AddsRules held held :=
  ⟨rfl, rfl, fun _ => List.Subset.refl _⟩

theorem Inventory.AddsRules.trans (h₁ : AddsRules held mid) (h₂ : AddsRules mid left) :
    AddsRules held left :=
  ⟨h₂.subnets.trans h₁.subnets, h₂.securityGroups.trans h₁.securityGroups,
    fun groupId _ hmem => h₂.rules groupId (h₁.rules groupId hmem)⟩

theorem Inventory.Unambiguous.adds (h : held.Unambiguous) (hadds : held.AddsRules left) :
    left.Unambiguous := by
  obtain ⟨hsubnets, hgroups, -⟩ := hadds
  exact ⟨hsubnets ▸ h.subnetIds, hsubnets ▸ h.subnetNames, hgroups ▸ h.groupIds,
    hgroups ▸ h.groupNames⟩

end Cloud

namespace Pass

/-! ## What remotes stand for -/

namespace Lookups

def subnet? (s : Status) (held : Inventory) (name : String) : Option Cloud.Subnet :=
  match s.subnetId? name with
  | some id => held.subnets.find? (·.id = id)
  | .none => held.subnets.find? (·.name = name)

/-- The addresses of the subnet that goes by this name. -/
def block? (s : Status) (held : Inventory) (name : String) : Option String :=
  (subnet? s held name).bind (·.cidr)

def group? (s : Status) (held : Inventory) (name : String) : Option Cloud.SecurityGroup :=
  match s.securityGroupId? name with
  | some id => held.securityGroups.find? (·.id = id)
  | .none => held.securityGroups.find? (·.name = name)

/-- The live remote is the wanted one. -/
def serves (s : Status) (held : Inventory) (wanted : Desired.Remote) (live : Cloud.Remote) : Bool :=
  match wanted, live with
  | .any, .cidr block | .any, .ip block => block = anyBlock
  | .address ip, .ip liveIp => ip = liveIp
  | .subnet name, .cidr block => block? s held name = some block
  | .group name, .group liveId liveName liveCrn =>
    (liveName = some name || (liveId.isSome && liveId = s.securityGroupId? name)) ||
      (liveCrn.isSome && liveCrn = (group? s held name).map (·.crn))
  | _, _ => false

/-- The live rule does what a declared rule asks for with this remote. -/
def fits (s : Status) (held : Inventory) (direction : Direction) (protocol : Protocol)
    (remote : Desired.Remote) (live : Cloud.Rule) : Bool :=
  (live.direction = direction && protocol.isCarriedBy live.traffic) &&
    serves s held remote live.remote

/-- What the remote refers to can be looked up. -/
def Leads (s : Status) (held : Inventory) : Desired.Remote → Prop
  | .any | .address _ => True
  | .subnet name => (block? s held name).isSome
  | .group name => (group? s held name).isSome

/-- What is known in a pass is what would be looked up now. -/
structure Current (s : Status) (held : Inventory) (known : Lookups) : Prop where
  cidrs : ∀ name block, known.cidrs.find? name = some block → block? s held name = some block
  groups : ∀ name group, known.groups.find? name = some group → group? s held name = some group

theorem current_none : Current s held none :=
  ⟨by simp [none], by simp [none]⟩

/-! ### Nothing of it depends on rules -/

theorem subnet?_of_adds (h : held.AddsRules left) (name : String) :
    subnet? s left name = subnet? s held name := by
  rw [subnet?, subnet?, h.subnets]

theorem group?_of_adds (h : held.AddsRules left) (name : String) :
    group? s left name = group? s held name := by
  rw [group?, group?, h.securityGroups]

theorem fits_of_adds (h : held.AddsRules left) :
    fits s left = fits s held := by
  funext direction protocol remote live
  unfold fits serves block?
  simp only [subnet?_of_adds h, group?_of_adds h]

theorem Leads.adds {remote : Desired.Remote} (h : Leads s held remote)
    (hadds : held.AddsRules left) : Leads s left remote := by
  unfold Leads block? at *
  simpa only [subnet?_of_adds hadds, group?_of_adds hadds] using h

theorem Current.adds {known : Lookups} (h : known.Current s held) (hadds : held.AddsRules left) :
    known.Current s left := by
  refine ⟨fun name block hfind => ?_, fun name group hfind => ?_⟩
  · rw [block?, subnet?_of_adds hadds]
    exact h.cidrs name block hfind
  · rw [group?_of_adds hadds]
    exact h.groups name group hfind

/-! ### What remotes stand for stays while more is held -/

theorem block?_grows {name block : String} (hgrows : held.Grows left) (hleft : left.Unambiguous)
    (h : block? s held name = some block) : block? s left name = some block := by
  obtain ⟨subnet, hsubnet, hcidr⟩ := Option.bind_eq_some_iff.1 h
  unfold block? subnet? at *
  cases hid : s.subnetId? name with
  | some id =>
    rw [hid] at hsubnet
    obtain ⟨other, hother, hsame, -, hblock⟩ :=
      hgrows.subnets subnet (List.mem_of_find?_eq_some hsubnet)
    have hid : subnet.id = id := by simpa using List.find?_some hsubnet
    have hfinds : Cloud.Finds left.subnets (·.id = id) (some other) := ⟨hother, hsame.trans hid⟩
    simp [← hfinds.eq_find? hleft.subnetIds, hblock, hcidr]
  | none =>
    rw [hid] at hsubnet
    obtain ⟨other, hother, -, hsame, hblock⟩ :=
      hgrows.subnets subnet (List.mem_of_find?_eq_some hsubnet)
    have hname : subnet.name = name := by simpa using List.find?_some hsubnet
    have hfinds : Cloud.Finds left.subnets (·.name = name) (some other) :=
      ⟨hother, hsame.trans hname⟩
    simp [← hfinds.eq_find? hleft.subnetNames, hblock, hcidr]

theorem group?_grows {name : String} {group : Cloud.SecurityGroup} (hgrows : held.Grows left)
    (hleft : left.Unambiguous) (h : group? s held name = some group) :
    group? s left name = some group := by
  unfold group? at *
  cases hid : s.securityGroupId? name with
  | some id =>
    rw [hid] at h
    have hid : group.id = id := by simpa using List.find?_some h
    have hfinds : Cloud.Finds left.securityGroups (·.id = id) (some group) :=
      ⟨hgrows.securityGroups (List.mem_of_find?_eq_some h), hid⟩
    exact (hfinds.eq_find? hleft.groupIds).symm
  | none =>
    rw [hid] at h
    have hname : group.name = name := by simpa using List.find?_some h
    have hfinds : Cloud.Finds left.securityGroups (·.name = name) (some group) :=
      ⟨hgrows.securityGroups (List.mem_of_find?_eq_some h), hname⟩
    exact (hfinds.eq_find? hleft.groupNames).symm

theorem fits_grows {direction : Direction} {protocol : Protocol} {remote : Desired.Remote}
    {live : Cloud.Rule} (hgrows : held.Grows left) (hleft : left.Unambiguous)
    (h : fits s held direction protocol remote live = true) :
    fits s left direction protocol remote live = true := by
  obtain ⟨htraffic, hserves⟩ := Bool.and_eq_true_iff.1 h
  refine Bool.and_eq_true_iff.2 ⟨htraffic, ?_⟩
  unfold serves at *
  split at hserves
  · exact hserves
  · exact hserves
  · exact hserves
  · exact decide_eq_true (block?_grows hgrows hleft (of_decide_eq_true hserves))
  · rcases Bool.or_eq_true_iff.1 hserves with hknown | hcrn
    · exact Bool.or_eq_true_iff.2 (.inl hknown)
    · obtain ⟨hsome, hcrn⟩ := Bool.and_eq_true_iff.1 hcrn
      refine Bool.or_eq_true_iff.2 (.inr (Bool.and_eq_true_iff.2 ⟨hsome, ?_⟩))
      have hcrn := of_decide_eq_true hcrn
      rw [hcrn, Option.isSome_map] at hsome
      obtain ⟨group, hgroup⟩ := Option.isSome_iff_exists.1 hsome
      rw [hgroup] at hcrn
      rw [group?_grows hgrows hleft hgroup]
      exact decide_eq_true hcrn
  · cases hserves

variable {known : Lookups} {name : String} {wanted : Desired.Remote}

theorem fetchSubnet_meets (h : held.Unambiguous) :
    Meets site (fetchSubnet name) s held fun found s' left =>
      s' = s ∧ left = held ∧ found = subnet? s held name := by
  refine .status_bind ?_
  unfold subnet?
  cases s.subnetId? name with
  | some id => exact .call fun found _ hgrants => ⟨rfl, rfl, hgrants.eq_find? h.subnetIds⟩
  | none => exact .call fun found hadmits _ => ⟨rfl, rfl, hadmits.eq_find? h.subnetNames⟩

theorem fetchGroup_meets (h : held.Unambiguous) :
    Meets site (fetchGroup name) s held fun found s' left =>
      s' = s ∧ left = held ∧ found = group? s held name := by
  refine .status_bind ?_
  unfold group?
  cases s.securityGroupId? name with
  | some id => exact .call fun found _ hgrants => ⟨rfl, rfl, hgrants.eq_find? h.groupIds⟩
  | none => exact .call fun found hadmits _ => ⟨rfl, rfl, hadmits.eq_find? h.groupNames⟩

/-- Looking up once what is known already gives the same. -/
theorem cidr_meets (h : held.Unambiguous) (hknown : known.Current s held)
    (hleads : (block? s held name).isSome) :
    Meets site (cidr name known) s held fun found s' left =>
      s' = s ∧ left = held ∧ found.2.Current s held ∧ block? s held name = some found.1 := by
  unfold cidr
  split
  · rename_i block hfind
    exact .pure ⟨rfl, rfl, hknown, hknown.cidrs name block hfind⟩
  · refine .bind ((fetchSubnet_meets h).mono ?_)
    rintro found s held ⟨rfl, rfl, rfl⟩
    obtain ⟨block, hblock⟩ := Option.isSome_iff_exists.1 hleads
    have hbind : (subnet? s held name).bind (·.cidr) = some block := hblock
    rw [hbind]
    have hcidrs := Table.forall_find?_insert hknown.cidrs hblock
    exact .pure ⟨rfl, rfl, ⟨hcidrs, hknown.groups⟩, hblock⟩

theorem group_meets (h : held.Unambiguous) (hknown : known.Current s held)
    (hleads : (group? s held name).isSome) :
    Meets site (Lookups.group name known) s held fun found s' left =>
      s' = s ∧ left = held ∧ found.2.Current s held ∧ group? s held name = some found.1 := by
  unfold Lookups.group
  split
  · rename_i group hfind
    exact .pure ⟨rfl, rfl, hknown, hknown.groups name group hfind⟩
  · refine .bind ((fetchGroup_meets h).mono ?_)
    rintro found s held ⟨rfl, rfl, rfl⟩
    obtain ⟨group, hgroup⟩ := Option.isSome_iff_exists.1 hleads
    rw [hgroup]
    have hgroups := Table.forall_find?_insert hknown.groups hgroup
    exact .pure ⟨rfl, rfl, ⟨hknown.cidrs, hgroups⟩, rfl⟩

theorem matchesRemote_meets {live : Cloud.Remote} (h : held.Unambiguous)
    (hknown : known.Current s held) (hleads : Leads s held wanted) :
    Meets site (matchesRemote wanted live known) s held fun found s' left =>
      s' = s ∧ left = held ∧ found.2.Current s held ∧ found.1 = serves s held wanted live := by
  cases wanted with
  | any => cases live <;> exact .pure ⟨rfl, rfl, hknown, rfl⟩
  | address ip => cases live <;> exact .pure ⟨rfl, rfl, hknown, rfl⟩
  | subnet name =>
    cases live with
    | cidr block =>
      refine .bind ((cidr_meets h hknown hleads).mono ?_)
      rintro ⟨found, known₁⟩ s held ⟨rfl, rfl, hknown₁, hblock⟩
      exact .pure ⟨rfl, rfl, hknown₁, by simp [serves, hblock]⟩
    | ip address => exact .pure ⟨rfl, rfl, hknown, rfl⟩
    | group id name crn => exact .pure ⟨rfl, rfl, hknown, rfl⟩
  | group name =>
    cases live with
    | cidr block => exact .pure ⟨rfl, rfl, hknown, rfl⟩
    | ip address => exact .pure ⟨rfl, rfl, hknown, rfl⟩
    | group liveId liveName liveCrn =>
      refine .status_bind ?_
      split
      · rename_i hsame
        exact .pure ⟨rfl, rfl, hknown, by simp [serves, hsame]⟩
      · rename_i hother
        have hother := eq_false_of_ne_true hother
        cases liveCrn with
        | none => exact .pure ⟨rfl, rfl, hknown, by simp [serves, hother]⟩
        | some crn =>
          refine .bind ((group_meets h hknown hleads).mono ?_)
          rintro ⟨found, known₁⟩ s held ⟨rfl, rfl, hknown₁, hgroup⟩
          exact .pure ⟨rfl, rfl, hknown₁, by simp [serves, hother, hgroup]⟩

/-- A rule that is created with this remote is listed as one that serves it. -/
theorem prototype_meets (h : held.Unambiguous) (hknown : known.Current s held)
    (hleads : Leads s held wanted) :
    Meets site (known.prototype wanted) s held fun found s' left =>
      s' = s ∧ left = held ∧ found.2.Current s held ∧
        ∀ live : Cloud.Remote, live.Reflects found.1 → serves s held wanted live = true := by
  unfold prototype
  split
  · refine .pure ⟨rfl, rfl, hknown, fun live hlive => ?_⟩
    cases live with
    | cidr block => exact decide_eq_true hlive
    | ip | group => exact hlive.elim
  · refine .pure ⟨rfl, rfl, hknown, fun live hlive => ?_⟩
    cases live with
    | ip address => exact decide_eq_true (Eq.symm hlive)
    | cidr | group => exact hlive.elim
  · refine .bind ((cidr_meets h hknown hleads).mono ?_)
    rintro ⟨block, known₁⟩ s held ⟨rfl, rfl, hknown₁, hblock⟩
    refine .pure ⟨rfl, rfl, hknown₁, fun live hlive => ?_⟩
    cases live with
    | cidr listed =>
      obtain rfl : listed = block := hlive
      exact decide_eq_true hblock
    | ip | group => exact hlive.elim
  · refine .bind ((group_meets h hknown hleads).mono ?_)
    rintro ⟨group, known₁⟩ s held ⟨rfl, rfl, hknown₁, hgroup⟩
    refine .pure ⟨rfl, rfl, hknown₁, fun live hlive => ?_⟩
    cases live with
    | group liveId liveName liveCrn =>
      obtain rfl : liveCrn = some group.crn := hlive
      simp [serves, hgroup]
    | cidr | ip => exact hlive.elim

theorem matchesRule_meets {direction : Direction} {protocol : Protocol} {live : Cloud.Rule}
    (h : held.Unambiguous) (hknown : known.Current s held) (hleads : Leads s held wanted) :
    Meets site (known.matchesRule direction protocol wanted live) s held fun found s' left =>
      s' = s ∧ left = held ∧ found.2.Current s held ∧
        found.1 = fits s held direction protocol wanted live := by
  unfold matchesRule fits
  split
  · rename_i hcarried
    rw [hcarried, Bool.true_and]
    exact matchesRemote_meets h hknown hleads
  · rename_i hother
    rw [eq_false_of_ne_true hother, Bool.false_and]
    exact .pure ⟨rfl, rfl, hknown, rfl⟩

end Lookups

end Pass

end VpcOperator
