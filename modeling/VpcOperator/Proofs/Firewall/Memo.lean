import VpcOperator.Proofs.Steady.Firewall

/-! # What the matcher remembers

What has been looked up stays known for the rest of the pass. A live rule that
has been matched once is matched again without a request, and with the same
result.
-/

namespace VpcOperator.Pass.Lookups

open Observed (Status)

variable {s s' : Status} {t : Trace} {known known' later : Lookups} {name : String}
  {remote : Desired.Remote}

/-- All that is known is still known later. -/
structure Extends (known later : Lookups) : Prop where
  cidrs : ∀ name block, known.cidrs.find? name = some block → later.cidrs.find? name = some block
  groups : ∀ name group, known.groups.find? name = some group →
    later.groups.find? name = some group

theorem Extends.refl (known : Lookups) : Extends known known :=
  ⟨fun _ _ h => h, fun _ _ h => h⟩

theorem Extends.trans (h₁ : Extends known known') (h₂ : Extends known' later) :
    Extends known later :=
  ⟨fun name block h => h₂.cidrs name block (h₁.cidrs name block h),
    fun name group h => h₂.groups name group (h₁.groups name group h)⟩

theorem extends_insert_cidr {block : String} (h : known.cidrs.find? name = .none) :
    Extends known { known with cidrs := known.cidrs.insert name block } := by
  refine ⟨fun other text hother => ?_, fun _ _ h => h⟩
  rw [Table.find?_insert, if_neg, hother]
  rintro rfl
  rw [h] at hother
  cases hother

theorem extends_insert_group {group : Cloud.SecurityGroup} (h : known.groups.find? name = .none) :
    Extends known { known with groups := known.groups.insert name group } := by
  refine ⟨fun _ _ h => h, fun other one hother => ?_⟩
  rw [Table.find?_insert, if_neg, hother]
  rintro rfl
  rw [h] at hother
  cases hother

/-- The remote a rule is created with, as far as it is known. -/
def resolve? (known : Lookups) : Desired.Remote → Option Cloud.RemotePrototype
  | .any => some (.cidr anyBlock)
  | .address ip => some (.address ip)
  | .subnet name => (known.cidrs.find? name).map .cidr
  | .group name => (known.groups.find? name).map fun group => .group group.crn

theorem Extends.resolve? (h : Extends known later) {prototype : Cloud.RemotePrototype}
    (hresolve : known.resolve? remote = some prototype) :
    later.resolve? remote = some prototype := by
  cases remote with
  | any => exact hresolve
  | address ip => exact hresolve
  | subnet name =>
    obtain ⟨block, hblock, rfl⟩ := Option.map_eq_some_iff.1 hresolve
    exact Option.map_eq_some_iff.2 ⟨block, h.cidrs name block hblock, rfl⟩
  | group name =>
    obtain ⟨group, hgroup, rfl⟩ := Option.map_eq_some_iff.1 hresolve
    exact Option.map_eq_some_iff.2 ⟨group, h.groups name group hgroup, rfl⟩

/-! ## One look-up -/

/-- What is looked up is new to the matcher or known to it already. -/
theorem cidr_remembers {block : String}
    (hrun : (cidr name known).Runs s t (.ok (block, known')) s') :
    Extends known known' ∧ known'.cidrs.find? name = some block := by
  unfold cidr at hrun
  split at hrun
  · rename_i found hfound
    obtain ⟨-, hend, -⟩ := runs_pure_ok.1 hrun
    cases hend
    exact ⟨.refl known, hfound⟩
  · rename_i hmissing
    obtain ⟨subnet, mid, first, rest, rfl, -, hrest⟩ := runs_bind_ok.1 hrun
    split at hrest
    · obtain ⟨-, hend, -⟩ := runs_pure_ok.1 hrest
      cases hend
      refine ⟨extends_insert_cidr hmissing, ?_⟩
      rw [Table.find?_insert, if_pos rfl]
    · simp at hrest

theorem group_remembers {group : Cloud.SecurityGroup}
    (hrun : (Lookups.group name known).Runs s t (.ok (group, known')) s') :
    Extends known known' ∧ known'.groups.find? name = some group := by
  unfold Lookups.group at hrun
  split at hrun
  · rename_i found hfound
    obtain ⟨-, hend, -⟩ := runs_pure_ok.1 hrun
    cases hend
    exact ⟨.refl known, hfound⟩
  · rename_i hmissing
    obtain ⟨found, mid, first, rest, rfl, -, hrest⟩ := runs_bind_ok.1 hrun
    split at hrest
    · obtain ⟨-, hend, -⟩ := runs_pure_ok.1 hrest
      cases hend
      refine ⟨extends_insert_group hmissing, ?_⟩
      rw [Table.find?_insert, if_pos rfl]
    · simp at hrest

theorem cidr_of_known {block : String} (h : known.cidrs.find? name = some block) :
    cidr name known = pure (block, known) := by
  rw [cidr, h]

theorem group_of_known {group : Cloud.SecurityGroup} (h : known.groups.find? name = some group) :
    Lookups.group name known = pure (group, known) := by
  rw [Lookups.group, h]

/-- A remote of which a rule is created is known from then on. -/
theorem prototype_resolves {prototype : Cloud.RemotePrototype}
    (hrun : (known.prototype remote).Runs s t (.ok (prototype, known')) s') :
    Extends known known' ∧ known'.resolve? remote = some prototype := by
  cases remote with
  | any =>
    obtain ⟨-, hend, -⟩ := runs_pure_ok.1 hrun
    cases hend
    exact ⟨.refl known, rfl⟩
  | address ip =>
    obtain ⟨-, hend, -⟩ := runs_pure_ok.1 hrun
    cases hend
    exact ⟨.refl known, rfl⟩
  | subnet name =>
    obtain ⟨⟨block, mid_known⟩, mid, first, rest, rfl, hcidr, hrest⟩ := runs_bind_ok.1 hrun
    obtain ⟨-, hend, -⟩ := runs_pure_ok.1 hrest
    cases hend
    obtain ⟨hextends, hblock⟩ := cidr_remembers hcidr
    exact ⟨hextends, by simp [resolve?, hblock]⟩
  | group name =>
    obtain ⟨⟨group, mid_known⟩, mid, first, rest, rfl, hgroup, hrest⟩ := runs_bind_ok.1 hrun
    obtain ⟨-, hend, -⟩ := runs_pure_ok.1 hrest
    cases hend
    obtain ⟨hextends, hfound⟩ := group_remembers hgroup
    exact ⟨hextends, by simp [resolve?, hfound]⟩

/-! ## Matching once and again -/

/-- With what is known the live rule is found to satisfy the remote or not to, without a request. -/
def Tells (known : Lookups) (s : Status) (direction : Direction) (protocol : Protocol)
    (remote : Desired.Remote) (live : Cloud.Rule) (found : Bool) : Prop :=
  known.matchesRule direction protocol remote live s = .done (.ok (found, known), s)

variable {direction : Direction} {protocol : Protocol} {live : Cloud.Rule} {found : Bool}

theorem matchesRemote_tells {remoteLive : Cloud.Remote}
    (hrun : (matchesRemote remote remoteLive known).Runs s t (.ok (found, known')) s') :
    Extends known known' ∧ ∀ later, Extends known' later →
      matchesRemote remote remoteLive later s = .done (.ok (found, later), s) := by
  unfold matchesRemote at hrun ⊢
  split at hrun
  · obtain ⟨-, hend, -⟩ := runs_pure_ok.1 hrun
    cases hend
    exact ⟨.refl known, fun later _ => rfl⟩
  · obtain ⟨-, hend, -⟩ := runs_pure_ok.1 hrun
    cases hend
    exact ⟨.refl known, fun later _ => rfl⟩
  · obtain ⟨-, hend, -⟩ := runs_pure_ok.1 hrun
    cases hend
    exact ⟨.refl known, fun later _ => rfl⟩
  · obtain ⟨⟨wanted, mid_known⟩, mid, first, rest, rfl, hcidr, hrest⟩ := runs_bind_ok.1 hrun
    obtain ⟨-, hend, -⟩ := runs_pure_ok.1 hrest
    cases hend
    obtain ⟨hextends, hblock⟩ := cidr_remembers hcidr
    refine ⟨hextends, fun later hlater => ?_⟩
    rw [cidr_of_known (hlater.cidrs _ _ hblock)]
    rfl
  · rename_i name liveId liveName liveCrn
    rw [runs_status_bind] at hrun
    split at hrun
    · rename_i hknown
      obtain ⟨-, hend, -⟩ := runs_pure_ok.1 hrun
      cases hend
      refine ⟨.refl known, fun later _ => ?_⟩
      show (ite _ _ _ : Pass _) s = _
      rw [if_pos hknown]
      rfl
    · rename_i hother
      cases liveCrn with
      | none =>
        obtain ⟨-, hend, -⟩ := runs_pure_ok.1 hrun
        cases hend
        refine ⟨.refl known, fun later _ => ?_⟩
        show (ite _ _ _ : Pass _) s = _
        rw [if_neg hother]
        rfl
      | some crn =>
        obtain ⟨⟨group, mid_known⟩, mid, first, rest, rfl, hgroup, hrest⟩ := runs_bind_ok.1 hrun
        obtain ⟨-, hend, -⟩ := runs_pure_ok.1 hrest
        cases hend
        obtain ⟨hextends, hfound⟩ := group_remembers hgroup
        refine ⟨hextends, fun later hlater => ?_⟩
        show (ite _ _ _ : Pass _) s = _
        rw [if_neg hother]
        dsimp only
        rw [group_of_known (hlater.groups _ _ hfound)]
        rfl
  · obtain ⟨-, hend, -⟩ := runs_pure_ok.1 hrun
    cases hend
    exact ⟨.refl known, fun later _ => rfl⟩

theorem matchesRule_tells
    (hrun : (known.matchesRule direction protocol remote live).Runs s t (.ok (found, known')) s') :
    Extends known known' ∧
      ∀ later, Extends known' later → later.Tells s direction protocol remote live found := by
  unfold Tells matchesRule at *
  split at hrun
  · rename_i hcarried
    obtain ⟨hextends, htells⟩ := matchesRemote_tells hrun
    refine ⟨hextends, fun later hlater => ?_⟩
    rw [if_pos hcarried]
    exact htells later hlater
  · rename_i hother
    obtain ⟨-, hend, -⟩ := runs_pure_ok.1 hrun
    cases hend
    refine ⟨.refl known, fun later _ => ?_⟩
    rw [if_neg hother]
    rfl

end VpcOperator.Pass.Lookups
