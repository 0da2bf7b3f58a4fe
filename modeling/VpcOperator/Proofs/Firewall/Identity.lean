import Mathlib.Data.List.Nodup
import Mathlib.Data.List.Pairwise
import VpcOperator.Proofs.Account.Roster
import VpcOperator.Proofs.Firewall.Phases

/-! # The identity of declared groups

The status keeps a group under its declared name, or else under the name it has
in the account. Two groups get mixed up if one that is declared by ID alone has
the name that another is declared under; otherwise each declared group is
identified as the one that is meant.
-/

namespace VpcOperator

open Observed (Status)

namespace Pass.Groups

open Rules (Identified)

variable {plan : Plan} {declared groups : List Desired.SecurityGroup}
  {group : Desired.SecurityGroup} {ident : String → String} {roster last : Roster}
  {s s' : Status} {t : Trace}

/-! ## Who is who -/

/-- No two groups are declared under the same name. -/
def DistinctNames (declared : List Desired.SecurityGroup) : Prop :=
  (declared.filterMap (given? ·.name)).Nodup

theorem DistinctNames.eq {other : Desired.SecurityGroup} {name : String}
    (h : DistinctNames declared) (hmem : group ∈ declared) (hother : other ∈ declared)
    (hname : given? group.name = some name) (hsame : given? other.name = some name) :
    other = group := by
  have hapart : declared.Pairwise fun a b =>
      ∀ x, given? a.name = some x → ∀ y, given? b.name = some y → x ≠ y :=
    List.pairwise_filterMap.1 h
  have hsymm : Std.Symm fun a b : Desired.SecurityGroup =>
      ∀ x, given? a.name = some x → ∀ y, given? b.name = some y → x ≠ y :=
    ⟨fun a b hab y hy x hx => (hab x hx y hy).symm⟩
  by_contra hne
  exact hapart.forall hother hmem hne name hsame name hname rfl

/-- No group that is declared by its ID alone has a name in the account that another is declared
under with an ID of its own. -/
def Clear (declared : List Desired.SecurityGroup) (roster : Roster) : Prop :=
  ∀ live ∈ roster, ∀ unnamed ∈ declared, given? unnamed.name = none →
    given? unnamed.id = some live.id → ∀ named ∈ declared, given? named.name = some live.name →
      ∀ id, given? named.id = some id → id = live.id

/-- The group in the account that is meant: the declared ID decides, else the name does. -/
def identity (ident : String → String) (group : Desired.SecurityGroup) : String :=
  (given? group.id).getD (ident ((given? group.name).getD ""))

theorem identity_of_id {id : String} (hid : given? group.id = some id) :
    identity ident group = id := by
  simp [identity, hid]

theorem identity_of_name {name : String} (hid : given? group.id = none)
    (hname : given? group.name = some name) : identity ident group = ident name := by
  simp [identity, hid, hname]

/-- What is kept under the name of a declared group is the one that is meant. -/
def Filed (declared : List Desired.SecurityGroup) (ident : String → String) (s : Status) : Prop :=
  ∀ group ∈ declared, ∀ name entry, given? group.name = some name →
    s.find? .securityGroups name = some entry → entry.id = identity ident group

theorem Filed.put {key : String} {entry : Observed.Entry} (h : Filed declared ident s)
    (hentry : ∀ group ∈ declared, given? group.name = some key → entry.id = identity ident group) :
    Filed declared ident (s.put .securityGroups key entry) := by
  intro group hmem name other hname hfind
  rw [Status.find?_put_securityGroups] at hfind
  split at hfind
  · cases hfind
    exact hentry group hmem (‹name = key› ▸ hname)
  · exact h group hmem name other hname hfind

/-- The names lead to these groups, and whatever has been filed was filed right. -/
structure Sorted (declared : List Desired.SecurityGroup) (ident : String → String)
    (roster : Roster) (s : Status) : Prop where
  named : ∀ live ∈ roster, ident live.name = live.id
  clear : Clear declared roster
  filed : Filed declared ident s

theorem Sorted.keep {live : Cloud.SecurityGroup} (h : Sorted declared ident roster s)
    (hdistinct : DistinctNames declared) (hgroup : group ∈ declared) (hlive : live ∈ roster)
    (hid : live.id = identity ident group)
    (hunnamed : given? group.name = none → given? group.id = some live.id) :
    Sorted declared ident roster (Groups.keep s group live) := by
  refine ⟨h.named, h.clear, h.filed.put fun other hother hname => ?_⟩
  cases hgiven : given? group.name with
  | some name =>
    rw [hgiven, Option.getD_some] at hname
    rw [hdistinct.eq hgroup hother hgiven hname]
    exact hid
  | none =>
    -- It is kept under the name that it has in the account, and another may be declared under that.
    rw [hgiven, Option.getD_none] at hname
    cases hother_id : given? other.id with
    | some id =>
      rw [identity_of_id hother_id]
      exact (h.clear live hlive group hgroup hgiven (hunnamed hgiven) other hother hname id
        hother_id).symm
    | none =>
      rw [identity_of_name hother_id hname]
      exact (h.named live hlive).symm

theorem Resolved.identified {found : Identified} (h : Resolved group s t found s')
    (hgroup : group ∈ declared) (hdistinct : DistinctNames declared)
    (hfollows : Roster.Follows roster t last) (hsorted : Sorted declared ident roster s) :
    Sorted declared ident last s' ∧ found.id = identity ident group := by
  cases h with
  | @remembered entry hentry =>
    obtain rfl := Roster.follows_nil.1 hfollows
    refine ⟨hsorted, ?_⟩
    unfold remembered? at hentry
    split at hentry
    · exact hsorted.filed group hgroup _ entry ‹_› hentry
    · obtain ⟨id, hid, hfind⟩ := Option.bind_eq_some_iff.1 hentry
      rw [identity_of_id hid]
      simpa using List.find?_some hfind
  | @byId id live hid =>
    obtain ⟨next, hadmits, hrest⟩ := Roster.follows_cons.1 hfollows
    obtain rfl := Roster.follows_nil.1 hrest
    obtain ⟨hlive, rfl, rfl⟩ := hadmits.found_by_id
    have hmeant : live.id = identity ident group := (identity_of_id hid).symm
    exact ⟨hsorted.keep hdistinct hgroup hlive hmeant fun _ => hid, hmeant⟩
  | @byName name live hid hname =>
    obtain ⟨next, hadmits, hrest⟩ := Roster.follows_cons.1 hfollows
    obtain rfl := Roster.follows_nil.1 hrest
    obtain ⟨hlive, rfl, rfl⟩ := hadmits.found_by_name
    have hmeant : live.id = identity ident group :=
      (identity_of_name hid hname).symm ▸ (hsorted.named live hlive).symm
    exact ⟨hsorted.keep hdistinct hgroup hlive hmeant fun hnone => by simp [hnone] at hname, hmeant⟩

/-- A group that is created under the name of one that is declared without an ID mixes nothing
up. -/
theorem Clear.cons {live : Cloud.SecurityGroup} (h : Clear declared roster)
    (hdistinct : DistinctNames declared) (hgroup : group ∈ declared)
    (hid : given? group.id = none) (hname : given? group.name = some live.name) :
    Clear declared (live :: roster) := by
  intro other hother unnamed hunnamed hnone hsame named hnamed hnamed_name id hnamed_id
  rcases List.mem_cons.1 hother with rfl | hother
  · obtain rfl := hdistinct.eq hgroup hnamed hname hnamed_name
    rw [hid] at hnamed_id
    cases hnamed_id
  · exact h other hother unnamed hunnamed hnone hsame named hnamed hnamed_name id hnamed_id

theorem Sorted.admits {exchange : Exchange} {prototype : Cloud.SecurityGroupPrototype}
    (h : Sorted declared ident roster s) (hdistinct : DistinctNames declared)
    (hgroup : group ∈ declared) (hid : given? group.id = none)
    (hname : given? group.name = some prototype.name)
    (hrequest : exchange.request = .createSecurityGroup prototype)
    (hadmits : roster.Admits exchange last) (hlast : ∀ live ∈ last, ident live.name = live.id) :
    Sorted declared ident last s := by
  cases hadmits with
  | kept => exact h
  | created hlive =>
    cases hrequest
    exact ⟨hlast, h.clear.cons hdistinct hgroup hid (hlive ▸ hname), h.filed⟩

theorem Created.identified {r : Except Failure Identified} (h : Created plan group s t r s')
    (hgroup : group ∈ declared) (hdistinct : DistinctNames declared)
    (hfollows : Roster.Follows roster t last) (hlast : ∀ live ∈ last, ident live.name = live.id)
    (hsorted : Sorted declared ident roster s) :
    Sorted declared ident last s' ∧
      ∀ found, r = .ok found → found.id = identity ident group := by
  cases h with
  | @intro name rest _ _ hid hname hcreate =>
    obtain ⟨next, hlook, hrest⟩ := Roster.follows_cons.1 hfollows
    obtain rfl : next = roster := by cases hlook; rfl
    rcases create_cases hcreate with ⟨rfl, rfl, e, rfl⟩ |
      ⟨prototype, reply, rfl, rfl, rfl, e, rfl⟩ | ⟨prototype, live, tags, rfl, rfl, rfl, htags, hr⟩
    · obtain rfl := Roster.follows_nil.1 hrest
      exact ⟨hsorted, fun _ hfound => nomatch hfound⟩
    · obtain ⟨made, hadmits, hend⟩ := Roster.follows_cons.1 hrest
      obtain rfl := Roster.follows_nil.1 hend
      exact ⟨hsorted.admits hdistinct hgroup hid hname rfl hadmits hlast,
        fun _ hfound => nomatch hfound⟩
    · obtain ⟨made, hadmits, hend⟩ := Roster.follows_cons.1 hrest
      obtain rfl : last = made := hend.same fun exchange hmem prototype hrequest => by
        have hkind := htags exchange hmem
        simp [hrequest] at hkind
      have hmade := hsorted.admits hdistinct hgroup hid hname rfl hadmits hlast
      obtain ⟨hlive, hmade_name⟩ := hadmits.there_when_created
      have hmeant : live.id = identity ident group := by
        rw [identity_of_name hid hname, ← hmade_name]
        exact (hlast live hlive).symm
      refine ⟨⟨hlast, hmade.clear, hmade.filed.put fun other hother hsame => ?_⟩,
        fun found hfound => ?_⟩
      · rw [hdistinct.eq hgroup hother hname hsame]
        exact hmeant
      · rw [hr found hfound]
        exact hmeant

theorem identify_identified {r : Except Failure (Identified × Bool)}
    (hrun : (identify plan group).Runs s t r s') (hgroup : group ∈ declared)
    (hdistinct : DistinctNames declared) (hfollows : Roster.Follows roster t last)
    (hlast : ∀ live ∈ last, ident live.name = live.id) (hsorted : Sorted declared ident roster s) :
    Sorted declared ident last s' ∧
      ∀ found, r = .ok found → found.1.id = identity ident group := by
  rcases identify_cases hrun with ⟨found, rfl, h⟩ | ⟨result, rfl, h⟩ | ⟨e, rfl, rfl, hnothing⟩
  · obtain ⟨hsorted, hid⟩ := h.identified hgroup hdistinct hfollows hsorted
    refine ⟨hsorted, ?_⟩
    rintro _ ⟨⟩
    exact hid
  · obtain ⟨hsorted, hid⟩ := h.identified hgroup hdistinct hfollows hlast hsorted
    refine ⟨hsorted, fun found hfound => ?_⟩
    cases result with
    | ok one =>
      cases hfound
      exact hid one rfl
    | error e => cases hfound
  · obtain rfl := hfollows.same fun exchange hmem prototype hrequest => by
      have hchanges := hnothing exchange hmem
      simp [hrequest] at hchanges
    exact ⟨hsorted, fun _ hfound => nomatch hfound⟩

/-- The groups are identified as those that are meant, in the order they are declared in. -/
theorem identifyAll_identified {r : Except Failure (List Identified × Bool)}
    (hrun : (identifyAll plan groups).Runs s t r s') (hgroups : groups ⊆ declared)
    (hdistinct : DistinctNames declared) (hfollows : Roster.Follows roster t last)
    (hlast : ∀ live ∈ last, ident live.name = live.id) (hsorted : Sorted declared ident roster s) :
    Sorted declared ident last s' ∧
      ∀ found, r = .ok found → found.1.map (·.id) = groups.map (identity ident) := by
  induction groups generalizing s t r roster with
  | nil =>
    obtain ⟨rfl, rfl, rfl⟩ := runs_pure.1 hrun
    obtain rfl := Roster.follows_nil.1 hfollows
    refine ⟨hsorted, ?_⟩
    rintro _ ⟨⟩
    rfl
  | cons group rest ih =>
    obtain ⟨hgroup, htail⟩ := List.cons_subset.1 hgroups
    rcases runs_bind.1 hrun with ⟨one, mid, t₁, t₂, rfl, hone, hrest⟩ | ⟨e, rfl, hone⟩
    · obtain ⟨next, hfirst, hfollows⟩ := Roster.follows_append.1 hfollows
      have hnext : ∀ live ∈ next, ident live.name = live.id :=
        fun live hlive => hlast live (hfollows.subset hlive)
      obtain ⟨hsorted, hid⟩ := identify_identified hone hgroup hdistinct hfirst hnext hsorted
      obtain ⟨result, rfl, hothers⟩ := runs_bind_pure.1 hrest
      obtain ⟨hsorted, hids⟩ := ih hothers htail hfollows hsorted
      refine ⟨hsorted, fun found hfound => ?_⟩
      cases result with
      | ok others =>
        cases hfound
        simp only [List.map_cons, hid one rfl, hids others rfl]
      | error e => cases hfound
    · obtain ⟨hsorted, -⟩ := identify_identified hone hgroup hdistinct hfollows hlast hsorted
      exact ⟨hsorted, fun _ hfound => nomatch hfound⟩

theorem step_sorted {r : Except Failure Outcome} (hrun : (step plan).Runs s t r s')
    (hdistinct : DistinctNames plan.spec.network.securityGroups)
    (hfollows : Roster.Follows roster t last) (hlast : ∀ live ∈ last, ident live.name = live.id)
    (hsorted : Sorted plan.spec.network.securityGroups ident roster s) :
    Sorted plan.spec.network.securityGroups ident last s' := by
  rcases step_cases hrun with ⟨e, -, hall⟩ | ⟨found, -, hall⟩ |
    ⟨found, first, rest, result, rfl, -, hall, henforce⟩
  · exact (identifyAll_identified hall (List.Subset.refl _) hdistinct hfollows hlast hsorted).1
  · exact (identifyAll_identified hall (List.Subset.refl _) hdistinct hfollows hlast hsorted).1
  · obtain ⟨mid, hfirst, hrest⟩ := Roster.follows_append.1 hfollows
    obtain rfl := hrest.same fun exchange hmem prototype hrequest => by
      have hasks := (Rules.enforceAll_does _ _ henforce).asks exchange hmem
      simp [hrequest] at hasks
    exact (identifyAll_identified hall (List.Subset.refl _) hdistinct hfirst hlast hsorted).1

/-! ## The IDs that names lead to -/

/-- The ID of the group with this name. -/
def idOf (roster : Roster) (name : String) : String :=
  ((roster.find? (·.name = name)).map (·.id)).getD ""

theorem idOf_name (hnodup : (roster.map (·.name)).Nodup) :
    ∀ live ∈ roster, idOf roster live.name = live.id := by
  intro live hlive
  cases hfind : roster.find? (·.name = live.name) with
  | none => simpa using List.find?_eq_none.1 hfind live hlive
  | some other =>
    have hname : other.name = live.name := by simpa using List.find?_some hfind
    have hsame := List.inj_on_of_nodup_map hnodup (List.mem_of_find?_eq_some hfind) hlive hname
    simp [idOf, hfind, hsame]

end Pass.Groups

end VpcOperator
