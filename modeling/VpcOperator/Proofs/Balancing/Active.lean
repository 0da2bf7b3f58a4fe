import VpcOperator.Proofs.Balancing.Marked
import VpcOperator.Proofs.Balancing.Turns
import VpcOperator.Proofs.Tables

/-! # Load balancers that are known to be active

What is remembered as active is not asked for again. Entries stay when what they
stand for is gone, so several can carry one name; only the one with the least ID
is then seen, whatever the others say.
-/

namespace VpcOperator

open Observed (BalancerEntry Status)

namespace Observed

/-- The entry is one of those that the load balancer can be known by: it has the declared ID, or, if
none is declared, the name. -/
def BalancerEntry.StandsFor (entry : BalancerEntry) (balancer : Desired.LoadBalancer) : Prop :=
  match given? balancer.id with
  | some id => entry.id = id
  | none => entry.name = balancer.name

/-- The entry is the least of those that stand for the load balancer. -/
structure Status.Recalls (s : Status) (balancer : Desired.LoadBalancer) (entry : BalancerEntry) :
    Prop where
  mem : entry ∈ s.balancers
  standsFor : entry.StandsFor balancer
  least : ∀ other ∈ s.balancers, other.StandsFor balancer → entry.id ≤ other.id

theorem BalancerEntry.find?_eq_some_iff_least {entries : List BalancerEntry} {p : BalancerEntry → Bool}
    {entry : BalancerEntry} (hascending : entries.Pairwise fun a b => a.id < b.id) :
    entries.find? p = some entry ↔
      entry ∈ entries ∧ p entry = true ∧ ∀ other ∈ entries, p other = true → entry.id ≤ other.id := by
  induction hascending with
  | nil => simp
  | @cons head rest hhead _ ih =>
    by_cases hp : p head = true
    · rw [List.find?_cons_of_pos hp]
      constructor
      · rintro ⟨rfl⟩
        refine ⟨List.mem_cons_self, hp, List.forall_mem_cons.2 ⟨fun _ => String.le_refl _, ?_⟩⟩
        exact fun other hother _ => Std.le_of_lt (hhead other hother)
      · rintro ⟨hmem, -, hleast⟩
        have hle : entry.id ≤ head.id := hleast head List.mem_cons_self hp
        rcases List.mem_cons.1 hmem with rfl | hrest
        · rfl
        · exact absurd (hhead entry hrest) (Std.not_lt.2 hle)
    · rw [List.find?_cons_of_neg hp, ih]
      constructor
      · rintro ⟨hmem, hentry, hleast⟩
        exact ⟨List.mem_cons_of_mem _ hmem, hentry,
          List.forall_mem_cons.2 ⟨fun hhead => absurd hhead hp, hleast⟩⟩
      · rintro ⟨hmem, hentry, hleast⟩
        have hne : entry ≠ head := fun heq => hp (heq ▸ hentry)
        exact ⟨(List.mem_cons.1 hmem).resolve_left hne, hentry, (List.forall_mem_cons.1 hleast).2⟩

namespace Status

variable {s : Status} {entry : BalancerEntry}

theorem KeyedById.balancers_ascending (h : s.KeyedById) :
    s.balancers.Pairwise fun a b => a.id < b.id := by
  rw [balancers_eq, Table.values, List.pairwise_map]
  have hid : ∀ pair ∈ s.net.loadBalancers.entries, pair.2.id = pair.1 := by
    rintro ⟨id, entry⟩ hmem
    apply h
    rw [balancer?_eq]
    exact Table.find?_of_mem hmem
  refine s.net.loadBalancers.ascending.imp_of_mem fun hone hother hlt => ?_
  rw [hid _ hone, hid _ hother]
  exact hlt

theorem putBalancer_of_balancer? (h : s.balancer? entry.id = some entry) :
    s.putBalancer entry = s := by
  cases hnetwork : s.network with
  | none => simp [balancer?, hnetwork] at h
  | some network =>
    have hfind : network.loadBalancers.find? entry.id = some entry := by
      simpa [balancer?, hnetwork] using h
    simp only [putBalancer, updateNetwork, hnetwork, Option.getD_some, Table.insert_of_find? hfind]
    rw [← hnetwork]

end Status

end Observed

namespace Pass.LoadBalancers

variable {plan : Plan} {balancer : Desired.LoadBalancer} {s s' start mid : Status} {t before : Trace}
  {entry : BalancerEntry}

/-- The entry that comes to mind is, with an ID declared, the only one that stands for the load
balancer, and otherwise the first in the order of the IDs. -/
theorem remembered?_eq_some_iff (hkeyed : s.KeyedById) :
    remembered? s balancer = some entry ↔ s.Recalls balancer entry := by
  unfold remembered?
  cases hid : given? balancer.id with
  | some id =>
    have hstands : ∀ other : BalancerEntry, other.StandsFor balancer ↔ other.id = id := by
      simp [BalancerEntry.StandsFor, hid]
    constructor
    · intro h
      have heq : entry.id = id := hkeyed id entry h
      refine ⟨Status.mem_balancers_of_balancer? h, (hstands entry).2 heq, fun other _ hother => ?_⟩
      have hsame : entry.id = other.id := heq.trans ((hstands other).1 hother).symm
      exact hsame ▸ String.le_refl entry.id
    · intro h
      have heq : entry.id = id := (hstands entry).1 h.standsFor
      exact heq ▸ hkeyed.balancer?_id h.mem
  | none =>
    have hstands : ∀ other : BalancerEntry,
        other.StandsFor balancer ↔ other.name = balancer.name := by
      simp [BalancerEntry.StandsFor, hid]
    rw [BalancerEntry.find?_eq_some_iff_least hkeyed.balancers_ascending]
    simp only [decide_eq_true_eq, ← hstands]
    exact ⟨fun ⟨hmem, hfor, hleast⟩ => ⟨hmem, hfor, hleast⟩,
      fun h => ⟨h.mem, h.standsFor, h.least⟩⟩

/-! ## Nothing is asked -/

/-- Whatever follows goes on as if the load balancer were not declared: it is not asked for, the
status stays as it is, and how the step ends is left to the others. -/
def LeftAlone (plan : Plan) (s : Status) (balancer : Desired.LoadBalancer) : Prop :=
  ∀ rest created, settleAll plan (balancer :: rest) created s = settleAll plan rest created s

theorem bind_of_done {α β : Type} {pass : Pass α} {next : α → Pass β} {a : α}
    (h : pass s = .done (.ok a, s')) : (pass >>= next) s = next a s' := by
  change Program.bind (pass s) _ = next a s'
  rw [h]
  rfl

theorem find_of_active (hentry : remembered? s balancer = some entry)
    (hactive : entry.state = .active) :
    find balancer s = .done (.ok (some (ofEntry entry)), s) := by
  have hstatus : status s = .done (.ok s, s) := rfl
  refine (bind_of_done hstatus).trans ?_
  simp only [hentry, Option.filter_some, hactive, decide_true, if_true]
  rfl

theorem settleFound_of_active (hentry : s.balancer? entry.id = some entry)
    (hactive : entry.state = .active) :
    settleFound (ofEntry entry) s = .done (.ok .ready, s) := by
  have hobserve : observe (ofEntry entry) false s = .done (.ok (), s) := by
    have hsame : s.putBalancer entry = s := Status.putBalancer_of_balancer? hentry
    simp [observe, update, ofEntry, hentry, hsame]
  refine (bind_of_done hobserve).trans ?_
  simp only [ofEntry, hactive]
  rfl

theorem leftAlone_of_active (hkeyed : s.KeyedById) (hentry : remembered? s balancer = some entry)
    (hactive : entry.state = .active) : LeftAlone plan s balancer := by
  intro rest created
  have hmem : entry ∈ s.balancers := ((remembered?_eq_some_iff hkeyed).1 hentry).mem
  have hfind := find_of_active hentry hactive
  have hfound := settleFound_of_active (hkeyed.balancer?_id hmem) hactive
  have hothers : settleAll plan (balancer :: rest) created s =
      (settleAll plan rest created >>= fun others => pure (Outcome.ready.both others)) s :=
    (bind_of_done hfind).trans (bind_of_done hfound)
  rw [hothers]
  exact (congrArg _ (funext fun | (.ok _, _) => rfl | (.error _, _) => rfl)).trans
    (Program.bind_done _)

theorem LooksUp.active_of_silent {found : Option Cloud.LoadBalancer}
    (h : LooksUp s balancer [] found) :
    ∃ entry, remembered? s balancer = some entry ∧ entry.state = .active := by
  cases h with
  | active hentry hactive => exact ⟨_, hentry, hactive⟩

theorem leftAlone_iff_remembered (hkeyed : s.KeyedById) :
    LeftAlone plan s balancer ↔
      ∃ entry, remembered? s balancer = some entry ∧ entry.state = .active := by
  constructor
  · intro halone
    have hnone : (settleAll plan [] true).Runs s [] (.ok .ready) s := runs_pure.2 ⟨rfl, rfl, rfl⟩
    have hone : (settleAll plan [balancer] true).Runs s [] (.ok .ready) s := by
      unfold Runs at hnone ⊢
      rw [halone [] true]
      exact hnone
    obtain ⟨found, mid, first, rest, hsilent, hfind, -⟩ := runs_bind_ok.1 hone
    obtain ⟨rfl, rfl⟩ := List.append_eq_nil_iff.1 hsilent.symm
    exact (find_looksUp hfind).2.active_of_silent
  · rintro ⟨entry, hentry, hactive⟩
    exact leftAlone_of_active hkeyed hentry hactive

/-! ## In a pass -/

/-- In a pass after others, from no status on, nothing is asked for a load balancer exactly if the
entry for it, or the least of those under its name if it has no ID declared, is active. -/
theorem leftAlone_iff {past : History} {earlier : List Desired.LoadBalancer} {created : Bool}
    {outcome : Outcome} (hpast : Passes .empty past s) (hsame : Status.Same .balancers s start)
    (hearlier : (settleAll plan earlier created).Runs start before (.ok outcome) mid) :
    LeftAlone plan mid balancer ↔ ∃ entry, mid.Recalls balancer entry ∧ entry.state = .active := by
  have hstart : start.KeyedById := hpast.keyedById_of_empty.frame hsame
  have hafter : After [] start before mid := settleAll_after plan earlier created hearlier
  have hmid : mid.KeyedById := (hafter hstart).1
  rw [leftAlone_iff_remembered hmid]
  apply exists_congr
  intro entry
  rw [remembered?_eq_some_iff hmid]

/-- A load balancer is found under the name `b` and is gone by the next pass, which finds another. -/
def replacedPast : History :=
  beforeMove ++
    [(movingPlan "x",
        [⟨.getVpc "2", .answer (some ⟨"2", "a-vpc", "", .available⟩)⟩,
          ⟨.findLoadBalancer "b", .answer (some ⟨"8", "b", "crn", .createPending, none⟩)⟩]),
      (movingPlan "x",
        [⟨.getVpc "2", .answer (some ⟨"2", "a-vpc", "", .available⟩)⟩,
          ⟨.getLoadBalancer "8", .answer none⟩,
          ⟨.findLoadBalancer "b", .answer (some ⟨"9", "b", "crn", .active, some "h"⟩)⟩])]

def replacedEntry : BalancerEntry :=
  ⟨"9", "b", .active, some "h", false⟩

def replacedStatus : Status :=
  let found := (settledStatus.put .vpc "" ⟨"2", "a-vpc", true⟩).putBalancer
    ⟨"8", "b", .createPending, none, false⟩
  (found.put .vpc "" ⟨"2", "a-vpc", true⟩).putBalancer replacedEntry

theorem replacedPast_passes : Passes .empty replacedPast replacedStatus :=
  beforeMove_passes.append
    (.cons (.ask (.ask (.done _))) (.cons (.ask (.ask (.ask (.done _)))) (.nil _)))

def declaredBalancer (id : Option String) : Desired.LoadBalancer :=
  { name := "b", id, isPublic := true, listeners := [], pools := [], securityGroups := [] }

/-- By its ID, the second of them is known to be active. -/
theorem leftAlone_iff_replaced :
    Passes .empty replacedPast replacedStatus ∧
    (settleAll (movingPlan "x") [] false).Runs replacedStatus [] (.ok .ready) replacedStatus ∧
    LeftAlone (movingPlan "x") replacedStatus (declaredBalancer (some "9")) := by
  have hnone : (settleAll (movingPlan "x") [] false).Runs replacedStatus [] (.ok .ready)
      replacedStatus := .done _
  have hrecalls : replacedStatus.Recalls (declaredBalancer (some "9")) replacedEntry := by
    refine ⟨by decide, rfl, fun other _ hother => ?_⟩
    have hid : other.id = replacedEntry.id := hother
    exact hid ▸ String.le_refl other.id
  exact ⟨replacedPast_passes, hnone,
    (leftAlone_iff replacedPast_passes (.refl _ _) hnone).2 ⟨replacedEntry, hrecalls, rfl⟩⟩

/-- By the name, the first is asked for and then the second, although it is known to be active. -/
theorem active_is_asked_for :
    Passes .empty replacedPast replacedStatus ∧
    replacedEntry ∈ replacedStatus.balancers ∧ replacedEntry.state = .active ∧
    replacedEntry.StandsFor (declaredBalancer none) ∧
    (movingPlan "x").spec.network.loadBalancers = [declaredBalancer none] ∧
    ¬ LeftAlone (movingPlan "x") replacedStatus (declaredBalancer none) ∧
    (step (movingPlan "x")).Runs replacedStatus
      [⟨.getLoadBalancer "8", .answer none⟩,
        ⟨.findLoadBalancer "b", .answer (some ⟨"9", "b", "crn", .active, some "h"⟩)⟩]
      (.ok .ready) replacedStatus := by
  have hremembered : remembered? replacedStatus (declaredBalancer none) =
      some ⟨"8", "b", .createPending, none, false⟩ := rfl
  refine ⟨replacedPast_passes, by decide, rfl, rfl, rfl, ?_, .ask (.ask (.done _))⟩
  rw [leftAlone_iff_remembered replacedPast_passes.keyedById_of_empty]
  rintro ⟨entry, hentry, hactive⟩
  rw [hremembered] at hentry
  cases hentry
  cases hactive

end Pass.LoadBalancers

end VpcOperator
