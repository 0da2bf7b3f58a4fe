import VpcOperator.Proofs.Passes
import VpcOperator.Proofs.Roles

/-! # What the entries of subnets stand for

Entries of subnets are never taken away. In an account where subnets keep their
IDs and names, each entry stands for a subnet that some pass has wanted, and a
subnet that is settled has an entry.
-/

namespace VpcOperator

open Desired (Role)
open Observed (Entry Status)

/-- Which ID the name of a subnet leads to, and which name the subnet with an ID has. -/
structure Cloud.SubnetNames where
  idOf : String → String
  nameOf : String → String

namespace Cloud.SubnetNames

variable (names : Cloud.SubnetNames) (subnet : Desired.Subnet)

def identity : String :=
  (given? subnet.id).getD (names.idOf ((given? subnet.name).getD ""))

/-- The name that the subnet is remembered under. -/
def key : String :=
  (given? subnet.name).getD (names.nameOf ((given? subnet.id).getD ""))

variable {subnet} {id name : String}

theorem identity_of_id (hid : given? subnet.id = some id) : names.identity subnet = id := by
  rw [identity, hid, Option.getD_some]

theorem identity_of_name (hid : given? subnet.id = none) (hname : given? subnet.name = some name) :
    names.identity subnet = names.idOf name := by
  rw [identity, hid, hname, Option.getD_none, Option.getD_some]

theorem key_of_name (hname : given? subnet.name = some name) : names.key subnet = name := by
  rw [key, hname, Option.getD_some]

theorem key_of_id (hname : given? subnet.name = none) (hid : given? subnet.id = some id) :
    names.key subnet = names.nameOf id := by
  rw [key, hname, hid, Option.getD_none, Option.getD_some]

end Cloud.SubnetNames

/-- The subnet an exchange was answered with. -/
def Exchange.subnet? : Exchange → Option Cloud.Subnet
  | ⟨.getSubnet _, .answer found⟩ => found
  | ⟨.findSubnet _, .answer found⟩ => found
  | ⟨.createSubnet _, .answer live⟩ => some live
  | _ => none

/-- A subnet that the account answers with goes by its name and ID. -/
def Exchange.Follows (names : Cloud.SubnetNames) : Exchange → Prop
  | ⟨.getSubnet id, .answer (some live)⟩ => live.id = id ∧ live.name = names.nameOf id
  | ⟨.findSubnet name, .answer (some live)⟩ => live.id = names.idOf name ∧ live.id ≠ ""
  | ⟨.createSubnet prototype, .answer live⟩ => live.id = names.idOf prototype.name ∧ live.id ≠ ""
  | _ => True

def Trace.Follows (names : Cloud.SubnetNames) (t : Trace) : Prop :=
  ∀ exchange ∈ t, exchange.Follows names

/-- The account has answered with a subnet that has this ID. -/
def Trace.ShowsSubnet (t : Trace) (id : String) : Prop :=
  ∃ exchange ∈ t, ∃ live, exchange.subnet? = some live ∧ live.id = id

/-- The plan wants the subnet in this role: it is declared, or generated for one of the zones that
were listed. -/
def Plan.Wants (plan : Plan) (t : Trace) (role : Role) (subnet : Desired.Subnet) : Prop :=
  subnet ∈ plan.spec.network.subnets role ∨
    plan.spec.network.subnets role = [] ∧
      ∃ zones, ⟨.listZones plan.spec.region, .answer zones⟩ ∈ t ∧
        ∃ zone ∈ zones, subnet = plan.zonalSubnet zone

theorem Plan.Wants.mono {plan : Plan} {t t' : Trace} {role : Role} {subnet : Desired.Subnet}
    (h : plan.Wants t role subnet) (hsub : t ⊆ t') : plan.Wants t' role subnet :=
  h.imp_right fun ⟨hnone, zones, hlisted, hzone⟩ => ⟨hnone, zones, hsub hlisted, hzone⟩

/-- Subnets that are wanted and exchanges with an account in which they keep their IDs and names.
What a role remembers under one name is one subnet. -/
structure Register where
  names : Cloud.SubnetNames
  wanted : Role → Desired.Subnet → Prop
  exchanges : Trace
  follows : exchanges.Follows names
  apart : ∀ role one other, wanted role one → wanted role other → names.key one = names.key other →
    names.identity one = names.identity other

namespace Register

variable {register : Register} {s s' : Status} {role : Role} {subnet : Desired.Subnet} {name : String}
  {entry : Entry}

/-- The entry is for a subnet that is wanted in this role and that the account has answered with. -/
structure Accounts (register : Register) (role : Role) (name : String) (entry : Entry) : Prop where
  id_ne : entry.id ≠ ""
  shown : register.exchanges.ShowsSubnet entry.id
  wanted : ∃ subnet, register.wanted role subnet ∧ register.names.key subnet = name ∧
    register.names.identity subnet = entry.id

/-- All subnets that are remembered are accounted for. -/
def Filed (register : Register) (s : Status) : Prop :=
  ∀ role name entry, s.find? (.subnets role) name = some entry → register.Accounts role name entry

theorem Filed.frame (h : register.Filed s)
    (hsame : ∀ role, Status.Same (.shelf (.subnets role)) s s') : register.Filed s' :=
  fun role name entry hentry => h role name entry (((hsame role).find? name).symm.trans hentry)

theorem filed_empty (register : Register) : register.Filed .empty :=
  nofun

theorem Filed.put (h : register.Filed s) (hentry : register.Accounts role name entry) :
    register.Filed (s.put (.subnets role) name entry) := by
  intro other key found hfound
  rw [Status.find?_put] at hfound
  split at hfound
  · rename_i hplace
    obtain ⟨hrole, hkey⟩ := hplace
    cases hrole
    cases hfound
    exact hkey rfl ▸ hentry
  · exact h other key found hfound

theorem Accounts.id_eq (h : register.Accounts role (register.names.key subnet) entry)
    (hwanted : register.wanted role subnet) : entry.id = register.names.identity subnet := by
  obtain ⟨other, hother, hkey, hid⟩ := h.wanted
  exact hid.symm.trans (register.apart role other subnet hother hwanted hkey)

/-- An entry is only replaced by one for the same subnet. -/
theorem Filed.holds_put (h : register.Filed s) (hwanted : register.wanted role subnet)
    (hid : entry.id = register.names.identity subnet) {other : Role} {id : String}
    (hholds : s.Holds other id) :
    (s.put (.subnets role) (register.names.key subnet) entry).Holds other id := by
  obtain ⟨name, known, hknown, rfl⟩ := hholds
  by_cases hrole : other = role
  · subst hrole
    by_cases hname : name = register.names.key subnet
    · subst hname
      refine ⟨_, entry, Status.find?_put_self .., ?_⟩
      exact hid.trans ((h _ _ _ hknown).id_eq hwanted).symm
    · refine ⟨name, known, ?_, rfl⟩
      rw [Status.find?_put_subnets, if_neg hname, hknown]
  · refine Status.Holds.frame ⟨name, known, hknown, rfl⟩ ?_
    exact Status.writes_put s _ _ entry _ (by simpa using hrole)

/-- What becomes of these subnets in a part of the step: no ID is lost, and if it ends well, all of
them are remembered. -/
structure Settles (register : Register) (role : Role) (subnets : List Desired.Subnet) (s : Status)
    (r : Except Failure Outcome) (s' : Status) : Prop where
  filed : register.Filed s'
  keeps : ∀ other id, s.Holds other id → s'.Holds other id
  held : ∀ outcome, r = .ok outcome → ∀ subnet ∈ subnets,
    s'.Holds role (register.names.identity subnet)

variable {subnets : List Desired.Subnet} {r : Except Failure Outcome}

theorem Filed.settles_failed (h : register.Filed s) (e : Failure) :
    register.Settles role subnets s (.error e) s :=
  ⟨h, fun _ _ hholds => hholds, nofun⟩

theorem Filed.settles_held (h : register.Filed s)
    (hholds : s.Holds role (register.names.identity subnet)) :
    register.Settles role [subnet] s r s :=
  ⟨h, fun _ _ hholds => hholds, fun _ _ => by simpa using hholds⟩

theorem Filed.settles_put (h : register.Filed s) (hwanted : register.wanted role subnet)
    (hid : entry.id = register.names.identity subnet) (hne : entry.id ≠ "")
    (hshown : register.exchanges.ShowsSubnet entry.id) :
    register.Settles role [subnet] s r
      (s.put (.subnets role) (register.names.key subnet) entry) := by
  refine ⟨h.put ⟨hne, hshown, subnet, hwanted, rfl, hid.symm⟩,
    fun _ _ => h.holds_put hwanted hid, fun _ _ other hmem => ?_⟩
  obtain rfl := List.mem_singleton.1 hmem
  exact ⟨_, entry, Status.find?_put_self .., hid⟩

end Register

namespace Pass

open Register

variable {register : Register} {plan : Plan} {s s' : Status} {t : Trace} {role : Role}
  {subnet : Desired.Subnet} {subnets : List Desired.Subnet} {r : Except Failure Outcome}

namespace Subnets

theorem remembered?_stands {entry : Entry} (hs : register.Filed s)
    (hwanted : register.wanted role subnet) (hentry : remembered? s role subnet = some entry) :
    s.Holds role entry.id ∧ entry.id = register.names.identity subnet ∧
      (given? subnet.name = none → given? subnet.id = some entry.id) := by
  unfold remembered? at hentry
  split at hentry
  · rename_i name hname
    have haccounts := hs role name entry hentry
    rw [← register.names.key_of_name hname] at haccounts
    refine ⟨⟨name, entry, hentry, rfl⟩, haccounts.id_eq hwanted, fun hnone => ?_⟩
    rw [hname] at hnone
    cases hnone
  · obtain ⟨id, hid, hfind⟩ := Option.bind_eq_some_iff.1 hentry
    obtain rfl : entry.id = id := by simpa using List.find?_some hfind
    obtain ⟨⟨name, _⟩, hmem, rfl⟩ := List.mem_map.1 (List.mem_of_find?_eq_some hfind)
    exact ⟨⟨name, _, Status.find?_of_mem_entries hmem, rfl⟩,
      (register.names.identity_of_id hid).symm, fun _ => hid⟩

theorem settle_settles (hs : register.Filed s) (hwanted : register.wanted role subnet)
    (hsub : t ⊆ register.exchanges) (hrun : (settle plan role subnet).Runs s t r s') :
    register.Settles role [subnet] s r s' := by
  cases settle_settling hrun hsub with
  | failed e => exact hs.settles_failed e
  | known hentry =>
    obtain ⟨hholds, hid, -⟩ := remembered?_stands hs hwanted hentry
    exact hs.settles_held (hid ▸ hholds)
  | @looked id live hlead hmem =>
    obtain ⟨rfl, hname⟩ := register.follows _ hmem
    have hleads : live.id = register.names.identity subnet ∧ live.id ≠ "" ∧
        (given? subnet.name = none → given? subnet.id = some live.id) := by
      rcases hlead with hid | ⟨hne, entry, hentry, hid⟩
      · exact ⟨(register.names.identity_of_id hid).symm, (given?_eq_some.1 hid).2, fun _ => hid⟩
      · obtain ⟨-, hidentity, hgiven⟩ := remembered?_stands hs hwanted hentry
        exact ⟨hid ▸ hidentity, hne, hid ▸ hgiven⟩
    obtain ⟨hid, hne, hgiven⟩ := hleads
    -- Without a declared name it is put under the one that the account has for its ID.
    have hkey : (given? subnet.name).getD live.name = register.names.key subnet := by
      cases hdeclared : given? subnet.name with
      | some name => exact (register.names.key_of_name hdeclared).symm
      | none => exact hname.trans (register.names.key_of_id hdeclared (hgiven hdeclared)).symm
    rw [hkey]
    exact hs.settles_put hwanted hid hne ⟨_, hmem, live, rfl, rfl⟩
  | @found name live hid hname hmem =>
    obtain ⟨hlive, hne⟩ := register.follows _ hmem
    rw [← register.names.key_of_name hname]
    exact hs.settles_put hwanted (hlive.trans (register.names.identity_of_name hid hname).symm) hne
      ⟨_, hmem, live, rfl, rfl⟩
  | @created prototype live _ hid hname hmem =>
    obtain ⟨hlive, hne⟩ := register.follows _ hmem
    rw [← register.names.key_of_name hname]
    exact hs.settles_put hwanted (hlive.trans (register.names.identity_of_name hid hname).symm) hne
      ⟨_, hmem, live, rfl, rfl⟩

theorem settleAll_settles (hs : register.Filed s)
    (hwanted : ∀ subnet ∈ subnets, register.wanted role subnet) (hsub : t ⊆ register.exchanges)
    (hrun : (settleAll plan role subnets).Runs s t r s') :
    register.Settles role subnets s r s' := by
  induction subnets generalizing s t r with
  | nil =>
    obtain ⟨-, -, rfl⟩ := runs_pure.1 hrun
    exact ⟨hs, fun _ _ hholds => hholds, by simp⟩
  | cons subnet rest ih =>
    obtain ⟨hone, hothers⟩ := List.forall_mem_cons.1 hwanted
    rcases runs_bind.1 hrun with ⟨first, mid, t₁, t₂, rfl, hfirst, hrest⟩ | ⟨e, rfl, hfirst⟩
    · obtain ⟨hsub₁, hsub₂⟩ := List.append_subset.1 hsub
      obtain ⟨result, rfl, hlater⟩ := runs_bind_pure.1 hrest
      have hsettled := settle_settles hs hone hsub₁ hfirst
      have hall := ih hsettled.filed hothers hsub₂ hlater
      refine ⟨hall.filed, fun other id h => hall.keeps other id (hsettled.keeps other id h),
        fun outcome hok => List.forall_mem_cons.2 ⟨?_, ?_⟩⟩
      · exact hall.keeps _ _ (hsettled.held first rfl subnet (List.mem_singleton_self _))
      · cases result with
        | ok others => exact hall.held others rfl
        | error e => cases hok
    · have hsettled := settle_settles hs hone hsub hfirst
      exact ⟨hsettled.filed, hsettled.keeps, nofun⟩

/-! ## The step -/

theorem ByRole.wants (run : ByRole plan s t s') :
    subnet ∈ wanted (plan.spec.network.subnets role) run.generated ↔ plan.Wants t role subnet := by
  by_cases hnone : plan.spec.network.subnets role = []
  · obtain ⟨zones, hlisting, -, hgenerated⟩ := generated_ok run.listed hnone
    have hmem : subnet ∈ run.generated ↔ ∃ zone ∈ zones, subnet = plan.zonalSubnet zone := by
      rw [hgenerated, List.mem_map]
      simp [Plan.zonalSubnet, eq_comm]
    have honly : ∀ others, ⟨.listZones plan.spec.region, .answer others⟩ ∈ t ↔ others = zones := by
      intro others
      have hrole : ∀ role, ⟨.listZones plan.spec.region, .answer others⟩ ∉ run.exchanges role := by
        intro role hmem
        cases role with
        | controlPlane => simpa using (settleAll_does plan _ _ run.controlPlane).asks _ hmem
        | worker => simpa using (settleAll_does plan _ _ run.workers).asks _ hmem
      rw [run.split, hlisting]
      simp [hrole]
    rw [wanted, if_pos (by simpa using hnone), hmem, Plan.Wants, hnone]
    simp [honly]
  · rw [wanted_of_declared hnone, Plan.Wants]
    simp [hnone]

/-- Every subnet stays accounted for, and if the step ends well, all that are wanted are remembered. -/
theorem step_settles (hs : register.Filed s)
    (hwanted : ∀ role subnet, plan.Wants t role subnet → register.wanted role subnet)
    (hsub : t ⊆ register.exchanges) (hrun : (step plan).Runs s t r s') :
    register.Filed s' ∧ ∀ outcome, r = .ok outcome → ∀ role subnet, plan.Wants t role subnet →
      s'.Holds role (register.names.identity subnet) := by
  rcases step_runs hrun with ⟨run, rfl⟩ | ⟨e, rfl, rfl, -⟩
  · rw [run.split, List.append_subset, List.append_subset] at hsub
    obtain ⟨⟨-, hcontrol_sub⟩, hworkers_sub⟩ := hsub
    have hcontrol := settleAll_settles hs (fun subnet hmem => hwanted _ _ (run.wants.1 hmem))
      hcontrol_sub run.controlPlane
    have hworkers := settleAll_settles hcontrol.filed
      (fun subnet hmem => hwanted _ _ (run.wants.1 hmem)) hworkers_sub run.workers
    refine ⟨hworkers.filed, fun outcome hok role subnet hwants => ?_⟩
    obtain ⟨⟨a, ha⟩, ⟨b, hb⟩⟩ : (∃ a, run.results .controlPlane = .ok a) ∧
        ∃ b, run.results .worker = .ok b := by
      cases ha : run.results .controlPlane with
      | error e => rw [ha] at hok; cases hok
      | ok a =>
        cases hb : run.results .worker with
        | error e => rw [ha, hb] at hok; cases hok
        | ok b => exact ⟨⟨a, rfl⟩, b, rfl⟩
    cases role with
    | controlPlane =>
      exact hworkers.keeps _ _ (hcontrol.held a ha subnet (run.wants.2 hwants))
    | worker => exact hworkers.held b hb subnet (run.wants.2 hwants)
  · exact ⟨hs, nofun⟩

end Subnets

/-! ## The pass -/

/-- What is remembered of subnets stays accounted for. -/
def Files (register : Register) (plan : Plan) : Effect := fun s t s' =>
  t ⊆ register.exchanges →
    (∀ role subnet, plan.Wants t role subnet → register.wanted role subnet) →
    register.Filed s → register.Filed s'

instance : Composes (Files register plan) where
  nil _ _ _ hs := hs
  append h₁ h₂ hsub hwanted hs := by
    obtain ⟨hsub₁, hsub₂⟩ := List.append_subset.1 hsub
    have hmid := h₁ hsub₁ (fun role subnet h => hwanted role subnet (h.mono (by simp))) hs
    exact h₂ hsub₂ (fun role subnet h => hwanted role subnet (h.mono (by simp))) hmid

theorem files_of_does {parts : List Observed.Part} {looks makes : List Kind}
    (h : Does parts looks makes s t s') (hparts : ∀ role, .shelf (.subnets role) ∉ parts) :
    Files register plan s t s' :=
  fun _ _ hs => hs.frame fun role => h.writes _ (hparts role)

theorem standard_files (register : Register) (plan : Plan) :
    Always (Files register plan) (standard plan) :=
  standard_of_steps .pure .bind
    ((ResourceGroups.step_does plan).mono fun h => files_of_does h (by simp))
    ((Vpc.step_does plan).mono fun h => files_of_does h (by simp))
    ((Image.step_does plan).mono fun h => files_of_does h (by simp))
    (fun _ _ _ _ hrun hsub hwanted hs => (Subnets.step_settles hs hwanted hsub hrun).1)
    ((Groups.step_does plan).mono fun h => files_of_does h (by simp))
    ((LoadBalancers.step_does plan).mono fun h => files_of_does h (by simp))

end Pass

end VpcOperator
