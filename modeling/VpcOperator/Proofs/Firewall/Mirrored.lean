import VpcOperator.Proofs.Convergence.Rules
import VpcOperator.Proofs.Firewall.Verdict

/-! # Rules as they are listed

A cloud lists the rules it has created, but may tell of the groups in them only
the ID, only the name or only the CRN. A rule that is listed serves the remote
it was created for if the group shows something that the matcher knows it by.
-/

namespace VpcOperator

open Observed (Status)
open Simulation (GroupIdentity)

namespace Cloud

/-- A remote that is this group is listed with the identities that are shown. -/
def SecurityGroup.remote (shown : GroupIdentity → Bool) (group : SecurityGroup) : Remote :=
  .group (if shown .id then some group.id else none) (if shown .name then some group.name else none)
    (if shown .crn then some group.crn else none)

namespace Answers

variable {answers : Cloud.Answers} {shown : GroupIdentity → Bool} {s : Status} {name : String}
  {group : SecurityGroup} {direction : Direction} {protocol : Protocol} {remote : Desired.Remote}
  {wanted : RemotePrototype} {rule : Rule}

/-- The group is one that can be looked up. -/
def Knows (answers : Cloud.Answers) (group : SecurityGroup) : Prop :=
  (∃ id, answers (.getSecurityGroup id) = some group) ∨
    ∃ name, answers (.findSecurityGroup name) = some group

theorem knows_of_group? (h : answers.group? s name = some group) : answers.Knows group := by
  unfold group? at h
  split at h
  · exact .inl ⟨_, h⟩
  · exact .inr ⟨_, h⟩

/-- The live remote is what a rule was created with. -/
def MirrorsRemote (answers : Cloud.Answers) (shown : GroupIdentity → Bool) :
    RemotePrototype → Remote → Prop
  | .cidr wanted, .cidr live => live = wanted
  | .address wanted, .ip live => live = wanted
  | .group crn, live => ∀ group, answers.Knows group → group.crn = crn → live = group.remote shown
  | _, _ => False

/-- The live rule has the direction, the traffic and the remote that were asked for. -/
structure Mirrors (answers : Cloud.Answers) (shown : GroupIdentity → Bool)
    (prototype : RulePrototype) (rule : Rule) : Prop where
  direction : rule.direction = prototype.direction
  traffic : rule.traffic.Reflects prototype.protocol
  remote : answers.MirrorsRemote shown prototype.remote rule.remote

/-- A group shows its CRN, the name it is referred to by, or the ID remembered for this name. -/
def Recognisable (answers : Cloud.Answers) (shown : GroupIdentity → Bool) (s : Status) :
    Desired.Remote → Prop
  | .group name => ∀ group, answers.group? s name = some group →
    shown .crn = true ∨ (shown .name = true ∧ group.name = name) ∨
      (shown .id = true ∧ s.securityGroupId? name = some group.id)
  | _ => True

theorem serves?_of_recognisable (hgroup : answers.group? s name = some group)
    (h : answers.Recognisable shown s (.group name)) :
    answers.serves? s (.group name) (group.remote shown) = some true := by
  rcases h group hgroup with hcrn | ⟨hname, hsame⟩ | ⟨hid, hsame⟩
  · simp [SecurityGroup.remote, serves?, hcrn, hgroup]
  · simp [SecurityGroup.remote, serves?, hname, hsame]
  · simp [SecurityGroup.remote, serves?, hid, hsame]

theorem serves?_of_mirrors {live : Remote} (hwanted : answers.prototype? s remote = some wanted)
    (hmirrors : answers.MirrorsRemote shown wanted live)
    (hrecognisable : answers.Recognisable shown s remote) :
    answers.serves? s remote live = some true := by
  cases remote with
  | any =>
    cases hwanted
    cases live with
    | cidr block => exact congrArg some (decide_eq_true hmirrors)
    | ip | group => exact hmirrors.elim
  | address ip =>
    cases hwanted
    cases live with
    | ip address => exact congrArg some (decide_eq_true (Eq.symm hmirrors))
    | cidr | group => exact hmirrors.elim
  | subnet name =>
    obtain ⟨block, hblock, rfl⟩ := Option.map_eq_some_iff.1 hwanted
    cases live with
    | cidr listed =>
      have hlisted : listed = block := hmirrors
      simp [serves?, hblock, hlisted]
    | ip | group => exact hmirrors.elim
  | group name =>
    obtain ⟨group, hgroup, rfl⟩ := Option.map_eq_some_iff.1 hwanted
    have hlive : live = group.remote shown := hmirrors group (knows_of_group? hgroup) rfl
    rw [hlive]
    exact serves?_of_recognisable hgroup hrecognisable

/-- A rule fits what it was created for. -/
theorem fits?_of_mirrors (hwanted : answers.prototype? s remote = some wanted)
    (hmirrors : answers.Mirrors shown ⟨direction, protocol, wanted⟩ rule)
    (hrecognisable : answers.Recognisable shown s remote) :
    answers.fits? s direction protocol remote rule = some true := by
  have hdirection : rule.direction = direction := hmirrors.direction
  have hcarried : protocol.isCarriedBy rule.traffic = true :=
    Pass.Rules.isCarriedBy_of_reflects hmirrors.traffic
  have hserves : answers.serves? s remote rule.remote = some true :=
    serves?_of_mirrors hwanted hmirrors.remote hrecognisable
  simp [fits?, hdirection, hcarried, hserves]

/-! ## Listings that follow -/

/-- Rules are listed in the order of their creation; if in any order, then what the remote refers
to can be looked up. -/
inductive Lasts (answers : Cloud.Answers) (s : Status) (remote : Desired.Remote) : RuleOrder → Prop
  | inOrder : Lasts answers s remote Eq
  | resolved {prototype : RemotePrototype} (h : answers.prototype? s remote = some prototype) :
    Lasts answers s remote List.Perm

namespace Lasts

variable {order : RuleOrder} {live listed former more : List Rule}

theorem refl (h : answers.Lasts s remote order) (live : List Rule) : order live live := by
  cases h with
  | inOrder => exact Eq.refl live
  | resolved => exact List.Perm.refl live

theorem mem (h : answers.Lasts s remote order) (hlisted : order listed live) (hmem : rule ∈ live) :
    rule ∈ listed := by
  cases h with
  | inOrder =>
    cases hlisted
    exact hmem
  | resolved => exact (List.Perm.mem_iff hlisted).2 hmem

/-- A remote that was served is served by every listing that follows. -/
theorem again (h : answers.Lasts s remote order) (hformer : order former live)
    (hlisted : order listed (live ++ more))
    (hany : answers.anyFits? s direction protocol remote former = some true) :
    answers.anyFits? s direction protocol remote listed = some true := by
  cases h with
  | inOrder =>
    cases hformer
    cases hlisted
    rw [anyFits?_append, hany]
    rfl
  | resolved hwanted =>
    obtain ⟨one, hone, hfits⟩ := exists_of_anyFits? hany
    have hlive : one ∈ live := (List.Perm.mem_iff hformer).1 hone
    have hmem : one ∈ listed := (List.Perm.mem_iff hlisted).2 (List.mem_append_left _ hlive)
    exact anyFits?_of_mem hwanted hmem hfits

end Lasts

end Answers

end Cloud

/-! ## Traces -/

def Exchange.Mirrors (answers : Cloud.Answers) (shown : GroupIdentity → Bool) : Exchange → Prop
  | ⟨.createRule _ prototype, .answer rule⟩ => answers.Mirrors shown prototype rule
  | _ => True

def Trace.Mirrors (answers : Cloud.Answers) (shown : GroupIdentity → Bool) (t : Trace) : Prop :=
  ∀ exchange ∈ t, exchange.Mirrors answers shown

theorem Trace.mirrors_append {answers : Cloud.Answers} {shown : GroupIdentity → Bool}
    {first rest : Trace} :
    Mirrors answers shown (first ++ rest) ↔
      Mirrors answers shown first ∧ Mirrors answers shown rest := by
  simp [Mirrors, or_imp, forall_and]

namespace Simulation.Account

variable {account : Simulation.Account}

theorem mem_of_knows {group : Cloud.SecurityGroup} (h : account.still.Knows group) :
    group ∈ account.securityGroups := by
  rcases h with ⟨id, hfind⟩ | ⟨name, hfind⟩
  · exact List.mem_of_find?_eq_some hfind
  · exact List.mem_of_find?_eq_some hfind

/-- The rules of a simulated account mirror what they are created with if CRNs are unique. -/
theorem mirrors_liveRemote (hcrns : (account.securityGroups.map (·.crn)).Nodup)
    (prototype : Cloud.RemotePrototype) :
    account.still.MirrorsRemote account.shows prototype (account.liveRemote prototype) := by
  cases prototype with
  | cidr block => rfl
  | address ip => rfl
  | group crn =>
    intro group hknows hcrn
    subst hcrn
    have hfinds : Cloud.Finds account.securityGroups (·.crn = group.crn) (some group) :=
      ⟨mem_of_knows hknows, rfl⟩
    have hfind := hfinds.eq_find? hcrns
    simp [liveRemote, Cloud.SecurityGroup.remote, ← hfind]

end Simulation.Account

end VpcOperator
