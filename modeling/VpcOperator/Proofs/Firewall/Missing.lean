import VpcOperator.Proofs.Firewall.Verdict

/-! # The rules that are missing

Of the remotes of a declared rule just those get a rule created that none of
the listed rules satisfies, in the order in which they are declared. What it
takes to satisfy a remote is said without the matcher: the same direction, the
same traffic and the same other end.
-/

namespace VpcOperator

open Cloud (Request)
open Observed (Status)

/-! ## What satisfies a remote -/

/-- The live traffic is the declared one. A bound of the ports that is not given, on either side, is
the widest one. -/
inductive Protocol.Means : Protocol → Cloud.Traffic → Prop
  | all : Means .all .all
  | icmp {type code liveType liveCode : Option Int64} :
      (∀ wantedType wantedCode, type = some wantedType → code = some wantedCode →
        liveType = some wantedType ∧ liveCode = some wantedCode) →
      Means (.icmp type code) (.icmp liveType liveCode)
  | ports {transport : Transport} {range : Option PortRange} {first last : Option UInt16} :
      first.getD 1 = (range.map (·.first)).getD 1 →
      last.getD 65535 = (range.map (·.last)).getD 65535 →
      Means (.ports transport range) (.ports transport first last)

theorem Protocol.isCarriedBy_iff {protocol : Protocol} {traffic : Cloud.Traffic} :
    protocol.isCarriedBy traffic = true ↔ protocol.Means traffic := by
  constructor
  · intro h
    cases protocol with
    | all =>
      cases traffic with
      | all => exact .all
      | icmp | ports => cases h
    | icmp type code =>
      cases traffic with
      | icmp liveType liveCode =>
        refine .icmp fun wantedType wantedCode htype hcode => ?_
        subst htype hcode
        simpa [isCarriedBy, icmpFilter] using h
      | all | ports => cases h
    | ports transport range =>
      cases traffic with
      | ports live first last =>
        simp only [isCarriedBy, Cloud.Traffic.portRange?, Bool.and_eq_true, decide_eq_true_eq,
          Option.some.injEq] at h
        obtain ⟨rfl, hrange⟩ := h
        cases range <;> exact .ports (congrArg PortRange.first hrange) (congrArg PortRange.last hrange)
      | all | icmp => cases h
  · intro h
    cases h with
    | all => rfl
    | @icmp type code liveType liveCode hboth =>
      cases type with
      | none => rfl
      | some type =>
        cases code with
        | none => rfl
        | some code =>
          obtain ⟨rfl, rfl⟩ := hboth type code rfl rfl
          simp [isCarriedBy, icmpFilter]
    | @ports transport range first last hfirst hlast =>
      cases range <;>
        simp_all [isCarriedBy, Cloud.Traffic.portRange?, PortRange.all]

/-- The live remote is the other end that the wanted one names, while subnets and groups are as in
these answers. -/
inductive Desired.Remote.Means (answers : Cloud.Answers) (s : Status) :
    Desired.Remote → Cloud.Remote → Prop
  | anyBlock : Means answers s .any (.cidr "0.0.0.0/0")
  | anyAddress : Means answers s .any (.ip "0.0.0.0/0")
  | address (ip : String) : Means answers s (.address ip) (.ip ip)
  | subnet {name block : String} :
      answers.block? s name = some block → Means answers s (.subnet name) (.cidr block)
  | groupName (name : String) (id crn : Option String) :
      Means answers s (.group name) (.group id (some name) crn)
  | groupId {name id : String} (live crn : Option String) :
      s.securityGroupId? name = some id → Means answers s (.group name) (.group (some id) live crn)
  | groupCrn {name : String} {group : Cloud.SecurityGroup} (id live : Option String) :
      answers.group? s name = some group →
      Means answers s (.group name) (.group id live (some group.crn))

namespace Cloud

variable {answers : Cloud.Answers} {s : Status} {direction : Direction} {protocol : Protocol}
  {remote : Desired.Remote}

theorem Answers.serves?_eq_true_iff {live : Remote} :
    answers.serves? s remote live = some true ↔ remote.Means answers s live := by
  constructor
  · intro h
    cases remote with
    | any =>
      cases live with
      | cidr block =>
        obtain rfl : block = VpcOperator.anyBlock := by simpa [serves?] using h
        exact .anyBlock
      | ip address =>
        obtain rfl : address = VpcOperator.anyBlock := by simpa [serves?] using h
        exact .anyAddress
      | group => cases h
    | address ip =>
      cases live with
      | ip liveIp =>
        obtain rfl : ip = liveIp := by simpa [serves?] using h
        exact .address ip
      | cidr | group => cases h
    | subnet name =>
      cases live with
      | cidr block =>
        obtain ⟨wanted, hwanted, hsame⟩ := Option.map_eq_some_iff.1 h
        obtain rfl : wanted = block := by simpa using hsame
        exact .subnet hwanted
      | ip | group => cases h
    | group name =>
      cases live with
      | cidr | ip => cases h
      | group liveId liveName liveCrn =>
        simp only [serves?] at h
        split at h
        · rename_i hknown
          rcases Bool.or_eq_true _ _ ▸ hknown with hname | hid
          · obtain rfl := of_decide_eq_true hname
            exact .groupName name liveId liveCrn
          · obtain ⟨hsome, hid⟩ := Bool.and_eq_true _ _ ▸ hid
            obtain ⟨id, rfl⟩ := Option.isSome_iff_exists.1 hsome
            exact .groupId liveName liveCrn (of_decide_eq_true hid).symm
        · cases liveCrn with
          | none => cases h
          | some crn =>
            obtain ⟨group, hgroup, hsame⟩ := Option.map_eq_some_iff.1 h
            obtain rfl : crn = group.crn := by simpa using hsame
            exact .groupCrn liveId liveName hgroup
  · intro h
    cases h with
    | anyBlock | anyAddress => rfl
    | address ip => simp [serves?]
    | subnet hblock => simp [serves?, hblock]
    | groupName name id crn => simp [serves?]
    | groupId live crn hid => simp [serves?, hid]
    | groupCrn id live hgroup =>
      rw [serves?]
      split
      · rfl
      · simp [hgroup]

/-- The live rule does what a declared rule asks for with this remote. -/
structure Rule.Satisfies (answers : Cloud.Answers) (s : Status) (direction : Direction)
    (protocol : Protocol) (remote : Desired.Remote) (live : Rule) : Prop where
  direction : live.direction = direction
  traffic : protocol.Means live.traffic
  remote : remote.Means answers s live.remote

theorem Answers.fits?_eq_true_iff {live : Rule} :
    answers.fits? s direction protocol remote live = some true ↔
      live.Satisfies answers s direction protocol remote := by
  rw [fits?]
  constructor
  · intro h
    split at h
    · rename_i hcarried
      obtain ⟨hdirection, htraffic⟩ := Bool.and_eq_true _ _ ▸ hcarried
      exact ⟨of_decide_eq_true hdirection, Protocol.isCarriedBy_iff.1 htraffic,
        serves?_eq_true_iff.1 h⟩
    · cases h
  · rintro ⟨rfl, htraffic, hremote⟩
    rw [Protocol.isCarriedBy_iff.2 htraffic, decide_eq_true rfl]
    exact serves?_eq_true_iff.2 hremote

instance (live : Rule) : Decidable (live.Satisfies answers s direction protocol remote) :=
  decidable_of_iff _ Answers.fits?_eq_true_iff

/-- Where there is telling, the search has found out whether one of the rules satisfies the remote. -/
theorem Answers.anyFits?_iff {live : List Rule} {found : Bool}
    (h : answers.anyFits? s direction protocol remote live = some found) :
    found = true ↔ ∃ one ∈ live, one.Satisfies answers s direction protocol remote := by
  constructor
  · rintro rfl
    obtain ⟨one, hmem, hfits⟩ := exists_of_anyFits? h
    exact ⟨one, hmem, fits?_eq_true_iff.1 hfits⟩
  · rintro ⟨one, hmem, hone⟩
    induction live with
    | nil => cases hmem
    | cons head rest ih =>
      obtain ⟨first, hfirst, hrest⟩ := Option.bind_eq_some_iff.1 h
      cases first with
      | true =>
        cases hrest
        rfl
      | false =>
        rcases List.mem_cons.1 hmem with rfl | hmem
        · rw [fits?_eq_true_iff.2 hone] at hfirst
          cases hfirst
        · exact ih hrest hmem

end Cloud

/-! ## What is asked for -/

/-- The rules that were asked for, each with its group, whether or not they have been created. -/
def Trace.requestedRules (t : Trace) : List (String × Cloud.RulePrototype) :=
  t.filterMap fun exchange =>
    match exchange.request with
    | .createRule groupId prototype => some (groupId, prototype)
    | _ => none

@[simp] theorem Trace.requestedRules_append {first rest : Trace} :
    (first ++ rest).requestedRules = first.requestedRules ++ rest.requestedRules :=
  List.filterMap_append

theorem Trace.ChangesNothing.requestedRules {t : Trace} (h : t.ChangesNothing) :
    t.requestedRules = [] := by
  refine List.filterMap_eq_nil_iff.2 fun exchange hmem => ?_
  have hchanges := h exchange hmem
  split
  · rename_i hrequest
    rw [hrequest] at hchanges
    cases hchanges
  · rfl

namespace Cloud.Answers

variable {answers : Cloud.Answers} {s : Status} {direction : Direction} {protocol : Protocol}

/-- The remotes that none of the listed rules satisfies. -/
def missing (answers : Cloud.Answers) (s : Status) (direction : Direction) (protocol : Protocol)
    (listed : List Rule) (remotes : List Desired.Remote) : List Desired.Remote :=
  remotes.filter fun remote => ∀ one ∈ listed, ¬ one.Satisfies answers s direction protocol remote

theorem missing_cons_of_satisfied {listed : List Rule} {remote : Desired.Remote}
    {rest : List Desired.Remote}
    (h : ∃ one ∈ listed, one.Satisfies answers s direction protocol remote) :
    answers.missing s direction protocol listed (remote :: rest) =
      answers.missing s direction protocol listed rest :=
  List.filter_cons_of_neg (by simpa using h)

theorem missing_cons_of_unsatisfied {listed : List Rule} {remote : Desired.Remote}
    {rest : List Desired.Remote}
    (h : ¬ ∃ one ∈ listed, one.Satisfies answers s direction protocol remote) :
    answers.missing s direction protocol listed (remote :: rest) =
      remote :: answers.missing s direction protocol listed rest :=
  List.filter_cons_of_pos (by simpa using h)

theorem missing_perm {listed other : List Rule} {remotes : List Desired.Remote}
    (h : listed.Perm other) :
    answers.missing s direction protocol listed remotes =
      answers.missing s direction protocol other remotes := by
  simp only [missing, h.mem_iff]

/-- The rule to ask for with this remote, if it can be told what the remote refers to. -/
def ruleFor? (answers : Cloud.Answers) (s : Status) (groupId : String) (direction : Direction)
    (protocol : Protocol) (remote : Desired.Remote) : Option (String × RulePrototype) :=
  (answers.prototype? s remote).map fun remote => (groupId, { direction, protocol, remote })

end Cloud.Answers

/-! ## Look-ups that succeed -/

/-- A subnet or group that is looked up is there, as in these answers, and a subnet has addresses. -/
def Exchange.Finds (answers : Cloud.Answers) : Exchange → Prop
  | ⟨.getSubnet id, reply⟩ =>
    reply = .answer (answers (.getSubnet id)) ∧
      ((answers (.getSubnet id)).bind (·.cidr)).isSome
  | ⟨.findSubnet name, reply⟩ =>
    reply = .answer (answers (.findSubnet name)) ∧
      ((answers (.findSubnet name)).bind (·.cidr)).isSome
  | ⟨.getSecurityGroup id, reply⟩ =>
    reply = .answer (answers (.getSecurityGroup id)) ∧ (answers (.getSecurityGroup id)).isSome
  | ⟨.findSecurityGroup name, reply⟩ =>
    reply = .answer (answers (.findSecurityGroup name)) ∧ (answers (.findSecurityGroup name)).isSome
  | _ => True

/-- All look-ups succeed. -/
def Trace.Finds (answers : Cloud.Answers) (t : Trace) : Prop :=
  ∀ exchange ∈ t, exchange.Finds answers

namespace Trace.Finds

variable {answers : Cloud.Answers} {first rest t : Trace} {exchange : Exchange}

theorem append_iff : Finds answers (first ++ rest) ↔ Finds answers first ∧ Finds answers rest := by
  simp [Finds, or_imp, forall_and]

theorem looksUp (h : t.Finds answers) (hmem : exchange ∈ t) : exchange.LooksUp answers := by
  have hfinds := h exchange hmem
  unfold Exchange.LooksUp
  split
  · exact Cloud.Reply.answer.inj hfinds.1
  · exact Cloud.Reply.answer.inj hfinds.1
  · exact Cloud.Reply.answer.inj hfinds.1
  · exact Cloud.Reply.answer.inj hfinds.1
  · trivial

end Trace.Finds

/-- Where nothing is said of listings, all that counts is what is looked up. -/
theorem Trace.stands_of_looksUp {answers : Cloud.Answers} {t : Trace}
    (h : ∀ exchange ∈ t, exchange.LooksUp answers) (book : RuleBook) :
    t.Stands (fun _ _ => True) answers book :=
  ⟨h, fun _ _ _ _ _ => trivial⟩

namespace Pass

variable {α β : Type} {answers : Cloud.Answers} {s s' : Status} {t : Trace}

/-- It ends well if its look-ups succeed. -/
def Finishes (answers : Cloud.Answers) (pass : Pass α) : Prop :=
  ∀ ⦃s t r s'⦄, pass.Runs s t r s' → t.Finds answers → ∃ a, r = .ok a

namespace Finishes

theorem pure (a : α) : Finishes answers (pure a) := by
  intro s t r s' hrun _
  exact ⟨a, (runs_pure.1 hrun).2.1⟩

theorem bind {pass : Pass α} {next : α → Pass β} (h : Finishes answers pass)
    (hnext : ∀ a, Finishes answers (next a)) : Finishes answers (pass >>= next) := by
  intro s t r s' hrun hfinds
  rcases runs_bind.1 hrun with ⟨a, mid, first, rest, rfl, -, hrest⟩ | ⟨e, -, hfirst⟩
  · exact hnext a hrest (Trace.Finds.append_iff.1 hfinds).2
  · obtain ⟨a, ha⟩ := h hfirst hfinds
    cases ha

theorem status_bind {next : Status → Pass β} (h : ∀ s, Finishes answers (next s)) :
    Finishes answers (status >>= next) :=
  fun s _ _ _ hrun hfinds => h s hrun hfinds

end Finishes

namespace Lookups

theorem fetchSubnet_finds {name : String} {r : Except Failure (Option Cloud.Subnet)}
    (hrun : (fetchSubnet name).Runs s t r s') (hfinds : t.Finds answers) :
    ∃ found, r = .ok found ∧ (found.bind (·.cidr)).isSome := by
  rw [fetchSubnet, runs_status_bind] at hrun
  split at hrun
  · obtain ⟨reply, rfl, rfl, -⟩ := runs_call.1 hrun
    obtain ⟨rfl, hcidr⟩ := hfinds _ List.mem_cons_self
    exact ⟨_, rfl, hcidr⟩
  · obtain ⟨reply, rfl, rfl, -⟩ := runs_call.1 hrun
    obtain ⟨rfl, hcidr⟩ := hfinds _ List.mem_cons_self
    exact ⟨_, rfl, hcidr⟩

theorem fetchGroup_finds {name : String} {r : Except Failure (Option Cloud.SecurityGroup)}
    (hrun : (fetchGroup name).Runs s t r s') (hfinds : t.Finds answers) :
    ∃ found, r = .ok found ∧ found.isSome := by
  rw [fetchGroup, runs_status_bind] at hrun
  split at hrun
  · obtain ⟨reply, rfl, rfl, -⟩ := runs_call.1 hrun
    obtain ⟨rfl, hgroup⟩ := hfinds _ List.mem_cons_self
    exact ⟨_, rfl, hgroup⟩
  · obtain ⟨reply, rfl, rfl, -⟩ := runs_call.1 hrun
    obtain ⟨rfl, hgroup⟩ := hfinds _ List.mem_cons_self
    exact ⟨_, rfl, hgroup⟩

theorem cidr_finishes (name : String) (known : Lookups) : Finishes answers (cidr name known) := by
  intro s t r s' hrun hfinds
  unfold cidr at hrun
  split at hrun
  · exact Finishes.pure _ hrun hfinds
  · rcases runs_bind.1 hrun with ⟨found, mid, first, rest, rfl, hfetch, hrest⟩ | ⟨e, -, hfetch⟩
    · obtain ⟨_, hfound, hcidr⟩ := fetchSubnet_finds hfetch (Trace.Finds.append_iff.1 hfinds).1
      cases hfound
      obtain ⟨block, hblock⟩ := Option.isSome_iff_exists.1 hcidr
      rw [hblock] at hrest
      exact Finishes.pure _ hrest (Trace.Finds.append_iff.1 hfinds).2
    · obtain ⟨_, hfound, -⟩ := fetchSubnet_finds hfetch hfinds
      cases hfound

theorem group_finishes (name : String) (known : Lookups) :
    Finishes answers (Lookups.group name known) := by
  intro s t r s' hrun hfinds
  unfold Lookups.group at hrun
  split at hrun
  · exact Finishes.pure _ hrun hfinds
  · rcases runs_bind.1 hrun with ⟨found, mid, first, rest, rfl, hfetch, hrest⟩ | ⟨e, -, hfetch⟩
    · obtain ⟨_, hfound, hsome⟩ := fetchGroup_finds hfetch (Trace.Finds.append_iff.1 hfinds).1
      cases hfound
      obtain ⟨group, rfl⟩ := Option.isSome_iff_exists.1 hsome
      exact Finishes.pure _ hrest (Trace.Finds.append_iff.1 hfinds).2
    · obtain ⟨_, hfound, -⟩ := fetchGroup_finds hfetch hfinds
      cases hfound

theorem matchesRule_finishes (direction : Direction) (protocol : Protocol)
    (remote : Desired.Remote) (live : Cloud.Rule) (known : Lookups) :
    Finishes answers (known.matchesRule direction protocol remote live) := by
  unfold matchesRule matchesRemote
  split
  · split
    · exact .pure _
    · exact .pure _
    · exact .pure _
    · exact .bind (cidr_finishes _ _) fun _ => .pure _
    · refine .status_bind fun s => ?_
      split
      · exact .pure _
      · split
        · exact .pure _
        · exact .bind (group_finishes _ _) fun _ => .pure _
    · exact .pure _
  · exact .pure _

theorem prototype_finishes (remote : Desired.Remote) (known : Lookups) :
    Finishes answers (known.prototype remote) := by
  unfold prototype
  split
  · exact .pure _
  · exact .pure _
  · exact .bind (cidr_finishes _ _) fun _ => .pure _
  · exact .bind (group_finishes _ _) fun _ => .pure _

end Lookups

/-- What the matcher can know in a pass: nothing at first, and then what it has come to know in
matching rules and in resolving remotes, with subnets and groups as in these answers. -/
inductive Lookups.Obtained (answers : Cloud.Answers) (s : Status) : Lookups → Prop
  | none : Obtained answers s none
  | matched {known known' : Lookups} {direction : Direction} {protocol : Protocol}
      {remote : Desired.Remote} {live : Cloud.Rule} {t : Trace} {found : Bool} :
      Obtained answers s known →
      (known.matchesRule direction protocol remote live).Runs s t (.ok (found, known')) s →
      (∀ exchange ∈ t, exchange.LooksUp answers) → Obtained answers s known'
  | resolved {known known' : Lookups} {remote : Desired.Remote} {t : Trace}
      {prototype : Cloud.RemotePrototype} :
      Obtained answers s known → (known.prototype remote).Runs s t (.ok (prototype, known')) s →
      (∀ exchange ∈ t, exchange.LooksUp answers) → Obtained answers s known'

theorem Lookups.Obtained.follows {known : Lookups} (h : Obtained answers s known) :
    known.Follows answers s := by
  induction h with
  | none => exact follows_none
  | matched _ hrun hlooksUp ih =>
    have hstands := Trace.stands_of_looksUp hlooksUp fun _ => []
    obtain ⟨-, -, hgoal, -⟩ := matchesRule_reads ih hrun hstands
    exact (hgoal _ rfl).2
  | resolved _ hrun hlooksUp ih =>
    have hstands := Trace.stands_of_looksUp hlooksUp fun _ => []
    obtain ⟨-, -, hgoal, -⟩ := prototype_reads ih hrun hstands
    exact (hgoal _ rfl).2

namespace Rules

theorem isSatisfied_finishes (direction : Direction) (protocol : Protocol)
    (remote : Desired.Remote) (live : List Cloud.Rule) (known : Lookups) :
    Finishes answers (isSatisfied direction protocol remote live known) := by
  induction live generalizing known with
  | nil => exact .pure _
  | cons rule rest ih =>
    refine .bind (Lookups.matchesRule_finishes _ _ _ _ _) fun found => ?_
    dsimp only
    split
    · exact .pure _
    · exact ih _

/-- What comes of a rule of which these remotes are missing: rules are asked for with them, one after
the other, and only a request that is not answered puts an end to it. -/
structure Supplies (answers : Cloud.Answers) (s : Status) (groupId : String)
    (direction : Direction) (protocol : Protocol) (missing : List Desired.Remote) (t : Trace)
    (r : Except Failure (Bool × Lookups)) : Prop where
  inOrder : t.requestedRules.map some <+:
    missing.map (answers.ruleFor? s groupId direction protocol)
  complete : ∀ kept known, r = .ok (kept, known) →
    t.requestedRules.map some = missing.map (answers.ruleFor? s groupId direction protocol) ∧
      (kept = true ↔ t.requestedRules = [])
  refused : ∀ e, r = .error e → ¬ t.Answered

variable {groupId : String} {direction : Direction} {protocol : Protocol}
  {missing : List Desired.Remote} {r : Except Failure (Bool × Lookups)} {first : Trace}

theorem Supplies.nothing (known : Lookups) :
    Supplies answers s groupId direction protocol [] [] (.ok (true, known)) := by
  refine ⟨List.prefix_rfl, ?_, nofun⟩
  rintro _ _ ⟨⟩
  exact ⟨rfl, by simp [Trace.requestedRules]⟩

theorem Supplies.after (h : Supplies answers s groupId direction protocol missing t r)
    (hfirst : first.ChangesNothing) :
    Supplies answers s groupId direction protocol missing (first ++ t) r := by
  have hrequested : (first ++ t).requestedRules = t.requestedRules := by
    rw [Trace.requestedRules_append, hfirst.requestedRules, List.nil_append]
  refine ⟨?_, ?_, fun e he hanswered => h.refused e he (Trace.answered_append.1 hanswered).2⟩
  · rw [hrequested]
    exact h.inOrder
  · rw [hrequested]
    exact h.complete

/-- A rule is created, and then the others are seen to. -/
theorem Supplies.created {remote : Desired.Remote} {wanted : Cloud.RemotePrototype}
    {rule : Cloud.Rule}
    (hremote : answers.prototype? s remote = some wanted)
    (h : Supplies answers s groupId direction protocol missing t r) :
    Supplies answers s groupId direction protocol (remote :: missing)
      (⟨.createRule groupId ⟨direction, protocol, wanted⟩, .answer rule⟩ :: t)
      (r.map fun result => (false, result.2)) := by
  have hfor : answers.ruleFor? s groupId direction protocol remote =
      some (groupId, ⟨direction, protocol, wanted⟩) := by
    rw [Cloud.Answers.ruleFor?, hremote]
    rfl
  refine ⟨?_, ?_, ?_⟩
  · rw [List.map_cons, hfor]
    exact List.cons_prefix_cons.2 ⟨rfl, h.inOrder⟩
  · intro kept known hok
    cases r with
    | ok result =>
      cases hok
      obtain ⟨hall, -⟩ := h.complete result.1 result.2 rfl
      rw [List.map_cons, hfor, ← hall]
      exact ⟨rfl, by simp [Trace.requestedRules]⟩
    | error e => cases hok
  · intro e he hanswered
    cases r with
    | ok result => cases he
    | error e => exact h.refused e rfl (Trace.answered_cons.1 hanswered).2

/-- The rule is asked for in vain. -/
theorem Supplies.denied {remote : Desired.Remote} {wanted : Cloud.RemotePrototype}
    {reply : Cloud.Reply Cloud.Rule} {e : Failure}
    (hremote : answers.prototype? s remote = some wanted) (hreply : ∀ rule, reply ≠ .answer rule) :
    Supplies answers s groupId direction protocol (remote :: missing)
      [⟨.createRule groupId ⟨direction, protocol, wanted⟩, reply⟩] (.error e) := by
  have hfor : answers.ruleFor? s groupId direction protocol remote =
      some (groupId, ⟨direction, protocol, wanted⟩) := by
    rw [Cloud.Answers.ruleFor?, hremote]
    rfl
  refine ⟨?_, nofun, fun _ _ hanswered => ?_⟩
  · rw [List.map_cons, hfor]
    exact List.cons_prefix_cons.2 ⟨rfl, List.nil_prefix⟩
  · obtain ⟨⟨rule, hrule⟩, -⟩ := Trace.answered_cons.1 hanswered
    exact hreply rule hrule

variable {known : Lookups} {group : Identified} {live : List Cloud.Rule} {remote : Desired.Remote}

/-- The search for a rule that satisfies the remote ends well and with the right result. -/
theorem isSatisfied_decides {r : Except Failure (Bool × Lookups)}
    (hknown : known.Follows answers s)
    (hrun : (isSatisfied direction protocol remote live known).Runs s t r s')
    (hfinds : t.Finds answers) :
    ∃ found known', r = .ok (found, known') ∧ s' = s ∧ t.ChangesNothing ∧
      known'.Follows answers s ∧
      (found = true ↔ ∃ one ∈ live, one.Satisfies answers s direction protocol remote) := by
  obtain ⟨⟨found, known'⟩, rfl⟩ := isSatisfied_finishes direction protocol remote live known hrun hfinds
  have hstands := Trace.stands_of_looksUp (fun _ => hfinds.looksUp) fun _ => []
  obtain ⟨hsame, hnothing, hgoal, -⟩ := isSatisfied_reads hknown hrun hstands
  obtain ⟨hfits, hknown'⟩ := hgoal _ rfl
  exact ⟨found, known', rfl, hsame, hnothing, hknown', Cloud.Answers.anyFits?_iff hfits⟩

/-- The remote is resolved, and then a rule is asked for with it. -/
theorem createRule_asks {r : Except Failure Lookups} (hknown : known.Follows answers s)
    (hrun : (createRule group direction protocol remote known).Runs s t r s')
    (hfinds : t.Finds answers) :
    ∃ (look : Trace) (wanted : _) (reply : Cloud.Reply Cloud.Rule) (known' : _),
      t = look ++ [⟨.createRule group.id ⟨direction, protocol, wanted⟩, reply⟩] ∧
      look.ChangesNothing ∧ answers.prototype? s remote = some wanted ∧
      known'.Follows answers s ∧ s' = s ∧
      ((∃ rule, reply = .answer rule ∧ r = .ok known') ∨
        (∀ rule, reply ≠ .answer rule) ∧ ∃ e, r = .error e) := by
  rcases runs_bind.1 hrun with
    ⟨⟨wanted, known'⟩, mid, look, rest, rfl, hlook, hrest⟩ | ⟨e, -, hlook⟩
  · have hfinds := (Trace.Finds.append_iff.1 hfinds).1
    have hstands := Trace.stands_of_looksUp (fun _ => hfinds.looksUp) fun _ => []
    obtain ⟨rfl, hnothing, hgoal, -⟩ := Lookups.prototype_reads hknown hlook hstands
    obtain ⟨hwanted, hknown'⟩ := hgoal _ rfl
    rcases runs_call_bind.1 hrest with ⟨rule, last, rfl, hend⟩ | ⟨reply, e, rfl, hreply, rfl, rfl⟩
    · obtain ⟨rfl, rfl, rfl⟩ := runs_pure.1 hend
      exact ⟨look, wanted, _, known', rfl, hnothing, hwanted, hknown', rfl, .inl ⟨rule, rfl, rfl⟩⟩
    · refine ⟨look, wanted, reply, known', rfl, hnothing, hwanted, hknown', rfl, .inr ⟨?_, e, rfl⟩⟩
      rintro rule rfl
      cases hreply
  · obtain ⟨_, hok⟩ := Lookups.prototype_finishes remote known hlook hfinds
    cases hok

/-- By induction on the remotes: what one of them has made known is no more than what the answers say,
so it leaves open which of the others are missing. -/
theorem enforceRemotes_supplies {remotes : List Desired.Remote}
    (hknown : known.Follows answers s)
    (hrun : (enforceRemotes group direction protocol live remotes known).Runs s t r s')
    (hfinds : t.Finds answers) :
    Supplies answers s group.id direction protocol
      (answers.missing s direction protocol live remotes) t r := by
  induction remotes generalizing known t r with
  | nil =>
    obtain ⟨rfl, rfl, -⟩ := runs_pure.1 hrun
    exact .nothing known
  | cons remote rest ih =>
    rcases runs_bind.1 hrun with ⟨⟨found, known₁⟩, mid, t₁, t₂, rfl, hsearch, hrest⟩ | ⟨e, -, hsearch⟩
    · obtain ⟨hfinds₁, hfinds₂⟩ := Trace.Finds.append_iff.1 hfinds
      obtain ⟨_, _, hfound, hmid, hnothing, hknown₁, hiff⟩ :=
        isSatisfied_decides hknown hsearch hfinds₁
      cases hfound
      obtain rfl := hmid.symm
      refine Supplies.after ?_ hnothing
      cases found with
      | true =>
        rw [Cloud.Answers.missing_cons_of_satisfied (hiff.1 rfl)]
        exact ih hknown₁ hrest hfinds₂
      | false =>
        have hunsatisfied := mt hiff.2 Bool.false_ne_true
        rw [Cloud.Answers.missing_cons_of_unsatisfied hunsatisfied]
        dsimp only at hrest
        rw [if_neg Bool.false_ne_true] at hrest
        rcases runs_bind.1 hrest with
          ⟨known₂, mid', t₃, t₄, rfl, hcreate, hothers⟩ | ⟨e, rfl, hcreate⟩
        · obtain ⟨hfinds₃, hfinds₄⟩ := Trace.Finds.append_iff.1 hfinds₂
          obtain ⟨look, wanted, reply, known', rfl, hlook, hwanted, hknown', hmid, hreply⟩ :=
            createRule_asks hknown₁ hcreate hfinds₃
          obtain rfl := hmid.symm
          rcases hreply with ⟨rule, rfl, hok⟩ | ⟨-, e, he⟩
          · cases hok
            obtain ⟨result, rfl, hsupplied⟩ := runs_bind_pure.1 hothers
            rw [List.append_assoc]
            exact ((ih hknown' hsupplied hfinds₄).created hwanted).after hlook
          · cases he
        · obtain ⟨look, wanted, reply, known', rfl, hlook, hwanted, -, -, hreply⟩ :=
            createRule_asks hknown₁ hcreate hfinds₂
          rcases hreply with ⟨rule, -, hok⟩ | ⟨hreply, -⟩
          · cases hok
          · exact (Supplies.denied hwanted hreply).after hlook
    · obtain ⟨_, hok⟩ := isSatisfied_finishes _ _ _ _ _ hsearch hfinds
      cases hok

theorem enforceRule_supplies {rule : Desired.Rule} {listed : List Cloud.Rule}
    (hknown : known.Follows answers s)
    (hrun : (enforceRule group rule known).Runs s
      (⟨.listRules group.id, .answer listed⟩ :: t) r s')
    (hfinds : t.Finds answers) :
    Supplies answers s group.id rule.direction rule.body.protocol
      (answers.missing s rule.direction rule.body.protocol listed rule.body.remotes) t r := by
  rcases runs_call_bind.1 hrun with ⟨answer, rest, ht, hremotes⟩ | ⟨reply, e, ht, hreply, -, -⟩
  · cases ht
    exact enforceRemotes_supplies hknown hremotes hfinds
  · cases ht
    cases hreply

/-- What is missing decides both what is asked for and how the rule ends. -/
theorem Supplies.same {u : Trace} {q : Except Failure (Bool × Lookups)}
    (h : Supplies answers s groupId direction protocol missing t r) (ht : t.Answered)
    (hother : Supplies answers s groupId direction protocol missing u q) (hu : u.Answered) :
    u.requestedRules = t.requestedRules ∧ q.map (·.1) = r.map (·.1) := by
  cases r with
  | error e => exact absurd ht (h.refused e rfl)
  | ok result =>
    cases q with
    | error e => exact absurd hu (hother.refused e rfl)
    | ok other =>
      obtain ⟨hall, hkept⟩ := h.complete result.1 result.2 rfl
      obtain ⟨hall', hkept'⟩ := hother.complete other.1 other.2 rfl
      have hrequested : u.requestedRules = t.requestedRules :=
        List.map_inj_right (fun _ _ => Option.some.inj) |>.1 (hall'.trans hall.symm)
      refine ⟨hrequested, congrArg Except.ok (Bool.eq_iff_iff.2 ?_)⟩
      rw [hkept, hkept', hrequested]

/-- Once the rules are listed, and if all look-ups succeed, a rule is asked for with each of the
remotes that no listed rule satisfies, and with no other. In which order the rules are listed does not
matter, nor what is known already. -/
theorem enforceRule_creates_missing {rule : Desired.Rule} {listed : List Cloud.Rule}
    (hknown : known.Obtained answers s)
    (hrun : (enforceRule group rule known).Runs s
      (⟨.listRules group.id, .answer listed⟩ :: t) r s')
    (hfinds : t.Finds answers) :
    Supplies answers s group.id rule.direction rule.body.protocol
      (answers.missing s rule.direction rule.body.protocol listed rule.body.remotes) t r ∧
    ∀ {other : List Cloud.Rule} {known' : Lookups} {u : Trace} {q} {s'' : Status},
      other.Perm listed → known'.Obtained answers s →
      (enforceRule group rule known').Runs s
        (⟨.listRules group.id, .answer other⟩ :: u) q s'' →
      u.Finds answers → t.Answered → u.Answered →
      u.requestedRules = t.requestedRules ∧ q.map (·.1) = r.map (·.1) := by
  have hsupplies := enforceRule_supplies hknown.follows hrun hfinds
  refine ⟨hsupplies, fun hperm hknown' hrun' hfinds' ht hu => ?_⟩
  have hother := enforceRule_supplies hknown'.follows hrun' hfinds'
  rw [Cloud.Answers.missing_perm hperm] at hother
  exact hsupplies.same ht hother hu

/-! ### A rule with two remotes missing -/

/-- It holds a subnet and a group that a rule refers to. -/
def mixedAccount : Simulation.Account :=
  { Simulation.Account.empty with
    subnets :=
      [{ id := "3", name := "x", crn := "", zone := "z", cidr := some "10.0.0.0/24"
         state := .available }]
    securityGroups := [{ id := "9", name := "h", crn := "c" }] }

/-- All TCP ports, for anyone, for a subnet, for a group and for a single address. -/
def mixedRule : Desired.Rule :=
  { direction := .inbound
    body := ⟨.ports .tcp none, [.any, .subnet "x", .group "h", .address "192.0.2.1"]⟩ }

def mixedGroup : Identified :=
  { id := "4", name := "g", rules := [mixedRule] }

/-- The first is for anyone, and the other one shows nothing of its group but the CRN. -/
def mixedListed : List Cloud.Rule :=
  [{ id := "5", direction := .inbound, remote := .ip anyBlock, traffic := .ports .tcp (some 1) none },
    { id := "6", direction := .inbound, remote := .group none none (some "c")
      traffic := .ports .tcp none none }]

/-- The subnet has been resolved before. -/
def mixedKnown : Lookups :=
  ⟨Table.empty.insert "x" "10.0.0.0/24", .empty⟩

def mixedRequest (remote : Cloud.RemotePrototype) : Exchange :=
  ⟨.createRule "4" ⟨.inbound, .ports .tcp none, remote⟩,
    .answer { id := "7", direction := .inbound, remote := .cidr "", traffic := .all }⟩

def mixedTrace : Trace :=
  [mixedRequest (.cidr "10.0.0.0/24"),
    ⟨.findSecurityGroup "h", .answer (some { id := "9", name := "h", crn := "c" })⟩,
    mixedRequest (.address "192.0.2.1")]

theorem mixedKnown_obtained : mixedKnown.Obtained mixedAccount.still .empty := by
  have hrun : (Lookups.none.prototype (.subnet "x")).Runs .empty
      [⟨.findSubnet "x", .answer (mixedAccount.still (.findSubnet "x"))⟩]
      (.ok (.cidr "10.0.0.0/24", mixedKnown)) .empty := .ask (.done _)
  exact .resolved .none hrun (List.forall_mem_singleton.2 rfl)

theorem mixedTrace_finds : mixedTrace.Finds mixedAccount.still :=
  List.forall_mem_cons.2 ⟨trivial, List.forall_mem_cons.2
    ⟨⟨rfl, rfl⟩, List.forall_mem_singleton.2 trivial⟩⟩

theorem mixedRule_runs (listed : List Cloud.Rule)
    (h : listed = mixedListed ∨ listed = mixedListed.reverse) :
    ∃ known, (enforceRule mixedGroup mixedRule mixedKnown).Runs .empty
      (⟨.listRules "4", .answer listed⟩ :: mixedTrace) (.ok (false, known)) .empty := by
  rcases h with rfl | rfl
  · exact ⟨_, .ask (.ask (.ask (.ask (.done _))))⟩
  · exact ⟨_, .ask (.ask (.ask (.ask (.done _))))⟩

/-- Just the subnet and the single address get a rule, whichever of the two rules is listed first. -/
theorem enforceRule_creates_missing_mixed :
    mixedKnown.Obtained mixedAccount.still .empty ∧ mixedTrace.Finds mixedAccount.still ∧
    (∃ known, (enforceRule mixedGroup mixedRule mixedKnown).Runs .empty
      (⟨.listRules "4", .answer mixedListed⟩ :: mixedTrace) (.ok (false, known)) .empty) ∧
    mixedTrace.requestedRules.map some =
      [Desired.Remote.subnet "x", .address "192.0.2.1"].map
        (mixedAccount.still.ruleFor? .empty "4" .inbound (.ports .tcp none)) ∧
    ∀ (u : Trace) (q : Except Failure (Bool × Lookups)) (s'' : Status),
      (enforceRule mixedGroup mixedRule mixedKnown).Runs .empty
        (⟨.listRules "4", .answer mixedListed.reverse⟩ :: u) q s'' → u.Finds mixedAccount.still →
      u.Answered → u.requestedRules = mixedTrace.requestedRules ∧ q.map (·.1) = .ok false := by
  obtain ⟨known, hrun⟩ := mixedRule_runs _ (.inl rfl)
  obtain ⟨hsupplies, hperm⟩ :=
    enforceRule_creates_missing mixedKnown_obtained hrun mixedTrace_finds
  refine ⟨mixedKnown_obtained, mixedTrace_finds, ⟨known, hrun⟩, ?_, fun u q s'' hother hfinds hu => ?_⟩
  · exact (hsupplies.complete _ _ rfl).1
  · exact hperm (List.reverse_perm _) mixedKnown_obtained hother hfinds
      (by simp [mixedTrace, mixedRequest]) hu

end Rules

end Pass

end VpcOperator
