import VpcOperator.Proofs.Firewall.Identity

/-! # Where the rules of a group go

Pass after pass the rules of a declared group are listed and created for the
same group in the account, unless a group that is declared by ID alone has the
name of another.
-/

namespace VpcOperator

open Observed (Status)

theorem Observed.Status.find?_of_no_entries {s : Status} {name : String}
    (h : s.entries .securityGroups = []) : s.find? .securityGroups name = none := by
  cases hnetwork : s.network with
  | none => simp [find?, hnetwork]
  | some network =>
    have hentries : network.securityGroups.entries = [] := by simpa [entries, hnetwork] using h
    simp [find?, hnetwork, Table.find?, hentries]

namespace Pass.Groups

open Rules (Identified)

variable {plan : Plan} {group : Desired.SecurityGroup} {ident : String → String}
  {roster last : Roster} {s s' : Status} {t : Trace}

/-! ## Requests about rules -/

/-- The group that a request lists or creates rules of. -/
@[simp] def ruleGroupId? : Cloud.Request → Option String
  | .listRules groupId => some groupId
  | .createRule groupId _ => some groupId
  | _ => none

/-- The exchange belongs to the rules of this declared group: they are enforced after those of all
groups declared before it. -/
inductive MadeFor (plan : Plan) (s : Status) (group : Desired.SecurityGroup) (exchange : Exchange) :
    Trace → Prop
  | intro {earlier later : List Desired.SecurityGroup} {others more : List Identified}
      {one : Identified} {mid : Status} {identifying before mine after : Trace} {kept : Bool}
      {known : Lookups} {result : Except Failure (Bool × Lookups)} :
      plan.spec.network.securityGroups = earlier ++ group :: later →
      others.length = earlier.length →
      (identifyAll plan plan.spec.network.securityGroups).Runs s identifying
        (.ok (others ++ one :: more, false)) mid →
      (Rules.enforceAll others .none).Runs mid before (.ok (kept, known)) mid →
      (Rules.enforceRules one one.rules known).Runs mid mine result mid →
      exchange ∈ mine →
      MadeFor plan s group exchange (identifying ++ before ++ mine ++ after)

/-- Rules are listed and created for this group only. -/
def Addressed (groupId : String) : Effect := fun _ t _ =>
  ∀ exchange ∈ t, ∀ id, ruleGroupId? exchange.request = some id → id = groupId

instance (groupId : String) : Composes (Addressed groupId) where
  nil s := by simp [Addressed]
  append h₁ h₂ exchange hmem := by
    rcases List.mem_append.1 hmem with hmem | hmem
    · exact h₁ exchange hmem
    · exact h₂ exchange hmem

theorem addressed_of_does {groupId : String} {parts : List Observed.Part} {looks makes : List Kind}
    (h : Does parts looks makes s t s') (hlooks : .securityGroupRule ∉ looks)
    (hmakes : .securityGroupRule ∉ makes) : Addressed groupId s t s' := by
  intro exchange hmem id hid
  have hkind : exchange.request.kind = .securityGroupRule := by
    cases hrequest : exchange.request <;> simp [hrequest] at hid ⊢
  have hasks := h.asks exchange hmem
  rw [hkind] at hasks
  split at hasks
  · exact absurd hasks hmakes
  · exact absurd hasks hlooks

theorem asks_addressed {target groupId : String} {request : Cloud.Request}
    (h : ruleGroupId? request = some groupId) :
    Always (Addressed groupId) (call target request) := by
  refine .call fun _ reply exchange hmem id hid => ?_
  obtain rfl := List.mem_singleton.1 hmem
  exact Option.some_inj.1 (hid.symm.trans h)

theorem enforceRules_addressed (group : Identified) (rules : List Desired.Rule) (known : Lookups) :
    Always (Addressed group.id) (Rules.enforceRules group rules known) := by
  have hremotes : ∀ direction protocol live remotes known,
      Always (Addressed group.id)
        (Rules.enforceRemotes group direction protocol live remotes known) := by
    intro direction protocol live remotes known
    induction remotes generalizing known with
    | nil => exact .pure _
    | cons remote rest ih =>
      refine .bind ((Rules.isSatisfied_does _ _ _ _ _).mono fun h =>
        addressed_of_does h (by simp) (by simp)) fun found => ?_
      dsimp only
      split
      · exact ih _
      · refine .bind (.bind ((Lookups.prototype_does _ _).mono fun h =>
          addressed_of_does h (by simp) (by simp)) fun _ => ?_) fun known => ?_
        · exact .bind (asks_addressed rfl) fun _ => .pure _
        · exact .bind (ih known) fun _ => .pure _
  induction rules generalizing known with
  | nil => exact .pure _
  | cons rule rest ih =>
    exact .bind (.bind (asks_addressed rfl) fun _ => hremotes _ _ _ _ _) fun _ =>
      .bind (ih _) fun _ => .pure _

theorem MadeFor.addressed {exchange : Exchange} {groupId : String}
    (h : MadeFor plan s group exchange t)
    (hdistinct : DistinctNames plan.spec.network.securityGroups)
    (hfollows : Roster.Follows roster t last) (hlast : ∀ live ∈ last, ident live.name = live.id)
    (hsorted : Sorted plan.spec.network.securityGroups ident roster s)
    (hid : ruleGroupId? exchange.request = some groupId) : groupId = identity ident group := by
  cases h with
  | @intro earlier later others more one mid identifying before mine after kept known result
      hdeclared hlength hall _ hmine hmem =>
    rw [List.append_assoc, List.append_assoc] at hfollows
    obtain ⟨next, hfirst, hrest⟩ := Roster.follows_append.1 hfollows
    have hnext : ∀ live ∈ next, ident live.name = live.id :=
      fun live hlive => hlast live (hrest.subset hlive)
    obtain ⟨-, hids⟩ :=
      identifyAll_identified hall (List.Subset.refl _) hdistinct hfirst hnext hsorted
    have hmap := hids _ rfl
    rw [hdeclared, List.map_append, List.map_append, List.map_cons, List.map_cons] at hmap
    obtain ⟨-, htail⟩ := List.append_inj hmap (by simp [hlength])
    obtain ⟨hone, -⟩ := List.cons_eq_cons.1 htail
    rw [← hone]
    exact enforceRules_addressed one one.rules known hmine exchange hmem groupId hid

/-- The exchange is part of what is done for the rules of one of these groups; those before it have
been seen to. -/
inductive MadeAmong (s : Status) (exchange : Exchange) (known : Lookups) :
    List Identified → Trace → Prop
  | intro {others more : List Identified} {one : Identified} {before mine after : Trace}
      {kept : Bool} {known' : Lookups} {result : Except Failure (Bool × Lookups)} :
      (Rules.enforceAll others known).Runs s before (.ok (kept, known')) s →
      (Rules.enforceRules one one.rules known').Runs s mine result s →
      exchange ∈ mine → MadeAmong s exchange known (others ++ one :: more) (before ++ mine ++ after)

theorem MadeAmong.head {one : Identified} {rest : List Identified} {known : Lookups}
    {exchange : Exchange} {mine : Trace} {result : Except Failure (Bool × Lookups)}
    (hmine : (Rules.enforceRules one one.rules known).Runs s mine result s')
    (hmem : exchange ∈ mine) (after : Trace) :
    MadeAmong s exchange known (one :: rest) (mine ++ after) := by
  obtain rfl : s' = s := Rules.enforceRules_quiet _ _ _ hmine
  have hnone : (Rules.enforceAll [] known).Runs s' [] (.ok (true, known)) s' :=
    runs_pure_ok.2 ⟨rfl, rfl, rfl⟩
  have hmade : MadeAmong s' exchange known ([] ++ one :: rest) ([] ++ mine ++ after) :=
    .intro hnone hmine hmem
  exact hmade

theorem enforceAll_made {found : List Identified} {known : Lookups} {exchange : Exchange}
    {r : Except Failure (Bool × Lookups)} (hrun : (Rules.enforceAll found known).Runs s t r s')
    (hmem : exchange ∈ t) : MadeAmong s exchange known found t := by
  induction found generalizing known t r with
  | nil =>
    obtain ⟨rfl, -, -⟩ := runs_pure.1 hrun
    cases hmem
  | cons one rest ih =>
    rcases runs_bind.1 hrun with ⟨⟨kept, known₁⟩, mid, t₁, t₂, rfl, hone, hrest⟩ | ⟨e, rfl, hone⟩
    · rcases List.mem_append.1 hmem with hmem | hmem
      · exact .head hone hmem t₂
      · obtain rfl : mid = s := Rules.enforceRules_quiet _ _ _ hone
        obtain ⟨result, -, hothers⟩ := runs_bind_pure.1 hrest
        cases ih hothers hmem with
        | @intro others more other before mine after kept' known' _ hbefore hmine hwithin =>
          have hall : (Rules.enforceAll (one :: others) known).Runs mid (t₁ ++ before)
              (.ok (kept && kept', known')) mid :=
            runs_bind_ok.2 ⟨_, mid, t₁, before, rfl, hone,
              runs_bind_pure.2 ⟨.ok (kept', known'), rfl, hbefore⟩⟩
          rw [← List.append_assoc, ← List.append_assoc]
          have hmade : MadeAmong mid exchange known ((one :: others) ++ other :: more)
              (t₁ ++ before ++ mine ++ after) :=
            .intro hall hmine hwithin
          exact hmade
    · rw [← List.append_nil t]
      exact .head hone hmem []

/-- A request about rules is made for one of the declared groups. -/
theorem step_madeFor {exchange : Exchange} {r : Except Failure Outcome}
    (hrun : (step plan).Runs s t r s') (hmem : exchange ∈ t)
    (hkind : exchange.request.kind = .securityGroupRule) :
    ∃ group ∈ plan.spec.network.securityGroups, MadeFor plan s group exchange t := by
  have hidentifying : ∀ {t result s'},
      (identifyAll plan plan.spec.network.securityGroups).Runs s t result s' → exchange ∉ t :=
    fun hall hmem => identifyAll_no_rules hall exchange hmem hkind
  rcases step_cases hrun with ⟨e, -, hall⟩ | ⟨found, -, hall⟩ |
    ⟨found, first, rest, result, rfl, -, hall, henforce⟩
  · exact absurd hmem (hidentifying hall)
  · exact absurd hmem (hidentifying hall)
  · have hmem := (List.mem_append.1 hmem).resolve_left (hidentifying hall)
    cases enforceAll_made henforce hmem with
    | @intro others more one before mine after kept known _ hbefore hmine hwithin =>
      have hrules := identifyAll_rules hall
      rw [List.map_append, List.map_cons] at hrules
      obtain ⟨earlier, tail, hdeclared, hearlier, htail⟩ := List.map_eq_append_iff.1 hrules.symm
      obtain ⟨group, later, rfl, -, -⟩ := List.map_eq_cons_iff.1 htail
      have hlength : others.length = earlier.length := by
        simpa using (congrArg List.length hearlier).symm
      refine ⟨group, by simp [hdeclared], ?_⟩
      rw [← List.append_assoc, ← List.append_assoc]
      exact .intro hdeclared hlength hall hbefore hmine hwithin

/-! ## Pass after pass -/

/-- Passes over the security groups, each with its status and exchanges. Between them nobody writes
the shelf of the groups, and the account keeps the groups it has. -/
inductive Rounds (plan : Plan) : Roster → Status → List (Status × Trace) → Roster → Prop
  | nil (roster : Roster) (s : Status) : Rounds plan roster s [] roster
  | cons {roster next last : Roster} {s start s' : Status} {t : Trace} {r : Except Failure Outcome}
      {rest : List (Status × Trace)} :
      Status.Same (.shelf .securityGroups) s start → (step plan).Runs start t r s' →
      Roster.Follows roster t next → Rounds plan next s' rest last →
      Rounds plan roster s ((start, t) :: rest) last

theorem Rounds.follows {rounds : List (Status × Trace)} (h : Rounds plan roster s rounds last) :
    ∃ t, Roster.Follows roster t last := by
  induction h with
  | nil roster s => exact ⟨[], .nil roster⟩
  | cons _ _ hfollows _ ih =>
    obtain ⟨rest, hrest⟩ := ih
    exact ⟨_, Roster.follows_append.2 ⟨_, hfollows, hrest⟩⟩

theorem Rounds.addressed {rounds : List (Status × Trace)} (h : Rounds plan roster s rounds last)
    (hdistinct : DistinctNames plan.spec.network.securityGroups)
    (hlast : ∀ live ∈ last, ident live.name = live.id)
    (hsorted : Sorted plan.spec.network.securityGroups ident roster s) :
    ∀ round ∈ rounds,
      (∀ exchange ∈ round.2, exchange.request.kind = .securityGroupRule →
        ∃ group ∈ plan.spec.network.securityGroups, MadeFor plan round.1 group exchange round.2) ∧
      ∀ group exchange groupId, MadeFor plan round.1 group exchange round.2 →
        ruleGroupId? exchange.request = some groupId → groupId = identity ident group := by
  induction h with
  | nil => exact fun _ hmem => nomatch hmem
  | @cons roster next last s start s' t r rest hsame hrun hfollows hrest ih =>
    -- A group of this round is still there in the end, so its name leads to it already now.
    obtain ⟨later, hlater⟩ := hrest.follows
    have hnext : ∀ live ∈ next, ident live.name = live.id :=
      fun live hlive => hlast live (hlater.subset hlive)
    have hstart : Sorted plan.spec.network.securityGroups ident roster start := by
      refine ⟨hsorted.named, hsorted.clear, fun group hgroup name entry hname hfind => ?_⟩
      rw [hsame.find?] at hfind
      exact hsorted.filed group hgroup name entry hname hfind
    refine List.forall_mem_cons.2 ⟨⟨fun exchange hmem hkind => step_madeFor hrun hmem hkind,
      fun group exchange groupId hmade hid =>
        hmade.addressed hdistinct hfollows hnext hstart hid⟩, ?_⟩
    exact ih hlast (step_sorted hrun hdistinct hfollows hnext hstart)

/-- From a status without groups, the rules of a declared group stay with one group in the account,
pass after pass: with the one that has the declared ID, if there is one. -/
theorem rules_stay_with_their_group {rounds : List (Status × Trace)}
    (h : Rounds plan roster s rounds last)
    (hdistinct : DistinctNames plan.spec.network.securityGroups)
    (hnames : (roster.map (·.name)).Nodup)
    (hclear : Clear plan.spec.network.securityGroups roster)
    (hempty : s.entries .securityGroups = []) :
    ∃ ident : String → String, ∀ round ∈ rounds,
      (∀ exchange ∈ round.2, exchange.request.kind = .securityGroupRule →
        ∃ group ∈ plan.spec.network.securityGroups, MadeFor plan round.1 group exchange round.2) ∧
      ∀ group exchange groupId, MadeFor plan round.1 group exchange round.2 →
        ruleGroupId? exchange.request = some groupId → groupId = identity ident group := by
  obtain ⟨t, hfollows⟩ := h.follows
  have hlast := idOf_name (hfollows.nodup hnames)
  have hnamed : ∀ live ∈ roster, idOf last live.name = live.id :=
    fun live hlive => hlast live (hfollows.subset hlive)
  refine ⟨idOf last, h.addressed hdistinct hlast ⟨hnamed, hclear, ?_⟩⟩
  intro group _ name entry _ hfind
  rw [Status.find?_of_no_entries hempty] at hfind
  cases hfind

/-- The first group is declared by its ID, the second by a name that nothing in the account has
yet. -/
def newcomerPlan : Plan :=
  onlyGroups [{ id := some "4", name := none, rules := [] }, onlyGroup [.any]]

def newcomerRoster : Roster :=
  [{ id := "4", name := "h", crn := "" }]

def newcomerStart : Status :=
  (Status.empty.putResourceGroup ⟨"1", none⟩).put .vpc "" ⟨"2", "v", true⟩

/-- Both groups are known now. -/
def newcomerKept : Status :=
  (newcomerStart.put .securityGroups "h" ⟨"4", "h", true⟩).put .securityGroups "g" ⟨"5", "g", true⟩

def newcomerTrace : Trace :=
  [⟨.getSecurityGroup "4", .answer (some { id := "4", name := "h", crn := "" })⟩,
    ⟨.findSecurityGroup "g", .answer none⟩,
    ⟨.createSecurityGroup ⟨"g", "2", "1"⟩, .answer { id := "5", name := "g", crn := "crn" }⟩,
    ⟨.listTags, .answer ["a"]⟩,
    ⟨.attachTag "a" "crn", .answer ()⟩]

/-- The group is created in the first pass, and its rules are listed in the second. -/
theorem newcomer_rounds :
    Rounds newcomerPlan newcomerRoster newcomerStart
      [(newcomerStart, newcomerTrace), (newcomerKept, [⟨.listRules "5", .aborted⟩])]
      ({ id := "5", name := "g", crn := "crn" } :: newcomerRoster) := by
  have hfirst : (step newcomerPlan).Runs newcomerStart newcomerTrace (.ok .requeue) newcomerKept :=
    .ask (.ask (.ask (.ask (.ask (.done _)))))
  have hnext : ∃ r s', (step newcomerPlan).Runs newcomerKept [⟨.listRules "5", .aborted⟩] r s' :=
    ⟨_, _, .ask (.done _)⟩
  obtain ⟨r, s', hnext⟩ := hnext
  have hlooked : newcomerRoster.Admits
      ⟨.getSecurityGroup "4", .answer (some { id := "4", name := "h", crn := "" })⟩
      newcomerRoster := by
    refine .kept ?_ nofun nofun
    rintro _ _ ⟨⟩
    exact ⟨List.mem_cons_self, rfl⟩
  have hmissed : newcomerRoster.Admits ⟨.findSecurityGroup "g", .answer none⟩ newcomerRoster := by
    refine .kept nofun ?_ nofun
    rintro _ _ ⟨⟩
    simp [newcomerRoster, Cloud.Finds]
  have hcreated : newcomerRoster.Admits
      ⟨.createSecurityGroup ⟨"g", "2", "1"⟩, .answer { id := "5", name := "g", crn := "crn" }⟩
      ({ id := "5", name := "g", crn := "crn" } :: newcomerRoster) := by
    refine .created rfl (by decide) ⟨by decide, by decide⟩ ?_
    rintro _ ⟨⟩
    rfl
  have hfollows : newcomerRoster.Follows newcomerTrace
      ({ id := "5", name := "g", crn := "crn" } :: newcomerRoster) :=
    .cons hlooked (.cons hmissed (.cons hcreated
      (.cons (.other (by simp)) (.cons (.other (by simp)) (.nil _)))))
  have hlists : Roster.Follows ({ id := "5", name := "g", crn := "crn" } :: newcomerRoster)
      [⟨.listRules "5", .aborted⟩] ({ id := "5", name := "g", crn := "crn" } :: newcomerRoster) :=
    .cons (.other (by simp)) (.nil _)
  exact .cons (.refl _ _) hfirst hfollows (.cons (.refl _ _) hnext hlists (.nil _ _))

theorem rules_stay_with_their_group_newcomer :
    DistinctNames newcomerPlan.spec.network.securityGroups ∧
    (newcomerRoster.map (·.name)).Nodup ∧
    Clear newcomerPlan.spec.network.securityGroups newcomerRoster ∧
    newcomerStart.entries .securityGroups = [] ∧
    ∃ ident : String → String,
      ∀ round ∈ [(newcomerStart, newcomerTrace), (newcomerKept, [⟨.listRules "5", .aborted⟩])],
      (∀ exchange ∈ round.2, exchange.request.kind = .securityGroupRule →
        ∃ group ∈ newcomerPlan.spec.network.securityGroups,
          MadeFor newcomerPlan round.1 group exchange round.2) ∧
      ∀ group exchange groupId, MadeFor newcomerPlan round.1 group exchange round.2 →
        ruleGroupId? exchange.request = some groupId → groupId = identity ident group := by
  have hdistinct : DistinctNames newcomerPlan.spec.network.securityGroups := by
    unfold DistinctNames
    decide
  have hclear : Clear newcomerPlan.spec.network.securityGroups newcomerRoster := by
    intro live hlive unnamed _ _ _ named hnamed hname
    obtain rfl := List.mem_singleton.1 hlive
    simp only [newcomerPlan, onlyGroups, List.mem_cons, List.not_mem_nil, or_false] at hnamed
    rcases hnamed with rfl | rfl <;> simp [given?, onlyGroup] at hname
  exact ⟨hdistinct, by decide, hclear, rfl,
    rules_stay_with_their_group newcomer_rounds hdistinct (by decide) hclear rfl⟩

/-- The first group is declared by its ID, and the account has it under the name of the second. -/
def mixedPlan : Plan :=
  onlyGroups [{ id := some "4", name := none, rules := [] },
    { onlyGroup [.any] with id := some "5" }]

def mixedRoster : Roster :=
  [{ id := "4", name := "g", crn := "" }, { id := "5", name := "h", crn := "" }]

def mixedTrace : Trace :=
  [⟨.getSecurityGroup "4", .answer (some { id := "4", name := "g", crn := "" })⟩,
    ⟨.listRules "4", .aborted⟩]

theorem mixed_rounds : Rounds mixedPlan mixedRoster .empty [(.empty, mixedTrace)] mixedRoster := by
  have hrun : ∃ r s', (step mixedPlan).Runs .empty mixedTrace r s' :=
    ⟨_, _, .ask (.ask (.done _))⟩
  obtain ⟨r, s', hrun⟩ := hrun
  have hlooked : mixedRoster.Admits
      ⟨.getSecurityGroup "4", .answer (some { id := "4", name := "g", crn := "" })⟩
      mixedRoster := by
    refine .kept ?_ nofun nofun
    rintro _ _ ⟨⟩
    exact ⟨List.mem_cons_self, rfl⟩
  have hfollows : mixedRoster.Follows mixedTrace mixedRoster :=
    .cons hlooked (.cons (.other (by simp)) (.nil _))
  exact .cons (.refl _ _) hrun hfollows (.nil _ _)

/-- The second group has been taken for the first one. -/
theorem mixed_madeFor :
    MadeFor mixedPlan .empty { onlyGroup [.any] with id := some "5" } ⟨.listRules "4", .aborted⟩
      mixedTrace := by
  have hdeclared : mixedPlan.spec.network.securityGroups =
      [{ id := some "4", name := none, rules := [] }] ++
        { onlyGroup [.any] with id := some "5" } :: [] :=
    rfl
  have hidentify : (identifyAll mixedPlan mixedPlan.spec.network.securityGroups).Runs .empty
      [⟨.getSecurityGroup "4", .answer (some { id := "4", name := "g", crn := "" })⟩]
      (.ok ([⟨"4", "g", []⟩] ++ ⟨"4", "g", (onlyGroup [.any]).rules⟩ :: [], false))
      (Status.empty.put .securityGroups "g" ⟨"4", "g", true⟩) :=
    .ask (.done _)
  have hothers : (Rules.enforceAll [⟨"4", "g", []⟩] .none).Runs
      (Status.empty.put .securityGroups "g" ⟨"4", "g", true⟩) [] (.ok (true, .none))
      (Status.empty.put .securityGroups "g" ⟨"4", "g", true⟩) :=
    .done _
  have hmine : ∃ result, (Rules.enforceRules ⟨"4", "g", (onlyGroup [.any]).rules⟩
      (onlyGroup [.any]).rules .none).Runs (Status.empty.put .securityGroups "g" ⟨"4", "g", true⟩)
      [⟨.listRules "4", .aborted⟩] result (Status.empty.put .securityGroups "g" ⟨"4", "g", true⟩) :=
    ⟨_, .ask (.done _)⟩
  obtain ⟨result, hmine⟩ := hmine
  have hmade : MadeFor mixedPlan .empty { onlyGroup [.any] with id := some "5" }
      ⟨.listRules "4", .aborted⟩ (mixedTrace ++ []) :=
    .intro hdeclared rfl hidentify hothers hmine List.mem_cons_self
  exact hmade

/-- The rules of the second group are looked for in the first. -/
theorem namesake_is_mistaken :
    Rounds mixedPlan mixedRoster .empty [(.empty, mixedTrace)] mixedRoster ∧
    DistinctNames mixedPlan.spec.network.securityGroups ∧
    (mixedPlan.spec.network.securityGroups.filterMap (given? ·.id)).Nodup ∧
    (mixedRoster.map (·.name)).Nodup ∧ (mixedRoster.map (·.id)).Nodup ∧
    Status.empty.entries .securityGroups = [] ∧
    ∃ group ∈ mixedPlan.spec.network.securityGroups, ∃ exchange,
      MadeFor mixedPlan .empty group exchange mixedTrace ∧
      given? group.id = some "5" ∧ ruleGroupId? exchange.request = some "4" := by
  have hdistinct : DistinctNames mixedPlan.spec.network.securityGroups := by
    unfold DistinctNames
    decide
  refine ⟨mixed_rounds, hdistinct, by decide, by decide, by decide, rfl, _, ?_, _, mixed_madeFor,
    rfl, rfl⟩
  simp [mixedPlan, onlyGroups]

end Pass.Groups

end VpcOperator
