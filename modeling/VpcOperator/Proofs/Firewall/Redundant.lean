import VpcOperator.Proofs.Effects
import VpcOperator.Proofs.Firewall.Memo
import VpcOperator.Proofs.Firewall.RuleBook
import VpcOperator.Proofs.Quiet

/-! # Redundant rules

The rules of a group are listed once for every declared rule. A rule is created
for a remote only if none of those listed satisfies it; what has been created
since then, for earlier remotes of the same declared rule, is left out of
account.
-/

namespace VpcOperator.Pass

open Observed (Status)
open Rules (Identified)
open Lookups (Extends)

variable {plan : Plan} {s s' : Status} {t before after : Trace} {known known' : Lookups}
  {direction : Direction} {protocol : Protocol} {remote : Desired.Remote}
  {remotes : List Desired.Remote} {live : List Cloud.Rule} {group : Identified}
  {groupId : String} {prototype : Cloud.RulePrototype} {reply : Cloud.Reply Cloud.Rule}

/-- A rule with this prototype is what the remote of a declared rule asks for. -/
structure Lookups.Asks (known : Lookups) (direction : Direction) (protocol : Protocol)
    (remote : Desired.Remote) (prototype : Cloud.RulePrototype) : Prop where
  direction : prototype.direction = direction
  protocol : prototype.protocol = protocol
  remote : known.resolve? remote = some prototype.remote

theorem Lookups.Asks.extends (h : known.Asks direction protocol remote prototype)
    (hextends : Extends known known') : known'.Asks direction protocol remote prototype :=
  ⟨h.direction, h.protocol, hextends.resolve? h.remote⟩

/-! ## One declared rule -/

namespace Rules

theorem isSatisfied_tells {found : Bool}
    (hrun : (isSatisfied direction protocol remote live known).Runs s t (.ok (found, known')) s') :
    Extends known known' ∧ (found = false → ∀ later, Extends known' later →
      ∀ one ∈ live, later.Tells s direction protocol remote one false) := by
  induction live generalizing known t with
  | nil =>
    obtain ⟨-, hend, -⟩ := runs_pure_ok.1 hrun
    cases hend
    exact ⟨.refl _, fun _ _ _ one hmem => nomatch hmem⟩
  | cons one others ih =>
    obtain ⟨⟨first, known₁⟩, mid, t₁, t₂, rfl, hone, hrest⟩ := runs_bind_ok.1 hrun
    have hmid : mid = s := Lookups.matchesRule_quiet _ _ _ _ _ hone
    subst hmid
    obtain ⟨hextends, htells⟩ := Lookups.matchesRule_tells hone
    dsimp only at hrest
    split at hrest
    · obtain ⟨-, hend, -⟩ := runs_pure_ok.1 hrest
      cases hend
      exact ⟨hextends, fun hfound => nomatch hfound⟩
    · rename_i hfirst
      obtain rfl := eq_false_of_ne_true hfirst
      obtain ⟨hextends', hothers⟩ := ih hrest
      refine ⟨hextends.trans hextends', fun hfound later hlater other hmem => ?_⟩
      rcases List.mem_cons.1 hmem with rfl | hmem
      · exact htells later (hextends'.trans hlater)
      · exact hothers hfound later hlater other hmem

/-- At most one rule is created, after all look-ups. -/
theorem createRule_runs {r : Except Failure Lookups}
    (hrun : (createRule group direction protocol remote known).Runs s t r s') :
    (t.ChangesNothing ∧ ∃ e, r = .error e) ∨
      ∃ (look : Trace) (wanted : _) (known' : _) (reply : _),
        t = look ++ [⟨.createRule group.id ⟨direction, protocol, wanted⟩, reply⟩] ∧
        look.ChangesNothing ∧ Extends known known' ∧ known'.resolve? remote = some wanted ∧
        ∀ known₂, r = .ok known₂ → known₂ = known' := by
  rcases runs_bind.1 hrun with
    ⟨⟨wanted, known'⟩, mid, look, rest, rfl, hlook, hrest⟩ | ⟨e, hr, hlook⟩
  · right
    have hnothing := (Lookups.prototype_does remote known hlook).changes_nothing
    obtain ⟨hextends, hresolve⟩ := Lookups.prototype_resolves hlook
    rcases runs_bind.1 hrest with ⟨answer, mid', first, last, rfl, hcall, hend⟩ | ⟨e, rfl, hcall⟩
    · obtain ⟨rfl, -⟩ := runs_call_ok.1 hcall
      obtain ⟨rfl, rfl, -⟩ := runs_pure.1 hend
      refine ⟨look, wanted, known', _, rfl, hnothing, hextends, hresolve, ?_⟩
      rintro known₂ ⟨⟩
      rfl
    · obtain ⟨reply, rfl, -, -⟩ := runs_call.1 hcall
      refine ⟨look, wanted, known', reply, rfl, hnothing, hextends, hresolve, ?_⟩
      rintro known₂ ⟨⟩
  · exact .inl ⟨(Lookups.prototype_does remote known hlook).changes_nothing, e, hr⟩

/-- The rule is created after all look-ups, and what follows knows its remote. -/
theorem createRule_bind_runs {next : Lookups → Pass (Bool × Lookups)}
    {r : Except Failure (Bool × Lookups)}
    (hrun : (createRule group direction protocol remote known >>= next).Runs s t r s') :
    t.ChangesNothing ∨ ∃ (look : Trace) (wanted : _) (known' : _) (one : _) (more : Trace),
      t = look ++ ⟨.createRule group.id ⟨direction, protocol, wanted⟩, one⟩ :: more ∧
      look.ChangesNothing ∧ Extends known known' ∧ known'.resolve? remote = some wanted ∧
      (more = [] ∨ (next known').Runs s more r s') := by
  rcases runs_bind.1 hrun with ⟨known₂, mid, first, rest, rfl, hcreate, hnext⟩ | ⟨e, -, hcreate⟩
  · have hmid : mid = s := createRule_quiet _ _ _ _ _ hcreate
    subst hmid
    rcases createRule_runs hcreate with ⟨-, e, he⟩ |
      ⟨look, wanted, known', one, rfl, hlook, hextends, hresolve, hknown⟩
    · cases he
    · obtain rfl := hknown known₂ rfl
      exact .inr ⟨look, wanted, known₂, one, rest, by simp, hlook, hextends, hresolve, .inr hnext⟩
  · rcases createRule_runs hcreate with ⟨hnothing, -⟩ |
      ⟨look, wanted, known', one, rfl, hlook, hextends, hresolve, -⟩
    · exact .inl hnothing
    · exact .inr ⟨look, wanted, known', one, [], rfl, hlook, hextends, hresolve, .inl rfl⟩

/-- One remote: its look-ups fail, or one of the listed rules satisfies it, or none does and a rule
is created. -/
theorem enforceRemotes_cons_runs {r : Except Failure (Bool × Lookups)}
    (hrun :
      (enforceRemotes group direction protocol live (remote :: remotes) known).Runs s t r s') :
    t.ChangesNothing ∨
      (∃ (look rest : Trace) (known' : Lookups), t = look ++ rest ∧ look.ChangesNothing ∧
        Extends known known' ∧
        (enforceRemotes group direction protocol live remotes known').Runs s rest r s') ∨
      ∃ (look rest : Trace) (known' : Lookups) (prototype : _) (reply : _),
        t = look ++ ⟨.createRule group.id prototype, reply⟩ :: rest ∧ look.ChangesNothing ∧
        Extends known known' ∧ known'.Asks direction protocol remote prototype ∧
        (∀ one ∈ live, known'.Tells s direction protocol remote one false) ∧
        (rest = [] ∨ ∃ result,
          (enforceRemotes group direction protocol live remotes known').Runs s rest result s') := by
  rcases runs_bind.1 hrun with ⟨⟨found, known₁⟩, mid, t₁, t₂, rfl, hsat, hrest⟩ | ⟨e, -, hsat⟩
  · have hmid : mid = s := isSatisfied_quiet _ _ _ _ _ hsat
    subst hmid
    have hnothing : t₁.ChangesNothing := (isSatisfied_does _ _ _ _ _ hsat).changes_nothing
    obtain ⟨hextends, htells⟩ := isSatisfied_tells hsat
    cases found with
    | true => exact .inr (.inl ⟨t₁, t₂, known₁, rfl, hnothing, hextends, hrest⟩)
    | false =>
      rcases createRule_bind_runs hrest with hnothing' |
        ⟨look, wanted, known₂, reply, more, rfl, hlook, hextends', hresolve, hmore⟩
      · exact .inl (Trace.changesNothing_append.2 ⟨hnothing, hnothing'⟩)
      · refine .inr (.inr ⟨t₁ ++ look, more, known₂, _, reply, (List.append_assoc ..).symm,
          Trace.changesNothing_append.2 ⟨hnothing, hlook⟩, hextends.trans hextends',
          ⟨rfl, rfl, hresolve⟩, htells rfl known₂ hextends', ?_⟩)
        exact hmore.imp_right runs_of_bind_pure
  · exact .inl (isSatisfied_does _ _ _ _ _ hsat).changes_nothing

/-- What goes for a rule that is created: a remote asks for it that none of the listed rules
satisfies, and the rules created since the listing are those that earlier remotes have asked for. -/
structure Warrants (s : Status) (groupId : String) (direction : Direction) (protocol : Protocol)
    (listed : List Cloud.Rule) (earlier : List Desired.Remote) (remote : Desired.Remote)
    (known : Lookups) (since : Trace) (prototype : Cloud.RulePrototype) : Prop where
  asks : known.Asks direction protocol remote prototype
  unsatisfied : ∀ one ∈ listed, known.Tells s direction protocol remote one false
  since : ∀ id other reply, ⟨.createRule id other, reply⟩ ∈ since →
    id = groupId ∧ ∃ one ∈ earlier, known.Asks direction protocol one other

theorem Warrants.first {since : Trace}
    (hasks : known.Asks direction protocol remote prototype)
    (hunsatisfied : ∀ one ∈ live, known.Tells s direction protocol remote one false)
    (hnothing : since.ChangesNothing) :
    Warrants s groupId direction protocol live [] remote known since prototype :=
  ⟨hasks, hunsatisfied, fun _ _ _ hmem => absurd hmem hnothing.not_createRule⟩

theorem Warrants.later {earlier : List Desired.Remote} {other : Desired.Remote}
    {first since : Trace}
    (h : Warrants s groupId direction protocol live earlier other known since prototype)
    (hfirst : ∀ id prototype reply, ⟨.createRule id prototype, reply⟩ ∈ first →
      id = groupId ∧ known.Asks direction protocol remote prototype) :
    Warrants s groupId direction protocol live (remote :: earlier) other known (first ++ since)
      prototype := by
  refine ⟨h.asks, h.unsatisfied, fun id prototype reply hmem => ?_⟩
  rcases List.mem_append.1 hmem with hmem | hmem
  · obtain ⟨hid, hasks⟩ := hfirst id prototype reply hmem
    exact ⟨hid, remote, List.mem_cons_self, hasks⟩
  · obtain ⟨hid, one, hone, hasks⟩ := h.since id prototype reply hmem
    exact ⟨hid, one, List.mem_cons_of_mem _ hone, hasks⟩

/-- Of the exchanges for one remote only the last creates a rule. -/
theorem asks_of_mem {look : Trace} {one : Cloud.Reply Cloud.Rule} (hlook : look.ChangesNothing)
    (hasks : known.Asks direction protocol remote prototype) :
    ∀ id other reply,
      ⟨.createRule id other, reply⟩ ∈ look ++ [⟨.createRule groupId prototype, one⟩] →
      id = groupId ∧ known.Asks direction protocol remote other := by
  intro id other reply hmem
  rcases List.mem_append.1 hmem with hmem | hmem
  · exact absurd hmem hlook.not_createRule
  · cases List.mem_singleton.1 hmem
    exact ⟨rfl, hasks⟩

theorem enforceRemotes_warrants {r : Except Failure (Bool × Lookups)}
    (hrun : (enforceRemotes group direction protocol live remotes known).Runs s t r s')
    (ht : t = before ++ ⟨.createRule groupId prototype, reply⟩ :: after) :
    groupId = group.id ∧ ∃ earlier remote later known',
      remotes = earlier ++ remote :: later ∧ Extends known known' ∧
        Warrants s group.id direction protocol live earlier remote known' before prototype := by
  induction remotes generalizing known t before r with
  | nil =>
    obtain ⟨rfl, -, -⟩ := runs_pure.1 hrun
    simp at ht
  | cons remote rest ih =>
    rcases enforceRemotes_cons_runs hrun with hnothing |
      ⟨look, others, known₁, rfl, hlook, hextends, hrest⟩ |
      ⟨look, others, known₁, _, one, rfl, hlook, hextends, hasks, htells, hrest⟩
    · have hmem : (⟨.createRule groupId prototype, reply⟩ : Exchange) ∈ t := by simp [ht]
      exact absurd hmem hnothing.not_createRule
    · obtain ⟨before, rfl, hafter⟩ := Trace.append_eq_split_of_not_mem ht hlook.not_createRule
      obtain ⟨hid, earlier, other, later, known', rfl, hextends', hwarrants⟩ := ih hrest hafter
      exact ⟨hid, remote :: earlier, other, later, known', rfl, hextends.trans hextends',
        hwarrants.later fun _ _ _ hmem => absurd hmem hlook.not_createRule⟩
    · obtain ⟨before, rfl, hrule⟩ := Trace.append_eq_split_of_not_mem ht hlook.not_createRule
      cases before with
      | nil =>
        -- This is the remote that the rule is created for.
        cases hrule
        refine ⟨rfl, [], remote, rest, known₁, rfl, hextends, ?_⟩
        rw [List.append_nil]
        exact .first hasks htells hlook
      | cons head before =>
        -- The rule is created for one of the others.
        cases hrule
        rcases hrest with hnone | ⟨result, hrest⟩
        · simp at hnone
        · obtain ⟨hid, earlier, other, later, known', rfl, hextends', hwarrants⟩ := ih hrest rfl
          refine ⟨hid, remote :: earlier, other, later, known', rfl, hextends.trans hextends', ?_⟩
          rw [List.append_cons]
          exact hwarrants.later (asks_of_mem hlook (hasks.extends hextends'))

/-- One of these rules has a remote for which a rule is created after these exchanges, the last
listing among them. -/
inductive Prompts (s : Status) (groupId : String) (rules : List Desired.Rule) (known : Lookups)
    (prototype : Cloud.RulePrototype) : Trace → Prop
  | intro {rule : Desired.Rule} {past since : Trace} {listed : List Cloud.Rule}
      {earlier later : List Desired.Remote} {remote : Desired.Remote}
      (declared : rule ∈ rules) (remotes : rule.body.remotes = earlier ++ remote :: later)
      (warrants : Warrants s groupId rule.direction rule.body.protocol listed earlier remote known
        since prototype) :
      Prompts s groupId rules known prototype
        (past ++ ⟨.listRules groupId, .answer listed⟩ :: since)

theorem Prompts.mono {rules more : List Desired.Rule}
    (h : Prompts s groupId rules known prototype before) (hsub : rules ⊆ more) (first : Trace) :
    Prompts s groupId more known prototype (first ++ before) := by
  cases h with
  | intro declared remotes warrants =>
    rw [← List.append_assoc]
    exact .intro (hsub declared) remotes warrants

theorem enforceRule_prompts {rule : Desired.Rule} {r : Except Failure (Bool × Lookups)}
    (hrun : (enforceRule group rule known).Runs s t r s')
    (ht : t = before ++ ⟨.createRule groupId prototype, reply⟩ :: after) :
    groupId = group.id ∧ ∃ known', Prompts s groupId [rule] known' prototype before := by
  rcases runs_bind.1 hrun with ⟨listed, mid, first, last, rfl, hlist, hremotes⟩ | ⟨e, -, hlist⟩
  · obtain ⟨rfl, rfl⟩ := runs_call_ok.1 hlist
    obtain ⟨since, rfl, hcreate⟩ := Trace.append_eq_split_of_not_mem ht (by simp)
    obtain ⟨rfl, earlier, remote, later, known', hremotes, -, hwarrants⟩ :=
      enforceRemotes_warrants hremotes hcreate
    have hprompts : Prompts mid group.id [rule] known' prototype
        ([] ++ ⟨.listRules group.id, .answer listed⟩ :: since) :=
      .intro (List.mem_singleton_self rule) hremotes hwarrants
    exact ⟨rfl, known', hprompts⟩
  · obtain ⟨reply, rfl, -, -⟩ := runs_call.1 hlist
    cases before <;> simp at ht

theorem enforceRules_prompts {rules : List Desired.Rule} {r : Except Failure (Bool × Lookups)}
    (hrun : (enforceRules group rules known).Runs s t r s')
    (ht : t = before ++ ⟨.createRule groupId prototype, reply⟩ :: after) :
    groupId = group.id ∧ ∃ known', Prompts s groupId rules known' prototype before := by
  induction rules generalizing known t before r with
  | nil =>
    obtain ⟨rfl, -, -⟩ := runs_pure.1 hrun
    simp at ht
  | cons rule rest ih =>
    rcases runs_bind.1 hrun with ⟨⟨kept, known₁⟩, mid, t₁, t₂, rfl, hrule, hrest⟩ | ⟨e, -, hrule⟩
    · have hmid : mid = s := enforceRule_quiet _ _ _ hrule
      subst hmid
      rcases Trace.append_eq_split ht with ⟨between, ht₁, -⟩ | ⟨between, rfl, ht₂⟩
      · obtain ⟨hid, known', hprompts⟩ := enforceRule_prompts hrule ht₁
        exact ⟨hid, known', hprompts.mono (by simp) []⟩
      · obtain ⟨result, hothers⟩ := runs_of_bind_pure hrest
        obtain ⟨hid, known', hprompts⟩ := ih hothers ht₂
        exact ⟨hid, known', hprompts.mono (by simp) t₁⟩
    · obtain ⟨hid, known', hprompts⟩ := enforceRule_prompts hrule ht
      exact ⟨hid, known', hprompts.mono (by simp) []⟩

theorem enforceAll_prompts {groups : List Identified} {r : Except Failure (Bool × Lookups)}
    (hrun : (enforceAll groups known).Runs s t r s')
    (ht : t = before ++ ⟨.createRule groupId prototype, reply⟩ :: after) :
    ∃ group ∈ groups, ∃ known', Prompts s groupId group.rules known' prototype before := by
  induction groups generalizing known t before r with
  | nil =>
    obtain ⟨rfl, -, -⟩ := runs_pure.1 hrun
    simp at ht
  | cons group rest ih =>
    rcases runs_bind.1 hrun with ⟨⟨kept, known₁⟩, mid, t₁, t₂, rfl, hrules, hrest⟩ | ⟨e, -, hrules⟩
    · have hmid : mid = s := enforceRules_quiet _ _ _ hrules
      subst hmid
      rcases Trace.append_eq_split ht with ⟨between, ht₁, -⟩ | ⟨between, rfl, ht₂⟩
      · obtain ⟨-, known', hprompts⟩ := enforceRules_prompts hrules ht₁
        exact ⟨group, List.mem_cons_self, known', hprompts⟩
      · obtain ⟨result, hothers⟩ := runs_of_bind_pure hrest
        obtain ⟨other, hmem, known', hprompts⟩ := ih hothers ht₂
        exact ⟨other, List.mem_cons_of_mem _ hmem, known',
          hprompts.mono (List.Subset.refl _) t₁⟩
    · obtain ⟨-, known', hprompts⟩ := enforceRules_prompts hrules ht
      exact ⟨group, List.mem_cons_self, known', hprompts⟩

/-- A rule that is live when another is created does not satisfy the remote of that one, or was
itself created in this pass, for an earlier remote of the same declared rule. -/
theorem Prompts.unsatisfied {book : RuleBook} {rules : List Desired.Rule}
    (h : Prompts s groupId rules known prototype before) (hlists : before.Lists List.Perm book) :
    ∃ rule ∈ rules, ∃ earlier remote later,
      rule.body.remotes = earlier ++ remote :: later ∧
      known.Asks rule.direction rule.body.protocol remote prototype ∧
      ∀ one ∈ book.after before groupId,
        known.Tells s rule.direction rule.body.protocol remote one false ∨
        ∃ other ∈ earlier, ∃ prototype', ⟨.createRule groupId prototype', .answer one⟩ ∈ before ∧
          known.Asks rule.direction rule.body.protocol other prototype' := by
  cases h with
  | @intro rule past since listed earlier later remote declared remotes warrants =>
    refine ⟨rule, declared, earlier, remote, later, remotes, warrants.asks, fun one hone => ?_⟩
    have hlisted : listed.Perm (book.after past groupId) := hlists past groupId listed since rfl
    rw [RuleBook.after_append, RuleBook.after_listRules] at hone
    rcases List.mem_append.1 hone with hone | hone
    · exact .inl (warrants.unsatisfied one (hlisted.mem_iff.2 hone))
    · obtain ⟨prototype', hmem⟩ := Trace.mem_createdRules.1 hone
      obtain ⟨-, other, hother, hasks⟩ := warrants.since _ _ _ hmem
      have hbefore : ⟨.createRule groupId prototype', .answer one⟩ ∈
          past ++ ⟨.listRules groupId, .answer listed⟩ :: since :=
        List.mem_append_right _ (List.mem_cons_of_mem _ hmem)
      exact .inr ⟨other, hother, prototype', hbefore, hasks⟩

end Rules

/-! ## The step -/

namespace Groups

theorem observe_rules {group : Desired.SecurityGroup} {live : Cloud.SecurityGroup}
    {found : Identified} (hrun : (observe group live).Runs s t (.ok found) s') :
    found.rules = group.rules := by
  rw [observe, runs_update_bind, runs_pure_ok] at hrun
  obtain ⟨-, rfl, -⟩ := hrun
  rfl

theorem create_rules {name : String} {rules : List Desired.Rule} {found : Identified}
    (hrun : (create plan name rules).Runs s t (.ok found) s') : found.rules = rules := by
  rw [create, runs_status_bind, runs_ofExcept_bind_ok] at hrun
  obtain ⟨vpcId, -, hrun⟩ := hrun
  rw [runs_status_bind, runs_ofExcept_bind_ok] at hrun
  obtain ⟨resourceGroupId, -, hrun⟩ := hrun
  obtain ⟨live, rest, -, hrest⟩ := runs_call_bind_ok.1 hrun
  rw [runs_update_bind] at hrest
  obtain ⟨_, mid, first, last, -, -, hend⟩ := runs_bind_ok.1 hrest
  obtain ⟨-, rfl, -⟩ := runs_pure_ok.1 hend
  rfl

theorem resolve_rules {group : Desired.SecurityGroup} {found : Identified × Bool}
    (hrun : (resolve plan group).Runs s t (.ok found) s') : found.1.rules = group.rules := by
  have hobserve : ∀ {live s t s'},
      (observe group live >>= fun one => pure (one, false)).Runs s t (.ok found) s' →
      found.1.rules = group.rules := by
    intro live s t s' hrun
    obtain ⟨one, mid, first, rest, -, hone, hend⟩ := runs_bind_ok.1 hrun
    obtain ⟨-, rfl, -⟩ := runs_pure_ok.1 hend
    exact observe_rules hone
  unfold resolve at hrun
  split at hrun
  · obtain ⟨answer, rest, -, hrest⟩ := runs_call_bind_ok.1 hrun
    split at hrest
    · exact hobserve hrest
    · simp at hrest
  · split at hrun
    · simp at hrun
    · obtain ⟨answer, rest, -, hrest⟩ := runs_call_bind_ok.1 hrun
      split at hrest
      · exact hobserve hrest
      · obtain ⟨one, mid, first, last, -, hone, hend⟩ := runs_bind_ok.1 hrest
        obtain ⟨-, rfl, -⟩ := runs_pure_ok.1 hend
        exact create_rules hone

/-- The rules are those that are declared for the groups, in the same order. -/
theorem identifyAll_rules {groups : List Desired.SecurityGroup} {found : List Identified × Bool}
    (hrun : (identifyAll plan groups).Runs s t (.ok found) s') :
    found.1.map (·.rules) = groups.map (·.rules) := by
  induction groups generalizing s t s' found with
  | nil =>
    obtain ⟨-, rfl, -⟩ := runs_pure_ok.1 hrun
    rfl
  | cons group rest ih =>
    obtain ⟨one, mid, t₁, t₂, -, hone, hrest⟩ := runs_bind_ok.1 hrun
    obtain ⟨others, mid', t₂, t₃, -, hothers, hend⟩ := runs_bind_ok.1 hrest
    obtain ⟨-, rfl, -⟩ := runs_pure_ok.1 hend
    have hfirst : one.1.rules = group.rules := by
      rw [identify, runs_status_bind] at hone
      split at hone
      · obtain ⟨-, rfl, -⟩ := runs_pure_ok.1 hone
        rfl
      · exact resolve_rules hone
    simp only [List.map_cons, hfirst, ih hothers]

/-- A step comes to an end while groups are identified, or after one was created; else it goes on
to the rules. -/
theorem step_cases {r : Except Failure Outcome} (hrun : (step plan).Runs s t r s') :
    (∃ e, r = .error e ∧
      (identifyAll plan plan.spec.network.securityGroups).Runs s t (.error e) s') ∨
    (∃ found, r = .ok .requeue ∧
      (identifyAll plan plan.spec.network.securityGroups).Runs s t (.ok (found, true)) s') ∨
    ∃ found first rest result, t = first ++ rest ∧ r = result.map (fun kept => .ofReady kept.1) ∧
      (identifyAll plan plan.spec.network.securityGroups).Runs s first (.ok (found, false)) s' ∧
      (Rules.enforceAll found .none).Runs s' rest result s' := by
  rcases runs_bind.1 hrun with ⟨⟨found, created⟩, mid, t₁, t₂, rfl, hall, hrest⟩ | ⟨e, rfl, hall⟩
  · cases created with
    | true =>
      obtain ⟨rfl, rfl, rfl⟩ := runs_pure.1 hrest
      rw [List.append_nil]
      exact .inr (.inl ⟨found, rfl, hall⟩)
    | false =>
      obtain ⟨result, rfl, henforce⟩ := runs_bind_pure.1 hrest
      obtain rfl : s' = mid := Rules.enforceAll_quiet _ _ henforce
      exact .inr (.inr ⟨found, t₁, t₂, result, rfl, rfl, hall, henforce⟩)
  · exact .inl ⟨e, rfl, hall⟩

/-- A rule is created for a remote that no live rule satisfies, those aside that were created just
before, for earlier remotes of the same declared rule. -/
theorem step_creates_missing {book : RuleBook} {r : Except Failure Outcome}
    (hrun : (step plan).Runs s (before ++ ⟨.createRule groupId prototype, reply⟩ :: after) r s')
    (hlists : before.Lists List.Perm book) :
    ∃ group ∈ plan.spec.network.securityGroups, ∃ rule ∈ group.rules,
      ∃ earlier remote later, ∃ known : Lookups,
      rule.body.remotes = earlier ++ remote :: later ∧
      known.Asks rule.direction rule.body.protocol remote prototype ∧
      ∀ one ∈ book.after before groupId,
        known.Tells s' rule.direction rule.body.protocol remote one false ∨
        ∃ other ∈ earlier, ∃ prototype', ⟨.createRule groupId prototype', .answer one⟩ ∈ before ∧
          known.Asks rule.direction rule.body.protocol other prototype' := by
  have hidentify : ∀ {s t r s'}, (identifyAll plan plan.spec.network.securityGroups).Runs s t r s' →
      ⟨.createRule groupId prototype, reply⟩ ∉ t := by
    intro s t r s' hall hmem
    have hasks := (identifyAll_does plan _ hall).asks _ hmem
    simp at hasks
  rcases step_cases hrun with ⟨_, -, hall⟩ | ⟨_, -, hall⟩ | ⟨found, t₁, t₂, _, ht, -, hall, henforce⟩
  · exact absurd (by simp) (hidentify hall)
  · exact absurd (by simp) (hidentify hall)
  · obtain ⟨between, rfl, ht₂⟩ := Trace.append_eq_split_of_not_mem ht.symm (hidentify hall)
    obtain ⟨one, hone, known, hprompts⟩ := Rules.enforceAll_prompts henforce ht₂
    have hprompts : Rules.Prompts s' groupId one.rules known prototype (t₁ ++ between) :=
      hprompts.mono (List.Subset.refl _) t₁
    obtain ⟨rule, hrule, earlier, remote, later, hwarranted⟩ := hprompts.unsatisfied hlists
    have hrules : one.rules ∈ plan.spec.network.securityGroups.map (·.rules) := by
      rw [← identifyAll_rules hall]
      exact List.mem_map_of_mem hone
    obtain ⟨group, hgroup, hsame⟩ := List.mem_map.1 hrules
    rw [← hsame] at hrule
    exact ⟨group, hgroup, rule, hrule, earlier, remote, later, known, hwarranted⟩

/-- A plan that declares security groups only. -/
def onlyGroups (groups : List Desired.SecurityGroup) : Plan :=
  { Plan.bare "a" with
    spec := { (Plan.bare "a").spec with
      network := { Desired.Network.empty with securityGroups := groups } } }

def onlyGroup (remotes : List Desired.Remote) : Desired.SecurityGroup :=
  { id := none, name := some "g", rules := [{ direction := .inbound, body := ⟨.all, remotes⟩ }] }

/-- The group "g" has been found before. -/
def groupStart : Status :=
  Status.empty.put .securityGroups "g" ⟨"4", "g", true⟩

/-- One rule declares the same remote twice. -/
def twicePlan : Plan :=
  onlyGroups [onlyGroup [.any, .any]]

/-- A rule from a single address is there already. -/
def twiceBook : RuleBook := fun _ =>
  [{ id := "5", direction := .inbound, remote := .ip "192.0.2.1", traffic := .all }]

def twiceBefore : Trace :=
  [⟨.listRules "4", .answer (twiceBook "4")⟩,
    ⟨.createRule "4" ⟨.inbound, .all, .cidr anyBlock⟩,
      .answer { id := "6", direction := .inbound, remote := .cidr anyBlock, traffic := .all }⟩]

def twiceCreation : Exchange :=
  ⟨.createRule "4" ⟨.inbound, .all, .cidr anyBlock⟩,
    .answer { id := "7", direction := .inbound, remote := .cidr anyBlock, traffic := .all }⟩

theorem twicePlan_runs :
    (step twicePlan).Runs groupStart (twiceBefore ++ twiceCreation :: []) (.ok .requeue)
      groupStart :=
  .ask (.ask (.ask (.done _)))

theorem twiceBefore_lists : twiceBefore.Lists List.Perm twiceBook :=
  Trace.lists_cons.2 ⟨Trace.lists_listing (.refl _), Trace.lists_of_not_listing nofun⟩

theorem step_creates_missing_twice :
    (step twicePlan).Runs groupStart (twiceBefore ++ twiceCreation :: []) (.ok .requeue)
      groupStart ∧
    twiceBefore.Lists List.Perm twiceBook ∧
    ∃ group ∈ twicePlan.spec.network.securityGroups, ∃ rule ∈ group.rules,
      ∃ earlier remote later, ∃ known : Lookups,
      rule.body.remotes = earlier ++ remote :: later ∧
      known.Asks rule.direction rule.body.protocol remote ⟨.inbound, .all, .cidr anyBlock⟩ ∧
      ∀ one ∈ twiceBook.after twiceBefore "4",
        known.Tells groupStart rule.direction rule.body.protocol remote one false ∨
        ∃ other ∈ earlier, ∃ prototype',
          ⟨.createRule "4" prototype', .answer one⟩ ∈ twiceBefore ∧
          known.Asks rule.direction rule.body.protocol other prototype' :=
  ⟨twicePlan_runs, twiceBefore_lists, step_creates_missing twicePlan_runs twiceBefore_lists⟩

/-- The rule that has just been created is one that the remote is satisfied by. -/
theorem twicePlan_creates_again :
    (step twicePlan).Runs groupStart (twiceBefore ++ twiceCreation :: []) (.ok .requeue)
      groupStart ∧
    twiceBefore.Lists List.Perm twiceBook ∧
    Lookups.none.Asks .inbound .all .any ⟨.inbound, .all, .cidr anyBlock⟩ ∧
    ∃ one ∈ twiceBook.after twiceBefore "4",
      Lookups.none.Tells groupStart .inbound .all .any one true :=
  ⟨twicePlan_runs, twiceBefore_lists, ⟨rfl, rfl, rfl⟩, _,
    List.mem_append_right _ List.mem_cons_self, rfl⟩

end Groups

end VpcOperator.Pass
