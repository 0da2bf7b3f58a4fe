import VpcOperator.Proofs.Firewall.Mirrored
import VpcOperator.Proofs.Firewall.Redundant

/-! # Created rules are recognised

Once all rules have been enforced every remote is served by a rule that is
listed, be it one that was found or one that was created. A step that follows
finds them all in place and creates nothing.
-/

namespace VpcOperator.Pass

open Observed (Status)
open Simulation (GroupIdentity)

variable {plan : Plan} {order : RuleOrder} {answers : Cloud.Answers}
  {shown : GroupIdentity → Bool} {book : RuleBook} {s s' : Status} {t : Trace}
  {known known' : Lookups}

/-! ## Enforcing rules -/

namespace Rules

variable {group : Identified} {direction : Direction} {protocol : Protocol}
  {remote : Desired.Remote} {remotes : List Desired.Remote} {live : List Cloud.Rule}
  {rule : Desired.Rule} {rules : List Desired.Rule} {groups : List Identified}
  {found : Bool × Lookups}

/-- One of the listed rules serves the remote, or one that has been created for it. -/
def Provided (answers : Cloud.Answers) (s : Status) (direction : Direction) (protocol : Protocol)
    (remote : Desired.Remote) (live created : List Cloud.Rule) : Prop :=
  answers.anyFits? s direction protocol remote live = some true ∨
    ∃ wanted, answers.prototype? s remote = some wanted ∧
      ∃ one ∈ created, answers.fits? s direction protocol remote one = some true

theorem Provided.mono {created more : List Cloud.Rule}
    (h : Provided answers s direction protocol remote live created) (hsub : created ⊆ more) :
    Provided answers s direction protocol remote live more := by
  rcases h with hany | ⟨wanted, hwanted, one, hone, hfits⟩
  · exact .inl hany
  · exact .inr ⟨wanted, hwanted, one, hsub hone, hfits⟩

/-- Every remote of these rules is served by whatever is listed for the group with this ID. -/
def Served (order : RuleOrder) (answers : Cloud.Answers) (s : Status) (book : RuleBook)
    (groupId : String) (rules : List Desired.Rule) : Prop :=
  ∀ rule ∈ rules, ∀ remote ∈ rule.body.remotes, answers.Lasts s remote order ∧
    ∀ listed, order listed (book groupId) →
      answers.anyFits? s rule.direction rule.body.protocol remote listed = some true

theorem Served.after {groupId : String} (h : Served order answers s book groupId rules)
    (t : Trace) : Served order answers s (book.after t) groupId rules := by
  intro rule hrule remote hremote
  obtain ⟨hlasts, hserved⟩ := h rule hrule remote hremote
  have hbook : order (book groupId) (book groupId) := hlasts.refl _
  exact ⟨hlasts, fun listed hlisted => hlasts.again hbook hlisted (hserved _ hbook)⟩

theorem createRule_provides
    (hrun : (createRule group direction protocol remote known).Runs s t (.ok known') s')
    (hstands : t.Stands order answers book) (hmirrors : t.Mirrors answers shown)
    (hknown : known.Follows answers s) (hrecognisable : answers.Recognisable shown s remote) :
    s' = s ∧ known'.Follows answers s ∧
      Provided answers s direction protocol remote live (t.createdRules group.id) := by
  obtain ⟨⟨wanted, known₁⟩, mid, look, rest, rfl, hlook, hrest⟩ := runs_bind_ok.1 hrun
  obtain ⟨rfl, -, hok, -⟩ :=
    Lookups.prototype_reads hknown hlook (Trace.stands_append.1 hstands).1
  obtain ⟨hwanted, hknown₁⟩ := hok _ rfl
  obtain ⟨one, rest, rfl, hend⟩ := runs_call_bind_ok.1 hrest
  obtain ⟨rfl, rfl, rfl⟩ := runs_pure_ok.1 hend
  have hmem : (⟨.createRule group.id ⟨direction, protocol, wanted⟩, .answer one⟩ : Exchange) ∈
      look ++ [⟨.createRule group.id ⟨direction, protocol, wanted⟩, .answer one⟩] :=
    List.mem_append_right _ List.mem_cons_self
  have hone : answers.Mirrors shown ⟨direction, protocol, wanted⟩ one := hmirrors _ hmem
  have hfits : answers.fits? _ direction protocol remote one = some true :=
    Cloud.Answers.fits?_of_mirrors hwanted hone hrecognisable
  have hcreated := Trace.mem_createdRules.2 ⟨_, hmem⟩
  exact ⟨rfl, hknown₁, .inr ⟨wanted, hwanted, one, hcreated, hfits⟩⟩

theorem enforceRemotes_provides
    (hrun : (enforceRemotes group direction protocol live remotes known).Runs s t (.ok found) s')
    (hstands : t.Stands order answers book) (hmirrors : t.Mirrors answers shown)
    (hknown : known.Follows answers s)
    (hrecognisable : ∀ remote ∈ remotes, answers.Recognisable shown s remote) :
    found.2.Follows answers s ∧ ∀ remote ∈ remotes,
      Provided answers s direction protocol remote live (t.createdRules group.id) := by
  induction remotes generalizing known t book found with
  | nil =>
    obtain ⟨-, rfl, -⟩ := runs_pure_ok.1 hrun
    exact ⟨hknown, fun _ hmem => nomatch hmem⟩
  | cons remote rest ih =>
    obtain ⟨hfirst, hothers⟩ := List.forall_mem_cons.1 hrecognisable
    obtain ⟨⟨satisfied, known₁⟩, mid, t₁, t₂, rfl, hsatisfied, hrest⟩ := runs_bind_ok.1 hrun
    obtain ⟨hstands₁, hstands₂⟩ := Trace.stands_append.1 hstands
    obtain ⟨-, hmirrors₂⟩ := Trace.mirrors_append.1 hmirrors
    obtain ⟨rfl, hnothing, hok, -⟩ := isSatisfied_reads hknown hsatisfied hstands₁
    obtain ⟨hany, hknown₁⟩ := hok _ rfl
    rw [Trace.createdRules_append, hnothing.createdRules, List.nil_append]
    cases satisfied with
    | true =>
      obtain ⟨hknown₂, hprovided⟩ := ih hrest hstands₂ hmirrors₂ hknown₁ hothers
      exact ⟨hknown₂, List.forall_mem_cons.2 ⟨.inl hany, hprovided⟩⟩
    | false =>
      obtain ⟨known₂, mid', t₂, t₃, rfl, hcreate, hnext⟩ := runs_bind_ok.1 hrest
      obtain ⟨hstands₂, hstands₃⟩ := Trace.stands_append.1 hstands₂
      obtain ⟨hmirrors₂, hmirrors₃⟩ := Trace.mirrors_append.1 hmirrors₂
      obtain ⟨rfl, hknown₂, hprovided⟩ : _ ∧ _ ∧ Provided _ _ _ _ remote live _ :=
        createRule_provides hcreate hstands₂ hmirrors₂ hknown₁ hfirst
      obtain ⟨⟨kept, known₃⟩, mid', t₃, t₄, rfl, hremotes, hend⟩ := runs_bind_ok.1 hnext
      obtain ⟨rfl, rfl, rfl⟩ := runs_pure_ok.1 hend
      rw [List.append_nil] at hstands₃ hmirrors₃ ⊢
      obtain ⟨hknown₃, hprovided'⟩ := ih hremotes hstands₃ hmirrors₃ hknown₂ hothers
      rw [Trace.createdRules_append]
      refine ⟨hknown₃, List.forall_mem_cons.2 ⟨?_, fun other hmem => ?_⟩⟩
      · exact hprovided.mono (List.subset_append_left _ _)
      · exact (hprovided' other hmem).mono (List.subset_append_right _ _)

/-- What was listed first and what has been created since are both there in the end. -/
theorem enforceRule_serves (hrun : (enforceRule group rule known).Runs s t (.ok found) s')
    (hstands : t.Stands order answers book) (hmirrors : t.Mirrors answers shown)
    (hknown : known.Follows answers s)
    (hremotes : ∀ remote ∈ rule.body.remotes,
      answers.Recognisable shown s remote ∧ answers.Lasts s remote order) :
    found.2.Follows answers s ∧ Served order answers s (book.after t) group.id [rule] := by
  obtain ⟨live, rest, rfl, henforce⟩ := runs_call_bind_ok.1 hrun
  have hlive : order live (book group.id) := hstands.lists.listed
  have hstands' := (Trace.stands_cons.1 hstands).2
  have hmirrors' : Trace.Mirrors answers shown rest :=
    fun one hmem => hmirrors one (List.mem_cons_of_mem _ hmem)
  obtain ⟨hknown', hprovided⟩ := enforceRemotes_provides henforce hstands' hmirrors' hknown
    fun remote hmem => (hremotes remote hmem).1
  refine ⟨hknown', List.forall_mem_singleton.2 fun remote hmem => ?_⟩
  have hlasts := (hremotes remote hmem).2
  refine ⟨hlasts, fun listed hlisted => ?_⟩
  rw [RuleBook.after_listRules] at hlisted
  rcases hprovided remote hmem with hany | ⟨wanted, hwanted, one, hone, hfits⟩
  · exact hlasts.again hlive hlisted hany
  · have hmem : one ∈ listed := hlasts.mem hlisted (List.mem_append_right _ hone)
    exact Cloud.Answers.anyFits?_of_mem hwanted hmem hfits

/-- One part after the other has gone through its rules. -/
theorem runs_both_ok {p q : Lookups → Pass (Bool × Lookups)}
    (hrun : Runs (do
      let (kept, known) ← p known
      let (othersKept, known) ← q known
      return (kept && othersKept, known)) s t (.ok found) s') :
    ∃ first mid t₁ t₂ kept, t = t₁ ++ t₂ ∧ (p known).Runs s t₁ (.ok first) mid ∧
      (q first.2).Runs mid t₂ (.ok (kept, found.2)) s' := by
  obtain ⟨first, mid, t₁, t₂, rfl, hfirst, hrest⟩ := runs_bind_ok.1 hrun
  obtain ⟨⟨kept, known'⟩, mid', t₂, t₃, rfl, hsecond, hend⟩ := runs_bind_ok.1 hrest
  obtain ⟨rfl, rfl, rfl⟩ := runs_pure_ok.1 hend
  rw [List.append_nil]
  exact ⟨first, mid, t₁, t₂, kept, rfl, hfirst, hsecond⟩

theorem enforceRules_serves (hrun : (enforceRules group rules known).Runs s t (.ok found) s')
    (hstands : t.Stands order answers book) (hmirrors : t.Mirrors answers shown)
    (hknown : known.Follows answers s)
    (hremotes : ∀ rule ∈ rules, ∀ remote ∈ rule.body.remotes,
      answers.Recognisable shown s remote ∧ answers.Lasts s remote order) :
    found.2.Follows answers s ∧ Served order answers s (book.after t) group.id rules := by
  induction rules generalizing known t book found with
  | nil =>
    obtain ⟨-, rfl, -⟩ := runs_pure_ok.1 hrun
    exact ⟨hknown, fun _ hmem => nomatch hmem⟩
  | cons rule rest ih =>
    obtain ⟨hfirst, hothers⟩ := List.forall_mem_cons.1 hremotes
    obtain ⟨⟨kept, known₁⟩, mid, t₁, t₂, othersKept, rfl, hrule, hrules⟩ := runs_both_ok hrun
    obtain rfl : mid = s := enforceRule_quiet _ _ _ hrule
    obtain ⟨hstands₁, hstands₂⟩ := Trace.stands_append.1 hstands
    obtain ⟨hmirrors₁, hmirrors₂⟩ := Trace.mirrors_append.1 hmirrors
    obtain ⟨hknown₁, hserved⟩ := enforceRule_serves hrule hstands₁ hmirrors₁ hknown hfirst
    obtain ⟨hknown₂, hserved'⟩ := ih hrules hstands₂ hmirrors₂ hknown₁ hothers
    have hsteady := hserved.after t₂
    rw [RuleBook.after_append]
    exact ⟨hknown₂, List.forall_mem_cons.2 ⟨hsteady rule (by simp), hserved'⟩⟩

theorem enforceAll_serves (hrun : (enforceAll groups known).Runs s t (.ok found) s')
    (hstands : t.Stands order answers book) (hmirrors : t.Mirrors answers shown)
    (hknown : known.Follows answers s)
    (hremotes : ∀ group ∈ groups, ∀ rule ∈ group.rules, ∀ remote ∈ rule.body.remotes,
      answers.Recognisable shown s remote ∧ answers.Lasts s remote order) :
    ∀ group ∈ groups, Served order answers s (book.after t) group.id group.rules := by
  induction groups generalizing known t book found with
  | nil => exact fun _ hmem => nomatch hmem
  | cons group rest ih =>
    obtain ⟨hfirst, hothers⟩ := List.forall_mem_cons.1 hremotes
    obtain ⟨⟨kept, known₁⟩, mid, t₁, t₂, othersKept, rfl, hrules, hall⟩ := runs_both_ok hrun
    obtain rfl : mid = s := enforceRules_quiet _ _ _ hrules
    obtain ⟨hstands₁, hstands₂⟩ := Trace.stands_append.1 hstands
    obtain ⟨hmirrors₁, hmirrors₂⟩ := Trace.mirrors_append.1 hmirrors
    obtain ⟨hknown₁, hserved⟩ := enforceRules_serves hrules hstands₁ hmirrors₁ hknown hfirst
    have hserved' := ih hall hstands₂ hmirrors₂ hknown₁ hothers
    rw [RuleBook.after_append]
    exact List.forall_mem_cons.2 ⟨hserved.after t₂, hserved'⟩

/-! ## Enforcing them again -/

/-- This part of the step finds all its rules in place. -/
def Rests (order : RuleOrder) (answers : Cloud.Answers) (book : RuleBook) (s : Status)
    (part : Pass (Bool × Lookups)) : Prop :=
  Reads order answers book part s (fun found => found.1 = true ∧ found.2.Follows answers s) False

theorem Rests.both {p q : Lookups → Pass (Bool × Lookups)}
    (hp : Rests order answers book s (p known))
    (hq : ∀ {known}, known.Follows answers s → Rests order answers book s (q known)) :
    Rests order answers book s (do
      let (kept, known) ← p known
      let (othersKept, known) ← q known
      return (kept && othersKept, known)) := by
  refine .bind hp ?_ id
  rintro ⟨kept, known₁⟩ ⟨hkept, hknown₁⟩
  refine .bind (hq hknown₁) ?_ id
  rintro ⟨othersKept, known₂⟩ ⟨hothersKept, hknown₂⟩
  exact .pure ⟨Bool.and_eq_true_iff.2 ⟨hkept, hothersKept⟩, hknown₂⟩

theorem enforceRemotes_rests (hknown : known.Follows answers s)
    (hserved : ∀ remote ∈ remotes,
      answers.anyFits? s direction protocol remote live = some true) :
    Rests order answers book s (enforceRemotes group direction protocol live remotes known) := by
  induction remotes generalizing known with
  | nil => exact .pure ⟨rfl, hknown⟩
  | cons remote rest ih =>
    obtain ⟨hfirst, hothers⟩ := List.forall_mem_cons.1 hserved
    refine .bind (isSatisfied_reads hknown) ?_ fun hnone => ?_
    · rintro ⟨satisfied, known₁⟩ ⟨hany, hknown₁⟩
      have hsatisfied : true = satisfied := Option.some.inj (hfirst.symm.trans hany)
      subst hsatisfied
      exact ih hknown₁ hothers
    · rw [hfirst] at hnone
      cases hnone

theorem enforceRules_rests (hknown : known.Follows answers s)
    (hserved : Served order answers s book group.id rules) :
    Rests order answers book s (enforceRules group rules known) := by
  induction rules generalizing known with
  | nil => exact .pure ⟨rfl, hknown⟩
  | cons rule rest ih =>
    obtain ⟨hfirst, hothers⟩ := List.forall_mem_cons.1 hserved
    have hrule : Rests order answers book s (enforceRule group rule known) := by
      refine .bind (.call rfl fun live hstands => hstands.lists.listed) ?_ id
      intro live hlive
      exact enforceRemotes_rests hknown fun remote hmem => (hfirst remote hmem).2 live hlive
    exact hrule.both fun hknown₁ => ih hknown₁ hothers

theorem enforceAll_rests (hknown : known.Follows answers s)
    (hserved : ∀ group ∈ groups, Served order answers s book group.id group.rules) :
    Rests order answers book s (enforceAll groups known) := by
  induction groups generalizing known with
  | nil => exact .pure ⟨rfl, hknown⟩
  | cons group rest ih =>
    obtain ⟨hfirst, hothers⟩ := List.forall_mem_cons.1 hserved
    have hrules := enforceRules_rests hknown hfirst
    exact hrules.both fun hknown₁ => ih hknown₁ hothers

end Rules

/-! ## The step, and the step again -/

namespace Groups

open Rules (Identified)

variable {groups : List Desired.SecurityGroup} {found : List Identified}

/-- The step finds every group without creating one, and goes through their rules. -/
def ReachesRules (plan : Plan) (s : Status) (t : Trace) (found : List Identified) (s' : Status) :
    Prop :=
  ∃ first rest kept, t = first ++ rest ∧
    (identifyAll plan plan.spec.network.securityGroups).Runs s first (.ok (found, false)) s' ∧
    (Rules.enforceAll found .none).Runs s' rest (.ok kept) s'

/-- Every group has an entry, with the ID that it has been identified by. -/
def Recalls (s : Status) (groups : List Desired.SecurityGroup) (found : List Identified) : Prop :=
  List.Forall₂ (fun group one => ∃ entry,
    (remembered? s group).filter (·.id ≠ "") = some entry ∧ entry.id = one.id) groups found

/-- Entries are kept under names, so groups that are declared by name are recalled. -/
theorem recalls_of_named (hrun : (identifyAll plan groups).Runs s t (.ok (found, false)) s')
    (htruthful : t.Truthful) (hnamed : ∀ group ∈ groups, (given? group.name).isSome) :
    Recalls s' groups found := by
  refine (identifyAll_remembers hrun htruthful hnamed).2.imp ?_
  rintro group one ⟨name, entry, hname, hfind, hid, rfl⟩
  refine ⟨entry, ?_, rfl⟩
  rw [remembered?, hname]
  simp [hfind, hid]

/-- Groups that are recalled are identified again without a request. -/
theorem identifyAll_again {served : String → List Desired.Rule → Prop}
    (hrecalls : Recalls s groups found) (hrules : found.map (·.rules) = groups.map (·.rules))
    (hserved : ∀ one ∈ found, served one.id one.rules) :
    Reads order answers book (identifyAll plan groups) s
      (fun again => again.2 = false ∧ ∀ one ∈ again.1, served one.id one.rules) False := by
  induction hrecalls with
  | nil => exact .pure ⟨rfl, fun _ hmem => nomatch hmem⟩
  | @cons group one groups found hone _ ih =>
    obtain ⟨entry, hentry, hid⟩ := hone
    obtain ⟨hfirst, hothers⟩ := List.forall_mem_cons.1 hserved
    obtain ⟨hsame : one.rules = group.rules, hrest⟩ := List.cons_eq_cons.1 hrules
    have hidentify : Reads order answers book (identify plan group) s
        (fun again => again.2 = false ∧ served again.1.id again.1.rules) False := by
      refine .status_bind ?_
      rw [hentry]
      refine .pure ⟨rfl, ?_⟩
      rw [hid, ← hsame]
      exact hfirst
    refine .bind hidentify ?_ id
    rintro ⟨first, created⟩ ⟨rfl, hserved₁⟩
    refine .bind (ih hrest hothers) ?_ id
    rintro ⟨others, anyCreated⟩ ⟨rfl, hserved₂⟩
    exact .pure ⟨rfl, List.forall_mem_cons.2 ⟨hserved₁, hserved₂⟩⟩

/-- After a step that has gone through the rules the next one creates nothing, and it ends ready
unless a request fails. -/
theorem step_recognises {t' : Trace} {r : Except Failure Outcome} {s'' : Status}
    (hreaches : ReachesRules plan s t found s') (hstands : t.Stands order answers book)
    (hmirrors : t.Mirrors answers shown)
    (hrecalls : Recalls s' plan.spec.network.securityGroups found)
    (hremotes : ∀ group ∈ plan.spec.network.securityGroups, ∀ rule ∈ group.rules,
      ∀ remote ∈ rule.body.remotes,
        answers.Recognisable shown s' remote ∧ answers.Lasts s' remote order)
    (hagain : (step plan).Runs s' t' r s'') (hstands' : t'.Stands order answers (book.after t)) :
    s'' = s' ∧ t'.ChangesNothing ∧ (t'.Answered → r = .ok .ready) := by
  obtain ⟨first, rest, kept, rfl, hall, henforce⟩ := hreaches
  have hrules := identifyAll_rules hall
  have hfound : ∀ one ∈ found, ∀ rule ∈ one.rules, ∀ remote ∈ rule.body.remotes,
      answers.Recognisable shown s' remote ∧ answers.Lasts s' remote order := by
    intro one hone
    have hmem : one.rules ∈ plan.spec.network.securityGroups.map (·.rules) := by
      rw [← hrules]
      exact List.mem_map_of_mem hone
    obtain ⟨group, hgroup, hsame⟩ := List.mem_map.1 hmem
    rw [← hsame]
    exact hremotes group hgroup
  have hserved : ∀ one ∈ found,
      Rules.Served order answers s' (book.after (first ++ rest)) one.id one.rules := by
    rw [RuleBook.after_append]
    exact Rules.enforceAll_serves henforce (Trace.stands_append.1 hstands).2
      (Trace.mirrors_append.1 hmirrors).2 Lookups.follows_none hfound
  have hreads : Reads order answers (book.after (first ++ rest)) (step plan) s' (· = .ready)
      False := by
    refine .bind (identifyAll_again hrecalls hrules hserved) ?_ id
    rintro ⟨again, created⟩ ⟨rfl, hagain⟩
    refine .bind (Rules.enforceAll_rests Lookups.follows_none hagain) ?_ id
    rintro ⟨keptAgain, known⟩ ⟨rfl, -⟩
    exact .pure rfl
  obtain ⟨hsame, hnothing, hok, herror⟩ := hreads hagain hstands'
  refine ⟨hsame, hnothing, fun hanswered => ?_⟩
  cases r with
  | ok outcome => rw [hok outcome rfl]
  | error e => exact (herror e rfl hanswered).elim

/-! ### A group that is not declared -/

/-- The only group that can be looked up. -/
def strangerAccount (identity : GroupIdentity) : Simulation.Account :=
  { Simulation.Account.empty with
    securityGroups := [{ id := "8", name := "h", crn := "c" }], identities := some [identity] }

def strangerPlan : Plan :=
  onlyGroups [onlyGroup [.group "h"]]

def strangerRule (identity : GroupIdentity) (id : String) : Cloud.Rule :=
  { id, direction := .inbound, traffic := .all
    remote := (strangerAccount identity).liveRemote (.group "c") }

def strangerLooks (listed : List Cloud.Rule) : Trace :=
  [⟨.listRules "4", .answer listed⟩,
    ⟨.findSecurityGroup "h", .answer (some { id := "8", name := "h", crn := "c" })⟩]

def strangerCreation (identity : GroupIdentity) (id : String) : Trace :=
  [⟨.createRule "4" ⟨.inbound, .all, .group "c"⟩, .answer (strangerRule identity id)⟩]

variable {identity : GroupIdentity} {id : String} {listed : List Cloud.Rule}

theorem stranger_reaches :
    ReachesRules strangerPlan groupStart (strangerLooks [] ++ strangerCreation identity id)
      [{ id := "4", name := "g", rules := (onlyGroup [.group "h"]).rules }] groupStart :=
  ⟨[], _, _, rfl, .done _, .ask (.ask (.ask (.done _)))⟩

theorem strangerLooks_stands (h : order listed (book "4")) :
    (strangerLooks listed).Stands order (strangerAccount identity).still book := by
  refine ⟨fun exchange hmem => ?_, Trace.lists_cons.2 ⟨Trace.lists_listing h, ?_⟩⟩
  · rcases List.mem_pair.1 hmem with rfl | rfl
    · trivial
    · rfl
  · exact Trace.lists_of_not_listing nofun

theorem strangerCreation_stands :
    (strangerCreation identity id).Stands order answers book := by
  refine ⟨fun exchange hmem => ?_, Trace.lists_of_not_listing nofun⟩
  obtain rfl := List.mem_singleton.1 hmem
  trivial

theorem stranger_mirrors :
    Trace.Mirrors (strangerAccount identity).still (strangerAccount identity).shows
      (strangerLooks listed ++ strangerCreation identity id) := by
  have hlooks : Trace.Mirrors (strangerAccount identity).still (strangerAccount identity).shows
      (strangerLooks listed) := by
    simp [Trace.Mirrors, strangerLooks, Exchange.Mirrors]
  refine Trace.mirrors_append.2 ⟨hlooks, List.forall_mem_singleton.2 ⟨rfl, trivial, ?_⟩⟩
  exact Simulation.Account.mirrors_liveRemote (by simp [strangerAccount]) _

/-- The rule is recognised by its CRN. -/
theorem step_recognises_stranger :
    ReachesRules strangerPlan groupStart (strangerLooks [] ++ strangerCreation .crn "5")
      [{ id := "4", name := "g", rules := (onlyGroup [.group "h"]).rules }] groupStart ∧
    (step strangerPlan).Runs groupStart (strangerLooks [strangerRule .crn "5"]) (.ok .ready)
      groupStart ∧
    (strangerLooks [strangerRule .crn "5"]).ChangesNothing := by
  have hstands : Trace.Stands Eq (strangerAccount .crn).still (fun _ => [])
      (strangerLooks [] ++ strangerCreation .crn "5") :=
    Trace.stands_append.2 ⟨strangerLooks_stands rfl, strangerCreation_stands⟩
  have hrun : (step strangerPlan).Runs groupStart (strangerLooks [strangerRule .crn "5"])
      (.ok .ready) groupStart := .ask (.ask (.done _))
  have hrecalls : Recalls groupStart strangerPlan.spec.network.securityGroups
      [{ id := "4", name := "g", rules := (onlyGroup [.group "h"]).rules }] :=
    .cons ⟨_, rfl, rfl⟩ .nil
  have hremotes : ∀ group ∈ strangerPlan.spec.network.securityGroups, ∀ rule ∈ group.rules,
      ∀ remote ∈ rule.body.remotes,
        (strangerAccount .crn).still.Recognisable (strangerAccount .crn).shows groupStart remote ∧
        (strangerAccount .crn).still.Lasts groupStart remote Eq := by
    intro group _ rule _ remote _
    refine ⟨?_, .inOrder⟩
    cases remote with
    | any | address | subnet => trivial
    | group name => exact fun _ _ => .inl rfl
  have hagain := step_recognises stranger_reaches hstands stranger_mirrors hrecalls hremotes hrun
    (strangerLooks_stands rfl)
  exact ⟨stranger_reaches, hrun, hagain.2.1⟩

/-! ### Rules that are not recognised -/

/-- A step goes through the rules. Though nothing but rules is new and no request fails, the next
one does not end ready. -/
structure Unsettled (plan : Plan) (account : Simulation.Account) (order : RuleOrder)
    (book : RuleBook) (s : Status) (t : Trace) (s' : Status) (t' : Trace) : Prop where
  reaches : ∃ found, ReachesRules plan s t found s'
  stands : t.Stands order account.still book
  mirrors : t.Mirrors account.still account.shows
  again : ∃ r s'', (step plan).Runs s' t' r s'' ∧ r ≠ .ok .ready
  standsAgain : t'.Stands order account.still (book.after t)
  answered : t'.Answered

/-- Its ID is not remembered. -/
theorem strangerPlan_unsettled :
    Unsettled strangerPlan (strangerAccount .id) Eq (fun _ => []) groupStart
      (strangerLooks [] ++ strangerCreation .id "5") groupStart
      (strangerLooks [strangerRule .id "5"] ++ strangerCreation .id "6") where
  reaches := ⟨_, stranger_reaches⟩
  stands := Trace.stands_append.2 ⟨strangerLooks_stands rfl, strangerCreation_stands⟩
  mirrors := stranger_mirrors
  again := ⟨.ok .requeue, _, .ask (.ask (.ask (.done _))), nofun⟩
  standsAgain := Trace.stands_append.2 ⟨strangerLooks_stands rfl, strangerCreation_stands⟩
  answered := by simp [strangerLooks, strangerCreation]

/-- There are two groups of the same name. -/
def namesakeAccount : Simulation.Account :=
  { Simulation.Account.empty with
    securityGroups :=
      [{ id := "4", name := "g", crn := "b" }, { id := "9", name := "g", crn := "c" }] }

/-- One is declared by its name and one by its ID. -/
def namesakePlan : Plan :=
  onlyGroups [onlyGroup [.any], { id := some "9", name := none, rules := [] }]

def namesakeLook : Trace :=
  [⟨.getSecurityGroup "9", .answer (some { id := "9", name := "g", crn := "c" })⟩]

def namesakePass (groupId id : String) : Trace :=
  [⟨.listRules groupId, .answer []⟩,
    ⟨.createRule groupId ⟨.inbound, .all, .cidr anyBlock⟩,
      .answer { id, direction := .inbound, traffic := .all, remote := .cidr anyBlock }⟩]

theorem namesakePass_stands {groupId : String} (h : order [] (book groupId)) :
    (namesakePass groupId id).Stands order answers book := by
  refine ⟨fun exchange hmem => ?_, Trace.lists_cons.2 ⟨Trace.lists_listing h, ?_⟩⟩
  · rcases List.mem_pair.1 hmem with rfl | rfl <;> trivial
  · exact Trace.lists_of_not_listing nofun

/-- The group that is found last takes the place of the other under their name. -/
theorem namesakePlan_unsettled :
    Unsettled namesakePlan namesakeAccount Eq (fun _ => []) groupStart
      (namesakeLook ++ namesakePass "4" "5")
      (groupStart.put .securityGroups "g" ⟨"9", "g", true⟩) (namesakePass "9" "6") where
  reaches := ⟨_, namesakeLook, _, _, rfl, .ask (.done _), .ask (.ask (.done _))⟩
  stands := by
    refine Trace.stands_append.2 ⟨⟨fun exchange hmem => ?_, ?_⟩, namesakePass_stands rfl⟩
    · obtain rfl := List.mem_singleton.1 hmem
      rfl
    · exact Trace.lists_of_not_listing nofun
  mirrors := by
    have hlook : Trace.Mirrors namesakeAccount.still namesakeAccount.shows namesakeLook := by
      simp [Trace.Mirrors, namesakeLook, Exchange.Mirrors]
    refine Trace.mirrors_append.2 ⟨hlook, List.forall_mem_cons.2 ⟨trivial, ?_⟩⟩
    exact List.forall_mem_singleton.2 ⟨rfl, trivial, rfl⟩
  again := ⟨.ok .requeue, _, .ask (.ask (.done _)), nofun⟩
  standsAgain := namesakePass_stands rfl
  answered := by simp [namesakePass]

/-- One of the two groups that are referred to cannot be looked up. -/
def danglingPlan : Plan :=
  onlyGroups [onlyGroup [.group "x", .group "h"]]

def danglingBook : RuleBook := fun _ =>
  [{ id := "3", direction := .inbound, traffic := .all, remote := .group none (some "x") none }]

def danglingPass : Trace :=
  [⟨.listRules "4", .answer (strangerRule .crn "5" :: danglingBook "4")⟩,
    ⟨.findSecurityGroup "x", .answer none⟩]

/-- The look-up was not needed as long as the rule that names the group was listed first. -/
theorem danglingPlan_unsettled :
    Unsettled danglingPlan (strangerAccount .crn) List.Perm danglingBook groupStart
      (strangerLooks (danglingBook "4") ++ strangerCreation .crn "5") groupStart danglingPass where
  reaches := ⟨_, [], _, _, rfl, .done _, .ask (.ask (.ask (.done _)))⟩
  stands := Trace.stands_append.2 ⟨strangerLooks_stands (.refl _), strangerCreation_stands⟩
  mirrors := stranger_mirrors
  again := ⟨_, _, .ask (.ask (.done _)), nofun⟩
  standsAgain := by
    refine ⟨fun exchange hmem => ?_, Trace.lists_cons.2 ⟨Trace.lists_listing ?_, ?_⟩⟩
    · rcases List.mem_pair.1 hmem with rfl | rfl
      · trivial
      · rfl
    · exact List.Perm.swap _ _ []
    · exact Trace.lists_of_not_listing nofun
  answered := by simp [danglingPass]

/-- Whether rules are recognised hangs on all that is asked of them: on the identities that groups
show, on the entries of groups, and on the order of listings or else on the look-ups. -/
theorem rules_are_not_recognised :
    Unsettled strangerPlan (strangerAccount .id) Eq (fun _ => []) groupStart
      (strangerLooks [] ++ strangerCreation .id "5") groupStart
      (strangerLooks [strangerRule .id "5"] ++ strangerCreation .id "6") ∧
    Unsettled namesakePlan namesakeAccount Eq (fun _ => []) groupStart
      (namesakeLook ++ namesakePass "4" "5")
      (groupStart.put .securityGroups "g" ⟨"9", "g", true⟩) (namesakePass "9" "6") ∧
    Unsettled danglingPlan (strangerAccount .crn) List.Perm danglingBook groupStart
      (strangerLooks (danglingBook "4") ++ strangerCreation .crn "5") groupStart danglingPass :=
  ⟨strangerPlan_unsettled, namesakePlan_unsettled, danglingPlan_unsettled⟩

end Groups

end VpcOperator.Pass
