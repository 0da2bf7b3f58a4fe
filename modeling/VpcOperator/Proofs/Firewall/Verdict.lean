import VpcOperator.Proofs.Firewall.Memo
import VpcOperator.Proofs.Firewall.RuleBook
import VpcOperator.Proofs.Prompt

/-! # Verdicts on live rules

While subnets and groups stay as they are, whether a live rule satisfies a
remote is a matter of the status alone; there is no telling if what the remote
refers to cannot be looked up. The matcher comes to just this verdict, whatever
it knows already.
-/

namespace VpcOperator

open Cloud (Request)
open Observed (Status)

/-- A subnet or group that is looked up is the one of these answers. -/
def Exchange.LooksUp (answers : Cloud.Answers) : Exchange → Prop
  | ⟨.getSubnet id, .answer found⟩ => found = answers (.getSubnet id)
  | ⟨.findSubnet name, .answer found⟩ => found = answers (.findSubnet name)
  | ⟨.getSecurityGroup id, .answer found⟩ => found = answers (.getSecurityGroup id)
  | ⟨.findSecurityGroup name, .answer found⟩ => found = answers (.findSecurityGroup name)
  | _ => True

namespace Trace

variable {order : RuleOrder} {answers : Cloud.Answers} {book : RuleBook} {exchange : Exchange}
  {t first rest : Trace}

/-- Nothing but rules is new: subnets and groups are as in these answers, and rules as in this book
and created since. -/
structure Stands (order : RuleOrder) (answers : Cloud.Answers) (book : RuleBook) (t : Trace) :
    Prop where
  looksUp : ∀ exchange ∈ t, exchange.LooksUp answers
  lists : t.Lists order book

theorem stands_append :
    Stands order answers book (first ++ rest) ↔
      Stands order answers book first ∧ Stands order answers (book.after first) rest := by
  constructor
  · rintro ⟨hlooksUp, hlists⟩
    obtain ⟨hfirst, hrest⟩ := lists_append.1 hlists
    exact ⟨⟨fun one hmem => hlooksUp one (List.mem_append_left _ hmem), hfirst⟩,
      ⟨fun one hmem => hlooksUp one (List.mem_append_right _ hmem), hrest⟩⟩
  · rintro ⟨⟨hfirst, hlists⟩, ⟨hrest, hlists'⟩⟩
    refine ⟨fun one hmem => ?_, lists_append.2 ⟨hlists, hlists'⟩⟩
    exact (List.mem_append.1 hmem).elim (hfirst one) (hrest one)

theorem stands_cons :
    Stands order answers book (exchange :: rest) ↔
      Stands order answers book [exchange] ∧ Stands order answers (book.after [exchange]) rest := by
  show Stands order answers book ([exchange] ++ rest) ↔ _
  exact stands_append

end Trace

namespace Pass

variable {α β : Type} {order : RuleOrder} {answers : Cloud.Answers} {book : RuleBook}
  {pass : Pass α} {s s' : Status}

/-- The pass changes neither cloud nor status. What it comes to has the first property, and if it
fails although all requests are answered, the second one holds. -/
def Reads (order : RuleOrder) (answers : Cloud.Answers) (book : RuleBook) (pass : Pass α)
    (s : Status) (goal : α → Prop) (failure : Prop) : Prop :=
  ∀ ⦃t r s'⦄, pass.Runs s t r s' → t.Stands order answers book →
    s' = s ∧ t.ChangesNothing ∧ (∀ a, r = .ok a → goal a) ∧
      ∀ e, r = .error e → t.Answered → failure

namespace Reads

variable {goal : α → Prop} {failure failure' : Prop}

theorem pure {a : α} (h : goal a) : Reads order answers book (pure a) s goal failure := by
  intro t r s' hrun _
  obtain ⟨rfl, rfl, rfl⟩ := runs_pure.1 hrun
  refine ⟨rfl, Trace.changesNothing_nil, ?_, ?_⟩
  · rintro _ ⟨⟩
    exact h
  · rintro _ ⟨⟩

theorem fail {e : Failure} (h : failure) :
    Reads order answers book (fail e : Pass α) s goal failure := by
  intro t r s' hrun _
  obtain ⟨rfl, rfl, rfl⟩ := runs_fail.1 hrun
  refine ⟨rfl, Trace.changesNothing_nil, ?_, fun _ _ _ => h⟩
  rintro _ ⟨⟩

theorem call {target : String} {request : Request} {goal : request.Answer → Prop}
    (hlook : request.changes = false)
    (h : ∀ answer, Trace.Stands order answers book [⟨request, .answer answer⟩] → goal answer) :
    Reads order answers book (call target request) s goal False := by
  intro t r s' hrun hstands
  obtain ⟨reply, rfl, rfl, rfl⟩ := runs_call.1 hrun
  refine ⟨rfl, Trace.changesNothing_cons.2 ⟨hlook, Trace.changesNothing_nil⟩, ?_, ?_⟩
  · intro a hr
    cases reply with
    | answer value =>
      cases hr
      exact h _ hstands
    | error | aborted => cases hr
  · intro e hr hanswered
    obtain ⟨answer, hreply⟩ := hanswered _ List.mem_cons_self
    cases reply with
    | answer => cases hr
    | error | aborted => cases hreply

theorem bind {next : α → Pass β} {goal' : β → Prop}
    (h : Reads order answers book pass s goal failure')
    (hnext : ∀ a, goal a → Reads order answers book (next a) s goal' failure)
    (hfailure : failure' → failure) : Reads order answers book (pass >>= next) s goal' failure := by
  intro t r s' hrun hstands
  rcases runs_bind.1 hrun with ⟨a, mid, first, rest, rfl, hfirst, hrest⟩ | ⟨e, rfl, hfirst⟩
  · obtain ⟨hstands₁, hstands₂⟩ := Trace.stands_append.1 hstands
    obtain ⟨rfl, hnothing, hok, -⟩ := h hfirst hstands₁
    rw [RuleBook.after_of_changesNothing hnothing] at hstands₂
    obtain ⟨hsame, hnothing', hok', herror⟩ := hnext a (hok a rfl) hrest hstands₂
    exact ⟨hsame, Trace.changesNothing_append.2 ⟨hnothing, hnothing'⟩, hok',
      fun e hr hanswered => herror e hr (Trace.answered_append.1 hanswered).2⟩
  · obtain ⟨hsame, hnothing, -, herror⟩ := h hfirst hstands
    refine ⟨hsame, hnothing, ?_, fun _ _ hanswered => hfailure (herror e rfl hanswered)⟩
    rintro _ ⟨⟩

theorem status_bind {next : Status → Pass β} {goal : β → Prop}
    (h : Reads order answers book (next s) s goal failure) :
    Reads order answers book (status >>= next) s goal failure :=
  h

end Reads

end Pass

/-! ## What is looked up -/

namespace Cloud.Answers

variable {answers : Cloud.Answers} {s : Status} {direction : Direction} {protocol : Protocol}
  {remote : Desired.Remote} {prototype : RemotePrototype}

def subnet? (answers : Cloud.Answers) (s : Status) (name : String) : Option Subnet :=
  match s.subnetId? name with
  | some id => answers (.getSubnet id)
  | none => answers (.findSubnet name)

/-- The addresses of the subnet that goes by this name. -/
def block? (answers : Cloud.Answers) (s : Status) (name : String) : Option String :=
  (answers.subnet? s name).bind (·.cidr)

def group? (answers : Cloud.Answers) (s : Status) (name : String) : Option SecurityGroup :=
  match s.securityGroupId? name with
  | some id => answers (.getSecurityGroup id)
  | none => answers (.findSecurityGroup name)

/-- The remote a rule is created with. -/
def prototype? (answers : Cloud.Answers) (s : Status) : Desired.Remote → Option RemotePrototype
  | .any => some (.cidr anyBlock)
  | .address ip => some (.address ip)
  | .subnet name => (answers.block? s name).map .cidr
  | .group name => (answers.group? s name).map fun group => .group group.crn

/-- Whether the live remote is the wanted one, if there is telling. -/
def serves? (answers : Cloud.Answers) (s : Status) (wanted : Desired.Remote) (live : Remote) :
    Option Bool :=
  match wanted, live with
  | .any, .cidr block | .any, .ip block => some (block = anyBlock)
  | .address ip, .ip liveIp => some (ip = liveIp)
  | .subnet name, .cidr block => (answers.block? s name).map fun wanted => wanted = block
  | .group name, .group liveId liveName liveCrn =>
    if liveName = some name || (liveId.isSome && liveId = s.securityGroupId? name) then
      some true
    else
      match liveCrn with
      | none => some false
      | some crn => (answers.group? s name).map fun group => crn = group.crn
  | _, _ => some false

/-- Whether the live rule does what a declared rule asks for with this remote. -/
def fits? (answers : Cloud.Answers) (s : Status) (direction : Direction) (protocol : Protocol)
    (remote : Desired.Remote) (live : Rule) : Option Bool :=
  if live.direction = direction && protocol.isCarriedBy live.traffic then
    answers.serves? s remote live.remote
  else
    some false

/-- Whether any of the live rules does. Behind the first that does, or of which there is no telling,
no rule matters. -/
def anyFits? (answers : Cloud.Answers) (s : Status) (direction : Direction) (protocol : Protocol)
    (remote : Desired.Remote) : List Rule → Option Bool
  | [] => some false
  | live :: rest =>
    (answers.fits? s direction protocol remote live).bind fun found =>
      if found then some true else answers.anyFits? s direction protocol remote rest

theorem anyFits?_append {live more : List Rule} :
    answers.anyFits? s direction protocol remote (live ++ more) =
      (answers.anyFits? s direction protocol remote live).bind fun found =>
        if found then some true else answers.anyFits? s direction protocol remote more := by
  induction live with
  | nil => rfl
  | cons one rest ih =>
    simp only [List.cons_append, anyFits?, ih, Option.bind_assoc]
    congr 1
    funext found
    cases found <;> rfl

theorem exists_of_anyFits? {live : List Rule}
    (h : answers.anyFits? s direction protocol remote live = some true) :
    ∃ one ∈ live, answers.fits? s direction protocol remote one = some true := by
  induction live with
  | nil => cases h
  | cons one rest ih =>
    obtain ⟨found, hfound, hrest⟩ := Option.bind_eq_some_iff.1 h
    cases found with
    | true => exact ⟨one, List.mem_cons_self, hfound⟩
    | false =>
      obtain ⟨other, hmem, hfits⟩ := ih hrest
      exact ⟨other, List.mem_cons_of_mem _ hmem, hfits⟩

/-- Where a remote can be resolved there is telling of every live rule. -/
theorem serves?_isSome {live : Remote} (h : answers.prototype? s remote = some prototype) :
    (answers.serves? s remote live).isSome := by
  unfold serves?
  split
  · rfl
  · rfl
  · rfl
  · obtain ⟨block, hblock, -⟩ := Option.map_eq_some_iff.1 h
    rw [hblock]
    rfl
  · obtain ⟨group, hgroup, -⟩ := Option.map_eq_some_iff.1 h
    split
    · rfl
    · split
      · rfl
      · rw [hgroup]
        rfl
  · rfl

theorem fits?_isSome {live : Rule} (h : answers.prototype? s remote = some prototype) :
    (answers.fits? s direction protocol remote live).isSome := by
  unfold fits?
  split
  · exact serves?_isSome h
  · rfl

/-- A rule that fits is found behind any others if the remote can be resolved. -/
theorem anyFits?_of_mem {live : List Rule} {one : Rule}
    (h : answers.prototype? s remote = some prototype) (hmem : one ∈ live)
    (hfits : answers.fits? s direction protocol remote one = some true) :
    answers.anyFits? s direction protocol remote live = some true := by
  induction live with
  | nil => cases hmem
  | cons head rest ih =>
    obtain ⟨found, hfound⟩ := Option.isSome_iff_exists.1 (fits?_isSome h)
    rw [anyFits?, hfound]
    cases found with
    | true => rfl
    | false =>
      rcases List.mem_cons.1 hmem with rfl | hmem
      · rw [hfits] at hfound
        cases hfound
      · exact ih hmem

end Cloud.Answers

/-! ## What the matcher reads -/

namespace Pass.Lookups

variable {order : RuleOrder} {answers : Cloud.Answers} {book : RuleBook} {s : Status}
  {known : Lookups} {name : String} {wanted : Desired.Remote}

/-- What is known is what would be looked up. -/
structure Follows (answers : Cloud.Answers) (s : Status) (known : Lookups) : Prop where
  cidrs : ∀ name block, known.cidrs.find? name = some block → answers.block? s name = some block
  groups : ∀ name group, known.groups.find? name = some group →
    answers.group? s name = some group

theorem follows_none : Follows answers s none :=
  ⟨by simp [none], by simp [none]⟩

theorem Follows.insert_cidr {block : String} (h : known.Follows answers s)
    (hblock : answers.block? s name = some block) :
    Follows answers s { known with cidrs := known.cidrs.insert name block } :=
  ⟨Table.forall_find?_insert h.cidrs hblock, h.groups⟩

theorem Follows.insert_group {group : Cloud.SecurityGroup} (h : known.Follows answers s)
    (hgroup : answers.group? s name = some group) :
    Follows answers s { known with groups := known.groups.insert name group } :=
  ⟨h.cidrs, Table.forall_find?_insert h.groups hgroup⟩

theorem fetchSubnet_reads :
    Reads order answers book (fetchSubnet name) s (· = answers.subnet? s name) False := by
  refine .status_bind ?_
  unfold Cloud.Answers.subnet?
  cases s.subnetId? name with
  | some id => exact .call rfl fun found hstands => hstands.looksUp _ List.mem_cons_self
  | none => exact .call rfl fun found hstands => hstands.looksUp _ List.mem_cons_self

theorem fetchGroup_reads :
    Reads order answers book (fetchGroup name) s (· = answers.group? s name) False := by
  refine .status_bind ?_
  unfold Cloud.Answers.group?
  cases s.securityGroupId? name with
  | some id => exact .call rfl fun found hstands => hstands.looksUp _ List.mem_cons_self
  | none => exact .call rfl fun found hstands => hstands.looksUp _ List.mem_cons_self

theorem cidr_reads (hknown : known.Follows answers s) :
    Reads order answers book (cidr name known) s
      (fun found => answers.block? s name = some found.1 ∧ found.2.Follows answers s)
      (answers.block? s name = .none) := by
  unfold cidr
  split
  · rename_i block hfind
    exact .pure ⟨hknown.cidrs name block hfind, hknown⟩
  · refine .bind fetchSubnet_reads ?_ False.elim
    rintro _ rfl
    cases hblock : (answers.subnet? s name).bind (·.cidr) with
    | none => exact .fail hblock
    | some block => exact .pure ⟨hblock, hknown.insert_cidr hblock⟩

theorem group_reads (hknown : known.Follows answers s) :
    Reads order answers book (Lookups.group name known) s
      (fun found => answers.group? s name = some found.1 ∧ found.2.Follows answers s)
      (answers.group? s name = .none) := by
  unfold Lookups.group
  split
  · rename_i group hfind
    exact .pure ⟨hknown.groups name group hfind, hknown⟩
  · refine .bind fetchGroup_reads ?_ False.elim
    rintro _ rfl
    cases hgroup : answers.group? s name with
    | none => exact .fail rfl
    | some group => exact .pure ⟨rfl, hknown.insert_group hgroup⟩

theorem matchesRemote_reads {live : Cloud.Remote} (hknown : known.Follows answers s) :
    Reads order answers book (matchesRemote wanted live known) s
      (fun found => answers.serves? s wanted live = some found.1 ∧ found.2.Follows answers s)
      (answers.serves? s wanted live = .none) := by
  cases wanted with
  | any => cases live <;> exact .pure ⟨rfl, hknown⟩
  | address ip => cases live <;> exact .pure ⟨rfl, hknown⟩
  | subnet name =>
    cases live with
    | cidr block =>
      refine .bind (cidr_reads hknown) ?_ fun hblock => ?_
      · rintro ⟨found, known₁⟩ ⟨hblock, hknown₁⟩
        exact .pure ⟨by simp [Cloud.Answers.serves?, hblock], hknown₁⟩
      · simp [Cloud.Answers.serves?, hblock]
    | ip | group => exact .pure ⟨rfl, hknown⟩
  | group name =>
    cases live with
    | cidr | ip => exact .pure ⟨rfl, hknown⟩
    | group liveId liveName liveCrn =>
      refine .status_bind ?_
      split
      · rename_i hsame
        exact .pure ⟨by simp [Cloud.Answers.serves?, hsame], hknown⟩
      · rename_i hother
        cases liveCrn with
        | none => exact .pure ⟨by rw [Cloud.Answers.serves?, if_neg hother], hknown⟩
        | some crn =>
          refine .bind (group_reads hknown) ?_ fun hgroup => ?_
          · rintro ⟨found, known₁⟩ ⟨hgroup, hknown₁⟩
            refine .pure ⟨?_, hknown₁⟩
            rw [Cloud.Answers.serves?, if_neg hother, hgroup]
            rfl
          · rw [Cloud.Answers.serves?, if_neg hother, hgroup]
            rfl

theorem matchesRule_reads {direction : Direction} {protocol : Protocol} {live : Cloud.Rule}
    (hknown : known.Follows answers s) :
    Reads order answers book (known.matchesRule direction protocol wanted live) s
      (fun found => answers.fits? s direction protocol wanted live = some found.1 ∧
        found.2.Follows answers s)
      (answers.fits? s direction protocol wanted live = .none) := by
  unfold matchesRule Cloud.Answers.fits?
  split
  · exact matchesRemote_reads hknown
  · exact .pure ⟨rfl, hknown⟩

theorem prototype_reads (hknown : known.Follows answers s) :
    Reads order answers book (known.prototype wanted) s
      (fun found => answers.prototype? s wanted = some found.1 ∧ found.2.Follows answers s)
      (answers.prototype? s wanted = .none) := by
  unfold prototype
  split
  · exact .pure ⟨rfl, hknown⟩
  · exact .pure ⟨rfl, hknown⟩
  · refine .bind (cidr_reads hknown) ?_ fun hblock => ?_
    · rintro ⟨block, known₁⟩ ⟨hblock, hknown₁⟩
      exact .pure ⟨by simp [Cloud.Answers.prototype?, hblock], hknown₁⟩
    · simp [Cloud.Answers.prototype?, hblock]
  · refine .bind (group_reads hknown) ?_ fun hgroup => ?_
    · rintro ⟨group, known₁⟩ ⟨hgroup, hknown₁⟩
      exact .pure ⟨by simp [Cloud.Answers.prototype?, hgroup], hknown₁⟩
    · simp [Cloud.Answers.prototype?, hgroup]

end Pass.Lookups

theorem Pass.Rules.isSatisfied_reads {order : RuleOrder} {answers : Cloud.Answers}
    {book : RuleBook} {s : Status}
    {direction : Direction} {protocol : Protocol} {remote : Desired.Remote}
    {live : List Cloud.Rule} {known : Lookups} (hknown : known.Follows answers s) :
    Reads order answers book (isSatisfied direction protocol remote live known) s
      (fun found => answers.anyFits? s direction protocol remote live = some found.1 ∧
        found.2.Follows answers s)
      (answers.anyFits? s direction protocol remote live = none) := by
  induction live generalizing known with
  | nil => exact .pure ⟨rfl, hknown⟩
  | cons one others ih =>
    refine .bind (Lookups.matchesRule_reads hknown) ?_ fun hone => ?_
    · rintro ⟨found, known₁⟩ ⟨hfound, hknown₁⟩
      cases found with
      | true => exact .pure ⟨by rw [Cloud.Answers.anyFits?, hfound]; rfl, hknown₁⟩
      | false =>
        rw [Cloud.Answers.anyFits?, hfound]
        exact ih hknown₁
    · rw [Cloud.Answers.anyFits?, hone]
      rfl

end VpcOperator
