import VpcOperator.Proofs.Runs

/-! # Failures end a pass

A part of a pass that ends well has got an answer to each of its requests. One
that fails has found something missing, or else one request has got no answer:
the first such request is also the last, and the failure tells which it is.
-/

namespace VpcOperator

open Cloud (Request)
open Observed (Status)
open Desired (Role)

def Trace.Answered (t : Trace) : Prop :=
  ∀ exchange ∈ t, ∃ answer, exchange.reply = .answer answer

namespace Trace

variable {exchange : Exchange} {first rest : Trace}

@[simp] theorem answered_nil : Answered [] := by
  simp [Answered]

@[simp] theorem answered_cons :
    Answered (exchange :: rest) ↔ (∃ answer, exchange.reply = .answer answer) ∧ Answered rest := by
  simp [Answered]

@[simp] theorem answered_append :
    Answered (first ++ rest) ↔ Answered first ∧ Answered rest := by
  simp [Answered, or_imp, forall_and]

end Trace

/-- All requests were answered, but something is missing. -/
@[simp] def Failure.IsFinding : Failure → Prop
  | notFound .. | precondition .. => True
  | _ => False

namespace Plan

variable {plan : Plan} {s : Status} {e : Failure}

theorem resourceGroupId_finding (h : plan.resourceGroupId s = .error e) : e.IsFinding := by
  unfold resourceGroupId at h
  split at h <;> cases h
  trivial

theorem networkGroupId_finding (h : plan.networkGroupId s = .error e) : e.IsFinding := by
  unfold networkGroupId at h
  split at h
  · cases h
  · exact resourceGroupId_finding h

theorem vpcId_finding (h : plan.vpcId s = .error e) : e.IsFinding := by
  unfold vpcId at h
  split at h <;> cases h
  trivial

end Plan

namespace Pass

variable {α β : Type} {plan : Plan} {named : String → String → Prop} {request : Request}
  {raised : Trace → Failure → Prop} {first t : Trace} {e : Failure}

/-- A failed request is told by the ID or the name that it is about. Rules are asked for by the ID
of their group, and told by its name. -/
def Aims (plan : Plan) (named : String → String → Prop) (request : Request) (target : String) :
    Prop :=
  match request with
  | .getVpc id | .getSubnet id | .getSecurityGroup id | .getLoadBalancer id | .getImage id =>
    target = id
  | .listResourceGroups name | .findVpc name | .findSubnet name | .findGateway name _
  | .findSecurityGroup name | .findLoadBalancer name | .findImage name | .createTag name
  | .attachTag name _ => target = name
  | .createVpc prototype => target = prototype.name
  | .createSubnet prototype => target = prototype.name
  | .createGateway prototype => target = prototype.name
  | .createSecurityGroup prototype => target = prototype.name
  | .createLoadBalancer prototype => target = prototype.name
  | .createImage prototype => target = prototype.name
  | .listRules groupId | .createRule groupId _ => named groupId target
  | .listZones region => target = region
  | .listTags => target = plan.clusterName

theorem Aims.mono {more : String → String → Prop} {target : String}
    (h : Aims plan named request target) (hmore : ∀ {id name}, named id name → more id name) :
    Aims plan more request target := by
  unfold Aims at *
  split at h <;> first | exact hmore h | exact h

/-- This request comes last and is the first one that was not answered; the failure says whether it
was refused or aborted, and which request it is. -/
inductive Broken (plan : Plan) (named : String → String → Prop) (request : Request) :
    Trace → Failure → Prop
  | refused {earlier : Trace} {target : String} (source : Cloud.ServiceError) :
      earlier.Answered → Aims plan named request target →
      Broken plan named request (earlier ++ [⟨request, .error source⟩])
        (.service request.kind request.verb target source)
  | aborted {earlier : Trace} {target : String} :
      earlier.Answered → Aims plan named request target →
      Broken plan named request (earlier ++ [⟨request, .aborted⟩])
        (.cancelled request.kind request.verb target)

theorem Broken.after (h : Broken plan named request t e) (hfirst : first.Answered) :
    Broken plan named request (first ++ t) e := by
  cases h with
  | refused source hearlier haims =>
    rw [← List.append_assoc]
    exact .refused source (Trace.answered_append.2 ⟨hfirst, hearlier⟩) haims
  | aborted hearlier haims =>
    rw [← List.append_assoc]
    exact .aborted (Trace.answered_append.2 ⟨hfirst, hearlier⟩) haims

theorem Broken.mono {more : String → String → Prop} (h : Broken plan named request t e)
    (hmore : ∀ {id name}, named id name → more id name) : Broken plan more request t e := by
  cases h with
  | refused source hearlier haims => exact .refused source hearlier (haims.mono hmore)
  | aborted hearlier haims => exact .aborted hearlier (haims.mono hmore)

def BrokenTag (plan : Plan) (named : String → String → Prop) (t : Trace) (e : Failure) : Prop :=
  ∃ request, request.kind = .tag ∧ Broken plan named request t e

theorem BrokenTag.after (h : BrokenTag plan named t e) (hfirst : first.Answered) :
    BrokenTag plan named (first ++ t) e :=
  h.imp fun _ h => ⟨h.1, h.2.after hfirst⟩

/-- What the failure comes from. That of a request for a tag is told within one of the resource that
was to get the tag. -/
inductive Raised (plan : Plan) (named : String → String → Prop) : Trace → Failure → Prop
  | finding {t : Trace} {e : Failure} : t.Answered → e.IsFinding → Raised plan named t e
  | failed {request : Request} {t : Trace} {e : Failure} :
      request.kind ≠ .tag → Broken plan named request t e → Raised plan named t e
  | untagged {t : Trace} {e : Failure} (kind : Kind) (name : String) :
      BrokenTag plan named t e → Raised plan named t (.untagged kind name e)

theorem Raised.after (h : Raised plan named t e) (hfirst : first.Answered) :
    Raised plan named (first ++ t) e := by
  cases h with
  | finding ht he => exact .finding (Trace.answered_append.2 ⟨hfirst, ht⟩) he
  | failed hkind hbroken => exact .failed hkind (hbroken.after hfirst)
  | untagged kind name hbroken => exact .untagged kind name (hbroken.after hfirst)

theorem Raised.mono {more : String → String → Prop} (h : Raised plan named t e)
    (hmore : ∀ {id name}, named id name → more id name) : Raised plan more t e := by
  cases h with
  | finding ht he => exact .finding ht he
  | failed hkind hbroken => exact .failed hkind (hbroken.mono hmore)
  | untagged kind name hbroken =>
    obtain ⟨request, hkind, hbroken⟩ := hbroken
    exact .untagged kind name ⟨request, hkind, hbroken.mono hmore⟩

/-! ## Passes that end with their first failure -/

/-- All has been answered if the part ended well, and else a failure has come up. -/
def Judged (raised : Trace → Failure → Prop) (t : Trace) : Except Failure α → Prop
  | .ok _ => t.Answered
  | .error e => raised t e

/-- A failure comes up all the same if something was answered before. -/
class Late (raised : Trace → Failure → Prop) : Prop where
  after : ∀ {first t e}, raised t e → first.Answered → raised (first ++ t) e

instance (plan : Plan) (named : String → String → Prop) : Late (BrokenTag plan named) where
  after := BrokenTag.after

instance (plan : Plan) (named : String → String → Prop) : Late (Raised plan named) where
  after := Raised.after

theorem Judged.after [Late raised] {r : Except Failure α} (h : Judged raised t r)
    (hfirst : first.Answered) : Judged raised (first ++ t) r := by
  cases r with
  | ok a => exact Trace.answered_append.2 ⟨hfirst, h⟩
  | error e => exact Late.after h hfirst

theorem Judged.map {r : Except Failure α} (h : Judged raised t r) (f : α → β) :
    Judged raised t (r.map f) := by
  cases r with
  | ok a => exact h
  | error e => exact h

theorem Judged.mono {more : String → String → Prop} {r : Except Failure α}
    (h : Judged (Raised plan named) t r) (hmore : ∀ {id name}, named id name → more id name) :
    Judged (Raised plan more) t r := by
  cases r with
  | ok a => exact h
  | error e => exact Raised.mono h hmore

def Prompt (raised : Trace → Failure → Prop) (pass : Pass α) : Prop :=
  ∀ ⦃s t r s'⦄, pass.Runs s t r s' → Judged raised t r

theorem Prompt.answered {pass : Pass α} {s s' : Status} {a : α} (h : Prompt raised pass)
    (hrun : pass.Runs s t (.ok a) s') : t.Answered :=
  h hrun

namespace Prompt

theorem ofExcept {result : Except Failure α} (h : ∀ {e}, result = .error e → raised [] e) :
    Prompt raised (ofExcept result) := by
  intro s t r s' hrun
  obtain ⟨rfl, rfl, -⟩ := runs_ofExcept.1 hrun
  cases r with
  | ok a => exact Trace.answered_nil
  | error e => exact h rfl

theorem pure (a : α) : Prompt raised (pure a) :=
  ofExcept nofun

theorem status : Prompt raised status := by
  intro s t r s' hrun
  obtain ⟨rfl, rfl, -⟩ := runs_status.1 hrun
  exact Trace.answered_nil

theorem update (change : Status → Status) : Prompt raised (update change) := by
  intro s t r s' hrun
  obtain ⟨rfl, rfl, -⟩ := runs_update.1 hrun
  exact Trace.answered_nil

/-- Without an answer a request fails at once. -/
theorem call {target : String} (haims : Aims plan named request target)
    (h : ∀ {t e}, Broken plan named request t e → raised t e) :
    Prompt raised (call target request) := by
  intro s t r s' hrun
  obtain ⟨reply, rfl, rfl, -⟩ := runs_call.1 hrun
  cases reply with
  | answer value => exact Trace.answered_cons.2 ⟨⟨value, rfl⟩, Trace.answered_nil⟩
  | error source => exact h (.refused source Trace.answered_nil haims)
  | aborted => exact h (.aborted Trace.answered_nil haims)

theorem mapFailure {g : Failure → Failure} {told : Trace → Failure → Prop} {pass : Pass α}
    (h : Prompt raised pass) (hg : ∀ {t e}, raised t e → told t (g e)) :
    Prompt told (mapFailure g pass) := by
  intro s t r s' hrun
  obtain ⟨result, rfl, hpass⟩ := runs_mapFailure.1 hrun
  cases result with
  | ok a => exact h.answered hpass
  | error e => exact hg (h hpass)

theorem bind [Late raised] {pass : Pass α} {next : α → Pass β} (h : Prompt raised pass)
    (hnext : ∀ a, Prompt raised (next a)) : Prompt raised (pass >>= next) := by
  intro s t r s' hrun
  rcases runs_bind.1 hrun with ⟨a, mid, first, rest, rfl, hfirst, hrest⟩ | ⟨e, rfl, hfirst⟩
  · exact (hnext a hrest).after (h.answered hfirst)
  · exact h hfirst

theorem find {result : Except Failure α} (h : ∀ {e}, result = .error e → e.IsFinding) :
    Prompt (Raised plan named) (Pass.ofExcept result) :=
  ofExcept fun he => .finding Trace.answered_nil (h he)

theorem fail {failure : Failure} (h : failure.IsFinding) :
    Prompt (Raised plan named) (fail failure : Pass α) :=
  find (by rintro _ ⟨⟩; exact h)

theorem ask {target : String} (haims : Aims plan named request target)
    (hkind : request.kind ≠ .tag) : Prompt (Raised plan named) (Pass.call target request) :=
  call haims (.failed hkind)

end Prompt

/-! ## The steps -/

theorem Ownership.attach_prompt (plan : Plan) (crn : String) :
    Prompt (BrokenTag plan named) (attach plan.clusterName crn) := by
  refine .bind (.call rfl fun h => ⟨_, rfl, h⟩) fun tags => ?_
  split
  · exact .call rfl fun h => ⟨_, rfl, h⟩
  · exact .bind (.call rfl fun h => ⟨_, rfl, h⟩) fun _ => .call rfl fun h => ⟨_, rfl, h⟩

theorem Ownership.mark_prompt (plan : Plan) (kind : Kind) (name crn : String) :
    Prompt (Raised plan named) (mark plan kind name crn) :=
  (attach_prompt plan crn).mapFailure (.untagged kind name)

theorem ResourceGroups.resolve_prompt (name : String) :
    Prompt (Raised plan named) (resolve name) := by
  refine .bind (.ask rfl nofun) fun groups => ?_
  split
  · exact .pure _
  · exact .fail trivial

theorem ResourceGroups.step_prompt (plan : Plan) : Prompt (Raised plan named) (step plan) := by
  have hcluster : Prompt (Raised plan named) (settleCluster plan) := by
    refine .bind .status fun s => ?_
    split
    · exact .pure _
    · exact .bind (resolve_prompt _) fun _ => .update _
  have hnetwork : Prompt (Raised plan named) (settleNetwork plan) := by
    unfold settleNetwork
    split
    · exact .pure _
    · refine .bind .status fun s => ?_
      split
      · exact .pure _
      · refine .bind ?_ fun _ => .update _
        unfold networkReference
        split
        · split
          · exact .pure _
          · exact resolve_prompt _
        · exact resolve_prompt _
  exact .bind hcluster fun _ => .bind hnetwork fun _ => .pure _

theorem Vpc.step_prompt (plan : Plan) : Prompt (Raised plan named) (step plan) := by
  have hobserve : ∀ vpc, Prompt (Raised plan named) (observe vpc) :=
    fun vpc => .bind (.update _) fun _ => .pure _
  have hcreate : Prompt (Raised plan named) (create plan) :=
    .bind .status fun _ => .bind (.find Plan.resourceGroupId_finding) fun _ =>
      .bind (.ask rfl nofun) fun _ => .bind (.update _) fun _ =>
      .bind (Ownership.mark_prompt _ _ _ _) fun _ => .pure _
  refine .bind .status fun s => .bind ?_ fun found => ?_
  · unfold lookUp
    split
    · exact .pure _
    · exact .ask rfl nofun
  · split
    · exact hobserve _
    · split
      · refine .bind (.ask rfl nofun) fun found => ?_
        split
        · exact .bind (.update _) fun _ => .pure _
        · exact hcreate
      · refine .bind (.ask rfl nofun) fun found => ?_
        split
        · exact hobserve _
        · exact .fail trivial

theorem Image.create_prompt (plan : Plan) (image : Desired.Image) :
    Prompt (Raised plan named) (create plan image) := by
  have hneed : ∀ field value, Prompt (Raised plan named) (need image field value) := by
    intro field value
    unfold need
    split
    · exact .pure _
    · exact .fail trivial
  have hgroup : Prompt (Raised plan named) (resourceGroupId plan image) := by
    unfold resourceGroupId
    split
    · exact .pure _
    · split
      · exact .bind (ResourceGroups.resolve_prompt _) fun _ => .pure _
      · exact .bind .status fun _ => .find Plan.networkGroupId_finding
  exact .bind (hneed _ _) fun _ => .bind (hneed _ _) fun _ => .bind (hneed _ _) fun _ =>
    .bind (hneed _ _) fun _ => .bind hgroup fun _ => .bind (.ask rfl nofun) fun _ =>
    .bind (.update _) fun _ => .bind (Ownership.mark_prompt _ _ _ _) fun _ => .pure _

theorem Image.step_prompt (plan : Plan) : Prompt (Raised plan named) (step plan) := by
  have hobserve : ∀ image, Prompt (Raised plan named) (observe image) :=
    fun image => .bind (.update _) fun _ => .pure _
  refine .bind .status fun s => ?_
  dsimp only
  split
  · exact .pure _
  · split
    · refine .bind ?_ fun found => ?_
      · unfold findByName
        split
        · exact .pure _
        · exact .ask rfl nofun
      · split
        · exact hobserve _
        · split
          · exact create_prompt plan _
          · exact .fail trivial
    · split
      · exact .pure _
      · refine .bind (.ask rfl nofun) fun found => ?_
        split
        · exact hobserve _
        · exact .fail trivial

theorem Gateway.ofZone_prompt (plan : Plan) (zone : String) :
    Prompt (Raised plan named) (ofZone plan zone) := by
  refine .bind .status fun _ => .bind (.find Plan.resourceGroupId_finding) fun _ =>
    .bind (.ask rfl nofun) fun found => ?_
  split
  · exact .pure _
  · exact .bind .status fun _ => .bind (.find Plan.vpcId_finding) fun _ =>
      .bind (.ask rfl nofun) fun _ => .bind (Ownership.mark_prompt _ _ _ _) fun _ => .pure _

theorem Subnets.create_prompt (plan : Plan) (role : Role) (name zone : String) :
    Prompt (Raised plan named) (create plan role name zone) :=
  .bind .status fun _ => .bind (.find Plan.vpcId_finding) fun _ =>
    .bind (Gateway.ofZone_prompt plan zone) fun _ => .bind .status fun _ =>
    .bind (.find Plan.resourceGroupId_finding) fun _ => .bind (.ask rfl nofun) fun _ =>
    .bind (.update _) fun _ => .bind (Ownership.mark_prompt _ _ _ _) fun _ => .pure _

theorem Subnets.settle_prompt (plan : Plan) (role : Role) (subnet : Desired.Subnet) :
    Prompt (Raised plan named) (settle plan role subnet) := by
  have hobserve : ∀ live, Prompt (Raised plan named) (observe role subnet live) :=
    fun live => .bind (.update _) fun _ => .pure _
  have hresolve : Prompt (Raised plan named) (resolve plan role subnet) := by
    unfold resolve findOrCreate
    split
    · split
      · exact .fail trivial
      · refine .bind (.ask rfl nofun) fun found => ?_
        split
        · exact hobserve _
        · split
          · exact .fail trivial
          · exact create_prompt plan role _ _
    · refine .bind (.ask rfl nofun) fun found => ?_
      split
      · exact hobserve _
      · exact .fail trivial
  refine .bind .status fun s => ?_
  split
  · exact hresolve
  · split
    · exact .pure _
    · split
      · exact hresolve
      · refine .bind (.ask rfl nofun) fun found => ?_
        split
        · exact hobserve _
        · exact hresolve

theorem Subnets.settleAll_prompt (plan : Plan) (role : Role) (subnets : List Desired.Subnet) :
    Prompt (Raised plan named) (settleAll plan role subnets) := by
  induction subnets with
  | nil => exact .pure _
  | cons subnet rest ih =>
    exact .bind (settle_prompt plan role subnet) fun _ => .bind ih fun _ => .pure _

theorem Subnets.generated_prompt (plan : Plan) : Prompt (Raised plan named) (generated plan) := by
  unfold generated
  dsimp only
  split
  · refine .bind (.ask rfl nofun) fun zones => ?_
    split
    · exact .fail trivial
    · exact .pure _
  · exact .pure _

theorem Lookups.cidr_prompt (name : String) (known : Lookups) :
    Prompt (Raised plan named) (cidr name known) := by
  unfold cidr
  split
  · exact .pure _
  · refine .bind (.bind .status fun s => ?_) fun found => ?_
    · split <;> exact .ask rfl nofun
    · split
      · exact .pure _
      · exact .fail trivial

theorem Lookups.group_prompt (name : String) (known : Lookups) :
    Prompt (Raised plan named) (group name known) := by
  unfold group
  split
  · exact .pure _
  · refine .bind (.bind .status fun s => ?_) fun found => ?_
    · split <;> exact .ask rfl nofun
    · split
      · exact .pure _
      · exact .fail trivial

theorem Rules.isSatisfied_prompt (direction : Direction) (protocol : Protocol)
    (remote : Desired.Remote) (live : List Cloud.Rule) (known : Lookups) :
    Prompt (Raised plan named) (isSatisfied direction protocol remote live known) := by
  have hmatches : ∀ (rule : Cloud.Rule) (known : Lookups),
      Prompt (Raised plan named) (known.matchesRule direction protocol remote rule) := by
    intro rule known
    unfold Lookups.matchesRule Lookups.matchesRemote
    split
    · split
      · exact .pure _
      · exact .pure _
      · exact .pure _
      · exact .bind (Lookups.cidr_prompt _ _) fun _ => .pure _
      · refine .bind .status fun s => ?_
        split
        · exact .pure _
        · split
          · exact .pure _
          · exact .bind (Lookups.group_prompt _ _) fun _ => .pure _
      · exact .pure _
    · exact .pure _
  induction live generalizing known with
  | nil => exact .pure _
  | cons rule rest ih =>
    refine .bind (hmatches rule known) fun found => ?_
    dsimp only
    split
    · exact .pure _
    · exact ih _

theorem Lookups.prototype_prompt (remote : Desired.Remote) (known : Lookups) :
    Prompt (Raised plan named) (known.prototype remote) := by
  unfold prototype
  split
  · exact .pure _
  · exact .pure _
  · exact .bind (cidr_prompt _ _) fun _ => .pure _
  · exact .bind (group_prompt _ _) fun _ => .pure _

section

variable {group : Rules.Identified} (hgroup : named group.id group.name)

include hgroup

theorem Rules.createRule_prompt (direction : Direction) (protocol : Protocol)
    (remote : Desired.Remote) (known : Lookups) :
    Prompt (Raised plan named) (createRule group direction protocol remote known) :=
  .bind (Lookups.prototype_prompt _ _) fun _ => .bind (.ask hgroup nofun) fun _ => .pure _

theorem Rules.enforceRemotes_prompt (direction : Direction) (protocol : Protocol)
    (live : List Cloud.Rule) (remotes : List Desired.Remote) (known : Lookups) :
    Prompt (Raised plan named) (enforceRemotes group direction protocol live remotes known) := by
  induction remotes generalizing known with
  | nil => exact .pure _
  | cons remote rest ih =>
    refine .bind (isSatisfied_prompt _ _ _ _ _) fun found => ?_
    dsimp only
    split
    · exact ih _
    · exact .bind (createRule_prompt hgroup _ _ _ _) fun known => .bind (ih known) fun _ => .pure _

theorem Rules.enforceRules_prompt (rules : List Desired.Rule) (known : Lookups) :
    Prompt (Raised plan named) (enforceRules group rules known) := by
  induction rules generalizing known with
  | nil => exact .pure _
  | cons rule rest ih =>
    have hrule : Prompt (Raised plan named) (enforceRule group rule known) :=
      .bind (.ask hgroup nofun) fun live => enforceRemotes_prompt hgroup _ _ _ _ _
    exact .bind hrule fun _ => .bind (ih _) fun _ => .pure _

end

theorem Rules.enforceAll_prompt {groups : List Identified} (known : Lookups)
    (hnamed : ∀ group ∈ groups, named group.id group.name) :
    Prompt (Raised plan named) (enforceAll groups known) := by
  induction groups generalizing known with
  | nil => exact .pure _
  | cons group rest ih =>
    obtain ⟨hgroup, hrest⟩ := List.forall_mem_cons.1 hnamed
    exact .bind (enforceRules_prompt hgroup _ _) fun _ => .bind (ih _ hrest) fun _ => .pure _

theorem Groups.identifyAll_prompt (plan : Plan) (groups : List Desired.SecurityGroup) :
    Prompt (Raised plan named) (identifyAll plan groups) := by
  have hobserve : ∀ group live, Prompt (Raised plan named) (observe group live) :=
    fun group live => .bind (.update _) fun _ => .pure _
  have hcreate : ∀ name rules, Prompt (Raised plan named) (create plan name rules) :=
    fun name rules => .bind .status fun _ => .bind (.find Plan.vpcId_finding) fun _ =>
      .bind .status fun _ => .bind (.find Plan.resourceGroupId_finding) fun _ =>
      .bind (.ask rfl nofun) fun _ => .bind (.update _) fun _ =>
      .bind (Ownership.mark_prompt _ _ _ _) fun _ => .pure _
  induction groups with
  | nil => exact .pure _
  | cons group rest ih =>
    refine .bind (.bind .status fun s => ?_) fun _ => .bind ih fun _ => .pure _
    split
    · exact .pure _
    · unfold resolve
      split
      · refine .bind (.ask rfl nofun) fun found => ?_
        split
        · exact .bind (hobserve _ _) fun _ => .pure _
        · exact .fail trivial
      · split
        · exact .fail trivial
        · refine .bind (.ask rfl nofun) fun found => ?_
          split
          · exact .bind (hobserve _ _) fun _ => .pure _
          · exact .bind (hcreate _ _) fun _ => .pure _

theorem LoadBalancers.find_prompt (balancer : Desired.LoadBalancer) :
    Prompt (Raised plan named) (find balancer) := by
  have hbyName : Prompt (Raised plan named) (findByName balancer) := by
    unfold findByName
    split
    · exact .fail trivial
    · exact .ask rfl nofun
  refine .bind .status fun s => ?_
  dsimp only
  split
  · exact .pure _
  · unfold lookUp
    split
    · refine .bind (.ask rfl nofun) fun found => ?_
      split
      · exact .pure _
      · exact .fail trivial
    · split
      · exact hbyName
      · refine .bind (.ask rfl nofun) fun found => ?_
        split
        · exact .pure _
        · exact hbyName

theorem LoadBalancers.create_prompt (plan : Plan) (balancer : Desired.LoadBalancer) :
    Prompt (Raised plan named) (create plan balancer) := by
  have hids : ∀ references, Prompt (Raised plan named) (securityGroupIds balancer references) := by
    intro references
    induction references with
    | nil => exact .pure _
    | cons reference rest ih =>
      refine .bind ?_ fun _ => .bind ih fun _ => .pure _
      unfold securityGroupId
      split
      · exact .pure _
      · refine .bind .status fun s => ?_
        split
        · exact .pure _
        · refine .bind (.ask rfl nofun) fun found => ?_
          split
          · exact .pure _
          · exact .fail trivial
  refine .bind .status fun s => ?_
  dsimp only
  split
  · exact .fail trivial
  · exact .bind .status fun _ => .bind (.find Plan.resourceGroupId_finding) fun _ =>
      .bind (hids _) fun _ => .bind (.ask rfl nofun) fun _ => .bind (.update _) fun _ =>
      Ownership.mark_prompt _ _ _ _

theorem LoadBalancers.step_prompt (plan : Plan) : Prompt (Raised plan named) (step plan) := by
  have hall : ∀ balancers created,
      Prompt (Raised plan named) (settleAll plan balancers created) := by
    intro balancers created
    induction balancers generalizing created with
    | nil => exact .pure _
    | cons balancer rest ih =>
      refine .bind (find_prompt balancer) fun found => ?_
      split
      · refine .bind (.bind (.update _) fun _ => ?_) fun _ => .bind (ih _) fun _ => .pure _
        split
        · exact .fail trivial
        · exact .pure _
      · split
        · exact .bind (ih _) fun _ => .pure _
        · exact .bind (create_prompt plan balancer) fun _ => .bind (ih _) fun _ => .pure _
  exact hall _ _

end Pass

end VpcOperator
