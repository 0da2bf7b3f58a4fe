import VpcOperator.Proofs.Order.Steps
import VpcOperator.Proofs.Roles

/-! # Declared IDs

A resource that is declared by its ID belongs to someone else: it is looked up
by ID and otherwise left alone. Where it cannot be found, nothing with its name
is taken and nothing is created in its place, but the pass fails.
-/

namespace VpcOperator

open Observed (Entry Status)
open Desired (Role)

/-! ## Requests by ID -/

/-- A look-up by ID of one of the kinds that can be declared by ID. -/
def Cloud.Request.getsById (kind : Kind) : Request → Bool
  | getVpc _ => kind = .vpc
  | getSubnet _ => kind = .subnet
  | getSecurityGroup _ => kind = .securityGroup
  | getLoadBalancer _ => kind = .loadBalancer
  | _ => false

/-- A look-up by name or a creation that is made for one of those resources only. Subnets and
security groups are also looked up by name for the rules that mention them. -/
@[simp] def Cloud.Request.acquires : Request → Bool
  | findVpc _ | createVpc _ | createSubnet _ | createGateway _ | createSecurityGroup _
  | findLoadBalancer _ | createLoadBalancer _ => true
  | _ => false

theorem Does.not_acquires {parts : List Observed.Part} {looks makes : List Kind} {s s' : Status}
    {t : Trace} {exchange : Exchange} (h : Does parts looks makes s t s') (hmem : exchange ∈ t)
    (hmakes : ∀ kind ∈ makes, kind ∈ [.securityGroupRule, .customImage, .tag])
    (hlooks : ∀ kind ∈ looks, kind ≠ .vpc ∧ kind ≠ .loadBalancer) :
    ¬ exchange.request.acquires := by
  have hasks := h.asks exchange hmem
  generalize exchange.request = request at hasks
  split at hasks
  · have hkind := hmakes _ hasks
    cases request <;> simp_all
  · have hkind := hlooks _ hasks
    cases request <;> simp_all

/-- The look-up was answered, and there is no resource with the ID. -/
def Exchange.Misses : Exchange → Prop
  | ⟨.getVpc _, reply⟩ => reply = .answer none
  | ⟨.getSubnet _, reply⟩ => reply = .answer none
  | ⟨.getSecurityGroup _, reply⟩ => reply = .answer none
  | ⟨.getLoadBalancer _, reply⟩ => reply = .answer none
  | _ => False

namespace Exchange

variable {id : String}

@[simp] theorem misses_getVpc {reply : Cloud.Reply (Option Cloud.Vpc)} :
    Misses ⟨.getVpc id, reply⟩ ↔ reply = .answer none :=
  Iff.rfl

@[simp] theorem misses_getSubnet {reply : Cloud.Reply (Option Cloud.Subnet)} :
    Misses ⟨.getSubnet id, reply⟩ ↔ reply = .answer none :=
  Iff.rfl

@[simp] theorem misses_getSecurityGroup {reply : Cloud.Reply (Option Cloud.SecurityGroup)} :
    Misses ⟨.getSecurityGroup id, reply⟩ ↔ reply = .answer none :=
  Iff.rfl

@[simp] theorem misses_getLoadBalancer {reply : Cloud.Reply (Option Cloud.LoadBalancer)} :
    Misses ⟨.getLoadBalancer id, reply⟩ ↔ reply = .answer none :=
  Iff.rfl

end Exchange

namespace Pass

variable {α β : Type} {plan : Plan} {s s' : Status} {t : Trace}

/-- Nothing but look-ups by ID. -/
def OnlyGets (kind : Kind) : Effect := fun _ t _ =>
  ∀ exchange ∈ t, exchange.request.getsById kind = true

instance (kind : Kind) : Composes (OnlyGets kind) where
  nil _ := by simp [OnlyGets]
  append h₁ h₂ := by
    intro exchange hmem
    exact (List.mem_append.1 hmem).elim (h₁ exchange) (h₂ exchange)

theorem Always.gets {kind : Kind} {target : String} {request : Cloud.Request}
    (h : request.getsById kind = true) : Always (OnlyGets kind) (Pass.call target request) :=
  .call fun _ _ => by simpa [OnlyGets] using h

theorem Always.puts_only (kind : Kind) (change : Status → Status) :
    Always (OnlyGets kind) (Pass.update change) :=
  .update fun _ => by simp [OnlyGets]

/-! ## What is declared -/

theorem bind_assoc {γ : Type} (pass : Pass α) (next : α → Pass β) (last : β → Pass γ) :
    pass >>= next >>= last = pass >>= fun a => next a >>= last := by
  funext status
  refine (Program.bind_assoc _ _ _).trans (congrArg _ (funext fun end_ => ?_))
  rcases end_ with ⟨_ | _, _⟩ <;> rfl

namespace LoadBalancers

/-- The part of the step that is about one load balancer. Also tells whether one has been created by
now, this one included. -/
def settle (plan : Plan) (balancer : Desired.LoadBalancer) (created : Bool) :
    Pass (Outcome × Bool) := do
  match ← find balancer with
  | some live => return (← settleFound live, created)
  | none =>
    if created then
      return (.requeue, true)
    else
      create plan balancer
      return (.requeue, true)

theorem settleAll_cons (plan : Plan) (balancer : Desired.LoadBalancer)
    (rest : List Desired.LoadBalancer) (created : Bool) :
    settleAll plan (balancer :: rest) created = (do
      let (first, created) ← settle plan balancer created
      let others ← settleAll plan rest created
      return first.both others) := by
  rw [settle, bind_assoc, settleAll]
  congr 1
  funext found
  cases found with
  | some live => simp only [bind_assoc]; rfl
  | none =>
    cases created with
    | true => rfl
    | false => simp [bind_assoc]; rfl

end LoadBalancers

/-- What a pass settles one after the other. Of a load balancer it matters whether one before it has
been created. -/
inductive Item where
  | vpc
  | subnet (role : Role) (declared : Desired.Subnet)
  | group (declared : Desired.SecurityGroup)
  | balancer (declared : Desired.LoadBalancer) (created : Bool)

namespace Item

def kind : Item → Kind
  | vpc => .vpc
  | subnet .. => .subnet
  | group _ => .securityGroup
  | balancer .. => .loadBalancer

def declaredId? (plan : Plan) : Item → Option String
  | vpc => Vpc.declaredId? plan
  | subnet _ declared => given? declared.id
  | group declared => given? declared.id
  | balancer declared _ => given? declared.id

def settle (plan : Plan) : Item → Pass Unit
  | vpc => do
    let _ ← Vpc.step plan
  | subnet role declared => do
    let _ ← Subnets.settle plan role declared
  | group declared => do
    let _ ← Groups.identify plan declared
  | balancer declared created => do
    let _ ← LoadBalancers.settle plan declared created

/-- There is an entry that makes a look-up superfluous. -/
def IsRemembered (s : Status) : Item → Prop
  | vpc => False
  | subnet role declared => ∃ entry, Subnets.remembered? s role declared = some entry ∧ entry.ready
  | group declared => ∃ entry, Groups.remembered? s declared = some entry ∧ entry.id ≠ ""
  | balancer declared _ =>
    ∃ entry, LoadBalancers.remembered? s declared = some entry ∧ entry.state = .active

end Item

/-! ## Only by ID -/

theorem Vpc.step_onlyGets {id : String} (h : declaredId? plan = some id) :
    Always (OnlyGets .vpc) (step plan) := by
  have hobserve : ∀ vpc, Always (OnlyGets .vpc) (observe vpc) :=
    fun vpc => .bind (.puts_only _ _) fun _ => .pure _
  have hlookUp : ∀ cached, Always (OnlyGets .vpc) (lookUp cached) := by
    rintro (_ | cached)
    · exact .pure _
    · exact .gets rfl
  refine .bind .status fun s => .bind (hlookUp _) fun found => ?_
  split
  · exact hobserve _
  · rw [h]
    refine .bind (.gets rfl) fun found => ?_
    split
    · exact hobserve _
    · exact .fail _

theorem Subnets.settle_onlyGets {role : Role} {subnet : Desired.Subnet} {id : String}
    (h : given? subnet.id = some id) : Always (OnlyGets .subnet) (settle plan role subnet) := by
  have hobserve : ∀ live, Always (OnlyGets .subnet) (observe role subnet live) :=
    fun live => .bind (.puts_only _ _) fun _ => .pure _
  have hresolve : Always (OnlyGets .subnet) (resolve plan role subnet) := by
    unfold resolve
    rw [h]
    refine .bind (.gets rfl) fun found => ?_
    split
    · exact hobserve _
    · exact .fail _
  refine .bind .status fun s => ?_
  split
  · exact hresolve
  · split
    · exact .pure _
    · split
      · exact hresolve
      · refine .bind (.gets rfl) fun found => ?_
        split
        · exact hobserve _
        · exact hresolve

theorem Groups.identify_onlyGets {group : Desired.SecurityGroup} {id : String}
    (h : given? group.id = some id) : Always (OnlyGets .securityGroup) (identify plan group) := by
  refine .bind .status fun s => ?_
  split
  · exact .pure _
  · unfold resolve
    rw [h]
    refine .bind (.gets rfl) fun found => ?_
    split
    · exact .bind (.bind (.puts_only _ _) fun _ => .pure _) fun _ => .pure _
    · exact .fail _

/-- What is declared by its ID is found, or else the pass fails. -/
theorem LoadBalancers.find_ok_isSome {balancer : Desired.LoadBalancer} {id : String}
    {found : Option Cloud.LoadBalancer} (h : given? balancer.id = some id)
    (hrun : (find balancer).Runs s t (.ok found) s') : found.isSome := by
  rw [find, runs_status_bind] at hrun
  dsimp only at hrun
  split at hrun
  · obtain ⟨-, rfl, -⟩ := runs_pure_ok.1 hrun
    rfl
  · simp only [lookUp, h] at hrun
    obtain ⟨live, rest, -, hrest⟩ := runs_call_bind_ok.1 hrun
    cases live with
    | none => simp at hrest
    | some live =>
      obtain ⟨-, rfl, -⟩ := runs_pure_ok.1 hrest
      rfl

theorem LoadBalancers.settle_onlyGets {balancer : Desired.LoadBalancer} {created : Bool}
    {id : String} (h : given? balancer.id = some id) :
    Always (OnlyGets .loadBalancer) (settle plan balancer created) := by
  have hfind : Always (OnlyGets .loadBalancer) (find balancer) := by
    refine .bind .status fun s => ?_
    dsimp only
    split
    · exact .pure _
    · simp only [lookUp, h]
      refine .bind (.gets rfl) fun found => ?_
      split
      · exact .pure _
      · exact .fail _
  have hfound : ∀ live, Always (OnlyGets .loadBalancer) (settleFound live) := by
    refine fun live => .bind (.puts_only _ _) fun _ => ?_
    split
    · exact .fail _
    · exact .pure _
  intro s t r s' hrun
  rcases runs_bind.1 hrun with ⟨found, mid, t₁, t₂, rfl, hfirst, hrest⟩ | ⟨e, -, hfirst⟩
  · cases found with
    | none => exact absurd (find_ok_isSome h hfirst) (by simp)
    | some live =>
      have hlater : Always (OnlyGets .loadBalancer)
          (settleFound live >>= fun outcome => pure (outcome, created)) :=
        .bind (hfound live) fun _ => .pure _
      exact Composes.append (hfind hfirst) (hlater hrest)
  · exact hfind hfirst

theorem Item.settle_onlyGets {item : Item} {id : String} (h : item.declaredId? plan = some id) :
    Always (OnlyGets item.kind) (item.settle plan) := by
  cases item with
  | vpc => exact .bind (Vpc.step_onlyGets h) fun _ => .pure _
  | subnet => exact .bind (Subnets.settle_onlyGets h) fun _ => .pure _
  | group => exact .bind (Groups.identify_onlyGets h) fun _ => .pure _
  | balancer => exact .bind (LoadBalancers.settle_onlyGets h) fun _ => .pure _

/-! ## A declared ID that is missing -/

/-- An answered look-up that finds nothing goes on with nothing. -/
theorem runs_missing_bind {target : String} {request : Cloud.Request} {missing : request.Answer}
    {next : request.Answer → Pass β} {r : Except Failure β}
    (hrun : (call target request >>= next).Runs s t r s')
    (hmisses : ∀ exchange ∈ t, exchange.Misses)
    (hmissing : ∀ reply, Exchange.Misses ⟨request, reply⟩ → reply = .answer missing) :
    ∃ rest, (next missing).Runs s rest r s' ∧ ∀ exchange ∈ rest, exchange.Misses := by
  rcases runs_call_bind.1 hrun with ⟨answer, rest, rfl, hrest⟩ | ⟨reply, e, rfl, he, -, -⟩
  · obtain ⟨hfirst, hothers⟩ := List.forall_mem_cons.1 hmisses
    cases hmissing _ hfirst
    exact ⟨rest, hrest, hothers⟩
  · cases hmissing _ (hmisses _ List.mem_cons_self)
    cases he

theorem runs_missing_fail {target : String} {request : Cloud.Request} {missing : request.Answer}
    {next : request.Answer → Pass β} {r : Except Failure β} {failure : Failure}
    (hrun : (call target request >>= next).Runs s t r s')
    (hmisses : ∀ exchange ∈ t, exchange.Misses)
    (hmissing : ∀ reply, Exchange.Misses ⟨request, reply⟩ → reply = .answer missing)
    (hnext : next missing = fail failure) : r = .error failure := by
  obtain ⟨rest, hrest, -⟩ := runs_missing_bind hrun hmisses hmissing
  rw [hnext] at hrest
  exact (runs_fail.1 hrest).2.1

def noneWithId (kind : Kind) (id : String) : Failure :=
  .notFound kind id ("no " ++ kind.label ++ " with this ID")

theorem Vpc.step_missing {id : String} {r : Except Failure Outcome} (h : declaredId? plan = some id)
    (hrun : (step plan).Runs s t r s') (hmisses : ∀ exchange ∈ t, exchange.Misses) :
    r = .error (noneWithId .vpc id) := by
  rw [step, runs_status_bind] at hrun
  cases hcached : given? ((s.find? .vpc "").map (·.id)) with
  | none =>
    rw [hcached, lookUp, runs_pure_bind, h] at hrun
    exact runs_missing_fail hrun hmisses (fun _ => Exchange.misses_getVpc.1) rfl
  | some cached =>
    rw [hcached] at hrun
    obtain ⟨rest, hrest, hothers⟩ :=
      runs_missing_bind hrun hmisses fun _ => Exchange.misses_getVpc.1
    rw [h] at hrest
    exact runs_missing_fail hrest hothers (fun _ => Exchange.misses_getVpc.1) rfl

theorem Subnets.settle_missing {role : Role} {subnet : Desired.Subnet} {id : String}
    {r : Except Failure Outcome} (h : given? subnet.id = some id)
    (hrun : (settle plan role subnet).Runs s t r s') (hmisses : ∀ exchange ∈ t, exchange.Misses)
    (hready : ∀ entry, remembered? s role subnet = some entry → entry.ready = false) :
    r = .error (noneWithId .subnet id) := by
  have hresolve : ∀ {t}, (resolve plan role subnet).Runs s t r s' →
      (∀ exchange ∈ t, exchange.Misses) → r = .error (noneWithId .subnet id) := by
    intro t hrun hmisses
    rw [resolve, h] at hrun
    exact runs_missing_fail hrun hmisses (fun _ => Exchange.misses_getSubnet.1) rfl
  rw [settle, runs_status_bind] at hrun
  cases hentry : remembered? s role subnet with
  | none =>
    rw [hentry] at hrun
    exact hresolve hrun hmisses
  | some entry =>
    simp only [hentry, hready entry hentry] at hrun
    rw [if_neg (by simp)] at hrun
    split at hrun
    · exact hresolve hrun hmisses
    · obtain ⟨rest, hrest, hothers⟩ :=
        runs_missing_bind hrun hmisses fun _ => Exchange.misses_getSubnet.1
      exact hresolve hrest hothers

theorem Groups.identify_missing {group : Desired.SecurityGroup} {id : String}
    {r : Except Failure (Rules.Identified × Bool)} (h : given? group.id = some id)
    (hrun : (identify plan group).Runs s t r s') (hmisses : ∀ exchange ∈ t, exchange.Misses)
    (hblank : ∀ entry, remembered? s group = some entry → entry.id = "") :
    r = .error (noneWithId .securityGroup id) := by
  have hunknown : (remembered? s group).filter (·.id ≠ "") = none := by
    rw [Option.filter_eq_none_iff]
    intro entry hentry
    simp [hblank entry hentry]
  rw [identify, runs_status_bind, hunknown] at hrun
  simp only [resolve, h] at hrun
  exact runs_missing_fail hrun hmisses (fun _ => Exchange.misses_getSecurityGroup.1) rfl

theorem LoadBalancers.settle_missing {balancer : Desired.LoadBalancer} {created : Bool}
    {id : String} {r : Except Failure (Outcome × Bool)} (h : given? balancer.id = some id)
    (hrun : (settle plan balancer created).Runs s t r s')
    (hmisses : ∀ exchange ∈ t, exchange.Misses)
    (hinactive : ∀ entry, remembered? s balancer = some entry → entry.state ≠ .active) :
    r = .error (noneWithId .loadBalancer id) := by
  have hunknown : (remembered? s balancer).filter (·.state = .active) = none := by
    rw [Option.filter_eq_none_iff]
    intro entry hentry
    simpa using hinactive entry hentry
  have hfind : ∀ {t r mid}, (find balancer).Runs s t r mid → (∀ exchange ∈ t, exchange.Misses) →
      r = .error (noneWithId .loadBalancer id) := by
    intro t r mid hrun hmisses
    rw [find, runs_status_bind] at hrun
    simp only [hunknown, lookUp, h] at hrun
    exact runs_missing_fail hrun hmisses (fun _ => Exchange.misses_getLoadBalancer.1) rfl
  rcases runs_bind.1 hrun with ⟨found, mid, t₁, t₂, rfl, hfirst, -⟩ | ⟨e, rfl, hfirst⟩
  · cases hfind hfirst fun exchange hmem => hmisses exchange (List.mem_append_left _ hmem)
  · cases hfind hfirst hmisses
    rfl

theorem Item.settle_missing {item : Item} {id : String} {r : Except Failure Unit}
    (h : item.declaredId? plan = some id) (hrun : (item.settle plan).Runs s t r s')
    (hmisses : ∀ exchange ∈ t, exchange.Misses) (hunknown : ¬ item.IsRemembered s) :
    r = .error (noneWithId item.kind id) := by
  cases item with
  | vpc =>
    obtain ⟨result, rfl, hstep⟩ := runs_bind_pure.1 hrun
    rw [Vpc.step_missing h hstep hmisses]
    rfl
  | subnet role declared =>
    obtain ⟨result, rfl, hsettle⟩ := runs_bind_pure.1 hrun
    rw [Subnets.settle_missing h hsettle hmisses fun entry hentry =>
      eq_false_of_ne_true fun hready => hunknown ⟨entry, hentry, hready⟩]
    rfl
  | group declared =>
    obtain ⟨result, rfl, hidentify⟩ := runs_bind_pure.1 hrun
    rw [Groups.identify_missing h hidentify hmisses fun entry hentry =>
      Classical.not_not.1 fun hid => hunknown ⟨entry, hentry, hid⟩]
    rfl
  | balancer declared created =>
    obtain ⟨result, rfl, hsettle⟩ := runs_bind_pure.1 hrun
    rw [LoadBalancers.settle_missing h hsettle hmisses fun entry hentry hactive =>
      hunknown ⟨entry, hentry, hactive⟩]
    rfl

/-! ## Whose turn it is -/

variable {before after : Trace} {exchange : Exchange}

section Lists

variable {ι κ γ δ : Type} {all : List ι → κ → Pass δ} {one : ι → κ → Pass γ} {next : γ → κ}
  {join : γ → δ → δ}

/-- Items one after the other, up to what the one after them is given. -/
def inTurn (one : ι → κ → Pass γ) (next : γ → κ) : List ι → κ → Pass κ
  | [], given => return given
  | item :: rest, given => do
    let done ← one item given
    inTurn one next rest (next done)

/-- In a run that goes from one part to the next, an exchange is made by the first or, if that ends
well, by the rest. -/
theorem runs_bind_exchange {pass : Pass α} {next : α → Pass β} {r : Except Failure β}
    (hrun : (pass >>= next).Runs s (before ++ exchange :: after) r s') :
    (∃ result mid back rest, after = back ++ rest ∧
        pass.Runs s (before ++ exchange :: back) result mid) ∨
      ∃ a mid first front, before = first ++ front ∧ pass.Runs s first (.ok a) mid ∧
        (next a).Runs mid (front ++ exchange :: after) r s' := by
  rcases runs_bind.1 hrun with ⟨a, mid, first, rest, ht, hfirst, hrest⟩ | ⟨e, -, hfirst⟩
  · rcases Trace.append_eq_split ht.symm with ⟨back, rfl, rfl⟩ | ⟨front, rfl, rfl⟩
    · exact .inl ⟨_, mid, back, rest, rfl, hfirst⟩
    · exact .inr ⟨a, mid, first, front, rfl, hfirst, hrest⟩
  · exact .inl ⟨_, s', after, [], by simp, hfirst⟩

variable (all one next join)

/-- A loop that settles one item after the other asks nothing but in the turn of one of them. -/
theorem runs_loop_exchange (hnil : ∀ given, ∃ last, all [] given = pure last)
    (hcons : ∀ item rest given, all (item :: rest) given =
      one item given >>= fun done => all rest (next done) >>= fun others => pure (join done others))
    {items : List ι} (given : κ) {r : Except Failure δ}
    (hrun : (all items given).Runs s (before ++ exchange :: after) r s') :
    ∃ first item rest settled passed start front back later result stop,
      items = first ++ item :: rest ∧ before = settled ++ front ∧ after = back ++ later ∧
        (inTurn one next first given).Runs s settled (.ok passed) start ∧
        (one item passed).Runs start (front ++ exchange :: back) result stop := by
  induction items generalizing s before given r with
  | nil =>
    obtain ⟨last, hlast⟩ := hnil given
    obtain ⟨ht, -, -⟩ := runs_pure.1 (hlast ▸ hrun)
    simp at ht
  | cons item rest ih =>
    rw [hcons] at hrun
    rcases runs_bind_exchange hrun with
      ⟨result, mid, back, later, rfl, hone⟩ | ⟨done, mid, t₁, front, rfl, hone, hrest⟩
    · exact ⟨[], item, rest, [], given, s, before, back, later, result, mid, rfl, rfl, rfl,
        runs_pure_ok.2 ⟨rfl, rfl, rfl⟩, hone⟩
    · obtain ⟨result, hothers⟩ := runs_of_bind_pure hrest
      obtain ⟨first, other, rest, settled, passed, start, front, back, later, result, stop,
        rfl, rfl, rfl, hsettled, hturn⟩ := ih _ hothers
      exact ⟨item :: first, other, rest, t₁ ++ settled, passed, start, front, back, later, result,
        stop, rfl, by simp, rfl, runs_bind_ok.2 ⟨done, mid, t₁, settled, rfl, hone, hsettled⟩,
        hturn⟩

end Lists

/-- The subnets of a role, one after the other. -/
def Subnets.settleFirst (plan : Plan) (role : Role) (subnets : List Desired.Subnet) : Pass Unit :=
  inTurn (fun subnet _ => settle plan role subnet) (fun _ => ()) subnets ()

def Groups.identifyFirst (plan : Plan) (groups : List Desired.SecurityGroup) : Pass Unit :=
  inTurn (fun group _ => identify plan group) (fun _ => ()) groups ()

/-- Also tells whether one of the load balancers had to be created. -/
def LoadBalancers.settleFirst (plan : Plan) (balancers : List Desired.LoadBalancer) : Pass Bool :=
  inTurn (settle plan) (·.2) balancers false

/-- These exchanges have led from `s` through the steps before this one, and through what its own
list puts first. Then it is the item's turn. -/
inductive Turn (plan : Plan) (s : Status) : Trace → Item → Status → Prop
  | vpc {t : Trace} {start : Status} :
      (runSteps plan (Step.earlier .vpc)).Runs s t (.ok .ready) start → Turn plan s t .vpc start
  | controlPlane {t listing settled : Trace} {begun start : Status}
      {generated first rest : List Desired.Subnet} {declared : Desired.Subnet} :
      (runSteps plan (Step.earlier .subnets)).Runs s t (.ok .ready) begun →
      (Subnets.generated plan).Runs begun listing (.ok generated) begun →
      Subnets.wanted (plan.spec.network.subnets .controlPlane) generated =
        first ++ declared :: rest →
      (Subnets.settleFirst plan .controlPlane first).Runs begun settled (.ok ()) start →
      Turn plan s (t ++ listing ++ settled) (.subnet .controlPlane declared) start
  | worker {t listing others settled : Trace} {begun mid start : Status}
      {result : Except Failure Outcome} {generated first rest : List Desired.Subnet}
      {declared : Desired.Subnet} :
      (runSteps plan (Step.earlier .subnets)).Runs s t (.ok .ready) begun →
      (Subnets.generated plan).Runs begun listing (.ok generated) begun →
      (Subnets.settleAll plan .controlPlane
        (Subnets.wanted (plan.spec.network.subnets .controlPlane) generated)).Runs begun others
          result mid →
      Subnets.wanted (plan.spec.network.subnets .worker) generated = first ++ declared :: rest →
      (Subnets.settleFirst plan .worker first).Runs mid settled (.ok ()) start →
      Turn plan s (t ++ listing ++ others ++ settled) (.subnet .worker declared) start
  | group {t settled : Trace} {begun start : Status} {first rest : List Desired.SecurityGroup}
      {declared : Desired.SecurityGroup} :
      (runSteps plan (Step.earlier .securityGroups)).Runs s t (.ok .ready) begun →
      plan.spec.network.securityGroups = first ++ declared :: rest →
      (Groups.identifyFirst plan first).Runs begun settled (.ok ()) start →
      Turn plan s (t ++ settled) (.group declared) start
  | balancer {t settled : Trace} {begun start : Status} {created : Bool}
      {first rest : List Desired.LoadBalancer} {declared : Desired.LoadBalancer} :
      (runSteps plan (Step.earlier .loadBalancers)).Runs s t (.ok .ready) begun →
      plan.spec.network.loadBalancers = first ++ declared :: rest →
      (LoadBalancers.settleFirst plan first).Runs begun settled (.ok created) start →
      Turn plan s (t ++ settled) (.balancer declared created) start

/-- The exchange is made in the turn of an item, and the turn is part of the pass. -/
def InTurnOf (plan : Plan) (s : Status) (before : Trace) (exchange : Exchange) (after : Trace)
    (item : Item) : Prop :=
  ∃ earlier start front back later result stop,
    before = earlier ++ front ∧ after = back ++ later ∧ Turn plan s earlier item start ∧
      (item.settle plan).Runs start (front ++ exchange :: back) result stop

theorem runSteps_exchange {steps : List Step} {r : Except Failure Outcome}
    (hrun : (runSteps plan steps).Runs s (before ++ exchange :: after) r s') :
    ∃ done step rest first inner last later start outcome stop,
      steps = done ++ step :: rest ∧ before = first ++ inner ∧ after = last ++ later ∧
        (runSteps plan done).Runs s first (.ok .ready) start ∧
        (step.run plan).Runs start (inner ++ exchange :: last) outcome stop := by
  induction steps generalizing s before with
  | nil =>
    obtain ⟨ht, -, -⟩ := runs_pure.1 hrun
    simp at ht
  | cons step rest ih =>
    rcases runs_bind_exchange hrun with
      ⟨result, mid, back, later, rfl, hstep⟩ | ⟨outcome, mid, t₁, front, rfl, hstep, hrest⟩
    · exact ⟨[], step, rest, [], before, back, later, s, result, mid, rfl, rfl, rfl,
        runSteps_none plan s, hstep⟩
    · cases outcome with
      | requeue =>
        obtain ⟨ht, -, -⟩ := runs_pure.1 hrest
        simp at ht
      | ready =>
        obtain ⟨done, other, rest, first, inner, last, later, start, outcome, stop,
          rfl, rfl, rfl, hdone, hother⟩ := ih hrest
        exact ⟨step :: done, other, rest, t₁ ++ first, inner, last, later, start, outcome, stop,
          rfl, by simp, rfl, runSteps_ready.2 ⟨mid, t₁, first, rfl, hstep, hdone⟩, hother⟩

section Coverage

variable {first inner last later : Trace} {begun stop : Status} {outcome : Except Failure Outcome}

theorem Subnets.settleAll_exchange {role : Role} {subnets : List Desired.Subnet}
    (hrun : (settleAll plan role subnets).Runs begun (inner ++ exchange :: last) outcome stop) :
    ∃ first declared rest settled start front back others result stop,
      subnets = first ++ declared :: rest ∧ inner = settled ++ front ∧ last = back ++ others ∧
        (settleFirst plan role first).Runs begun settled (.ok ()) start ∧
        (Item.settle plan (.subnet role declared)).Runs start (front ++ exchange :: back) result
          stop := by
  obtain ⟨first, declared, rest, settled, ⟨⟩, start, front, back, others, result, stop,
    hlist, hinner, hlast, hsettled, hturn⟩ := runs_loop_exchange
      (fun subnets _ => settleAll plan role subnets) (fun subnet _ => settle plan role subnet)
      (fun _ => ()) Outcome.both (fun _ => ⟨_, rfl⟩) (fun _ _ _ => rfl) () hrun
  exact ⟨first, declared, rest, settled, start, front, back, others, _, stop, hlist, hinner, hlast,
    hsettled, runs_bind_pure.2 ⟨result, rfl, hturn⟩⟩

theorem Subnets.step_inTurnOf
    (hdone : (runSteps plan (Step.earlier .subnets)).Runs s first (.ok .ready) begun)
    (hrun : (step plan).Runs begun (inner ++ exchange :: last) outcome stop)
    (hacquires : exchange.request.acquires = true) :
    ∃ item, InTurnOf plan s (first ++ inner) exchange (last ++ later) item := by
  have hlisting : ∀ {t r s₁ s₂}, (generated plan).Runs s₁ t r s₂ → exchange ∉ t := by
    intro t r s₁ s₂ hlist hmem
    exact (generated_does plan hlist).not_acquires hmem (by simp) (by simp) hacquires
  rcases step_runs hrun with ⟨run, -⟩ | ⟨e, -, -, hlist⟩
  · have hsplit := run.split
    rw [List.append_assoc] at hsplit
    obtain ⟨inner', hinner, hroles⟩ :=
      Trace.append_eq_split_of_not_mem hsplit.symm (hlisting run.listed)
    rcases Trace.append_eq_split hroles with
      ⟨between, hcontrol, hlast⟩ | ⟨between, hinner', hworkers⟩
    · have hall := run.controlPlane
      rw [hcontrol] at hall
      obtain ⟨before, declared, rest, settled, start, front, back, others, result, stop, hlist, rfl,
        rfl, hsettled, hturn⟩ := settleAll_exchange hall
      exact ⟨.subnet .controlPlane declared, first ++ run.listing ++ settled, start, front, back,
        others ++ run.exchanges .worker ++ later, result, stop, by simp [hinner], by simp [hlast],
        .controlPlane hdone run.listed hlist hsettled, hturn⟩
    · have hall := run.workers
      rw [hworkers] at hall
      obtain ⟨before, declared, rest, settled, start, front, back, others, result, stop, hlist, rfl,
        rfl, hsettled, hturn⟩ := settleAll_exchange hall
      exact ⟨.subnet .worker declared,
        first ++ run.listing ++ run.exchanges .controlPlane ++ settled, start, front, back,
        others ++ later, result, stop, by simp [hinner, hinner'], by simp,
        .worker hdone run.listed run.controlPlane hlist hsettled, hturn⟩
  · exact absurd (by simp) (hlisting hlist)

theorem Groups.step_inTurnOf
    (hdone : (runSteps plan (Step.earlier .securityGroups)).Runs s first (.ok .ready) begun)
    (hrun : (step plan).Runs begun (inner ++ exchange :: last) outcome stop)
    (hacquires : exchange.request.acquires = true) :
    ∃ item, InTurnOf plan s (first ++ inner) exchange (last ++ later) item := by
  rcases runs_bind_exchange hrun with
    ⟨result, mid, back, others, rfl, hidentify⟩ | ⟨found, mid, t₁, front, rfl, -, hrest⟩
  · obtain ⟨before, declared, rest, settled, passed, start, front, back, others', result, stop,
      hlist, rfl, rfl, hsettled, hturn⟩ := runs_loop_exchange
        (fun groups _ => identifyAll plan groups) (fun group _ => identify plan group)
        (fun _ => ()) (fun one others => (one.1 :: others.1, one.2 || others.2))
        (fun _ => ⟨_, rfl⟩) (fun _ _ _ => rfl) () hidentify
    refine ⟨.group declared, first ++ settled, start, front, back, others' ++ others ++ later, _,
      stop, by simp, by simp, .group hdone hlist hsettled, runs_bind_pure.2 ⟨result, rfl, hturn⟩⟩
  · dsimp only at hrest
    split at hrest
    · have hnothing := (runs_pure.1 hrest).1
      simp at hnothing
    · have hrules := (Rules.enforceAll_does found.1 .none).bind fun kept =>
        .pure (Outcome.ofReady kept.1)
      exact absurd hacquires ((hrules hrest).not_acquires (by simp) (by simp) (by simp))

theorem LoadBalancers.step_inTurnOf
    (hdone : (runSteps plan (Step.earlier .loadBalancers)).Runs s first (.ok .ready) begun)
    (hrun : (step plan).Runs begun (inner ++ exchange :: last) outcome stop) :
    ∃ item, InTurnOf plan s (first ++ inner) exchange (last ++ later) item := by
  obtain ⟨before, declared, rest, settled, created, start, front, back, others, result, stop,
    hlist, rfl, rfl, hsettled, hturn⟩ := runs_loop_exchange (settleAll plan)
      (settle plan) (·.2) (fun one others => one.1.both others) (fun _ => ⟨_, rfl⟩)
      (settleAll_cons plan) false hrun
  exact ⟨.balancer declared created, first ++ settled, start, front, back, others ++ later, _,
    stop, by simp, by simp, .balancer hdone hlist hsettled, runs_bind_pure.2 ⟨result, rfl, hturn⟩⟩

end Coverage

/-- Whatever is acquired in a pass is acquired in the turn of one of its items. -/
theorem standard_inTurnOf {r : Except Failure Outcome}
    (hrun : (standard plan).Runs s (before ++ exchange :: after) r s')
    (hacquires : exchange.request.acquires = true) :
    ∃ item, InTurnOf plan s before exchange after item := by
  obtain ⟨done, step, rest, first, inner, last, later, start, outcome, stop, hsteps, rfl, rfl,
    hdone, hstep⟩ := runSteps_exchange hrun
  obtain rfl := Step.eq_earlier hsteps
  have haside : (∀ kind ∈ step.makes, kind ∈ [.securityGroupRule, .customImage, .tag]) →
      (∀ kind ∈ step.looks, kind ≠ .vpc ∧ kind ≠ .loadBalancer) → False := fun hmakes hlooks =>
    (Step.run_does plan step hstep).not_acquires (by simp) hmakes hlooks hacquires
  cases step with
  | vpc =>
    exact ⟨.vpc, first, start, inner, last, later, _, stop, rfl, rfl, .vpc hdone,
      runs_bind_pure.2 ⟨outcome, rfl, hstep⟩⟩
  | subnets => exact Subnets.step_inTurnOf hdone hstep hacquires
  | securityGroups => exact Groups.step_inTurnOf hdone hstep hacquires
  | loadBalancers => exact LoadBalancers.step_inTurnOf hdone hstep
  | resourceGroups => exact (haside (by simp [Step.makes]) (by simp [Step.looks])).elim
  | image => exact (haside (by simp [Step.makes]) (by simp [Step.looks])).elim

theorem vpc_exchange_onlyGets {id : String} {r : Except Failure Outcome}
    (h : Vpc.declaredId? plan = some id)
    (hrun : (standard plan).Runs s (before ++ exchange :: after) r s')
    (hkind : exchange.request.kind = .vpc) : exchange.request.getsById .vpc = true := by
  obtain ⟨step, -, -, first, start, outcome, stop, last, -, -, -, hstep, -⟩ :=
    runs_runSteps_exchange hrun
  have hasks := (Step.run_does plan step hstep).asks exchange (by simp)
  rw [hkind] at hasks
  cases step with
  | vpc => exact Vpc.step_onlyGets h hstep exchange (by simp)
  | _ => split at hasks <;> simp [Step.makes, Step.looks] at hasks

/-- Whenever its turn comes, what is declared with this ID is looked up by ID only, and its turn
fails if neither an entry nor the ID leads to it. -/
structure Item.Stands (plan : Plan) (item : Item) (id : String) : Prop where
  gets : ∀ {start : Status} {mine : Trace} {result : Except Failure Unit} {stop : Status},
    (item.settle plan).Runs start mine result stop →
      ∀ exchange ∈ mine, exchange.request.getsById item.kind = true
  missing : ∀ {start : Status} {mine : Trace} {result : Except Failure Unit} {stop : Status},
    (item.settle plan).Runs start mine result stop → (∀ exchange ∈ mine, exchange.Misses) →
      ¬ item.IsRemembered start → result = .error (noneWithId item.kind id)

/-- What is declared by its ID is looked up by ID only, in whatever turn. If neither an entry nor
that ID leads to it, the turn fails. What a pass does acquire, it acquires for items declared
without. -/
theorem declared_ids_stand {r : Except Failure Outcome} (hrun : (standard plan).Runs s t r s') :
    (Vpc.declaredId? plan ≠ none → ∀ exchange ∈ t,
      (∀ name, exchange.request ≠ .findVpc name) ∧
        ∀ prototype, exchange.request ≠ .createVpc prototype) ∧
    (∀ (item : Item) (id : String), item.declaredId? plan = some id → item.Stands plan id) ∧
    ∀ before exchange after, t = before ++ exchange :: after →
      exchange.request.acquires = true →
        ∃ item : Item,
          item.declaredId? plan = none ∧ InTurnOf plan s before exchange after item := by
  refine ⟨fun hdeclared exchange hmem => ?_, fun item id h => ?_, ?_⟩
  · obtain ⟨id, hid⟩ := Option.ne_none_iff_exists'.1 hdeclared
    obtain ⟨before, after, rfl⟩ := List.append_of_mem hmem
    constructor
    · intro name hrequest
      have hgets := vpc_exchange_onlyGets hid hrun (by rw [hrequest]; rfl)
      rw [hrequest] at hgets
      cases hgets
    · intro prototype hrequest
      have hgets := vpc_exchange_onlyGets hid hrun (by rw [hrequest]; rfl)
      rw [hrequest] at hgets
      cases hgets
  · exact ⟨fun hsettle => Item.settle_onlyGets h hsettle, Item.settle_missing h⟩
  · rintro before exchange after rfl hacquires
    obtain ⟨item, hturn⟩ := standard_inTurnOf hrun hacquires
    refine ⟨item, ?_, hturn⟩
    obtain ⟨earlier, start, front, back, later, result, stop, -, -, -, hsettle⟩ := hturn
    cases hid : item.declaredId? plan with
    | none => rfl
    | some id =>
      have hgets := Item.settle_onlyGets hid hsettle exchange (by simp)
      generalize exchange.request = request at hgets hacquires
      cases request <;> simp [Cloud.Request.getsById] at hgets hacquires

/-! ## A VPC and a subnet that someone else owns -/

def ownedSubnet : Desired.Subnet :=
  { id := some "c", name := some "mine", zone := some "z" }

/-- The name and the zone would do to create the subnet. -/
def ownedPlan : Plan :=
  { Plan.bare "a" with
    spec := { (Plan.bare "a").spec with
      network := { Desired.Network.empty with
        vpc := some { id := some "v", name := none }
        controlPlaneSubnets := [ownedSubnet]
        workerSubnets := [{ id := none, name := some "w", zone := none }] } } }

def ownedTrace : Trace :=
  [⟨.getVpc "v", .answer (some { id := "v", name := "shared", crn := "", state := .available })⟩,
    ⟨.getSubnet "c", .answer none⟩,
    ⟨.findSubnet "w", .aborted⟩]

/-- Only the resource group is known. -/
def ownedStart : Status :=
  Status.empty.putResourceGroup ⟨"1", none⟩

theorem declared_ids_stand_owned :
    (∃ s', (standard ownedPlan).Runs ownedStart ownedTrace (.error (noneWithId .subnet "c")) s') ∧
      (∀ exchange ∈ ownedTrace, (∀ name, exchange.request ≠ .findVpc name) ∧
        ∀ prototype, exchange.request ≠ .createVpc prototype) ∧
      ∃ result stop,
        ((Item.subnet .controlPlane ownedSubnet).settle ownedPlan).Runs
            (ownedStart.put .vpc "" ⟨"v", "shared", true⟩) [⟨.getSubnet "c", .answer none⟩] result
            stop ∧
          result = .error (noneWithId .subnet "c") := by
  have hrun : ∃ s',
      (standard ownedPlan).Runs ownedStart ownedTrace (.error (noneWithId .subnet "c")) s' :=
    ⟨_, .ask (.ask (.ask (.done _)))⟩
  have hsettle : ∃ result stop, ((Item.subnet .controlPlane ownedSubnet).settle ownedPlan).Runs
      (ownedStart.put .vpc "" ⟨"v", "shared", true⟩) [⟨.getSubnet "c", .answer none⟩] result stop :=
    ⟨_, _, .ask (.done _)⟩
  obtain ⟨s', hrun⟩ := hrun
  obtain ⟨result, stop, hsettle⟩ := hsettle
  obtain ⟨hvpc, hitems, -⟩ := declared_ids_stand hrun
  refine ⟨⟨s', hrun⟩, hvpc (by decide), result, stop, hsettle, ?_⟩
  refine (hitems _ "c" (by decide)).missing hsettle (by simp) ?_
  rintro ⟨entry, hentry, -⟩
  cases hentry

end Pass

end VpcOperator
