import VpcOperator.Proofs.Effects
import VpcOperator.Proofs.Quiet
import VpcOperator.Proofs.Ready.Balancers

/-! # Where entries come from

However a pass ends, nothing is taken out of the status, and whatever differs
from before is backed by what the account has answered in this pass. A request
that failed or was aborted backs nothing.
-/

namespace VpcOperator

open Observed (Status Shelf Entry BalancerEntry GroupReference)
open Desired (Role)

/-- What was there still has something in its place, and what is new is backed. -/
structure Updates {α : Type} (backed : α → Prop) (before after : Option α) : Prop where
  keeps : before.isSome → after.isSome
  backs : ∀ a, after = some a → before ≠ some a → backed a

namespace Updates

variable {α : Type} {backed many : α → Prop} {before mid after : Option α}

theorem refl (backed : α → Prop) (before : Option α) : Updates backed before before :=
  ⟨id, fun _ h hne => absurd h hne⟩

theorem of_eq (h : after = before) : Updates backed before after := by
  rw [h]
  exact refl backed before

theorem put {a : α} (h : backed a) : Updates backed before (some a) := by
  refine ⟨fun _ => rfl, fun b hb _ => ?_⟩
  cases hb
  exact h

theorem trans (h₁ : Updates backed before mid) (h₂ : Updates backed mid after) :
    Updates backed before after := by
  refine ⟨fun h => h₂.keeps (h₁.keeps h), fun a hafter hbefore => ?_⟩
  by_cases hmid : mid = some a
  · exact h₁.backs a hmid hbefore
  · exact h₂.backs a hafter hmid

theorem mono (h : Updates backed before after) (hsub : ∀ a, backed a → many a) :
    Updates many before after :=
  ⟨h.keeps, fun a hafter hbefore => hsub a (h.backs a hafter hbefore)⟩

theorem eq_of_unbacked (h : Updates backed before after)
    (hnone : ∀ a, after = some a → ¬ backed a) : after = before := by
  cases hafter : after with
  | none =>
    cases hbefore : before with
    | none => rfl
    | some b =>
      have hsome := h.keeps (by simp [hbefore])
      simp [hafter] at hsome
  | some a =>
    by_contra hne
    exact hnone a hafter (h.backs a hafter fun heq => hne heq.symm)

end Updates

/-! ## What an answer backs -/

/-- The entry is for what has this ID, and is ready only if that is available. -/
def Observed.Entry.Shows (entry : Entry) (id : String) (state : ResourceState) : Prop :=
  entry.id = id ∧ (entry.ready = true → state = .available)

/-- The exchange backs an entry under this name. What is found or created by name backs no entry
under another name. -/
def Exchange.Backs (shelf : Shelf) (name : String) (entry : Entry) (exchange : Exchange) : Prop :=
  match shelf, exchange with
  | .vpc, ⟨.getVpc _, .answer (some vpc)⟩ => entry.Shows vpc.id vpc.state
  | .vpc, ⟨.findVpc _, .answer (some vpc)⟩ => entry.Shows vpc.id vpc.state
  | .vpc, ⟨.createVpc _, .answer vpc⟩ => entry.Shows vpc.id vpc.state
  | .image, ⟨.getImage _, .answer (some image)⟩ => entry.Shows image.id image.state
  | .image, ⟨.findImage _, .answer (some image)⟩ => entry.Shows image.id image.state
  | .image, ⟨.createImage _, .answer image⟩ => entry.Shows image.id image.state
  | .subnets _, ⟨.getSubnet _, .answer (some subnet)⟩ => entry.Shows subnet.id subnet.state
  | .subnets _, ⟨.findSubnet asked, .answer (some subnet)⟩ =>
    asked = name ∧ entry.Shows subnet.id subnet.state
  | .subnets _, ⟨.createSubnet prototype, .answer subnet⟩ =>
    prototype.name = name ∧ entry.Shows subnet.id subnet.state
  | .securityGroups, ⟨.getSecurityGroup _, .answer (some group)⟩ => entry.id = group.id
  | .securityGroups, ⟨.findSecurityGroup asked, .answer (some group)⟩ =>
    asked = name ∧ entry.id = group.id
  | .securityGroups, ⟨.createSecurityGroup prototype, .answer group⟩ =>
    prototype.name = name ∧ entry.id = group.id
  | _, _ => False

/-- On a shelf without keys the name does not matter. -/
theorem Exchange.Backs.rename {shelf : Shelf} {name other : String} {entry : Entry}
    {exchange : Exchange} (h : exchange.Backs shelf name entry)
    (hname : shelf.keyed → other = name) : exchange.Backs shelf other entry := by
  cases hkeyed : shelf.keyed with
  | true => exact hname hkeyed ▸ h
  | false =>
    obtain rfl | rfl : shelf = .vpc ∨ shelf = .image := by cases shelf <;> simp_all [Shelf.keyed]
    all_goals unfold Backs at h ⊢; split at h <;> first | exact h | simp_all

theorem Exchange.Backs.answered {shelf : Shelf} {name : String} {entry : Entry}
    {exchange : Exchange} (h : exchange.Backs shelf name entry) :
    ∃ answer, exchange.reply = .answer answer := by
  unfold Backs at h
  split at h <;> first | exact ⟨_, rfl⟩ | cases h

/-- The load balancer an exchange was answered with. -/
def Exchange.balancer? : Exchange → Option Cloud.LoadBalancer
  | ⟨.getLoadBalancer _, .answer found⟩ => found
  | ⟨.findLoadBalancer _, .answer found⟩ => found
  | ⟨.createLoadBalancer _, .answer live⟩ => some live
  | _ => none

def Exchange.BacksBalancer (entry : BalancerEntry) (exchange : Exchange) : Prop :=
  ∃ live, exchange.balancer? = some live ∧ entry.id = live.id ∧ entry.state = live.state ∧
    entry.hostname = live.hostname

def Exchange.BacksReference (reference : GroupReference) : Exchange → Prop
  | ⟨.listResourceGroups _, .answer groups⟩ =>
    ∃ group ∈ groups, reference = { id := group.id, name := some group.name }
  | _ => False

/-- Every load balancer is remembered under its own ID. -/
def Observed.Status.KeyedById (s : Status) : Prop :=
  ∀ id entry, s.balancer? id = some entry → entry.id = id

theorem Observed.Status.KeyedById.balancer?_id {s : Status} {entry : BalancerEntry}
    (h : s.KeyedById) (hmem : entry ∈ s.balancers) : s.balancer? entry.id = some entry := by
  rw [Status.balancers_eq] at hmem
  obtain ⟨⟨id, other⟩, hentry, rfl⟩ := List.mem_map.1 hmem
  have hfind : s.balancer? id = some other := by
    rw [Status.balancer?_eq]
    exact Table.find?_of_mem hentry
  rw [h id other hfind]
  exact hfind

theorem Observed.Status.KeyedById.frame {s s' : Status} (h : s.KeyedById)
    (hsame : Status.Same .balancers s s') : s'.KeyedById := by
  intro id entry hentry
  rw [hsame.balancer? id] at hentry
  exact h id entry hentry

theorem Observed.Status.KeyedById.putBalancer {s : Status} (h : s.KeyedById)
    (entry : BalancerEntry) : (s.putBalancer entry).KeyedById := by
  intro id other hother
  rw [Status.balancer?_putBalancer] at hother
  split at hother
  · cases hother
    exact Eq.symm ‹_›
  · exact h id other hother

/-- What a pass with these exchanges can have made of a status, however it ended. -/
structure Progress (s : Status) (t : Trace) (s' : Status) : Prop where
  ready : s'.ready = s.ready
  conditions : s'.conditions = s.conditions
  entries : ∀ shelf name, Updates (fun entry => ∃ exchange ∈ t, exchange.Backs shelf name entry)
    (s.find? shelf name) (s'.find? shelf name)
  balancers : ∀ id, Updates (fun entry => ∃ exchange ∈ t, exchange.BacksBalancer entry)
    (s.balancer? id) (s'.balancer? id)
  resourceGroup : Updates (fun reference => ∃ exchange ∈ t, exchange.BacksReference reference)
    s.resourceGroup s'.resourceGroup
  /-- The network's group can also be the one remembered for the cluster. -/
  networkGroup : Updates
    (fun reference => (∃ exchange ∈ t, exchange.BacksReference reference) ∨
      s.resourceGroup = some reference)
    s.networkGroup? s'.networkGroup?

namespace Progress

variable {s s₁ s₂ s₃ : Status} {t t₁ t₂ : Trace}

theorem refl (s : Status) (t : Trace) : Progress s t s where
  ready := rfl
  conditions := rfl
  entries _ _ := .refl _ _
  balancers _ := .refl _ _
  resourceGroup := .refl _ _
  networkGroup := .refl _ _

theorem trans (h₁ : Progress s₁ t s₂) (h₂ : Progress s₂ t s₃) : Progress s₁ t s₃ where
  ready := h₂.ready.trans h₁.ready
  conditions := h₂.conditions.trans h₁.conditions
  entries shelf name := (h₁.entries shelf name).trans (h₂.entries shelf name)
  balancers id := (h₁.balancers id).trans (h₂.balancers id)
  resourceGroup := h₁.resourceGroup.trans h₂.resourceGroup
  networkGroup := by
    refine h₁.networkGroup.trans (h₂.networkGroup.mono fun reference hbacked => ?_)
    rcases hbacked with hbacked | hcluster
    · exact .inl hbacked
    · by_cases hsame : s₁.resourceGroup = some reference
      · exact .inr hsame
      · exact .inl (h₁.resourceGroup.backs reference hcluster hsame)

theorem mono (h : Progress s₁ t₁ s₂) (hsub : t₁ ⊆ t₂) : Progress s₁ t₂ s₂ where
  ready := h.ready
  conditions := h.conditions
  entries shelf name := (h.entries shelf name).mono fun _ ⟨exchange, hmem, hbacks⟩ =>
    ⟨exchange, hsub hmem, hbacks⟩
  balancers id := (h.balancers id).mono fun _ ⟨exchange, hmem, hbacks⟩ =>
    ⟨exchange, hsub hmem, hbacks⟩
  resourceGroup := h.resourceGroup.mono fun _ ⟨exchange, hmem, hbacks⟩ =>
    ⟨exchange, hsub hmem, hbacks⟩
  networkGroup := h.networkGroup.mono fun _ hbacked =>
    hbacked.imp_left fun ⟨exchange, hmem, hbacks⟩ => ⟨exchange, hsub hmem, hbacks⟩

/-- An entry is put where nothing else is, and it replaces what was there. -/
theorem put {shelf : Shelf} {name : String} {entry : Entry} (s : Status)
    (h : ∃ exchange ∈ t, exchange.Backs shelf name entry) :
    Progress s t (s.put shelf name entry) := by
  obtain ⟨exchange, hmem, hbacks⟩ := h
  have hwrites := Status.writes_put s shelf name entry
  have hothers : (s.put shelf name entry).ready = s.ready ∧
      (s.put shelf name entry).conditions = s.conditions := by
    rcases shelf with _ | _ | (_ | _) | _ <;> exact ⟨rfl, rfl⟩
  refine ⟨hothers.1, hothers.2, fun other key => ?_, fun id => ?_, ?_, ?_⟩
  · rw [Status.find?_put]
    split
    · rename_i hplace
      obtain ⟨rfl, hname⟩ := hplace
      exact .put ⟨exchange, hmem, hbacks.rename hname⟩
    · exact .refl _ _
  · exact .of_eq ((hwrites .balancers (by simp)).balancer? id)
  · exact .of_eq (hwrites .resourceGroup (by simp))
  · exact .of_eq ((hwrites .networkGroup (by simp)).networkGroup?)

theorem putBalancer {entry : BalancerEntry} (s : Status)
    (h : (∃ exchange ∈ t, exchange.BacksBalancer entry) ∨ s.balancer? entry.id = some entry) :
    Progress s t (s.putBalancer entry) := by
  have hwrites := Status.writes_putBalancer s entry
  refine ⟨rfl, rfl, fun shelf key => ?_, fun id => ?_, ?_, ?_⟩
  · exact .of_eq ((hwrites (.shelf shelf) (by simp)).find? key)
  · rw [Status.balancer?_putBalancer]
    split
    · rename_i hid
      subst hid
      rcases h with hbacked | hsame
      · exact .put hbacked
      · exact .of_eq hsame.symm
    · exact .refl _ _
  · exact .of_eq (hwrites .resourceGroup (by simp))
  · exact .of_eq ((hwrites .networkGroup (by simp)).networkGroup?)

theorem putResourceGroup {reference : GroupReference} (s : Status)
    (h : ∃ exchange ∈ t, exchange.BacksReference reference) :
    Progress s t (s.putResourceGroup reference) := by
  have hwrites := Status.writes_putResourceGroup s reference
  refine ⟨rfl, rfl, fun shelf key => ?_, fun id => ?_, .put h, ?_⟩
  · exact .of_eq ((hwrites (.shelf shelf) (by simp)).find? key)
  · exact .of_eq ((hwrites .balancers (by simp)).balancer? id)
  · exact .of_eq ((hwrites .networkGroup (by simp)).networkGroup?)

theorem putNetworkGroup {reference : GroupReference} (s : Status)
    (h : (∃ exchange ∈ t, exchange.BacksReference reference) ∨ s.resourceGroup = some reference) :
    Progress s t (s.putNetworkGroup reference) := by
  have hwrites := Status.writes_putNetworkGroup s reference
  refine ⟨rfl, rfl, fun shelf key => ?_, fun id => ?_, ?_, .put h⟩
  · exact .of_eq ((hwrites (.shelf shelf) (by simp)).find? key)
  · exact .of_eq ((hwrites .balancers (by simp)).balancer? id)
  · exact .of_eq (hwrites .resourceGroup (by simp))

end Progress

/-! ## Passes that come after some exchanges -/

namespace Pass

variable {α β : Type} {past : Trace}

/-- A run in a pass that has had the exchanges `past` already. -/
def After (past : Trace) : Effect := fun s t s' =>
  s.KeyedById → s'.KeyedById ∧ Progress s (past ++ t) s'

instance (past : Trace) : Composes (After past) where
  nil s hkeyed := ⟨hkeyed, .refl s _⟩
  append {s₁ s₂ s₃ t₁ t₂} h₁ h₂ := by
    intro hkeyed
    obtain ⟨hkeyed, hfirst⟩ := h₁ hkeyed
    obtain ⟨hkeyed, hrest⟩ := h₂ hkeyed
    refine ⟨hkeyed, .trans (hfirst.mono ?_) (hrest.mono ?_)⟩
    · rw [← List.append_assoc]
      exact List.subset_append_left _ _
    · exact List.append_subset.2 ⟨List.subset_append_left _ _, by simp⟩

namespace After

theorem of_quiet {pass : Pass α} (h : Always Quiet pass) : Always (After past) pass := by
  intro s t r s' hrun hkeyed
  rw [h hrun]
  exact ⟨hkeyed, .refl s _⟩

/-- What was found without a write is known to what comes next. -/
theorem bind_run {pass : Pass α} {next : α → Pass β} {s s' : Status} {t : Trace}
    {r : Except Failure β} (hquiet : Always Quiet pass)
    (hnext : ∀ {a t₁ t₂}, pass.Runs s t₁ (.ok a) s → (next a).Runs s t₂ r s' →
      After (past ++ t₁) s t₂ s')
    (hrun : (pass >>= next).Runs s t r s') : After past s t s' := by
  intro hkeyed
  rcases runs_bind.1 hrun with ⟨a, mid, first, rest, rfl, hfirst, hrest⟩ | ⟨e, rfl, hfirst⟩
  · have hmid : mid = s := hquiet hfirst
    subst hmid
    rw [← List.append_assoc]
    exact hnext hfirst hrest hkeyed
  · rw [hquiet hfirst]
    exact ⟨hkeyed, .refl s _⟩

theorem bind_found {pass : Pass α} {next : α → Pass β} {post : α → Trace → Prop}
    (hquiet : Always Quiet pass)
    (hpost : ∀ {s t a s'}, pass.Runs s t (.ok a) s' → post a t)
    (hnext : ∀ a t, post a t → Always (After (past ++ t)) (next a)) :
    Always (After past) (pass >>= next) :=
  fun _ _ _ _ hrun =>
    bind_run hquiet (fun hfirst hrest => hnext _ _ (hpost hfirst) hrest) hrun

theorem call_bind {target : String} {request : Cloud.Request} {next : request.Answer → Pass β}
    (hnext : ∀ answer, Always (After (past ++ [⟨request, .answer answer⟩])) (next answer)) :
    Always (After past) (call target request >>= next) := by
  have hpost : ∀ {s t answer s'}, (call target request).Runs s t (.ok answer) s' →
      t = [⟨request, .answer answer⟩] := fun hrun => (runs_call_ok.1 hrun).1
  refine bind_found (.asks_only _ _) hpost fun answer t ht => ?_
  rw [ht]
  exact hnext answer

theorem puts {shelf : Shelf} {name : String} {entry : Entry} {exchange : Exchange}
    (hmem : exchange ∈ past) (h : exchange.Backs shelf name entry) :
    Always (After past) (update (·.put shelf name entry)) := by
  refine .update fun s hkeyed => ⟨hkeyed.frame ?_, ?_⟩
  · exact Status.writes_put s shelf name entry .balancers (by simp)
  · rw [List.append_nil]
    exact .put s ⟨exchange, hmem, h⟩

end After

end Pass

end VpcOperator
