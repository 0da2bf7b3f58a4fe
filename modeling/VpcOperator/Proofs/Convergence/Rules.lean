import VpcOperator.Proofs.Convergence.Lookups

/-! # Rules come into force

Every remote of every rule is served after the rules have been enforced. Where
all are served before, nothing is created.
-/

namespace VpcOperator.Pass

open Cloud (Inventory Site)
open Observed (Status)

variable {site : Site} {s : Status} {held left : Inventory}

namespace Rules

open Lookups (Current Leads fits)

variable {known : Lookups} {direction : Direction} {protocol : Protocol}
  {remote : Desired.Remote} {remotes : List Desired.Remote} {live : List Cloud.Rule}
  {group : Identified} {rule : Desired.Rule} {rules : List Desired.Rule}

theorem isSatisfied_meets (h : held.Unambiguous) (hknown : known.Current s held)
    (hleads : Leads s held remote) :
    Meets site (isSatisfied direction protocol remote live known) s held fun found s' left =>
      s' = s ∧ left = held ∧ found.2.Current s held ∧
        found.1 = live.any (fits s held direction protocol remote) := by
  induction live generalizing known with
  | nil => exact .pure ⟨rfl, rfl, hknown, rfl⟩
  | cons one others ih =>
    refine .bind ((Lookups.matchesRule_meets h hknown hleads).mono ?_)
    rintro ⟨first, known₁⟩ s held ⟨rfl, rfl, hknown₁, hfirst⟩
    obtain rfl : first = fits s held direction protocol remote one := hfirst
    dsimp only
    split
    · rename_i hfits
      exact .pure ⟨rfl, rfl, hknown₁, by rw [List.any_cons, hfits, Bool.true_or]⟩
    · rename_i hother
      rw [List.any_cons, eq_false_of_ne_true hother, Bool.false_or]
      exact ih hknown₁

/-! ## Rules that are created -/

theorem isCarriedBy_of_reflects {traffic : Cloud.Traffic} (h : traffic.Reflects protocol) :
    protocol.isCarriedBy traffic = true := by
  unfold Cloud.Traffic.Reflects at h
  split at h
  · rfl
  · obtain ⟨rfl, rfl⟩ := h
    rename_i type code
    cases type <;> cases code <;> simp [Protocol.isCarriedBy, Protocol.icmpFilter]
  · obtain ⟨rfl, hrange⟩ := h
    simp [Protocol.isCarriedBy, hrange]
  · exact h.elim

/-- The remotes are served by live rules of the group with this ID. -/
def InForce (s : Status) (held : Inventory) (groupId : String) (direction : Direction)
    (protocol : Protocol) (remotes : List Desired.Remote) : Prop :=
  ∀ remote ∈ remotes, ∃ one ∈ held.rules groupId, fits s held direction protocol remote one = true

/-- A part of the step that brings about what it checks. -/
structure Enforces (wish : Inventory → Prop) (s : Status) (held : Inventory)
    (found : Bool × Lookups) (s' : Status) (left : Inventory) : Prop where
  same : s' = s
  adds : held.AddsRules left
  known : found.2.Current s left
  done : wish left
  kept : wish held → found.1 = true

variable {wish other : Inventory → Prop}

theorem enforces_nil (hknown : known.Current s held) (hdone : wish held) :
    Meets site (pure (true, known)) s held (Enforces wish s held) :=
  .pure ⟨rfl, .refl held, hknown, hdone, fun _ => rfl⟩

/-- What one part has brought about the next one leaves in place. -/
theorem enforces_both {p q : Lookups → Pass (Bool × Lookups)}
    (hwish : ∀ {held left : Inventory}, held.AddsRules left → wish held → wish left)
    (hother : ∀ {held left : Inventory}, held.AddsRules left → other held → other left)
    (hp : Meets site (p known) s held (Enforces wish s held))
    (hq : ∀ {mid known}, held.AddsRules mid → known.Current s mid →
      Meets site (q known) s mid (Enforces other s mid)) :
    Meets site (do
      let (kept, known) ← p known
      let (othersKept, known) ← q known
      return (kept && othersKept, known)) s held
      (Enforces (fun inventory => wish inventory ∧ other inventory) s held) := by
  refine .bind (hp.mono ?_)
  rintro ⟨kept, known₁⟩ s mid ⟨rfl, hadds, hknown₁, hdone, hkept⟩
  refine .bind ((hq hadds hknown₁).mono ?_)
  rintro ⟨othersKept, known₂⟩ s left ⟨rfl, hadds', hknown₂, hdone', hkept'⟩
  refine .pure ⟨rfl, hadds.trans hadds', hknown₂, ⟨hwish hadds' hdone, hdone'⟩, ?_⟩
  rintro ⟨hfirst, hsecond⟩
  exact Bool.and_eq_true_iff.2 ⟨hkept hfirst, hkept' (hother hadds hsecond)⟩

theorem InForce.adds {groupId : String} (h : InForce s held groupId direction protocol remotes)
    (hadds : held.AddsRules left) : InForce s left groupId direction protocol remotes := by
  intro remote hmem
  obtain ⟨one, hone, hfits⟩ := h remote hmem
  rw [← Lookups.fits_of_adds hadds] at hfits
  exact ⟨one, hadds.rules groupId hone, hfits⟩

theorem createRule_meets (h : held.Unambiguous) (hknown : known.Current s held)
    (hleads : Leads s held remote) :
    Meets site (createRule group direction protocol remote known) s held fun found s' left =>
      s' = s ∧ held.AddsRules left ∧ found.Current s left ∧
        InForce s left group.id direction protocol [remote] := by
  refine .bind ((Lookups.prototype_meets h hknown hleads).mono ?_)
  rintro ⟨prototype, known₁⟩ s held ⟨rfl, rfl, hknown₁, hserves⟩
  refine .bind (.call fun one _ hgrants => .pure ?_)
  obtain ⟨hdirection, htraffic, hremote⟩ := hgrants
  have hadds : held.AddsRules (held.after
      ⟨.createRule group.id { direction, protocol, remote := prototype }, .answer one⟩) :=
    ⟨rfl, rfl, (Inventory.grows_after held _).rules⟩
  refine ⟨rfl, hadds, hknown₁.adds hadds, fun other hmem => ⟨one, ?_, ?_⟩⟩
  · simp [Inventory.after]
  · obtain rfl := List.mem_singleton.1 hmem
    rw [Lookups.fits_of_adds hadds, fits, hserves one.remote hremote,
      isCarriedBy_of_reflects htraffic]
    simp [hdirection]

/-- The rules are listed once for all remotes, before any of them is created. -/
theorem enforceRemotes_meets (h : held.Unambiguous) (hknown : known.Current s held)
    (hleads : ∀ remote ∈ remotes, Leads s held remote) (hlive : live ⊆ held.rules group.id) :
    Meets site (enforceRemotes group direction protocol live remotes known) s held
      fun found s' left => s' = s ∧ held.AddsRules left ∧ found.2.Current s left ∧
        InForce s left group.id direction protocol remotes ∧
        ((∀ remote ∈ remotes, ∃ one ∈ live, fits s held direction protocol remote one = true) →
          found.1 = true) := by
  induction remotes generalizing known held with
  | nil => exact .pure ⟨rfl, .refl held, hknown, by simp [InForce], fun _ => rfl⟩
  | cons remote rest ih =>
    obtain ⟨hfirst, hrest⟩ := List.forall_mem_cons.1 hleads
    refine .bind ((isSatisfied_meets h hknown hfirst).mono ?_)
    rintro ⟨found, known₁⟩ s held ⟨rfl, rfl, hknown₁, hfound⟩
    obtain rfl : found = live.any (fits s held direction protocol remote) := hfound
    dsimp only
    split
    · rename_i hany
      obtain ⟨one, hone, hfits⟩ := List.any_eq_true.1 hany
      refine (ih h hknown₁ hrest hlive).mono ?_
      rintro found s left ⟨rfl, hadds, hknown₂, hforce, hkept⟩
      refine ⟨rfl, hadds, hknown₂, List.forall_mem_cons.2 ⟨⟨one, ?_, ?_⟩, hforce⟩, fun hall => ?_⟩
      · exact hadds.rules _ (hlive hone)
      · rwa [Lookups.fits_of_adds hadds]
      · exact hkept (List.forall_mem_cons.1 hall).2
    · rename_i hnone
      refine .bind ((createRule_meets h hknown₁ hfirst).mono ?_)
      rintro known₂ s mid ⟨rfl, hadds, hknown₂, hmade⟩
      have hrest' : ∀ remote ∈ rest, Leads s mid remote :=
        fun other hmem => (hrest other hmem).adds hadds
      have hlive' : live ⊆ mid.rules group.id := fun _ hmem => hadds.rules _ (hlive hmem)
      refine .bind ((ih (h.adds hadds) hknown₂ hrest' hlive').mono ?_)
      rintro ⟨_, known₃⟩ s left ⟨rfl, hadds', hknown₃, hforce, -⟩
      refine .pure ⟨rfl, hadds.trans hadds', hknown₃, ?_, fun hall => ?_⟩
      · exact List.forall_mem_cons.2 ⟨hmade.adds hadds' remote (by simp), hforce⟩
      · obtain ⟨one, hone, hfits⟩ := (List.forall_mem_cons.1 hall).1
        exact absurd (List.any_eq_true.2 ⟨one, hone, hfits⟩) hnone

/-- The rules of the group with this ID do all that these rules ask for. -/
def AllInForce (s : Status) (held : Inventory) (groupId : String) (rules : List Desired.Rule) :
    Prop :=
  ∀ rule ∈ rules, InForce s held groupId rule.direction rule.body.protocol rule.body.remotes

theorem AllInForce.adds {groupId : String} (h : AllInForce s held groupId rules)
    (hadds : held.AddsRules left) : AllInForce s left groupId rules :=
  fun rule hmem => (h rule hmem).adds hadds

theorem enforceRule_meets (h : held.Unambiguous) (hknown : known.Current s held)
    (hleads : ∀ remote ∈ rule.body.remotes, Leads s held remote) :
    Meets site (enforceRule group rule known) s held (Enforces (fun inventory =>
      InForce s inventory group.id rule.direction rule.body.protocol rule.body.remotes) s held) := by
  refine .look_bind rfl fun live _ hgrants => ?_
  obtain rfl : live = held.rules group.id := hgrants
  refine (enforceRemotes_meets h hknown hleads (List.Subset.refl _)).mono ?_
  rintro found s' left ⟨hsame, hadds, hknown', hforce, hkept⟩
  exact ⟨hsame, hadds, hknown', hforce, hkept⟩

theorem enforceRules_meets (h : held.Unambiguous) (hknown : known.Current s held)
    (hleads : ∀ rule ∈ rules, ∀ remote ∈ rule.body.remotes, Leads s held remote) :
    Meets site (enforceRules group rules known) s held
      (Enforces (AllInForce s · group.id rules) s held) := by
  induction rules generalizing known held with
  | nil => exact enforces_nil hknown (by simp [AllInForce])
  | cons rule rest ih =>
    obtain ⟨hfirst, hrest⟩ := List.forall_mem_cons.1 hleads
    simp only [AllInForce, List.forall_mem_cons]
    refine enforces_both (fun hadds hforce => hforce.adds hadds)
      (fun hadds hforce => AllInForce.adds hforce hadds) (enforceRule_meets h hknown hfirst) ?_
    intro mid known hadds hknown'
    exact ih (h.adds hadds) hknown' fun other hmem remote hremote =>
      (hrest other hmem remote hremote).adds hadds

theorem enforceAll_meets {groups : List Identified} (h : held.Unambiguous)
    (hknown : known.Current s held)
    (hleads : ∀ group ∈ groups, ∀ rule ∈ group.rules, ∀ remote ∈ rule.body.remotes,
      Leads s held remote) :
    Meets site (enforceAll groups known) s held (Enforces
      (fun inventory => ∀ group ∈ groups, AllInForce s inventory group.id group.rules) s held) := by
  induction groups generalizing known held with
  | nil => exact enforces_nil hknown (by simp)
  | cons group rest ih =>
    obtain ⟨hfirst, hrest⟩ := List.forall_mem_cons.1 hleads
    simp only [List.forall_mem_cons]
    refine enforces_both (fun hadds hforce => hforce.adds hadds)
      (fun hadds hforce other hmem => (hforce other hmem).adds hadds)
      (enforceRules_meets h hknown hfirst) ?_
    intro mid known hadds hknown'
    exact ih (h.adds hadds) hknown' fun other hmem rule hrule remote hremote =>
      (hrest other hmem rule hrule remote hremote).adds hadds

end Rules

end VpcOperator.Pass
