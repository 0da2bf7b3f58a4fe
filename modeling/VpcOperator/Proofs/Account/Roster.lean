import VpcOperator.Proofs.Account.Inventory

/-! # The security groups of an account

What an account answers about its security groups, and how they change if
nobody but the operator creates any. Names and IDs stay unique.
-/

namespace VpcOperator

open Cloud (Finds Fresh Reply)

/-- The security groups an account has. -/
abbrev Roster := List Cloud.SecurityGroup

namespace Roster

/-- An exchange with an account that has these groups, and the groups it has then. A look-up finds
what has the ID or the name. What is created has the name asked for, and an ID and a name that no
other has; a request to create that is not answered may have done so all the same. -/
inductive Admits (roster : Roster) : Exchange → Roster → Prop
  | kept {exchange : Exchange} :
      (∀ id found, exchange = ⟨.getSecurityGroup id, .answer found⟩ →
        Finds roster (·.id = id) found) →
      (∀ name found, exchange = ⟨.findSecurityGroup name, .answer found⟩ →
        Finds roster (·.name = name) found) →
      (∀ prototype live, exchange ≠ ⟨.createSecurityGroup prototype, .answer live⟩) →
      Admits roster exchange roster
  | created {prototype : Cloud.SecurityGroupPrototype} {live : Cloud.SecurityGroup}
      {reply : Reply Cloud.SecurityGroup} :
      live.name = prototype.name → live.name ∉ roster.map (·.name) →
      Fresh (roster.map (·.id)) live.id → (∀ answer, reply = .answer answer → answer = live) →
      Admits roster ⟨.createSecurityGroup prototype, reply⟩ (live :: roster)

/-- The exchanges with an account in which nobody else creates groups. -/
inductive Follows : Roster → Trace → Roster → Prop
  | nil (roster : Roster) : Follows roster [] roster
  | cons {roster next last : Roster} {exchange : Exchange} {rest : Trace} :
      roster.Admits exchange next → Follows next rest last → Follows roster (exchange :: rest) last

variable {roster mid last : Roster} {exchange : Exchange} {first rest t : Trace}

theorem follows_nil : Follows roster [] last ↔ last = roster := by
  constructor
  · intro h
    cases h
    rfl
  · rintro rfl
    exact .nil _

theorem follows_cons :
    Follows roster (exchange :: rest) last ↔
      ∃ next, roster.Admits exchange next ∧ Follows next rest last := by
  constructor
  · intro h
    cases h with
    | cons hadmits h => exact ⟨_, hadmits, h⟩
  · rintro ⟨next, hadmits, h⟩
    exact .cons hadmits h

theorem follows_append :
    Follows roster (first ++ rest) last ↔
      ∃ mid, Follows roster first mid ∧ Follows mid rest last := by
  induction first generalizing roster with
  | nil => simp [follows_nil]
  | cons exchange first ih =>
    simp only [List.cons_append, follows_cons, ih]
    constructor
    · rintro ⟨next, hadmits, mid, hfirst, hrest⟩
      exact ⟨mid, ⟨next, hadmits, hfirst⟩, hrest⟩
    · rintro ⟨mid, ⟨next, hadmits, hfirst⟩, hrest⟩
      exact ⟨next, hadmits, mid, hfirst, hrest⟩

theorem Admits.subset (h : roster.Admits exchange last) : roster ⊆ last := by
  cases h with
  | kept => exact List.Subset.refl _
  | created => exact List.subset_cons_self _ _

theorem Follows.subset (h : Follows roster t last) : roster ⊆ last := by
  induction h with
  | nil roster => exact List.Subset.refl _
  | cons hadmits _ ih => exact List.Subset.trans hadmits.subset ih

/-- Names stay distinct. -/
theorem Follows.nodup (h : Follows roster t last) (hnodup : (roster.map (·.name)).Nodup) :
    (last.map (·.name)).Nodup := by
  induction h with
  | nil roster => exact hnodup
  | cons hadmits _ ih =>
    cases hadmits with
    | kept => exact ih hnodup
    | created _ hname => exact ih (List.nodup_cons.2 ⟨hname, hnodup⟩)

/-- Where no group is asked for to be created, there are no new ones. -/
theorem Follows.same (h : Follows roster t last)
    (hlooks : ∀ exchange ∈ t, ∀ prototype, exchange.request ≠ .createSecurityGroup prototype) :
    last = roster := by
  induction h with
  | nil roster => rfl
  | cons hadmits _ ih =>
    obtain ⟨hfirst, hrest⟩ := List.forall_mem_cons.1 hlooks
    cases hadmits with
    | kept => exact ih hrest
    | created => exact absurd rfl (hfirst _)

theorem Admits.found_by_id {id : String} {live : Cloud.SecurityGroup}
    (h : roster.Admits ⟨.getSecurityGroup id, .answer (some live)⟩ last) :
    live ∈ roster ∧ live.id = id ∧ last = roster := by
  cases h with
  | kept hid _ _ =>
    obtain ⟨hmem, hid⟩ := hid id _ rfl
    exact ⟨hmem, hid, rfl⟩

theorem Admits.found_by_name {name : String} {live : Cloud.SecurityGroup}
    (h : roster.Admits ⟨.findSecurityGroup name, .answer (some live)⟩ last) :
    live ∈ roster ∧ live.name = name ∧ last = roster := by
  cases h with
  | kept _ hname _ =>
    obtain ⟨hmem, hname⟩ := hname name _ rfl
    exact ⟨hmem, hname, rfl⟩

theorem Admits.there_when_created {prototype : Cloud.SecurityGroupPrototype}
    {live : Cloud.SecurityGroup}
    (h : roster.Admits ⟨.createSecurityGroup prototype, .answer live⟩ last) :
    live ∈ last ∧ live.name = prototype.name := by
  cases h with
  | kept _ _ hnot => exact absurd rfl (hnot prototype live)
  | created hname _ _ hanswer =>
    obtain rfl := hanswer live rfl
    exact ⟨List.mem_cons_self, hname⟩

theorem Admits.other (hkind : exchange.request.kind ≠ .securityGroup) :
    roster.Admits exchange roster := by
  refine .kept ?_ ?_ ?_ <;> rintro _ _ rfl <;> exact absurd rfl hkind

end Roster

end VpcOperator
