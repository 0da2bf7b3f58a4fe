import VpcOperator.Plan

/-! # Frames of the observed status

What a write to the status changes, and that it leaves everything else as it
was. A frame names the parts that may change; frames compose.
-/

namespace VpcOperator.Observed

/-- The parts of a status that are written apart from each other. -/
inductive Part where
  | shelf (shelf : Shelf)
  | balancers
  | resourceGroup
  | networkGroup
  deriving DecidableEq

/-- Whether the entries of a shelf are kept apart by their names. -/
def Shelf.keyed : Shelf → Bool
  | vpc | image => false
  | subnets _ | securityGroups => true

namespace Status

variable {s s₁ s₂ s₃ : Status}

/-! ## The network part, empty before its first entry -/

def net (s : Status) : NetworkStatus :=
  s.network.getD .empty

theorem find?_vpc (s : Status) (name : String) : s.find? .vpc name = s.net.vpc := by
  cases h : s.network <;> simp [find?, net, h, NetworkStatus.empty]

theorem find?_subnets (s : Status) (role : Desired.Role) (name : String) :
    s.find? (.subnets role) name = (s.net.subnets role).find? name := by
  cases h : s.network <;> cases role <;>
    simp [find?, net, h, NetworkStatus.empty, NetworkStatus.subnets]

theorem find?_securityGroups (s : Status) (name : String) :
    s.find? .securityGroups name = s.net.securityGroups.find? name := by
  cases h : s.network <;> simp [find?, net, h, NetworkStatus.empty]

theorem entries_subnets (s : Status) (role : Desired.Role) :
    s.entries (.subnets role) = (s.net.subnets role).entries := by
  cases h : s.network <;> cases role <;>
    simp [entries, net, h, NetworkStatus.empty, NetworkStatus.subnets, Table.empty]

theorem entries_securityGroups (s : Status) :
    s.entries .securityGroups = s.net.securityGroups.entries := by
  cases h : s.network <;> simp [entries, net, h, NetworkStatus.empty, Table.empty]

theorem mem_entries_iff {shelf : Shelf} {key : String} {entry : Entry} :
    (key, entry) ∈ s.entries shelf ↔ shelf.keyed ∧ s.find? shelf key = some entry := by
  cases shelf with
  | vpc => simp [entries, Shelf.keyed]
  | image => simp [entries, Shelf.keyed]
  | subnets role =>
    simp only [entries_subnets, find?_subnets, Shelf.keyed, true_and]
    exact ⟨Table.find?_of_mem, Table.mem_of_find?⟩
  | securityGroups =>
    simp only [entries_securityGroups, find?_securityGroups, Shelf.keyed, true_and]
    exact ⟨Table.find?_of_mem, Table.mem_of_find?⟩

theorem find?_of_mem_entries {shelf : Shelf} {key : String} {entry : Entry}
    (h : (key, entry) ∈ s.entries shelf) : s.find? shelf key = some entry :=
  (mem_entries_iff.1 h).2

theorem balancer?_eq (s : Status) (id : String) :
    s.balancer? id = s.net.loadBalancers.find? id := by
  cases h : s.network <;> simp [balancer?, net, h, NetworkStatus.empty]

theorem balancers_eq (s : Status) : s.balancers = s.net.loadBalancers.values := by
  cases h : s.network <;> simp [balancers, net, h, NetworkStatus.empty, Table.values, Table.empty]

theorem networkGroup?_eq (s : Status) : s.networkGroup? = s.net.resourceGroup := by
  cases h : s.network <;> simp [networkGroup?, net, h, NetworkStatus.empty]

/-! ## Frames -/

/-- The part has the same content in both. -/
def Same : Part → Status → Status → Prop
  | .shelf .vpc, s, s' => s'.net.vpc = s.net.vpc
  | .shelf .image, s, s' => s'.image = s.image
  | .shelf (.subnets role), s, s' => s'.net.subnets role = s.net.subnets role
  | .shelf .securityGroups, s, s' => s'.net.securityGroups = s.net.securityGroups
  | .balancers, s, s' => s'.net.loadBalancers = s.net.loadBalancers
  | .resourceGroup, s, s' => s'.resourceGroup = s.resourceGroup
  | .networkGroup, s, s' => s'.net.resourceGroup = s.net.resourceGroup

theorem Same.refl (part : Part) (s : Status) : Same part s s := by
  unfold Same
  split <;> rfl

theorem Same.trans {part : Part} (h₁ : Same part s₁ s₂) (h₂ : Same part s₂ s₃) :
    Same part s₁ s₃ := by
  unfold Same at *
  split at h₁ <;> exact h₂.trans h₁

/-- Nothing but these parts is changed. -/
def Writes (parts : List Part) (s s' : Status) : Prop :=
  ∀ part, part ∉ parts → Same part s s'

theorem Writes.refl (parts : List Part) (s : Status) : Writes parts s s :=
  fun part _ => .refl part s

theorem Writes.trans {parts : List Part} (h₁ : Writes parts s₁ s₂) (h₂ : Writes parts s₂ s₃) :
    Writes parts s₁ s₃ :=
  fun part hout => (h₁ part hout).trans (h₂ part hout)

theorem Writes.mono {few many : List Part} (h : Writes few s₁ s₂) (hsub : few ⊆ many) :
    Writes many s₁ s₂ :=
  fun part hout => h part fun hin => hout (hsub hin)

/-- Every shelf is a place of its own: a write to one leaves each of the others untouched. -/
theorem writes_put (s : Status) (shelf : Shelf) (name : String) (entry : Entry) :
    Writes [.shelf shelf] s (s.put shelf name entry) := by
  intro part hout
  have hne : part ≠ .shelf shelf := by simpa using hout
  rcases part with (_ | _ | (_ | _) | _) | _ | _ | _ <;>
    rcases shelf with _ | _ | (_ | _) | _ <;>
    first | rfl | exact absurd rfl hne

theorem writes_putBalancer (s : Status) (entry : BalancerEntry) :
    Writes [.balancers] s (s.putBalancer entry) := by
  intro part hout
  have hne : part ≠ .balancers := by simpa using hout
  rcases part with (_ | _ | (_ | _) | _) | _ | _ | _ <;> first | rfl | exact absurd rfl hne

theorem writes_putResourceGroup (s : Status) (reference : GroupReference) :
    Writes [.resourceGroup] s (s.putResourceGroup reference) := by
  intro part hout
  have hne : part ≠ .resourceGroup := by simpa using hout
  rcases part with (_ | _ | (_ | _) | _) | _ | _ | _ <;> first | rfl | exact absurd rfl hne

theorem writes_putNetworkGroup (s : Status) (reference : GroupReference) :
    Writes [.networkGroup] s (s.putNetworkGroup reference) := by
  intro part hout
  have hne : part ≠ .networkGroup := by simpa using hout
  rcases part with (_ | _ | (_ | _) | _) | _ | _ | _ <;> first | rfl | exact absurd rfl hne

/-! ## Reading a part that is the same -/

theorem Same.find? {shelf : Shelf} (h : Same (.shelf shelf) s s₁) (name : String) :
    s₁.find? shelf name = s.find? shelf name := by
  cases shelf with
  | vpc => rw [find?_vpc, find?_vpc]; exact h
  | image => exact h
  | subnets role => rw [find?_subnets, find?_subnets]; exact congrArg (Table.find? · name) h
  | securityGroups =>
    rw [find?_securityGroups, find?_securityGroups]
    exact congrArg (Table.find? · name) h

theorem Same.balancer? (h : Same .balancers s s₁) (id : String) :
    s₁.balancer? id = s.balancer? id := by
  rw [balancer?_eq, balancer?_eq]
  exact congrArg (Table.find? · id) h

theorem Same.balancers (h : Same .balancers s s₁) : s₁.balancers = s.balancers := by
  rw [balancers_eq, balancers_eq]
  exact congrArg Table.values h

theorem Same.networkGroup? (h : Same .networkGroup s s₁) : s₁.networkGroup? = s.networkGroup? := by
  rw [networkGroup?_eq, networkGroup?_eq]
  exact h

/-! ## The subnets that are known -/

/-- The subnet with this ID is remembered in the role. -/
def Holds (s : Status) (role : Desired.Role) (id : String) : Prop :=
  ∃ name entry, s.find? (.subnets role) name = some entry ∧ entry.id = id

theorem Holds.frame {role : Desired.Role} {id : String} (h : s.Holds role id)
    (hsame : Same (.shelf (.subnets role)) s s₁) : s₁.Holds role id := by
  obtain ⟨name, entry, hentry, hid⟩ := h
  exact ⟨name, entry, (hsame.find? name).trans hentry, hid⟩

theorem holds_iff {role : Desired.Role} {id : String} :
    s.Holds role id ↔ id ∈ (s.entries (.subnets role)).map (·.2.id) := by
  simp only [Holds, List.mem_map, Prod.exists, mem_entries_iff, Shelf.keyed, true_and]

theorem mem_subnetIds {id : String} : id ∈ s.subnetIds ↔ id ≠ "" ∧ ∃ role, s.Holds role id := by
  rw [subnetIds, List.mem_eraseDups, List.mem_filter, List.map_append, List.mem_append,
    ← holds_iff, ← holds_iff, and_comm, decide_eq_true_iff]
  refine and_congr_right fun _ => ⟨?_, ?_⟩
  · rintro (hholds | hholds)
    · exact ⟨.controlPlane, hholds⟩
    · exact ⟨.worker, hholds⟩
  · rintro ⟨_ | _, hholds⟩
    · exact .inl hholds
    · exact .inr hholds

theorem subnetIds_same (hsame : ∀ role, Same (.shelf (.subnets role)) s s₁) :
    s₁.subnetIds = s.subnetIds := by
  have hentries : ∀ role, s₁.entries (.subnets role) = s.entries (.subnets role) := by
    intro role
    have hrole : s₁.net.subnets role = s.net.subnets role := hsame role
    rw [entries_subnets, entries_subnets, hrole]
  rw [subnetIds, subnetIds, hentries, hentries]

/-! ## Reading the part that was written -/

@[simp] theorem find?_put_self (s : Status) (shelf : Shelf) (name : String) (entry : Entry) :
    (s.put shelf name entry).find? shelf name = some entry := by
  rcases shelf with _ | _ | (_ | _) | _ <;>
    simp [put, find?, updateNetwork, NetworkStatus.subnets, Table.find?_insert]

theorem find?_put_subnets (s : Status) (role : Desired.Role) (name other : String) (entry : Entry) :
    (s.put (.subnets role) name entry).find? (.subnets role) other =
      if other = name then some entry else s.find? (.subnets role) other := by
  rw [find?_subnets, find?_subnets]
  cases role <;> exact Table.find?_insert ..

theorem find?_put_securityGroups (s : Status) (name other : String) (entry : Entry) :
    (s.put .securityGroups name entry).find? .securityGroups other =
      if other = name then some entry else s.find? .securityGroups other := by
  rw [find?_securityGroups, find?_securityGroups]
  exact Table.find?_insert ..

theorem find?_put (s : Status) (shelf other : Shelf) (name key : String) (entry : Entry) :
    (s.put shelf name entry).find? other key =
      if other = shelf ∧ (shelf.keyed → key = name) then some entry else s.find? other key := by
  by_cases hshelf : other = shelf
  · subst hshelf
    cases other with
    | vpc => rfl
    | image => rfl
    | subnets role => simp [find?_put_subnets, Shelf.keyed]
    | securityGroups => simp [find?_put_securityGroups, Shelf.keyed]
  · rw [if_neg fun h => hshelf h.1]
    exact (writes_put s shelf name entry (.shelf other) (by simpa using hshelf)).find? key

/-- What is found after a write was written or was there before. -/
theorem find?_put_some {shelf other : Shelf} {name key : String} {entry found : Entry}
    (h : (s.put shelf name entry).find? other key = some found) :
    other = shelf ∧ found = entry ∨ s.find? other key = some found := by
  rw [find?_put] at h
  split at h
  · rename_i hplace
    exact .inl ⟨hplace.1, (Option.some.inj h).symm⟩
  · exact .inr h

theorem balancer?_putBalancer (s : Status) (entry : BalancerEntry) (id : String) :
    (s.putBalancer entry).balancer? id = if id = entry.id then some entry else s.balancer? id := by
  rw [balancer?_eq, balancer?_eq]
  exact Table.find?_insert ..

/-- No entry is ever taken off a shelf. -/
theorem isSome_find?_put {s : Status} {shelf : Shelf} {name other : String} {entry : Entry}
    (h : (s.find? shelf other).isSome) :
    ((s.put shelf name entry).find? shelf other).isSome := by
  rw [find?_put]
  split
  · rfl
  · exact h

@[simp] theorem resourceGroup_putResourceGroup (s : Status) (reference : GroupReference) :
    (s.putResourceGroup reference).resourceGroup = some reference := rfl

end Status

end VpcOperator.Observed
