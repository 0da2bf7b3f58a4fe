import VpcOperator.Proofs.Frame
import VpcOperator.Proofs.Tables
import VpcOperator.Simulation.Session

/-! # A status as independent cells

A status is one nested document, but commands read and write it as cells that
know nothing of each other. A cell holds what was put there last, whatever has
been put elsewhere since; where nothing was put, it holds what it did at the
start. Nothing else depends on what is put, but for the network part coming into
being with its first entry.
-/

namespace VpcOperator

namespace Observed

open Text (bytes)

/-- What is read and written on its own. A shelf without keys is one cell, under any name. -/
inductive Cell where
  | entry (shelf : Shelf) (name : String)
  | balancer (id : String)
  | resourceGroup
  | networkGroup

namespace Cell

def Value : Cell → Type
  | entry _ _ => Entry
  | balancer _ => BalancerEntry
  | resourceGroup | networkGroup => GroupReference

/-- The part of a status that the cell is in. -/
def part : Cell → Part
  | entry shelf _ => .shelf shelf
  | balancer _ => .balancers
  | resourceGroup => .resourceGroup
  | networkGroup => .networkGroup

end Cell

namespace Status

variable {s s' : Status}

/-- What is found in the cell. -/
def read (s : Status) : (cell : Cell) → Option cell.Value
  | .entry shelf name => s.find? shelf name
  | .balancer id => s.balancer? id
  | .resourceGroup => s.resourceGroup
  | .networkGroup => s.networkGroup?

theorem Writes.read {parts : List Part} {cell : Cell} (h : Writes parts s s')
    (hout : cell.part ∉ parts) : s'.read cell = s.read cell := by
  cases cell with
  | entry shelf name => exact (h (.shelf shelf) hout).find? name
  | balancer id => exact (h .balancers hout).balancer? id
  | resourceGroup => exact h .resourceGroup hout
  | networkGroup => exact (h .networkGroup hout).networkGroup?

theorem net_ext (h : ∀ cell, s.read cell = s'.read cell) : s.net = s'.net := by
  have hsubnets (role : Desired.Role) : s.net.subnets role = s'.net.subnets role := by
    refine Table.ext_find? fun name => ?_
    rw [← find?_subnets, ← find?_subnets]
    exact h (.entry (.subnets role) name)
  have hgroups : s.net.securityGroups = s'.net.securityGroups := by
    refine Table.ext_find? fun name => ?_
    rw [← find?_securityGroups, ← find?_securityGroups]
    exact h (.entry .securityGroups name)
  have hbalancers : s.net.loadBalancers = s'.net.loadBalancers := by
    refine Table.ext_find? fun id => ?_
    rw [← balancer?_eq, ← balancer?_eq]
    exact h (.balancer id)
  have hvpc : s.net.vpc = s'.net.vpc := by
    rw [← find?_vpc s "", ← find?_vpc s' ""]
    exact h (.entry .vpc "")
  have hgroup : s.net.resourceGroup = s'.net.resourceGroup := by
    rw [← networkGroup?_eq, ← networkGroup?_eq]
    exact h .networkGroup
  have hcontrolPlane : s.net.controlPlaneSubnets = s'.net.controlPlaneSubnets :=
    hsubnets .controlPlane
  have hworker : s.net.workerSubnets = s'.net.workerSubnets := hsubnets .worker
  cases hs : s.net
  cases hs' : s'.net
  simp_all only

/-- The cells hold all there is in a status, but for what a pass concludes on it and whether there
is a network part. -/
theorem ext_read (hread : ∀ cell, s.read cell = s'.read cell) (hready : s.ready = s'.ready)
    (hconditions : s.conditions = s'.conditions)
    (hsome : s.network.isSome = s'.network.isSome) : s = s' := by
  have hnet : s.net = s'.net := net_ext hread
  have hnetwork : s.network = s'.network := by
    cases hs : s.network <;> cases hs' : s'.network <;> simp_all [net]
  have himage : s.image = s'.image := hread (.entry .image "")
  have hgroup : s.resourceGroup = s'.resourceGroup := hread .resourceGroup
  cases s
  cases s'
  simp_all only

/-! ## Lists -/

/-- The lists go through the keys under which something is found, each once, in the order of their
bytes. -/
structure Lists (s : Status) : Prop where
  entries : ∀ shelf key entry,
    (key, entry) ∈ s.entries shelf ↔ shelf.keyed ∧ s.find? shelf key = some entry
  ascending : ∀ shelf, (s.entries shelf).Pairwise fun a b => bytes a.1 < bytes b.1
  balancers : ∃ ids : List String, ids.Pairwise (fun a b => bytes a < bytes b) ∧
    (∀ id, id ∈ ids ↔ (s.balancer? id).isSome) ∧ s.balancers.map some = ids.map s.balancer?

theorem lists (s : Status) : s.Lists where
  entries _ _ _ := mem_entries_iff
  ascending shelf := by
    cases shelf with
    | vpc => exact .nil
    | image => exact .nil
    | subnets role =>
      rw [entries_subnets]
      exact (s.net.subnets role).entries_ascending
    | securityGroups =>
      rw [entries_securityGroups]
      exact s.net.securityGroups.entries_ascending
  balancers := by
    refine ⟨s.net.loadBalancers.keys, s.net.loadBalancers.keys_ascending, fun id => ?_, ?_⟩
    · rw [balancer?_eq]
      exact Table.mem_keys
    · rw [balancers_eq, Table.map_some_values]
      exact List.map_congr_left fun id _ => (balancer?_eq s id).symm

end Status

end Observed

namespace Simulation.StatusCommand

open Observed

variable {command first second : StatusCommand} {commands rest : List StatusCommand}
  {s s' s₁ s₂ : Status}

/-! ## One command -/

/-- What the command puts into the cell. -/
def written? : StatusCommand → (cell : Cell) → Option cell.Value
  | put shelf name entry, .entry other key =>
    if other = shelf ∧ (shelf.keyed → key = name) then some entry else none
  | putBalancer entry, .balancer id => if id = entry.id then some entry else none
  | putResourceGroup reference, .resourceGroup => some reference
  | putNetworkGroup reference, .networkGroup => some reference
  | _, _ => none

/-- Whether the command puts something into the network part. -/
def entersNetwork : StatusCommand → Bool
  | put shelf _ _ => shelf ≠ .image
  | putBalancer _ | putNetworkGroup _ => true
  | _ => false

theorem read_run (command : StatusCommand) (s : Status) (cell : Cell) :
    (command.run s).2.read cell = (command.written? cell).or (s.read cell) := by
  cases command with
  | put shelf name entry =>
    cases cell with
    | entry other key =>
      simp only [run, Status.read, written?, Status.find?_put]
      split <;> rfl
    | _ => exact (Status.writes_put s shelf name entry).read (by simp [Cell.part])
  | putBalancer entry =>
    cases cell with
    | balancer id =>
      simp only [run, Status.read, written?, Status.balancer?_putBalancer]
      split <;> rfl
    | _ => exact (Status.writes_putBalancer s entry).read (by simp [Cell.part])
  | putNetworkGroup reference =>
    cases cell with
    | networkGroup => rfl
    | _ => exact (Status.writes_putNetworkGroup s reference).read (by simp [Cell.part])
  | _ => cases cell <;> rfl

theorem ready_run (command : StatusCommand) (s : Status) : (command.run s).2.ready = s.ready := by
  cases command with
  | put shelf => rcases shelf with _ | _ | (_ | _) | _ <;> rfl
  | _ => rfl

theorem conditions_run (command : StatusCommand) (s : Status) :
    (command.run s).2.conditions = s.conditions := by
  cases command with
  | put shelf => rcases shelf with _ | _ | (_ | _) | _ <;> rfl
  | _ => rfl

theorem isSome_network_run (command : StatusCommand) (s : Status) :
    (command.run s).2.network.isSome = (command.entersNetwork || s.network.isSome) := by
  cases command with
  | put shelf => rcases shelf with _ | _ | (_ | _) | _ <;> rfl
  | _ => rfl

/-- Commands that put nothing into the same cell can change places. -/
theorem run_comm (h : ∀ cell, first.written? cell = none ∨ second.written? cell = none)
    (s : Status) : (second.run (first.run s).2).2 = (first.run (second.run s).2).2 := by
  refine Status.ext_read (fun cell => ?_) ?_ ?_ ?_
  · simp only [read_run]
    rcases h cell with hnone | hnone <;> simp only [hnone, Option.none_or]
  · simp only [ready_run]
  · simp only [conditions_run]
  · simp only [isSome_network_run, Bool.or_left_comm]

/-! ## Commands one after the other -/

/-- The status that the commands lead to. -/
def runAll (commands : List StatusCommand) (s : Status) : Status :=
  commands.foldl (fun s command => (command.run s).2) s

/-- What was put into the cell last. -/
def latest? (commands : List StatusCommand) (cell : Cell) : Option cell.Value :=
  commands.reverse.findSome? (·.written? cell)

theorem latest?_cons (command : StatusCommand) (rest : List StatusCommand) (cell : Cell) :
    latest? (command :: rest) cell = (latest? rest cell).or (command.written? cell) := by
  simp [latest?, List.findSome?_append]

/-- What the commands make of a status. -/
structure Leaves (commands : List StatusCommand) (s s' : Status) : Prop where
  /-- Where nothing was put, what was there at the start is still there. -/
  read : ∀ cell, s'.read cell = (latest? commands cell).or (s.read cell)
  ready : s'.ready = s.ready
  conditions : s'.conditions = s.conditions
  /-- An image or the cluster's group makes no network part. -/
  network : s'.network.isSome ↔ s.network.isSome ∨ ∃ command ∈ commands, command.entersNetwork

namespace Leaves

theorem nil (s : Status) : Leaves [] s s where
  read _ := rfl
  ready := rfl
  conditions := rfl
  network := by simp

theorem cons (h : Leaves rest (command.run s).2 s') : Leaves (command :: rest) s s' where
  read cell := by rw [h.read, read_run, latest?_cons, Option.or_assoc]
  ready := h.ready.trans (ready_run command s)
  conditions := h.conditions.trans (conditions_run command s)
  network := by
    rw [h.network, isSome_network_run, Bool.or_eq_true, List.exists_mem_cons_iff]
    exact or_assoc.trans or_left_comm

theorem unique (h₁ : Leaves commands s s₁) (h₂ : Leaves commands s s₂) : s₁ = s₂ := by
  refine Status.ext_read (fun cell => ?_) ?_ ?_ ?_
  · rw [h₁.read, h₂.read]
  · rw [h₁.ready, h₂.ready]
  · rw [h₁.conditions, h₂.conditions]
  · rw [Bool.eq_iff_iff, h₁.network, h₂.network]

end Leaves

theorem leaves_runAll (commands : List StatusCommand) (s : Status) :
    Leaves commands s (runAll commands s) := by
  induction commands generalizing s with
  | nil => exact .nil s
  | cons command rest ih => exact (ih (command.run s).2).cons

/-- Whatever the status at the start and whatever the commands, each cell ends up with the last that
was put into it. This settles the whole status, and so what its lists go through. -/
theorem cells_hold_latest (commands : List StatusCommand) (s s' : Status) :
    (s' = runAll commands s ↔ Leaves commands s s') ∧ (runAll commands s).Lists := by
  have hleaves : Leaves commands s (runAll commands s) := leaves_runAll commands s
  exact ⟨⟨fun h => h ▸ hleaves, fun h => h.unique hleaves⟩, (runAll commands s).lists⟩

end Simulation.StatusCommand

end VpcOperator
