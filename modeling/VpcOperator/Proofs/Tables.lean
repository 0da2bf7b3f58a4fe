import Mathlib.Data.List.Nodup
import Mathlib.Data.List.Perm.Basic
import VpcOperator.Proofs.ByteOrder

/-! # Tables as maps

A table is no more than what is found in it: two in which the same is found
under every key are equal. It goes through its keys once each, in the order of
their bytes.
-/

namespace VpcOperator.Table

variable {α : Type} {table other : Table α} {key : String} {value : α}

theorem mem_entries_iff : (key, value) ∈ table.entries ↔ table.find? key = some value :=
  ⟨find?_of_mem, mem_of_find?⟩

theorem ext_find? (h : ∀ key, table.find? key = other.find? key) : table = other := by
  have hnodup (table : Table α) : table.entries.Nodup :=
    table.ascending.imp fun {a b} (hlt : a.1 < b.1) (heq : a = b) =>
      String.lt_irrefl b.1 (heq ▸ hlt)
  have hmem (entry : String × α) : entry ∈ table.entries ↔ entry ∈ other.entries := by
    obtain ⟨key, value⟩ := entry
    rw [mem_entries_iff, mem_entries_iff, h]
  have hperm : table.entries.Perm other.entries :=
    (List.perm_ext_iff_of_nodup (hnodup table) (hnodup other)).2 hmem
  have hentries : table.entries = other.entries :=
    hperm.eq_of_pairwise (fun _ _ _ _ hlt hgt => absurd hgt (String.lt_asymm hlt)) table.ascending
      other.ascending
  cases table
  cases other
  simpa using hentries

theorem insert_comm (table : Table α) {first second : String} (h : first ≠ second)
    (value value' : α) :
    (table.insert first value).insert second value' =
      (table.insert second value').insert first value := by
  refine ext_find? fun key => ?_
  simp only [find?_insert]
  split <;> split <;> simp_all

/-- With distinct keys no entry takes the place of another, so their order does not matter. -/
theorem ofList_perm {entries entries' : List (String × α)} (hkeys : (entries.map (·.1)).Nodup)
    (h : entries.Perm entries') : ofList entries' = ofList entries := by
  refine (h.foldl_eq' (fun entry hmem other hother table => ?_) empty).symm
  by_cases heq : entry.1 = other.1
  · rw [List.inj_on_of_nodup_map hkeys hmem hother heq]
  · exact insert_comm table heq entry.2 other.2

/-- What is there already is not there twice. -/
theorem insert_of_find? (h : table.find? key = some value) : table.insert key value = table := by
  refine ext_find? fun other => ?_
  rw [find?_insert]
  split
  · rename_i hsame
    rw [hsame, h]
  · rfl

/-! ## Keys -/

def keys (table : Table α) : List String :=
  table.entries.map (·.1)

theorem entries_ascending (table : Table α) :
    table.entries.Pairwise fun a b => Text.bytes a.1 < Text.bytes b.1 :=
  table.ascending.imp Text.bytes_lt_bytes.2

theorem keys_ascending (table : Table α) :
    table.keys.Pairwise fun a b => Text.bytes a < Text.bytes b :=
  List.pairwise_map.2 table.entries_ascending

theorem mem_keys : key ∈ table.keys ↔ (table.find? key).isSome := by
  simp only [keys, List.mem_map, Prod.exists, exists_and_right, exists_eq_right, mem_entries_iff,
    Option.isSome_iff_exists]

theorem map_some_values (table : Table α) : table.values.map some = table.keys.map table.find? := by
  rw [values, keys, List.map_map, List.map_map]
  exact List.map_congr_left fun _ hmem => (find?_of_mem hmem).symm

end VpcOperator.Table
