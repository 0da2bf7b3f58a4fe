/-!
# Tables keyed by text

A table lists its entries in ascending order of their keys, each key once, so
two tables with the same content are equal. Texts compare by code points,
which is the order of their UTF-8 bytes.
-/

namespace VpcOperator

structure Table (α : Type) where
  entries : List (String × α)
  ascending : entries.Pairwise fun a b => a.1 < b.1
  deriving DecidableEq

namespace Table

variable {α : Type}

def empty : Table α :=
  ⟨[], .nil⟩

instance : Inhabited (Table α) :=
  ⟨empty⟩

def find? (table : Table α) (key : String) : Option α :=
  table.entries.lookup key

def values (table : Table α) : List α :=
  table.entries.map (·.2)

def isEmpty (table : Table α) : Bool :=
  table.entries.isEmpty

def insertEntry (key : String) (value : α) : List (String × α) → List (String × α)
  | [] => [(key, value)]
  | head :: rest =>
    if key < head.1 then (key, value) :: head :: rest
    else if key = head.1 then (key, value) :: rest
    else head :: insertEntry key value rest

theorem mem_insertEntry {key : String} {value : α} {entries : List (String × α)}
    {entry : String × α} (h : entry ∈ insertEntry key value entries) :
    entry = (key, value) ∨ entry ∈ entries := by
  induction entries with
  | nil => simpa [insertEntry] using h
  | cons head rest ih =>
    unfold insertEntry at h
    split at h
    · simpa using h
    · split at h
      · rcases List.mem_cons.1 h with h | h
        · exact .inl h
        · exact .inr (List.mem_cons_of_mem _ h)
      · rcases List.mem_cons.1 h with h | h
        · exact .inr (h ▸ List.mem_cons_self)
        · exact (ih h).imp_right (List.mem_cons_of_mem _)

theorem insertEntry_ascending {key : String} {value : α} {entries : List (String × α)}
    (h : entries.Pairwise fun a b => a.1 < b.1) :
    (insertEntry key value entries).Pairwise fun a b => a.1 < b.1 := by
  induction h with
  | nil => simp [insertEntry]
  | @cons head rest hhead hrest ih =>
    unfold insertEntry
    split
    · rename_i hlt
      refine .cons (fun entry hmem => ?_) (.cons hhead hrest)
      rcases List.mem_cons.1 hmem with rfl | hmem
      · exact hlt
      · exact String.lt_trans hlt (hhead entry hmem)
    · split
      · rename_i heq
        subst heq
        exact .cons hhead hrest
      · rename_i hnlt hne
        refine .cons (fun entry hmem => ?_) ih
        rcases mem_insertEntry hmem with rfl | hmem
        · exact Std.lt_of_le_of_ne (Std.not_lt.1 hnlt) (Ne.symm hne)
        · exact hhead entry hmem

theorem lookup_cons (key other : String) (value : α) (entries : List (String × α)) :
    ((key, value) :: entries).lookup other =
      if other = key then some value else entries.lookup other := by
  by_cases h : other = key
  · rw [h, List.lookup_cons_self, if_pos rfl]
  · rw [List.lookup_cons, beq_eq_false_iff_ne.2 h, if_neg h]

theorem lookup_insertEntry (key other : String) (value : α) (entries : List (String × α)) :
    (insertEntry key value entries).lookup other =
      if other = key then some value else entries.lookup other := by
  induction entries with
  | nil => exact lookup_cons key other value []
  | cons head rest ih =>
    unfold insertEntry
    split
    · exact lookup_cons key other value _
    · split
      · grind [lookup_cons]
      · grind [lookup_cons]

/-- The entry takes the place of an earlier one with the same key. -/
def insert (table : Table α) (key : String) (value : α) : Table α :=
  ⟨insertEntry key value table.entries, insertEntry_ascending table.ascending⟩

@[simp] theorem find?_empty (key : String) : (empty : Table α).find? key = none := rfl

theorem find?_insert (table : Table α) (key other : String) (value : α) :
    (table.insert key value).find? other = if other = key then some value else table.find? other :=
  lookup_insertEntry key other value table.entries

/-- What holds of all entries and of a new one holds of all after it is put in. -/
theorem forall_find?_insert {P : String → α → Prop} {table : Table α} {key : String} {value : α}
    (htable : ∀ other found, table.find? other = some found → P other found) (hnew : P key value) :
    ∀ other found, (table.insert key value).find? other = some found → P other found := by
  intro other found hfind
  rw [find?_insert] at hfind
  split at hfind
  · rename_i hsame
    cases hfind
    exact hsame ▸ hnew
  · exact htable other found hfind

theorem find?_of_mem {table : Table α} {key : String} {value : α}
    (h : (key, value) ∈ table.entries) : table.find? key = some value := by
  obtain ⟨first, rest, hentries⟩ := List.append_of_mem h
  have hascending := table.ascending
  rw [hentries] at hascending
  refine List.lookup_eq_some_iff.2 ⟨first, rest, hentries, fun pair hpair => ?_⟩
  have hlt : pair.1 < key := (List.pairwise_append.1 hascending).2.2 pair hpair _ List.mem_cons_self
  have hne : key ≠ pair.1 := by
    rintro rfl
    exact String.lt_irrefl _ hlt
  exact bne_iff_ne.2 hne

theorem mem_of_find? {table : Table α} {key : String} {value : α} (h : table.find? key = some value) :
    (key, value) ∈ table.entries := by
  obtain ⟨first, rest, hentries, -⟩ := List.lookup_eq_some_iff.1 h
  rw [hentries]
  exact List.mem_append_right _ List.mem_cons_self

def erase (table : Table α) (key : String) : Table α :=
  ⟨table.entries.filter (·.1 ≠ key), table.ascending.filter _⟩

def ofList (entries : List (String × α)) : Table α :=
  entries.foldl (fun table entry => table.insert entry.1 entry.2) empty

end Table

end VpcOperator
