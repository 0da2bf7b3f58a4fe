import Mathlib.Data.List.Nodup
import Mathlib.Data.List.Perm.Basic
import Mathlib.Logic.Relation
import VpcOperator.Proofs.RoundTrip
import VpcOperator.Proofs.Tables

/-! # Layouts

A layout says which members of a document count. Others may be added, and all
may come in any order, at any depth. Items of a list stay where they are, and
each has the layout of its place. Under a name that counts, a changed document
gives the same value, or one that is changed further inside by the layout it
has there. A reader that looks no further than its layout therefore reads the
same of both.
-/

namespace VpcOperator

namespace Json

/-- No object in the document, at whatever depth, has two members of one name. -/
inductive KeysDistinct : Json → Prop
  | null : KeysDistinct null
  | bool (value : Bool) : KeysDistinct (bool value)
  | integer (value : Int) : KeysDistinct (integer value)
  | numeral (number : Numeral) : KeysDistinct (numeral number)
  | string (value : String) : KeysDistinct (string value)
  | array {items : List Json} : (∀ item ∈ items, KeysDistinct item) → KeysDistinct (array items)
  | object {members : List (String × Json)} :
      (members.map (·.1)).Nodup → (∀ member ∈ members, KeysDistinct member.2) →
      KeysDistinct (object members)

theorem keysDistinct_array {items : List Json} :
    (array items).KeysDistinct ↔ ∀ item ∈ items, item.KeysDistinct :=
  ⟨fun | .array hitems => hitems, .array⟩

theorem keysDistinct_object {members : List (String × Json)} :
    (object members).KeysDistinct ↔
      (members.map (·.1)).Nodup ∧ ∀ member ∈ members, member.2.KeysDistinct :=
  ⟨fun | .object hnodup hvalues => ⟨hnodup, hvalues⟩, fun h => .object h.1 h.2⟩

end Json

open Schema

/-! ## Which members count -/

/-- What counts in the documents of a type. Other than a shape, by which texts are read, it also goes
by tags. -/
inductive Layout where
  /-- No member counts. -/
  | free
  /-- All members count, at every depth. -/
  | fixed
  | record (fields : List (String × Layout))
  /-- Of an object with a tag, the common members count and those of the variant the tag tells. -/
  | tagged (form : TagForm) (tag : String) (common : List (String × Layout))
      (variants : List (String × List (String × Layout)))
  | list (item : Layout)
  /-- Every member is an entry. -/
  | table (value : Layout)

namespace Layout

/-- The layout of the member with this name, if it counts in an object with these members. -/
def member? (layout : Layout) (members : Members) (name : String) : Option Layout :=
  match layout with
  | free | list _ => none
  | fixed => some fixed
  | record fields => fields.lookup name
  | tagged form tag common variants =>
    ((tag, free) :: common ++ (requiredBy (readTag form variants) members tag).getD []).lookup name
  | table value => some value

/-- The members that the items of a list stand for, in their order. -/
def columns (layout : Layout) (items : List Json) : List (String × Layout) :=
  match layout with
  | record fields => fields
  | tagged form tag _ variants => (tag, free) :: (items.head?.bind (readTag form variants)).getD []
  | _ => []

def itemAt (layout : Layout) (items : List Json) (position : Nat) : Layout :=
  match layout with
  | fixed => fixed
  | list item => item
  | _ => ((layout.columns items)[position]?.map (·.2)).getD free

/-- One change that leaves alone what counts. What is added has a new name and distinct keys. -/
inductive Change : Layout → Json → Json → Prop
  | permute {layout : Layout} {members members' : Members} :
      members.Perm members' → Change layout (.object members) (.object members')
  | add {layout : Layout} {members : Members} {name : String} {value : Json} :
      layout.member? members name = none → name ∉ members.map (·.1) → value.KeysDistinct →
      Change layout (.object members) (.object ((name, value) :: members))
  | inMember {layout : Layout} {before after : Members} {name : String} {value value' : Json} :
      Change ((layout.member? (before ++ (name, value) :: after) name).getD free) value value' →
      Change layout (.object (before ++ (name, value) :: after))
        (.object (before ++ (name, value') :: after))
  | inItem {layout : Layout} {before after : List Json} {value value' : Json} :
      Change (layout.itemAt (before ++ value :: after) before.length) value value' →
      Change layout (.array (before ++ value :: after)) (.array (before ++ value' :: after))

/-- Any number of changes one after the other. -/
def Rearranged (layout : Layout) : Json → Json → Prop :=
  Relation.ReflTransGen layout.Change

variable {layout inner : Layout} {document document' : Json} {members members' : Members}
  {name : String}

theorem Change.keysDistinct (h : Change layout document document') (hkeys : document.KeysDistinct) :
    document'.KeysDistinct := by
  induction h with
  | permute hperm =>
    obtain ⟨hnodup, hvalues⟩ := Json.keysDistinct_object.1 hkeys
    exact .object ((hperm.map _).nodup_iff.1 hnodup)
      fun member hmem => hvalues member (hperm.mem_iff.2 hmem)
  | add _ hnew hvalue =>
    obtain ⟨hnodup, hvalues⟩ := Json.keysDistinct_object.1 hkeys
    exact .object (List.nodup_cons.2 ⟨hnew, hnodup⟩) (List.forall_mem_cons.2 ⟨hvalue, hvalues⟩)
  | inMember _ ih =>
    obtain ⟨hnodup, hvalues⟩ := Json.keysDistinct_object.1 hkeys
    refine .object (by simpa using hnodup) ?_
    simp only [List.forall_mem_append, List.forall_mem_cons] at hvalues ⊢
    exact ⟨hvalues.1, ih hvalues.2.1, hvalues.2.2⟩
  | inItem _ ih =>
    have hitems := Json.keysDistinct_array.1 hkeys
    refine .array ?_
    simp only [List.forall_mem_append, List.forall_mem_cons] at hitems ⊢
    exact ⟨hitems.1, ih hitems.2.1, hitems.2.2⟩

/-- Where all members count nothing but their order changes, and that is a change in any layout. -/
theorem Change.of_fixed (h : Change fixed document document') (layout : Layout) :
    Change layout document document' := by
  generalize hfixed : fixed = whole at h
  induction h generalizing layout with
  | permute hperm => exact .permute hperm
  | add hnone => subst hfixed; cases hnone
  | inMember _ ih => subst hfixed; exact .inMember (ih _ rfl)
  | inItem _ ih => subst hfixed; exact .inItem (ih _ rfl)

/-- Only objects and lists change, and neither turns into the other. -/
theorem Change.cases (h : Change layout document document') :
    (∃ members members', document = .object members ∧ document' = .object members') ∨
      ∃ items items', document = .array items ∧ document' = .array items' := by
  cases h with
  | permute | add | inMember => exact .inl ⟨_, _, rfl, rfl⟩
  | inItem => exact .inr ⟨_, _, rfl, rfl⟩

/-! ## What a change leaves of each member -/

/-- Two lists of what is given under one name: the same, or one value each that differ by a
change. -/
def Alike (inner : Layout) (values values' : List Json) : Prop :=
  values' = values ∨ ∃ value value', values = [value] ∧ values' = [value'] ∧
    value.KeysDistinct ∧ Change inner value value'

/-- Under the name of each member that counts the same is given, or the same but for a change. -/
def Matches (layout : Layout) (members members' : Members) : Prop :=
  ∀ ⦃name inner⦄, layout.member? members name = some inner →
    Alike inner (given members name) (given members' name)

theorem given_eq_nil (h : name ∉ members.map (·.1)) : given members name = [] := by
  simp only [given, List.map_eq_nil_iff, List.filter_eq_nil_iff, decide_eq_true_eq]
  rintro member hmem rfl
  exact h (List.mem_map_of_mem hmem)

theorem given_cons (member : String × Json) (rest : Members) :
    given (member :: rest) name =
      if member.1 = name then member.2 :: given rest name else given rest name := by
  by_cases h : member.1 = name <;> simp [given, h]

theorem given_length_le_one (h : (members.map (·.1)).Nodup) : (given members name).length ≤ 1 := by
  induction members with
  | nil => simp
  | cons member rest ih =>
    have hnew : member.1 ∉ rest.map (·.1) := (List.nodup_cons.1 h).1
    rw [given_cons]
    split
    · next heq => simp [given_eq_nil (heq ▸ hnew)]
    · exact ih (List.nodup_cons.1 h).2

theorem given_perm (hkeys : (members.map (·.1)).Nodup) (h : members.Perm members') :
    given members' name = given members name := by
  have hgiven : (given members name).Perm (given members' name) := (h.filter _).map _
  have hlength : (given members name).length ≤ 1 := given_length_le_one hkeys
  match hlist : given members name with
  | [] => exact List.nil_perm.1 (hlist ▸ hgiven)
  | [value] => exact (List.singleton_perm.1 (hlist ▸ hgiven)).symm
  | _ :: _ :: _ => simp [hlist] at hlength

theorem given_unique {before after : Members} {value : Json}
    (h : ((before ++ (name, value) :: after).map (·.1)).Nodup) :
    given (before ++ (name, value) :: after) name = [value] := by
  have hmiddle : (((name, value) :: (before ++ after)).map (·.1)).Nodup :=
    (List.perm_middle.map _).nodup_iff.1 h
  have hothers : name ∉ (before ++ after).map (·.1) := (List.nodup_cons.1 hmiddle).1
  simp only [List.map_append, List.mem_append, not_or] at hothers
  simp [given_cons, given_eq_nil hothers.1, given_eq_nil hothers.2]

theorem Change.matches (hkeys : (Json.object members).KeysDistinct)
    (h : Change layout (.object members) (.object members')) : layout.Matches members members' := by
  obtain ⟨hnodup, hvalues⟩ := Json.keysDistinct_object.1 hkeys
  intro other inner hother
  -- Under a name there is one value at most, so no order among the values is left to compare.
  cases h with
  | permute hperm => exact .inl (given_perm hnodup hperm)
  | @add _ _ name value hnone =>
    have hne : name ≠ other := by
      rintro rfl
      cases hnone.symm.trans hother
    exact .inl (by rw [given_cons, if_neg hne])
  | @inMember _ before after name value value' hchange =>
    by_cases hname : name = other
    · subst hname
      rw [hother] at hchange
      have hvalue : value.KeysDistinct := hvalues (name, value) (by simp)
      exact .inr ⟨value, value', given_unique hnodup, given_unique (by simpa using hnodup), hvalue,
        hchange⟩
    · exact .inl (by simp only [given_append, given_cons, if_neg hname])

/-! ## Readers -/

variable {α : Type} {read : Json → Option α}

/-- What is read of a document that is changed is what was read before. -/
def Respects (layout : Layout) (read : Json → Option α) : Prop :=
  ∀ ⦃document document' : Json⦄, document.KeysDistinct → Change layout document document' →
    read document' = read document

/-- The members that are found in a document that is changed match those found before. -/
def Preserves (layout : Layout) (members? : Json → Option Members) : Prop :=
  ∀ ⦃document document' : Json⦄, document.KeysDistinct → Change layout document document' →
    Option.Rel layout.Matches (members? document) (members? document')

theorem Preserves.object (layout : Layout) : Preserves layout Schema.members? := by
  intro document document' hkeys hchange
  obtain ⟨members, members', rfl, rfl⟩ | ⟨items, items', rfl, rfl⟩ := hchange.cases
  · exact .some (hchange.matches hkeys)
  · exact .none

namespace Respects

/-- What is neither an object nor a list has no parts to change. -/
theorem of_none (hobject : ∀ members, read (.object members) = none)
    (hlist : ∀ items, read (.array items) = none) : Respects layout read := by
  intro document document' _ hchange
  obtain ⟨members, members', rfl, rfl⟩ | ⟨items, items', rfl, rfl⟩ := hchange.cases
  · rw [hobject, hobject]
  · rw [hlist, hlist]

theorem of_fixed (h : Respects layout read) : Respects fixed read :=
  fun _ _ hkeys hchange => h hkeys (hchange.of_fixed layout)

theorem of_members {members? : Json → Option Members} (hmembers : Preserves layout members?)
    {read : Members → Option α}
    (h : ∀ ⦃members members'⦄, layout.Matches members members' → read members' = read members) :
    Respects layout fun document => members? document >>= read := by
  intro document document' hkeys hchange
  have hrel := hmembers hkeys hchange
  change (members? document' >>= read) = members? document >>= read
  generalize members? document = found, members? document' = found' at hrel ⊢
  cases hrel with
  | none => rfl
  | some hmatches => exact h hmatches

theorem list (h : Respects inner read) : Respects (.list inner) (readList read) := by
  intro document document' hkeys hchange
  cases hchange with
  | permute | add | inMember => rfl
  | @inItem _ before after value value' hitem =>
    have hvalue : value.KeysDistinct := Json.keysDistinct_array.1 hkeys value (by simp)
    have heq : read value' = read value := h hvalue hitem
    simp [readList, heq]

theorem nullable [Schema α] (h : Respects layout (decode (α := α))) :
    Respects layout (decodeNullable (α := α)) := by
  intro document document' hkeys hchange
  have heq := h hkeys hchange
  obtain ⟨members, members', rfl, rfl⟩ | ⟨items, items', rfl, rfl⟩ := hchange.cases
  · simp [decodeNullable, heq]
  · simp [decodeNullable, heq]

/-- A tag is a word or a number. -/
theorem tag (form : TagForm) (choices : List (String × α)) :
    Respects layout (readTag form choices) :=
  of_none (fun _ => rfl) fun _ => rfl

end Respects

namespace Matches

variable (h : layout.Matches members members') (hname : layout.member? members name = some inner)
include h hname

theorem requiredBy (hread : Respects inner read) :
    requiredBy read members' name = requiredBy read members name := by
  obtain heq | ⟨value, value', heq, heq', hvalue, hchange⟩ := h hname
  · simp only [Schema.requiredBy, heq]
  · simp [Schema.requiredBy, heq, heq', hread hvalue hchange]

theorem defaultedBy (hread : Respects inner read) (default : α) :
    defaultedBy read members' name default = defaultedBy read members name default := by
  obtain heq | ⟨value, value', heq, heq', hvalue, hchange⟩ := h hname
  · simp only [Schema.defaultedBy, heq]
  · simp [Schema.defaultedBy, heq, heq', hread hvalue hchange]

theorem optionalBy [Schema α] (hread : Respects inner (decode (α := α))) :
    optional (α := α) members' name = optional members name := by
  obtain heq | ⟨value, value', heq, heq', hvalue, hchange⟩ := h hname
  · simp only [Schema.optional, heq]
  · simp [Schema.optional, heq, heq', hread.nullable hvalue hchange]

theorem lastOptionalBy [Schema α] (hread : Respects inner (decode (α := α))) :
    lastOptional (α := α) members' name = lastOptional members name := by
  obtain heq | ⟨value, value', heq, heq', hvalue, hchange⟩ := h hname
  · simp only [Schema.lastOptional, heq]
  · simp [Schema.lastOptional, heq, heq', hread.nullable hvalue hchange]

end Matches

end Layout

/-! ## Tables -/

theorem mapM_perm {α β : Type} {f : α → Option β} {items items' : List α} (h : items.Perm items') :
    ∀ {results : List β}, items.mapM f = some results →
      ∃ results', items'.mapM f = some results' ∧ results.Perm results' := by
  induction h with
  | nil => exact fun hresults => ⟨_, hresults, .refl _⟩
  | cons item _ ih =>
    intro results hresults
    simp only [List.mapM_cons, Option.bind_eq_bind, Option.bind_eq_some_iff] at hresults ⊢
    obtain ⟨result, hresult, rest, hrest, hall⟩ := hresults
    obtain ⟨rest', hrest', hperm⟩ := ih hrest
    cases hall
    exact ⟨result :: rest', ⟨result, hresult, rest', hrest', rfl⟩, hperm.cons result⟩
  | swap first second rest =>
    intro results hresults
    simp only [List.mapM_cons, Option.bind_eq_bind, Option.bind_eq_some_iff] at hresults ⊢
    obtain ⟨b, hb, _, ⟨a, ha, tail, htail, hinner⟩, hall⟩ := hresults
    cases hinner
    cases hall
    exact ⟨a :: b :: tail, ⟨a, ha, b :: tail, ⟨b, hb, tail, htail, rfl⟩, rfl⟩, .swap a b tail⟩
  | trans _ _ ih ih' =>
    intro results hresults
    obtain ⟨middle, hmiddle, hperm⟩ := ih hresults
    obtain ⟨results', hresults', hperm'⟩ := ih' hmiddle
    exact ⟨results', hresults', hperm.trans hperm'⟩

namespace Layout.Respects

variable {α : Type} {inner : Layout}

theorem keys_of_decodeEntry [Schema α] {members : Members} {entries : List (String × α)}
    (h : members.mapM decodeEntry = some entries) : entries.map (·.1) = members.map (·.1) := by
  induction members generalizing entries with
  | nil => cases h; rfl
  | cons member rest ih =>
    simp only [List.mapM_cons, Option.bind_eq_bind, Option.bind_eq_some_iff] at h
    obtain ⟨entry, hentry, entries', hrest, hall⟩ := h
    obtain ⟨value, -, rfl⟩ := Option.map_eq_some_iff.1 hentry
    cases hall
    rw [List.map_cons, List.map_cons, ih hrest]

theorem decode_table_perm [Schema α] {members members' : Members} {table : Table α}
    (hkeys : (members.map (·.1)).Nodup) (h : members.Perm members')
    (hread : decode (.object members) = some table) :
    decode (.object members') = some table := by
  obtain ⟨entries, hentries, rfl⟩ := Option.map_eq_some_iff.1 hread
  obtain ⟨entries', hentries', hperm⟩ := mapM_perm h hentries
  have hdistinct : (entries.map (·.1)).Nodup := keys_of_decodeEntry hentries ▸ hkeys
  exact Option.map_eq_some_iff.2 ⟨entries', hentries', Table.ofList_perm hdistinct hperm⟩

theorem table [Schema α] (h : Respects inner (decode (α := α))) :
    Respects (.table inner) (decode (α := Table α)) := by
  intro document document' hkeys hchange
  cases hchange with
  | permute hperm =>
    have hnodup := (Json.keysDistinct_object.1 hkeys).1
    have hnodup' := (hperm.map _).nodup_iff.1 hnodup
    exact Option.ext fun table =>
      ⟨decode_table_perm hnodup' hperm.symm, decode_table_perm hnodup hperm⟩
  | add hnone => cases hnone
  | @inMember _ before after name value value' hvalue =>
    have hdistinct := (Json.keysDistinct_object.1 hkeys).2 (name, value) (by simp)
    have heq : decodeEntry (α := α) (name, value') = decodeEntry (name, value) := by
      simp only [decodeEntry, h hdistinct hvalue]
    simp only [decode, List.mapM_append, List.mapM_cons, heq]
  | inItem => rfl

theorem readChoice_eq_none {choices : List (String × α)} {members : Members}
    (h : ∀ name, members ≠ [(name, .null)]) : readChoice choices (.object members) = none := by
  unfold readChoice
  split
  · next name hmembers => exact absurd (Json.object.inj hmembers) (h name)
  · rfl

/-- A choice is a word, or an object of one member that is null: there is nothing to permute. -/
theorem choice (choices : List (String × α)) : Respects fixed (readChoice choices) := by
  intro document document' _ hchange
  cases hchange with
  | @permute _ members members' hperm =>
    by_cases hnull : ∃ name, members = [(name, .null)]
    · obtain ⟨name, rfl⟩ := hnull
      rw [List.singleton_perm.1 hperm]
    · have hnull' (name : String) : members' ≠ [(name, .null)] := by
        rintro rfl
        exact hnull ⟨name, List.perm_singleton.1 hperm⟩
      rw [readChoice_eq_none hnull', readChoice_eq_none fun name heq => hnull ⟨name, heq⟩]
  | add hnone => cases hnone
  | @inMember _ before after name value value' hvalue =>
    have hother {value : Json} (hvalue : value ≠ .null) (only : String) :
        before ++ (name, value) :: after ≠ [(only, .null)] := by
      intro heq
      have hmem : (name, value) ∈ [(only, Json.null)] := heq ▸ by simp
      exact hvalue (Prod.mk.inj (List.mem_singleton.1 hmem)).2
    have hnull : value ≠ .null := by rintro rfl; cases hvalue
    have hnull' : value' ≠ .null := by rintro rfl; cases hvalue
    rw [readChoice_eq_none (hother hnull), readChoice_eq_none (hother hnull')]
  | inItem => rfl

end Layout.Respects

end VpcOperator
