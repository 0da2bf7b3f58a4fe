import VpcOperator.Proofs.Layout

/-! # Lists of values

A record may be given as the list of its values, and so may a variant behind
its tag. An item then counts as the member in whose place it stands, and one
that changes changes that member only.
-/

namespace VpcOperator

open Schema

namespace Layout

theorem map_fst_zip_sublist (names : List String) (items : List Json) :
    ((names.zip items).map (·.1)).Sublist names := by
  induction names generalizing items with
  | nil => simp
  | cons name rest ih =>
    cases items with
    | nil => simp
    | cons item items => exact (ih items).cons_cons name

theorem requiredBy_first {α : Type} {read : Json → Option α} {name : String} {names : List String}
    {first : Json} (h : name ∉ names) (items : List Json) :
    requiredBy read ((name, first) :: names.zip items) name = read first := by
  have hnone : given (names.zip items) name = [] :=
    given_eq_nil fun hmem => h ((map_fst_zip_sublist names items).subset hmem)
  simp [Schema.requiredBy, given_cons, hnone]

variable {columns : List (String × Layout)} {before after : List Json} {value value' : Json}

/-- To change an item is to change the member that it stands for. -/
theorem matches_zip (hnodup : (columns.map (·.1)).Nodup)
    (hlength : (before ++ value :: after).length ≤ columns.length)
    (hkeys : (Json.array (before ++ value :: after)).KeysDistinct)
    (hchange : Change ((columns[before.length]?.map (·.2)).getD free) value value') :
    (record columns).Matches ((columns.map (·.1)).zip (before ++ value :: after))
      ((columns.map (·.1)).zip (before ++ value' :: after)) := by
  have hlt : before.length < columns.length := by
    rw [List.length_append, List.length_cons] at hlength
    omega
  obtain ⟨front, ⟨name, inner⟩, back, rfl, hfront⟩ :
      ∃ front column back, columns = front ++ column :: back ∧ front.length = before.length :=
    ⟨columns.take before.length, columns[before.length], columns.drop (before.length + 1),
      by simp, by simp; omega⟩
  have hnew : ∀ column ∈ front, name ≠ column.1 := by
    rintro column hmem rfl
    rw [List.map_append, List.map_cons] at hnodup
    exact (List.nodup_append.1 hnodup).2.2 column.1 (List.mem_map_of_mem hmem) column.1
      List.mem_cons_self rfl
  have hzip (item : Json) :
      ((front ++ (name, inner) :: back).map (·.1)).zip (before ++ item :: after) =
        (front.map (·.1)).zip before ++ (name, item) :: (back.map (·.1)).zip after := by
    simp [List.zip_append, hfront]
  have hobject : (Json.object (((front ++ (name, inner) :: back).map (·.1)).zip
      (before ++ value :: after))).KeysDistinct :=
    .object (hnodup.sublist (map_fst_zip_sublist _ _)) fun member hmem =>
      Json.keysDistinct_array.1 hkeys member.2 (List.of_mem_zip hmem).2
  have hinner : (front ++ (name, inner) :: back).lookup name = some inner :=
    List.lookup_eq_some_iff.2 ⟨front, back, rfl, fun column hmem => by simpa using hnew column hmem⟩
  refine Change.matches hobject ?_
  rw [hzip, hzip]
  refine .inMember ?_
  simpa [member?, hinner, ← hfront] using hchange

/-! ## Records -/

theorem Preserves.ofRecord {α : Type} (record : Record α) {fields : List (String × Layout)}
    (hnames : fields.map (·.1) = record.fields.map (·.1)) (hnodup : (fields.map (·.1)).Nodup) :
    Preserves (.record fields) record.members? := by
  intro document document' hkeys hchange
  obtain ⟨members, members', rfl, rfl⟩ | ⟨items, items', rfl, rfl⟩ := hchange.cases
  · exact .some (hchange.matches hkeys)
  · cases hchange with | @inItem _ before after value value' hitem =>
    have hcount : record.fields.length = fields.length := by
      simpa using (congrArg List.length hnames).symm
    simp only [Record.members?, List.length_append, List.length_cons, hcount, ← hnames]
    split
    · next hlength => exact .some (matches_zip hnodup (by simpa using hlength.2) hkeys hitem)
    · exact .none

theorem Respects.ofRecord {α : Type} (record : Record α) {fields : List (String × Layout)}
    (hnames : fields.map (·.1) = record.fields.map (·.1)) (hnodup : (fields.map (·.1)).Nodup)
    (h : ∀ members members', (Layout.record fields).Matches members members' →
      record.read members' = record.read members) :
    Respects (.record fields) record.decode :=
  .of_members (.ofRecord record hnames hnodup) h

/-! ## Unions -/

section Union

variable {κ α β : Type} {union : Union κ α} {form : TagForm} {common : List (String × Layout)}
  {fields : κ → List (String × Layout)} {members members' : Members} {variant : κ}

theorem lookup_map_snd (choices : List (String × α)) (f : α → β) (name : String) :
    (choices.map fun choice => (choice.1, f choice.2)).lookup name =
      (choices.lookup name).map f := by
  induction choices with
  | nil => rfl
  | cons choice rest ih =>
    rw [List.map_cons, Table.lookup_cons, Table.lookup_cons, ih]
    split <;> rfl

theorem readTag_map (form : TagForm) (choices : List (String × α)) (f : α → β) (document : Json) :
    readTag form (choices.map fun choice => (choice.1, f choice.2)) document =
      (readTag form choices document).map f := by
  cases document with
  | string name => exact lookup_map_snd choices f name
  | integer position =>
    cases form with
    | name => rfl
    | nameOrPosition =>
      simp only [readTag]
      split
      · rfl
      · simp [Function.comp_def]
  | _ => rfl

/-- What counts in a union, by the variant its tag tells. -/
def ofUnion (union : Union κ α) (form : TagForm) (common : List (String × Layout))
    (fields : κ → List (String × Layout)) : Layout :=
  .tagged form union.tag common (union.variants.map fun variant => (variant.1, fields variant.2))

theorem member?_ofUnion
    (h : requiredBy (readTag form union.variants) members union.tag = some variant)
    (name : String) :
    (ofUnion union form common fields).member? members name =
      (record ((union.tag, free) :: common ++ fields variant)).member? members name := by
  have hfields : requiredBy
      (readTag form (union.variants.map fun variant => (variant.1, fields variant.2)))
      members union.tag = some (fields variant) := by
    unfold requiredBy at h ⊢
    split at h
    · next value hgiven => simp [readTag_map, h]
    · cases h
  simp [ofUnion, member?, hfields]

/-- The variant stays, and with it what counts. -/
theorem Matches.ofMembers (h : (ofUnion union form common fields).Matches members members')
    (hread : ∀ variant,
      (record ((union.tag, free) :: common ++ fields variant)).Matches members members' →
        union.read variant members' = union.read variant members) :
    union.ofMembers form members' = union.ofMembers form members := by
  have htag : (ofUnion union form common fields).member? members union.tag = some free := by
    simp [ofUnion, member?]
  rw [Union.ofMembers, Union.ofMembers, h.requiredBy htag (.tag form union.variants)]
  cases hvariant : Schema.requiredBy (readTag form union.variants) members union.tag with
  | none => rfl
  | some variant =>
    exact hread variant fun name inner hname => h ((member?_ofUnion hvariant name).trans hname)

theorem itemAt_ofUnion {first : Json} (h : readTag form union.variants first = some variant)
    (rest : List Json) (position : Nat) :
    (ofUnion union form common fields).itemAt (first :: rest) position =
      (((union.tag, free) :: fields variant)[position]?.map (·.2)).getD free := by
  simp [ofUnion, itemAt, columns, readTag_map, h]

theorem Matches.of_variant
    (hvariant : Schema.requiredBy (readTag form union.variants) members union.tag = some variant)
    (h : (record ((union.tag, free) :: common ++ fields variant)).Matches members members') :
    (ofUnion union form common fields).Matches members members' :=
  fun name _ hname => h ((member?_ofUnion hvariant name).symm.trans hname)

/-- Neither value is a tag: a tag has no parts to change. -/
theorem members?_of_changed_tag (union : Union κ α) (form : TagForm) {layout : Layout}
    (h : Change layout value value') :
    union.members? form (.array (value :: after)) = none ∧
      union.members? form (.array (value' :: after)) = none := by
  obtain ⟨_, _, rfl, rfl⟩ | ⟨_, _, rfl, rfl⟩ := h.cases <;> exact ⟨rfl, rfl⟩

theorem matches_variant {first : Json} {rest : List Json}
    (hnames : (fields variant).map (·.1) = union.fields variant)
    (hnodup : (union.tag :: union.fields variant).Nodup)
    (hvariant : readTag form union.variants first = some variant)
    (hlength : (rest ++ value :: after).length ≤ (union.fields variant).length)
    (hkeys : (Json.array (first :: rest ++ value :: after)).KeysDistinct)
    (hchange : Change ((ofUnion union form [] fields).itemAt (first :: (rest ++ value :: after))
      (first :: rest).length) value value') :
    (ofUnion union form [] fields).Matches
      ((union.tag, first) :: (union.fields variant).zip (rest ++ value :: after))
      ((union.tag, first) :: (union.fields variant).zip (rest ++ value' :: after)) := by
  have hcolumns : ((union.tag, free) :: fields variant).map (·.1) =
      union.tag :: union.fields variant := by
    rw [List.map_cons, hnames]
  have hcount : (union.fields variant).length = (fields variant).length := by
    rw [← hnames, List.length_map]
  rw [itemAt_ofUnion hvariant] at hchange
  have hmatches := matches_zip (hcolumns ▸ hnodup) (by simpa [hcount] using hlength) hkeys hchange
  rw [hcolumns] at hmatches
  refine .of_variant ?_ hmatches
  rw [requiredBy_first (List.nodup_cons.1 hnodup).1, hvariant]

theorem Preserves.ofUnion (hnames : ∀ variant, (fields variant).map (·.1) = union.fields variant)
    (hnodup : ∀ variant, (union.tag :: union.fields variant).Nodup) :
    Preserves (ofUnion union form [] fields) (union.members? form) := by
  intro document document' hkeys hchange
  obtain ⟨members, members', rfl, rfl⟩ | ⟨items, items', rfl, rfl⟩ := hchange.cases
  · exact .some (hchange.matches hkeys)
  cases hchange with | @inItem _ before after value value' hitem =>
  cases before with
  | nil =>
    obtain ⟨hvalue, hvalue'⟩ := members?_of_changed_tag union form hitem
    rw [List.nil_append, List.nil_append, hvalue, hvalue']
    exact .none
  | cons first rest =>
    simp only [List.cons_append, Union.members?]
    cases hvariant : readTag form union.variants first with
    | none => exact .none
    | some variant =>
      have hsame : (rest ++ value' :: after).length = (rest ++ value :: after).length := by simp
      simp only [Option.bind_eq_bind, Option.bind_some, hsame]
      split
      · next hlength =>
        exact .some (matches_variant (hnames variant) (hnodup variant) hvariant hlength hkeys hitem)
      · exact .none

theorem Respects.ofUnion (hnames : ∀ variant, (fields variant).map (·.1) = union.fields variant)
    (hnodup : ∀ variant, (union.tag :: union.fields variant).Nodup)
    (h : ∀ variant members members',
      (record ((union.tag, free) :: fields variant)).Matches members members' →
        union.read variant members' = union.read variant members) :
    Respects (Layout.ofUnion union form [] fields) (union.decode form) :=
  .of_members (.ofUnion hnames hnodup) fun members members' hmatches =>
    hmatches.ofMembers fun variant => h variant members members'

end Union

end Layout

end VpcOperator
