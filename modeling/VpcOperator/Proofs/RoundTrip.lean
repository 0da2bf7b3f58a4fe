import VpcOperator.Controller.Round

/-!
# Documents read back

What is written of a cluster's spec and status reads back as the same value.
Reading goes by the names of members, so for each name it only matters what is
given under it: a record reads back once no two of its members share a name.
A null counts as an absent member, so no value may be written as null.
-/

namespace VpcOperator

/-- A schema that reads what it writes. -/
class LawfulSchema (α : Type) [Schema α] : Prop where
  decode_encode (value : α) : Schema.decode (Schema.encode value) = some value
  encode_ne_null (value : α) : Schema.encode value ≠ .null

namespace Schema

variable {α : Type}

attribute [simp] LawfulSchema.decode_encode LawfulSchema.encode_ne_null

/-! ## What is given under a name -/

@[simp] theorem given_nil (name : String) : given [] name = [] := rfl

@[simp] theorem given_append (front back : Members) (name : String) :
    given (front ++ back) name = given front name ++ given back name := by
  simp [given]

@[simp] theorem given_field [Schema α] (written name : String) (value : α) :
    given (field written value) name = if written = name then [encode value] else [] := by
  by_cases h : written = name <;> simp [given, field, h]

theorem given_optionalField_of_ne [Schema α] {written name : String} (h : written ≠ name)
    (value : Option α) : given (optionalField written value) name = [] := by
  cases value <;> simp [optionalField, h]

theorem given_unlessEmpty_of_ne [Schema α] {written name : String} (h : written ≠ name)
    (isEmpty : α → Bool) (value : α) : given (unlessEmpty isEmpty written value) name = [] := by
  unfold unlessEmpty
  split <;> simp [h]

attribute [simp] given_optionalField_of_ne given_unlessEmpty_of_ne

/-! ## Members are read as they are given -/

section Append

variable {front back : Members} {name : String}

@[simp] theorem requiredBy_append_left (read : Json → Option α) (h : given back name = []) :
    requiredBy read (front ++ back) name = requiredBy read front name := by
  simp [requiredBy, h]

@[simp] theorem requiredBy_append_right (read : Json → Option α) (h : given front name = []) :
    requiredBy read (front ++ back) name = requiredBy read back name := by
  simp [requiredBy, h]

@[simp] theorem defaultedBy_append_left (read : Json → Option α) (default : α)
    (h : given back name = []) :
    defaultedBy read (front ++ back) name default = defaultedBy read front name default := by
  simp [defaultedBy, h]

@[simp] theorem defaultedBy_append_right (read : Json → Option α) (default : α)
    (h : given front name = []) :
    defaultedBy read (front ++ back) name default = defaultedBy read back name default := by
  simp [defaultedBy, h]

@[simp] theorem optional_append_left [Schema α] (h : given back name = []) :
    optional (α := α) (front ++ back) name = optional front name := by
  simp [optional, h]

@[simp] theorem optional_append_right [Schema α] (h : given front name = []) :
    optional (α := α) (front ++ back) name = optional back name := by
  simp [optional, h]

@[simp] theorem lastOptional_append_left [Schema α] (h : given back name = []) :
    lastOptional (α := α) (front ++ back) name = lastOptional front name := by
  simp [lastOptional, h]

@[simp] theorem lastOptional_append_right [Schema α] (h : given front name = []) :
    lastOptional (α := α) (front ++ back) name = lastOptional back name := by
  simp [lastOptional, h]

end Append

/-! ## A member reads back -/

@[simp] theorem required_eq [Schema α] (members : Members) (name : String) :
    required (α := α) members name = requiredBy decode members name := rfl

@[simp] theorem defaulted_eq [Schema α] (members : Members) (name : String) (default : α) :
    defaulted members name default = defaultedBy decode members name default := rfl

/-- What is read need not be of the type that was written: a tag is written as a text. -/
theorem requiredBy_field {β : Type} [Schema α] {read : Json → Option β} {value : α} {result : β}
    (h : read (encode value) = some result) (name : String) :
    requiredBy read (field name value) name = some result := by
  simp [requiredBy, h]

theorem requiredBy_tag (form : TagForm) (choices : List (String × α)) (label : String) {choice : α}
    (h : choices.lookup label = some choice) (name : String) :
    requiredBy (readTag form choices) (field name label) name = some choice :=
  requiredBy_field h name

section Lawful

variable [Schema α] [LawfulSchema α]

@[simp] theorem requiredBy_decode_field (name : String) (value : α) :
    requiredBy decode (field name value) name = some value :=
  requiredBy_field (LawfulSchema.decode_encode value) name

@[simp] theorem decodeNullable_encode (value : α) :
    decodeNullable (encode value) = some (some value) := by
  have hnull := LawfulSchema.encode_ne_null value
  unfold decodeNullable
  split
  · contradiction
  · simp

@[simp] theorem optional_optionalField (name : String) (value : Option α) :
    optional (optionalField name value) name = some value := by
  cases value <;> simp [optional, optionalField]

@[simp] theorem lastOptional_optionalField (name : String) (value : Option α) :
    lastOptional (optionalField name value) name = some value := by
  cases value <;> simp [lastOptional, optionalField]

@[simp] theorem defaultedBy_field (name : String) (value default : α) :
    defaultedBy decode (field name value) name default = some value := by
  simp [defaultedBy]

/-- The one empty value is the one that absence stands for. -/
theorem defaultedBy_unlessEmpty {isEmpty : α → Bool} {value default : α}
    (h : isEmpty value → value = default) (name : String) :
    defaultedBy decode (unlessEmpty isEmpty name value) name default = some value := by
  unfold unlessEmpty
  split
  · next hempty => simp [defaultedBy, h hempty]
  · simp [defaultedBy]

end Lawful

/-! ## Texts, numbers and truth values -/

instance : LawfulSchema String where
  decode_encode _ := rfl
  encode_ne_null _ := Json.noConfusion

instance : LawfulSchema Bool where
  decode_encode _ := rfl
  encode_ne_null _ := Json.noConfusion

instance : LawfulSchema UInt16 where
  decode_encode value := by
    have hlt : value.toNat < UInt16.size := value.toNat_lt
    simp only [encode, decode]
    rw [if_pos (by omega)]
    simp
  encode_ne_null _ := Json.noConfusion

instance : LawfulSchema UInt32 where
  decode_encode value := by
    have hlt : value.toNat < UInt32.size := value.toNat_lt
    simp only [encode, decode]
    rw [if_pos (by omega)]
    simp
  encode_ne_null _ := Json.noConfusion

instance : LawfulSchema Int64 where
  decode_encode value := by
    simp only [encode, decode]
    rw [if_pos ⟨value.minValue_le_toInt, value.toInt_le⟩, Int64.ofInt_toInt]
  encode_ne_null _ := Json.noConfusion

/-! ## Lists and tables -/

theorem mapM_map_eq_some {β γ : Type} {write : α → β} {read : β → Option γ} {result : α → γ}
    (h : ∀ item, read (write item) = some (result item)) (items : List α) :
    (items.map write).mapM read = some (items.map result) := by
  induction items with
  | nil => rfl
  | cons item rest ih => simp [List.mapM_cons, h, ih]

theorem readList_encode [Schema α] {read : Json → Option α}
    (h : ∀ item : α, read (encode item) = some item) (items : List α) :
    readList read (encode items) = some items :=
  (mapM_map_eq_some h items).trans (by rw [List.map_id'])

instance [Schema α] [LawfulSchema α] : LawfulSchema (List α) where
  decode_encode items := readList_encode LawfulSchema.decode_encode items
  encode_ne_null _ := Json.noConfusion

@[simp] theorem defaultedBy_unlessEmpty_list [Schema α] [LawfulSchema α] (name : String)
    (items : List α) :
    defaultedBy decode (unlessEmpty List.isEmpty name items) name [] = some items :=
  defaultedBy_unlessEmpty List.isEmpty_iff.1 name

end Schema

namespace Table

variable {α : Type}

theorem insertEntry_last {key : String} {value : α} {entries : List (String × α)}
    (h : ∀ entry ∈ entries, entry.1 < key) :
    insertEntry key value entries = entries ++ [(key, value)] := by
  induction entries with
  | nil => rfl
  | cons head rest ih =>
    have hhead : head.1 < key := h head List.mem_cons_self
    have hrest := ih fun entry hmem => h entry (List.mem_cons_of_mem _ hmem)
    have hne : key ≠ head.1 := fun heq => String.lt_irrefl _ (heq ▸ hhead)
    simp [insertEntry, hne, String.lt_asymm hhead, hrest]

/-- Entries that come in ascending order are only ever put at the end. -/
theorem foldl_insert_entries (entries : List (String × α)) (table : Table α)
    (h : (table.entries ++ entries).Pairwise fun a b => a.1 < b.1) :
    (entries.foldl (fun table entry => table.insert entry.1 entry.2) table).entries =
      table.entries ++ entries := by
  induction entries generalizing table with
  | nil => simp
  | cons head rest ih =>
    have hlast : (table.insert head.1 head.2).entries = table.entries ++ [head] :=
      insertEntry_last fun entry hmem =>
        (List.pairwise_append.1 h).2.2 entry hmem head List.mem_cons_self
    rw [List.foldl_cons, ih _ (by simpa [hlast] using h), hlast]
    simp

theorem ofList_entries (table : Table α) : ofList table.entries = table := by
  have hentries : (ofList table.entries).entries = table.entries :=
    foldl_insert_entries table.entries empty table.ascending
  cases table
  cases hlist : ofList _
  simp_all

theorem eq_empty_of_isEmpty {table : Table α} (h : table.isEmpty) : table = empty := by
  obtain ⟨entries, hascending⟩ := table
  obtain rfl : entries = [] := List.isEmpty_iff.1 h
  rfl

end Table

namespace Schema

variable {α : Type} [Schema α] [LawfulSchema α]

instance : LawfulSchema (Table α) where
  decode_encode table := by
    have hread :
        (table.entries.map fun entry => (entry.1, encode entry.2)).mapM (decodeEntry (α := α)) =
          some (table.entries.map id) :=
      mapM_map_eq_some (fun entry => by simp [decodeEntry]) table.entries
    simp only [encode, decode]
    simp [hread, Table.ofList_entries]
  encode_ne_null _ := Json.noConfusion

@[simp] theorem defaultedBy_unlessEmpty_table (name : String) (table : Table α) :
    defaultedBy decode (unlessEmpty Table.isEmpty name table) name Table.empty = some table :=
  defaultedBy_unlessEmpty Table.eq_empty_of_isEmpty name

@[simp] theorem defaultedBy_unlessEmpty_text (name text : String) :
    defaultedBy decode (unlessEmpty String.isEmpty name text) name "" = some text :=
  defaultedBy_unlessEmpty String.isEmpty_iff.1 name

end Schema

open Schema

/-! ## Records and unions -/

namespace LawfulSchema

variable {α κ : Type}

/-- A record is written as an object. -/
theorem ofRecord (record : Record α) (h : ∀ value, record.read (record.write value) = some value) :
    @LawfulSchema α record.schema :=
  @LawfulSchema.mk α record.schema h fun _ => Json.noConfusion

theorem ofUnion (union : Union κ α)
    (h : ∀ value, union.ofMembers .name (union.write value) = some value) :
    @LawfulSchema α union.schema :=
  @LawfulSchema.mk α union.schema h fun _ => Json.noConfusion

end LawfulSchema

/-! ## Choices and tags -/

instance : LawfulSchema BalancerState where
  decode_encode state := by cases state <;> rfl
  encode_ne_null _ := Json.noConfusion

theorem readTag_direction (form : TagForm) (direction : Direction) :
    readTag form Direction.choices (encode direction) = some direction := by
  cases direction <;> rfl

instance : LawfulSchema Direction where
  decode_encode := readTag_direction .name
  encode_ne_null _ := Json.noConfusion

instance : LawfulSchema Transport where
  decode_encode transport := by cases transport <;> rfl
  encode_ne_null _ := Json.noConfusion

-- Reading a record is opened with `Option.bind_eq_some_iff`, one member after the other. With
-- `Option.bind_some` the steps hold by computation, and checking them would compute with names.
instance : LawfulSchema PortRange :=
  .ofRecord PortRange.record fun _ => by
    simp [PortRange.record, Option.bind_eq_some_iff, -Option.bind_some, -Bool.exists_bool]

namespace Protocol

def family : Protocol → Family
  | .all => .all
  | .icmp .. => .icmp
  | .ports .tcp _ => .tcp
  | .ports .udp _ => .udp

theorem lookup_label (protocol : Protocol) :
    union.variants.lookup protocol.label = some protocol.family := by
  obtain _ | _ | ⟨_ | _, _⟩ := protocol <;> rfl

/-- The members a protocol is read from. -/
def memberNames : List String :=
  ["protocol", "icmpType", "icmpCode", "portRange"]

/-- A protocol reads back also where other members stand beside its own. -/
theorem ofMembers_write (form : TagForm) (protocol : Protocol) (beside : Members)
    (h : ∀ name ∈ memberNames, given beside name = []) :
    union.ofMembers form (union.write protocol ++ beside) = some protocol := by
  simp only [memberNames, List.forall_mem_cons] at h
  obtain ⟨hprotocol, htype, hcode, hrange, -⟩ := h
  have htag : requiredBy (readTag form union.variants) (field "protocol" protocol.label)
      "protocol" = some protocol.family :=
    requiredBy_tag form union.variants protocol.label (lookup_label protocol) "protocol"
  have hfamily : requiredBy (readTag form union.variants) (union.write protocol ++ beside)
      union.tag = some protocol.family := by
    cases protocol <;> simpa [union, hprotocol] using htag
  rw [Union.ofMembers, hfamily]
  obtain _ | ⟨type, code⟩ | ⟨_ | _, range⟩ := protocol
  · rfl
  · simp [family, union, htype, hcode]
  · simp [family, union, hrange]
  · simp [family, union, hrange]

instance : LawfulSchema Protocol :=
  .ofUnion union fun protocol => by simpa using ofMembers_write .name protocol [] (by simp)

end Protocol

/-! ## Declared clusters -/

namespace Desired

instance : LawfulSchema Reference :=
  .ofRecord Reference.record fun _ => by
    simp [Reference.record, Option.bind_eq_some_iff, -Option.bind_some, -Bool.exists_bool]

instance : LawfulSchema Subnet :=
  .ofRecord Subnet.record fun _ => by
    simp [Subnet.record, Option.bind_eq_some_iff, -Option.bind_some, -Bool.exists_bool]

instance : LawfulSchema Listener :=
  .ofRecord Listener.record fun _ => by
    simp [Listener.record, Option.bind_eq_some_iff, -Option.bind_some, -Bool.exists_bool]

end Desired

instance : LawfulSchema Pool :=
  .ofRecord Pool.record fun _ => by
    simp [Pool.record, Option.bind_eq_some_iff, -Option.bind_some, -Bool.exists_bool]

namespace Desired

namespace Remote

def family : Remote → Family
  | .any => .any
  | .address _ => .address
  | .subnet _ => .subnet
  | .group _ => .group

theorem requiredBy_write (form : TagForm) (remote : Remote) :
    requiredBy (readTag form union.variants) (union.write remote) union.tag =
      some remote.family := by
  have htag (label : String) {family : Family} (h : union.variants.lookup label = some family) :
      requiredBy (readTag form union.variants) (field "remoteType" label) "remoteType" =
        some family :=
    requiredBy_tag form union.variants label h "remoteType"
  cases remote with
  | any => exact htag "any" rfl
  | address ip => simpa [union, family] using htag "address" rfl
  | subnet name => simpa [union, family] using htag "cidr" rfl
  | group name => simpa [union, family] using htag "sg" rfl

theorem decode_encode (form : TagForm) (remote : Remote) :
    union.decode form (encode remote) = some remote := by
  change union.ofMembers form (union.write remote) = some remote
  rw [Union.ofMembers, requiredBy_write]
  cases remote <;> simp [family, union]

instance : LawfulSchema Remote :=
  .ofUnion union (decode_encode .name)

end Remote

namespace RuleBody

theorem decode_encode (form : TagForm) (body : RuleBody) :
    decode form (encode body) = some body := by
  have hprotocol := Protocol.ofMembers_write .nameOrPosition body.protocol
    (field "remotes" body.remotes) (by simp [Protocol.memberNames])
  have hremotes : defaultedBy (readList (Remote.union.decode form)) (field "remotes" body.remotes)
      "remotes" [] = some body.remotes := by
    simp [defaultedBy, readList_encode (Remote.decode_encode form)]
  have hbeside : given (Protocol.union.write body.protocol) "remotes" = [] := by
    obtain _ | _ | _ := body.protocol <;> simp [Protocol.union]
  simp [decode, encode, members?, Option.bind_eq_some_iff, -Option.bind_some, hprotocol, hremotes,
    hbeside]

instance : LawfulSchema RuleBody where
  decode_encode := decode_encode .name
  encode_ne_null _ := Json.noConfusion

end RuleBody

instance : LawfulSchema Rule :=
  .ofUnion Rule.union fun rule => by
    have hdirection := requiredBy_field (readTag_direction .name rule.direction) "direction"
    have hbody : requiredBy (RuleBody.decode .nameOrPosition)
        (field (Rule.bodyName rule.direction) rule.body) (Rule.bodyName rule.direction) =
          some rule.body :=
      requiredBy_field (RuleBody.decode_encode .nameOrPosition rule.body) _
    have hname : Rule.bodyName rule.direction ≠ "direction" := by
      cases rule.direction <;> simp [Rule.bodyName]
    simp [Union.ofMembers, Rule.union, Option.bind_eq_some_iff, -Option.bind_some, hdirection,
      hbody, hname, hname.symm]

instance : LawfulSchema SecurityGroup :=
  .ofRecord SecurityGroup.record fun _ => by
    simp [SecurityGroup.record, Option.bind_eq_some_iff, -Option.bind_some, -Bool.exists_bool]

instance : LawfulSchema LoadBalancer :=
  .ofRecord LoadBalancer.record fun _ => by
    simp [LoadBalancer.record, Option.bind_eq_some_iff, -Option.bind_some, -Bool.exists_bool]

instance : LawfulSchema Network :=
  .ofRecord Network.record fun _ => by
    simp [Network.record, Option.bind_eq_some_iff, -Option.bind_some, -Bool.exists_bool]

instance : LawfulSchema Image :=
  .ofRecord Image.record fun _ => by
    simp [Image.record, Option.bind_eq_some_iff, -Option.bind_some, -Bool.exists_bool]

instance : LawfulSchema ClusterSpec :=
  .ofRecord ClusterSpec.record fun _ => by
    simp [ClusterSpec.record, Option.bind_eq_some_iff, -Option.bind_some, -Bool.exists_bool]

end Desired

/-! ## The observed status -/

namespace Observed

instance : LawfulSchema GroupReference :=
  .ofRecord GroupReference.record fun _ => by
    simp [GroupReference.record, Option.bind_eq_some_iff, -Option.bind_some, -Bool.exists_bool]

instance : LawfulSchema Entry :=
  .ofRecord Entry.record fun _ => by
    simp [Entry.record, Option.bind_eq_some_iff, -Option.bind_some, -Bool.exists_bool]

instance : LawfulSchema BalancerEntry :=
  .ofRecord BalancerEntry.record fun _ => by
    simp [BalancerEntry.record, Option.bind_eq_some_iff, -Option.bind_some, -Bool.exists_bool]

instance : LawfulSchema NetworkStatus :=
  .ofRecord NetworkStatus.record fun _ => by
    simp [NetworkStatus.record, Option.bind_eq_some_iff, -Option.bind_some, -Bool.exists_bool]

instance : LawfulSchema Condition :=
  .ofRecord Condition.record fun _ => by
    simp [Condition.record, Option.bind_eq_some_iff, -Option.bind_some, -Bool.exists_bool]

instance : LawfulSchema Status :=
  .ofRecord Status.record fun _ => by
    simp [Status.record, Option.bind_eq_some_iff, -Option.bind_some, -Bool.exists_bool]

end Observed

/-! ## Cluster objects -/

instance : LawfulSchema Metadata where
  decode_encode _ := by
    simp only [encode, decode]
    simp [members?, Option.bind_eq_some_iff, -Option.bind_some, -Bool.exists_bool]
  encode_ne_null _ := Json.noConfusion

instance : LawfulSchema Cluster :=
  .ofRecord Cluster.record fun _ => by
    simp [Cluster.record, Option.bind_eq_some_iff, -Option.bind_some, -Bool.exists_bool]

/-- Writing and reading undo each other, from the side of values and from that of documents. -/
structure RoundTrips (α : Type) [Schema α] : Prop where
  value (value : α) : decode (encode value) = some value
  /-- What is written of a document that can be read is read as the same value. -/
  document (document : Json) :
    ((decode (α := α) document).map encode).bind decode = decode (α := α) document

theorem RoundTrips.of_lawful (α : Type) [Schema α] [LawfulSchema α] : RoundTrips α where
  value := LawfulSchema.decode_encode
  document document := by
    cases h : decode (α := α) document <;> simp

open Desired Observed in
/-- Everything a cluster object consists of reads back from its own document, and so does the
status from a patch. -/
theorem clusters_round_trip :
    (RoundTrips ClusterSpec ∧ RoundTrips Image ∧ RoundTrips Network ∧ RoundTrips Reference ∧
      RoundTrips Subnet ∧ RoundTrips LoadBalancer ∧ RoundTrips Listener ∧ RoundTrips Pool ∧
      RoundTrips SecurityGroup ∧ RoundTrips Rule ∧ RoundTrips RuleBody ∧ RoundTrips Direction ∧
      RoundTrips Protocol ∧ RoundTrips Transport ∧ RoundTrips PortRange ∧ RoundTrips Remote) ∧
    (RoundTrips Status ∧ RoundTrips NetworkStatus ∧ RoundTrips GroupReference ∧ RoundTrips Entry ∧
      RoundTrips BalancerEntry ∧ RoundTrips BalancerState ∧ RoundTrips Condition) ∧
    RoundTrips Cluster ∧
    ∀ patch : StatusPatch,
      (members? patch.body).bind (optional · "status") = some (some patch.status) := by
  refine ⟨?_, ?_, RoundTrips.of_lawful Cluster, fun patch => ?_⟩
  · exact ⟨.of_lawful _, .of_lawful _, .of_lawful _, .of_lawful _, .of_lawful _, .of_lawful _,
      .of_lawful _, .of_lawful _, .of_lawful _, .of_lawful _, .of_lawful _, .of_lawful _,
      .of_lawful _, .of_lawful _, .of_lawful _, .of_lawful _⟩
  · exact ⟨.of_lawful _, .of_lawful _, .of_lawful _, .of_lawful _, .of_lawful _, .of_lawful _,
      .of_lawful _⟩
  · have hgiven : given [("apiVersion", Json.string Cluster.apiVersion),
        ("kind", .string Cluster.kind), ("status", encode patch.status)] "status" =
          [encode patch.status] := by
      simp [given]
    simp [StatusPatch.body, members?, Schema.optional, hgiven]

end VpcOperator
