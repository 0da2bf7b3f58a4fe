import VpcOperator.Proofs.Columns

/-! # Documents read by name

Every type of a cluster object gets the layout of its documents. What is read
of a document stays the same when members change places and when members
come that the layout does not count. The tag of a union decides what counts
beside it, and it may come after that.
-/

namespace VpcOperator

open Schema

/-- A type with the members that count in its documents. -/
class LaidOut (α : Type) [Schema α] where
  layout : Layout
  respects : layout.Respects (decode (α := α))

open LaidOut

namespace Layout

section Fields

variable {fields : List (String × Layout)} {members members' : Members} {name : String}

@[simp] theorem member?_record_nil : (record []).member? members name = none := rfl

@[simp] theorem member?_record_cons (key : String) (inner : Layout) :
    (record ((key, inner) :: fields)).member? members name =
      if name = key then some inner else (record fields).member? members name :=
  Table.lookup_cons key name inner fields

@[simp] theorem member?_record_append (more : List (String × Layout)) :
    (record (fields ++ more)).member? members name =
      ((record fields).member? members name).or ((record more).member? members name) :=
  List.lookup_append

variable {α : Type} [Schema α] [LaidOut α] {whole : Layout}

theorem Matches.required (h : whole.Matches members members')
    (hname : whole.member? members name = some (layout α)) :
    Schema.requiredBy (decode (α := α)) members' name = Schema.requiredBy decode members name :=
  h.requiredBy hname respects

theorem Matches.optional (h : whole.Matches members members')
    (hname : whole.member? members name = some (layout α)) :
    Schema.optional (α := α) members' name = Schema.optional members name :=
  h.optionalBy hname respects

theorem Matches.defaulted (h : whole.Matches members members')
    (hname : whole.member? members name = some (layout α)) (default : α) :
    Schema.defaultedBy decode members' name default =
      Schema.defaultedBy decode members name default :=
  h.defaultedBy hname respects default

end Fields

end Layout

/-! ## Texts, numbers, lists and tables -/

namespace LaidOut

variable {α : Type} [Schema α]

instance : LaidOut String where
  layout := .free
  respects := .of_none (fun _ => rfl) fun _ => rfl

instance : LaidOut Bool where
  layout := .free
  respects := .of_none (fun _ => rfl) fun _ => rfl

instance : LaidOut UInt16 where
  layout := .free
  respects := .of_none (fun _ => rfl) fun _ => rfl

instance : LaidOut UInt32 where
  layout := .free
  respects := .of_none (fun _ => rfl) fun _ => rfl

instance : LaidOut Int64 where
  layout := .free
  respects := .of_none (fun _ => rfl) fun _ => rfl

instance [LaidOut α] : LaidOut (List α) where
  layout := .list (layout α)
  respects := .list respects

instance [LaidOut α] : LaidOut (Table α) where
  layout := .table (layout α)
  respects := .table respects

end LaidOut

open Layout

/-! ## Choices and unions -/

instance : LaidOut BalancerState where
  layout := .fixed
  respects := .choice BalancerState.choices

instance : LaidOut Direction where
  layout := .fixed
  respects := .choice Direction.choices

instance : LaidOut Transport where
  layout := .fixed
  respects := .choice [("tcp", Transport.tcp), ("udp", Transport.udp)]

instance : LaidOut PortRange where
  layout := .record [("minimumPort", layout UInt16), ("maximumPort", layout UInt16)]
  respects := .ofRecord PortRange.record rfl (by simp) fun _ _ h => by
    simp [PortRange.record, h.required]

namespace Protocol

def Family.fields : Family → List (String × Layout)
  | .all => []
  | .icmp => [("icmpType", layout Int64), ("icmpCode", layout Int64)]
  | .tcp => [("portRange", layout PortRange)]
  | .udp => [("portRange", layout PortRange)]

/-- A protocol reads by name also where other members stand beside its own. -/
theorem ofMembers_matches {form : TagForm} {common : List (String × Layout)}
    {members members' : Members}
    (hcommon : ∀ name ∈ memberNames, (record common).member? members name = none)
    (h : (ofUnion union form common Family.fields).Matches members members') :
    union.ofMembers form members' = union.ofMembers form members := by
  apply h.ofMembers
  intro family h
  simp only [memberNames, List.forall_mem_cons] at hcommon
  obtain ⟨-, htype, hcode, hrange, -⟩ := hcommon
  cases family with
  | all => rfl
  | icmp => simp [union, h.optional, Family.fields, htype, hcode]
  | tcp => simp [union, h.optional, Family.fields, hrange]
  | udp => simp [union, h.optional, Family.fields, hrange]

theorem preserves (form : TagForm) :
    Preserves (ofUnion union form [] Family.fields) (union.members? form) :=
  .ofUnion (by rintro (_ | _ | _ | _) <;> rfl) (by rintro (_ | _ | _ | _) <;> simp [union])

instance : LaidOut Protocol where
  layout := ofUnion union .name [] Family.fields
  respects := .of_members (preserves .name) fun _ _ h => ofMembers_matches (by simp) h

end Protocol

/-! ## Declared clusters -/

namespace Desired

namespace Remote

def Family.fields : Family → List (String × Layout)
  | .any => []
  | .address => [("address", layout String)]
  | .subnet => [("cidrSubnetName", layout String)]
  | .group => [("securityGroupName", layout String)]

def layout (form : TagForm) : Layout :=
  ofUnion union form [] Family.fields

theorem respects (form : TagForm) : (layout form).Respects (union.decode form) := by
  refine .ofUnion (by rintro (_ | _ | _ | _) <;> rfl)
    (by rintro (_ | _ | _ | _) <;> simp [union]) fun family members members' h => ?_
  cases family with
  | any => rfl
  | address => simp [union, h.required, Family.fields]
  | subnet => simp [union, h.required, Family.fields]
  | group => simp [union, h.required, Family.fields]

instance : LaidOut Remote where
  layout := layout .name
  respects := respects .name

end Remote

namespace RuleBody

def layout (form : TagForm) : Layout :=
  ofUnion Protocol.union .nameOrPosition [("remotes", .list (Remote.layout form))]
    Protocol.Family.fields

theorem respects (form : TagForm) : (layout form).Respects (decode form) :=
  .of_members (.object _) fun members members' h => by
    have hprotocol := Protocol.ofMembers_matches (by simp [Protocol.memberNames]) h
    have hmember : (layout form).member? members "remotes" = some (.list (Remote.layout form)) := by
      simp [layout, ofUnion, member?, Table.lookup_cons, Protocol.union]
    have hremotes := h.defaultedBy hmember (.list (Remote.respects form)) []
    simp only [hprotocol, hremotes]

instance : LaidOut RuleBody where
  layout := layout .name
  respects := respects .name

end RuleBody

namespace Rule

def fields (direction : Direction) : List (String × Layout) :=
  [(bodyName direction, RuleBody.layout .nameOrPosition)]

instance : LaidOut Rule where
  layout := ofUnion union .name [] fields
  respects := by
    have hname (direction : Direction) : bodyName direction ≠ union.tag := by
      cases direction <;> simp [bodyName, union]
    refine .ofUnion (fun _ => rfl) (fun direction => ?_) fun direction members members' h => ?_
    · simpa [union] using (hname direction).symm
    · have hbody : requiredBy (RuleBody.decode .nameOrPosition) members' (bodyName direction) =
          requiredBy (RuleBody.decode .nameOrPosition) members (bodyName direction) :=
        h.requiredBy (by simp [fields, hname]) (RuleBody.respects .nameOrPosition)
      simp only [union, hbody]

end Rule

instance : LaidOut SecurityGroup where
  layout := .record [("id", layout String), ("name", layout String), ("rules", layout (List Rule))]
  respects := .ofRecord SecurityGroup.record rfl (by simp) fun _ _ h => by
    simp [SecurityGroup.record, h.optional, h.defaulted]

instance : LaidOut Reference where
  layout := .record [("id", layout String), ("name", layout String)]
  respects := .ofRecord Reference.record rfl (by simp) fun _ _ h => by
    simp [Reference.record, h.optional]

instance : LaidOut Subnet where
  layout := .record [("id", layout String), ("name", layout String), ("zone", layout String)]
  respects := .ofRecord Subnet.record rfl (by simp) fun _ _ h => by
    simp [Subnet.record, h.optional]

instance : LaidOut Listener where
  layout := .record [("port", layout UInt16)]
  respects := .ofRecord Listener.record rfl (by simp) fun _ _ h => by
    simp [Listener.record, h.required]

end Desired

instance : LaidOut Pool where
  layout :=
    .record [("name", layout String), ("algorithm", layout String), ("protocol", layout String),
      ("healthDelay", layout UInt32), ("healthRetries", layout UInt32),
      ("healthTimeout", layout UInt32), ("healthType", layout String),
      ("healthMonitorUrl", layout String), ("healthMonitorPort", layout UInt16)]
  respects := .ofRecord Pool.record rfl (by simp) fun _ _ h => by
    simp [Pool.record, h.required, h.optional]

namespace Desired

instance : LaidOut LoadBalancer where
  layout :=
    .record [("name", layout String), ("id", layout String), ("public", layout Bool),
      ("additionalListeners", layout (List Listener)), ("backendPools", layout (List Pool)),
      ("securityGroups", layout (List Reference))]
  respects := .ofRecord LoadBalancer.record rfl (by simp) fun _ _ h => by
    simp [LoadBalancer.record, h.required, h.optional, h.defaulted]

instance : LaidOut Network where
  layout :=
    .record [("vpc", layout Reference), ("resourceGroup", layout String),
      ("controlPlaneSubnets", layout (List Subnet)), ("workerSubnets", layout (List Subnet)),
      ("securityGroups", layout (List SecurityGroup)),
      ("loadBalancers", layout (List LoadBalancer))]
  respects := .ofRecord Network.record rfl (by simp) fun _ _ h => by
    simp [Network.record, h.optional, h.defaulted]

instance : LaidOut Image where
  layout :=
    .record [("name", layout String), ("cosInstance", layout String), ("cosBucket", layout String),
      ("cosBucketRegion", layout String), ("cosObject", layout String),
      ("operatingSystem", layout String), ("resourceGroup", layout Reference)]
  respects := .ofRecord Image.record rfl (by simp) fun _ _ h => by
    simp [Image.record, h.required, h.optional]

instance : LaidOut ClusterSpec where
  layout :=
    .record [("region", layout String), ("resourceGroup", layout String),
      ("network", layout Network), ("image", layout Image), ("apiServerPort", layout UInt16)]
  respects := .ofRecord ClusterSpec.record rfl (by simp) fun _ _ h => by
    simp [ClusterSpec.record, h.required, h.optional, h.defaulted]

end Desired

/-! ## The observed status -/

namespace Observed

instance : LaidOut GroupReference where
  layout := .record [("id", layout String), ("name", layout String)]
  respects := .ofRecord GroupReference.record rfl (by simp) fun _ _ h => by
    simp [GroupReference.record, h.required, h.optional]

instance : LaidOut Entry where
  layout := .record [("id", layout String), ("name", layout String), ("ready", layout Bool)]
  respects := .ofRecord Entry.record rfl (by simp) fun _ _ h => by
    simp [Entry.record, h.required, h.defaulted]

instance : LaidOut BalancerEntry where
  layout :=
    .record [("id", layout String), ("name", layout String), ("state", layout BalancerState),
      ("hostname", layout String), ("controllerCreated", layout Bool)]
  respects := .ofRecord BalancerEntry.record rfl (by simp) fun _ _ h => by
    simp [BalancerEntry.record, h.required, h.optional, h.defaulted]

instance : LaidOut NetworkStatus where
  layout :=
    .record [("vpc", layout Entry), ("controlPlaneSubnets", layout (Table Entry)),
      ("workerSubnets", layout (Table Entry)), ("securityGroups", layout (Table Entry)),
      ("loadBalancers", layout (Table BalancerEntry)), ("resourceGroup", layout GroupReference)]
  respects := .ofRecord NetworkStatus.record rfl (by simp) fun _ _ h => by
    simp [NetworkStatus.record, h.optional, h.defaulted]

instance : LaidOut Condition where
  layout :=
    .record [("type", layout String), ("status", layout String), ("reason", layout String),
      ("message", layout String)]
  respects := .ofRecord Condition.record rfl (by simp) fun _ _ h => by
    simp [Condition.record, h.required, h.optional]

instance : LaidOut Status where
  layout :=
    .record [("ready", layout Bool), ("resourceGroup", layout GroupReference),
      ("networkStatus", layout NetworkStatus), ("imageStatus", layout Entry),
      ("conditions", layout (List Condition))]
  respects := .ofRecord Status.record rfl (by simp) fun _ _ h => by
    simp [Status.record, h.optional, h.defaulted]

end Observed

/-! ## Cluster objects -/

instance : LaidOut Metadata where
  layout := .fixed
  respects := .of_members (.object _) fun members members' h => by
    have hlast {α : Type} [Schema α] [LaidOut α] (name : String) :
        lastOptional (α := α) members' name = lastOptional members name :=
      h.lastOptionalBy rfl respects.of_fixed
    simp only [hlast]

instance : LaidOut Cluster where
  layout :=
    .record [("metadata", layout Metadata), ("spec", layout Desired.ClusterSpec),
      ("status", layout Observed.Status)]
  respects := .ofRecord Cluster.record rfl (by simp) fun _ _ h => by
    simp [Cluster.record, h.required, h.optional]

/-! ## Rearranged documents -/

/-- Two documents that differ by members the layout does not count, and by the order of members, are
both accepted as the same value or both rejected. -/
def ReadsByName (α : Type) [Schema α] [LaidOut α] : Prop :=
  ∀ ⦃document document' : Json⦄, document.KeysDistinct →
    (layout α).Rearranged document document' → decode (α := α) document' = decode document

theorem ReadsByName.of_laidOut (α : Type) [Schema α] [LaidOut α] : ReadsByName α := by
  intro document document' hkeys h
  have hboth : document'.KeysDistinct ∧ decode (α := α) document' = decode document := by
    induction h with
    | refl => exact ⟨hkeys, rfl⟩
    | tail _ hchange ih =>
      exact ⟨hchange.keysDistinct ih.1, (respects ih.1 hchange).trans ih.2⟩
  exact hboth.2

open Desired Observed in
/-- Everything a cluster object consists of is read by the names of members, at every depth: neither
their order nor the members that do not count matter. Of metadata, and of a choice that is written
as an object, all members count. -/
theorem documents_read_by_name :
    (ReadsByName ClusterSpec ∧ ReadsByName Image ∧ ReadsByName Network ∧ ReadsByName Reference ∧
      ReadsByName Subnet ∧ ReadsByName LoadBalancer ∧ ReadsByName Listener ∧ ReadsByName Pool ∧
      ReadsByName SecurityGroup ∧ ReadsByName Rule ∧ ReadsByName RuleBody ∧
      ReadsByName Direction ∧ ReadsByName Protocol ∧ ReadsByName Transport ∧
      ReadsByName PortRange ∧ ReadsByName Remote) ∧
    (ReadsByName Status ∧ ReadsByName NetworkStatus ∧ ReadsByName GroupReference ∧
      ReadsByName Entry ∧ ReadsByName BalancerEntry ∧ ReadsByName BalancerState ∧
      ReadsByName Condition) ∧
    ReadsByName Cluster := by
  refine ⟨?_, ?_, .of_laidOut Cluster⟩
  · exact ⟨.of_laidOut _, .of_laidOut _, .of_laidOut _, .of_laidOut _, .of_laidOut _,
      .of_laidOut _, .of_laidOut _, .of_laidOut _, .of_laidOut _, .of_laidOut _, .of_laidOut _,
      .of_laidOut _, .of_laidOut _, .of_laidOut _, .of_laidOut _, .of_laidOut _⟩
  · exact ⟨.of_laidOut _, .of_laidOut _, .of_laidOut _, .of_laidOut _, .of_laidOut _,
      .of_laidOut _, .of_laidOut _⟩

/-- A tag may stand behind what it governs, and the members of other variants do not count, also
where the variant is given as a list. -/
theorem documents_read_by_name_late_tag :
    (Json.object [("direction", .string "inbound"),
      ("source", .object [("protocol", .string "tcp")])]).KeysDistinct ∧
    (layout Desired.Rule).Rearranged
      (.object [("direction", .string "inbound"),
        ("source", .object [("protocol", .string "tcp")])])
      (.object [("destination", .null),
        ("source", .object [("icmpType", .bool true), ("protocol", .string "tcp")]),
        ("direction", .string "inbound")]) ∧
    decode (α := Desired.Rule)
      (.object [("destination", .null),
        ("source", .object [("icmpType", .bool true), ("protocol", .string "tcp")]),
        ("direction", .string "inbound")]) =
      some { direction := .inbound, body := { protocol := .ports .tcp none, remotes := [] } } ∧
    (Json.array [.string "inbound", .object [("protocol", .string "tcp")]]).KeysDistinct ∧
    (layout Desired.Rule).Rearranged
      (.array [.string "inbound", .object [("protocol", .string "tcp")]])
      (.array [.string "inbound",
        .object [("icmpType", .bool true), ("protocol", .string "tcp")]]) ∧
    decode (α := Desired.Rule)
      (.array [.string "inbound",
        .object [("icmpType", .bool true), ("protocol", .string "tcp")]]) =
      some { direction := .inbound, body := { protocol := .ports .tcp none, remotes := [] } } := by
  obtain ⟨⟨-, -, -, -, -, -, -, -, -, hrule, -⟩, -⟩ := documents_read_by_name
  have hkeys : (Json.object [("direction", .string "inbound"),
      ("source", .object [("protocol", .string "tcp")])]).KeysDistinct := by
    simp [Json.keysDistinct_object, Json.KeysDistinct.string]
  have hchanges : (layout Desired.Rule).Rearranged
      (.object [("direction", .string "inbound"),
        ("source", .object [("protocol", .string "tcp")])])
      (.object [("destination", .null),
        ("source", .object [("icmpType", .bool true), ("protocol", .string "tcp")]),
        ("direction", .string "inbound")]) :=
    .head (.permute (.swap _ _ [])) <|
      .head (@Change.inMember _ [] _ "source" _ _ (.add rfl (by simp) (.bool true))) <|
        .single (.add rfl (by simp) .null)
  have hkeysList : (Json.array [.string "inbound",
      .object [("protocol", .string "tcp")]]).KeysDistinct := by
    simp [Json.keysDistinct_array, Json.keysDistinct_object, Json.KeysDistinct.string]
  have hchangesList : (layout Desired.Rule).Rearranged
      (.array [.string "inbound", .object [("protocol", .string "tcp")]])
      (.array [.string "inbound",
        .object [("icmpType", .bool true), ("protocol", .string "tcp")]]) :=
    .single (@Change.inItem _ [.string "inbound"] [] _ _ (.add rfl (by simp) (.bool true)))
  exact ⟨hkeys, hchanges, hrule hkeys hchanges, hkeysList, hchangesList,
    hrule hkeysList hchangesList⟩

end VpcOperator
