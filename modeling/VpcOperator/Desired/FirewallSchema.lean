import VpcOperator.Desired.Firewall
import VpcOperator.Json.Record

/-!
# The documents of declared security groups

A tag tells the variants of protocols, remotes and rules apart. Only members
of the variant it names are looked at. Inside a rule, tags may also be given
by position. A tag is only a word, while a direction or a transport that
stands alone has the forms of every named choice.
-/

namespace VpcOperator

open Schema

def Direction.choices : List (String × Direction) :=
  [("inbound", .inbound), ("outbound", .outbound)]

instance : Schema Direction where
  encode direction := .string direction.label
  decode := readChoice Direction.choices

instance : Schema Transport where
  encode transport := .string transport.label
  decode := readChoice [("tcp", .tcp), ("udp", .udp)]

def PortRange.record : Record PortRange where
  fields := leaves ["minimumPort", "maximumPort"]
  least := 2
  write range := field "minimumPort" range.first ++ field "maximumPort" range.last
  read members := do
    let first ← required members "minimumPort"
    let last ← required members "maximumPort"
    return { first, last }

instance : Schema PortRange :=
  PortRange.record.schema

namespace Protocol

inductive Family where
  | all
  | icmp
  | tcp
  | udp

def union : Union Family Protocol where
  tag := "protocol"
  variants := [("all", .all), ("icmp", .icmp), ("tcp", .tcp), ("udp", .udp)]
  fields
    | .all => []
    | .icmp => ["icmpType", "icmpCode"]
    | .tcp | .udp => ["portRange"]
  write protocol :=
    field "protocol" protocol.label ++
      match protocol with
      | .all => []
      | .icmp type code => optionalField "icmpType" type ++ optionalField "icmpCode" code
      | .ports _ range => optionalField "portRange" range
  read
    | .all, _ => some .all
    | .icmp, members => do
      return .icmp (← optional members "icmpType") (← optional members "icmpCode")
    | .tcp, members => do return .ports .tcp (← optional members "portRange")
    | .udp, members => do return .ports .udp (← optional members "portRange")

instance : Schema Protocol :=
  union.schema

end Protocol

namespace Desired

namespace Remote

inductive Family where
  | any
  | address
  | subnet
  | group

def union : Union Family Remote where
  tag := "remoteType"
  variants := [("any", .any), ("address", .address), ("cidr", .subnet), ("sg", .group)]
  fields
    | .any => []
    | .address => ["address"]
    | .subnet => ["cidrSubnetName"]
    | .group => ["securityGroupName"]
  write
    | .any => field "remoteType" "any"
    | .address ip => field "remoteType" "address" ++ field "address" ip
    | .subnet name => field "remoteType" "cidr" ++ field "cidrSubnetName" name
    | .group name => field "remoteType" "sg" ++ field "securityGroupName" name
  read
    | .any, _ => some .any
    | .address, members => do return .address (← required members "address")
    | .subnet, members => do return .subnet (← required members "cidrSubnetName")
    | .group, members => do return .group (← required members "securityGroupName")

instance : Schema Remote :=
  union.schema

end Remote

namespace RuleBody

def encode (body : RuleBody) : Json :=
  .object (Protocol.union.write body.protocol ++ field "remotes" body.remotes)

/-- The protocol's members stand beside the remotes, so there is no order of them all, and no list
is read. -/
def decode (form : TagForm) (document : Json) : Option RuleBody := do
  let members ← members? document
  let protocol ← Protocol.union.ofMembers .nameOrPosition members
  let remotes ← defaultedBy (readList (Remote.union.decode form)) members "remotes" []
  return { protocol, remotes }

instance : Schema RuleBody where
  encode := encode
  decode := decode .name

end RuleBody

namespace Rule

/-- The member that holds the body of a rule. -/
def bodyName : Direction → String
  | .inbound => "source"
  | .outbound => "destination"

def union : Union Direction Rule where
  tag := "direction"
  variants := Direction.choices
  fields direction := [bodyName direction]
  write rule := field "direction" rule.direction ++ field (bodyName rule.direction) rule.body
  read direction members := do
    let body ← requiredBy (RuleBody.decode .nameOrPosition) members (bodyName direction)
    return { direction, body }

instance : Schema Rule :=
  union.schema

end Rule

def SecurityGroup.record : Record SecurityGroup where
  fields := leaves ["id", "name"] ++ [("rules", shape (List Rule))]
  least := 2
  write group :=
    optionalField "id" group.id ++ optionalField "name" group.name ++
      unlessEmpty List.isEmpty "rules" group.rules
  read members := do
    let id ← optional members "id"
    let name ← optional members "name"
    let rules ← defaulted members "rules" []
    return { id, name, rules }

instance : Schema SecurityGroup :=
  SecurityGroup.record.schema

end Desired

end VpcOperator
