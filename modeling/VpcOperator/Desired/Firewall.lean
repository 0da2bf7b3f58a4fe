import VpcOperator.Json.Schema

/-!
# Declared security groups

A rule names the traffic it admits and the remotes it admits it from or to;
every remote stands for a live rule of its own.
-/

namespace VpcOperator

inductive Direction where
  | inbound
  | outbound
  deriving DecidableEq

def Direction.label : Direction → String
  | .inbound => "inbound"
  | .outbound => "outbound"

inductive Transport where
  | tcp
  | udp
  deriving DecidableEq

def Transport.label : Transport → String
  | .tcp => "tcp"
  | .udp => "udp"

structure PortRange where
  first : UInt16
  last : UInt16
  deriving DecidableEq

/-- The ports of a rule that declares none. -/
def PortRange.all : PortRange :=
  ⟨1, 65535⟩

inductive Protocol where
  | all
  | icmp (type code : Option Int64)
  | ports (transport : Transport) (range : Option PortRange)
  deriving DecidableEq

namespace Protocol

def label : Protocol → String
  | .all => "all"
  | .icmp .. => "icmp"
  | .ports transport _ => transport.label

/-- Type and code restrict a rule only when both are declared. -/
def icmpFilter : Protocol → Option (Int64 × Int64)
  | .icmp (some type) (some code) => some (type, code)
  | _ => none

def transport : Protocol → Option (Transport × Option PortRange)
  | .ports transport range => some (transport, range)
  | _ => none

end Protocol

namespace Desired

/-- The other end of the traffic a rule admits. -/
inductive Remote where
  | any
  | address (ip : String)
  /-- The addresses of a subnet. -/
  | subnet (name : String)
  /-- The members of a security group. -/
  | group (name : String)
  deriving DecidableEq

def Remote.label : Remote → String
  | .any => "any"
  | .address ip => "address " ++ ip
  | .subnet name => "cidr of subnet " ++ name
  | .group name => "security group " ++ name

structure RuleBody where
  protocol : Protocol
  remotes : List Remote
  deriving DecidableEq

structure Rule where
  direction : Direction
  body : RuleBody
  deriving DecidableEq

structure SecurityGroup where
  id : Option String
  name : Option String
  rules : List Rule
  deriving DecidableEq

/-- The name of a group in messages: its own, else its ID. -/
def SecurityGroup.displayName (group : SecurityGroup) : String :=
  (group.name.or group.id).getD "<unnamed>"

end Desired

end VpcOperator
