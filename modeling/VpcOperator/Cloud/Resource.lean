import VpcOperator.Desired.Firewall
import VpcOperator.Resource

/-!
# Live cloud resources
-/

namespace VpcOperator.Cloud

structure ResourceGroup where
  id : String
  name : String
  deriving DecidableEq

structure Vpc where
  id : String
  name : String
  crn : String
  state : ResourceState
  deriving DecidableEq

structure Subnet where
  id : String
  name : String
  crn : String
  zone : String
  cidr : Option String
  state : ResourceState
  deriving DecidableEq

structure Gateway where
  id : String
  name : String
  crn : String
  zone : String
  state : ResourceState
  deriving DecidableEq

/-- A security group has no state: it is ready as soon as it exists. -/
structure SecurityGroup where
  id : String
  name : String
  crn : String
  deriving DecidableEq

structure LoadBalancer where
  id : String
  name : String
  crn : String
  state : BalancerState
  hostname : Option String
  deriving DecidableEq

structure Image where
  id : String
  name : String
  crn : String
  state : ResourceState
  deriving DecidableEq

/-- The other end of a live rule. A group is identified by any of its ID, name and CRN. -/
inductive Remote where
  | cidr (block : String)
  | ip (address : String)
  | group (id name crn : Option String)
  deriving DecidableEq

/-- The traffic of a live rule; a missing bound of the ports means the widest one. -/
inductive Traffic where
  | all
  | icmp (type code : Option Int64)
  | ports (transport : Transport) (first last : Option UInt16)
  deriving DecidableEq

structure Rule where
  id : String
  direction : Direction
  remote : Remote
  traffic : Traffic
  deriving DecidableEq

def Traffic.portRange? : Traffic → Option PortRange
  | .ports _ first last => some ⟨first.getD PortRange.all.first, last.getD PortRange.all.last⟩
  | _ => none

end VpcOperator.Cloud
