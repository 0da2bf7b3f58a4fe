import VpcOperator.Cluster

/-!
# Discovery

The operator waits until the API server serves cluster objects in the version
it prefers for their group, and asks in growing intervals.
-/

namespace VpcOperator.Discovery

structure Served where
  version : String
  kinds : List String
  deriving DecidableEq

/-- What an API server says about the group of cluster objects. -/
inductive Listing where
  | unreachable
  | noGroup
  | group (preferred : String) (versions : List Served)
  deriving DecidableEq

def version : String :=
  "v1beta2"

def Listing.servesClusters : Listing → Bool
  | unreachable | noGroup => false
  | group preferred versions =>
    preferred = version &&
      versions.any fun served => served.version = version && served.kinds.contains Cluster.kind

def firstInterval : Nat :=
  5

def longestInterval : Nat :=
  60

def nextInterval (interval : Nat) : Nat :=
  min (2 * interval) longestInterval

end VpcOperator.Discovery
