import VpcOperator.Cloud.Request

/-!
# Pools and listeners

A load balancer listens on the API port and on every additional port, and
forwards each port to a pool of its own.
-/

namespace VpcOperator

def Pool.default (name : String) : Pool :=
  { name
    algorithm := "round_robin"
    protocol := "tcp"
    health :=
      { delay := 60, retries := 5, timeout := 30, type := "https", path := some "/readyz"
        port := none } }

namespace Desired.LoadBalancer

/-- The ports and the names of their pools: the API port first, each port once. -/
def ports (balancer : LoadBalancer) (apiPort : UInt16) : List (UInt16 × String) :=
  (apiPort, balancer.name ++ "-pool-" ++ toString apiPort.toNat) ::
    (((balancer.listeners.map (·.port)).filter (· ≠ apiPort)).eraseDups.map fun port =>
      (port, "additional-pool-" ++ toString port.toNat))

/-- The first declared pool with this name, else the default one. -/
def poolNamed (balancer : LoadBalancer) (name : String) : Pool :=
  (balancer.pools.find? (·.name = name)).getD (.default name)

def allPools (balancer : LoadBalancer) (apiPort : UInt16) : List Pool :=
  (balancer.ports apiPort).map fun (_, name) => balancer.poolNamed name

def allListeners (balancer : LoadBalancer) (apiPort : UInt16) : List Cloud.ListenerPrototype :=
  (balancer.ports apiPort).map fun (port, pool) => { port, protocol := "tcp", pool }

end Desired.LoadBalancer

end VpcOperator
