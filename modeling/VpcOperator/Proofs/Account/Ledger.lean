import VpcOperator.Proofs.Account.Responder
import VpcOperator.Proofs.Account.Working

/-! # Accounts that go on working

An account in which no request ever fails, and one such account: it is what it
holds, and answers from that.
-/

namespace VpcOperator.Cloud

/-! ## Laws -/

/-- Whatever is asked, the answer is one of an account that works, and the account then is as the
answer says. -/
structure Responder.Works {σ : Type} (responder : Responder σ) (site : Site)
    (inventory : σ → Inventory) : Prop where
  admits : ∀ request state,
    (inventory state).Admits ⟨request, .answer (responder request state).1⟩
  grants : ∀ request state,
    (inventory state).Grants site ⟨request, .answer (responder request state).1⟩
  after : ∀ request state, inventory (responder request state).2 =
    (inventory state).after ⟨request, .answer (responder request state).1⟩

theorem Responder.Works.serve {α σ : Type} {responder : Responder σ} {site : Site}
    {inventory : σ → Inventory} (h : responder.Works site inventory) (p : CloudProgram α)
    (state : σ) :
    (inventory state).Works site (responder.serve p state).1
      (inventory (responder.serve p state).2.2) := by
  induction p generalizing state with
  | done value => exact .nil _
  | ask request next ih =>
    refine .cons (h.admits request state) (h.grants request state) ?_
    rw [← h.after request state]
    exact ih _ _

/-! ## An account that works -/

theorem finds_find? {α : Type} (items : List α) (wanted : α → Prop) [DecidablePred wanted] :
    Finds items wanted (items.find? (wanted ·)) := by
  cases hfound : items.find? (wanted ·) with
  | none => exact fun item hmem => by simpa using List.find?_eq_none.1 hfound item hmem
  | some item => exact ⟨List.mem_of_find?_eq_some hfound, by simpa using List.find?_some hfound⟩

/-- An ID longer than each of these. -/
def unused : List String → String
  | [] => "0"
  | id :: rest => id ++ unused rest

theorem unused_pos (ids : List String) : 0 < (unused ids).length := by
  induction ids with
  | nil => decide
  | cons id rest ih =>
    rw [unused, String.length_append]
    omega

theorem length_lt_unused {ids : List String} {id : String} (hmem : id ∈ ids) :
    id.length < (unused ids).length := by
  induction ids with
  | nil => cases hmem
  | cons first rest ih =>
    rw [unused, String.length_append]
    rcases List.mem_cons.1 hmem with rfl | hmem
    · have hpos := unused_pos rest
      omega
    · have hlt := ih hmem
      omega

theorem fresh_unused (ids : List String) : Fresh ids (unused ids) := by
  refine ⟨fun hblank => ?_, fun hmem => Nat.lt_irrefl _ (length_lt_unused hmem)⟩
  have hpos := unused_pos ids
  rw [hblank] at hpos
  exact Nat.lt_irrefl _ hpos

namespace Ledger

/-- The remote of a rule, listed back as it was given. -/
def liveRemote : RemotePrototype → Remote
  | .cidr block => .cidr block
  | .address ip => .ip ip
  | .group crn => .group none none (some crn)

/-- What is created has yet to be provisioned. -/
def answer (site : Site) (held : Inventory) : (request : Request) → request.Answer
  | .listResourceGroups name => site.resourceGroups.filter (·.name = name)
  | .listZones region => site.zones region
  | .getVpc id => held.vpcs.find? (·.id = id)
  | .findVpc name => held.vpcs.find? (·.name = name)
  | .createVpc prototype =>
    { id := unused (held.vpcs.map (·.id)), name := prototype.name, crn := "", state := .pending }
  | .getSubnet id => held.subnets.find? (·.id = id)
  | .findSubnet name => held.subnets.find? (·.name = name)
  | .createSubnet prototype =>
    { id := unused (held.subnets.map (·.id)), name := prototype.name, crn := ""
      zone := prototype.zone, cidr := some "10.240.0.0/24", state := .pending }
  | .findGateway name resourceGroupId => (held.gatewaysIn resourceGroupId).find? (·.name = name)
  | .createGateway prototype =>
    { id := unused (held.gateways.map (·.gateway.id)), name := prototype.name, crn := ""
      zone := prototype.zone, state := .available }
  | .getSecurityGroup id => held.securityGroups.find? (·.id = id)
  | .findSecurityGroup name => held.securityGroups.find? (·.name = name)
  | .createSecurityGroup prototype =>
    { id := unused (held.securityGroups.map (·.id)), name := prototype.name, crn := "" }
  | .listRules groupId => held.rules groupId
  | .createRule _ prototype =>
    { id := "", direction := prototype.direction, remote := liveRemote prototype.remote
      traffic := Simulation.Account.liveTraffic prototype.protocol }
  | .getLoadBalancer id => held.loadBalancers.find? (·.id = id)
  | .findLoadBalancer name => held.loadBalancers.find? (·.name = name)
  | .createLoadBalancer prototype =>
    { id := unused (held.loadBalancers.map (·.id)), name := prototype.name, crn := ""
      state := .createPending, hostname := none }
  | .getImage id => held.images.find? (·.id = id)
  | .findImage name => held.images.find? (·.name = name)
  | .createImage prototype =>
    { id := unused (held.images.map (·.id)), name := prototype.name, crn := "", state := .pending }
  | .listTags => []
  | .createTag _ | .attachTag _ _ => ()

def responder (site : Site) : Responder Inventory := fun request held =>
  (answer site held request, held.after ⟨request, .answer (answer site held request)⟩)

theorem admits_answer (site : Site) (held : Inventory) (request : Request) :
    held.Admits ⟨request, .answer (answer site held request)⟩ := by
  cases request with
  | findVpc name | findSubnet name | findSecurityGroup name | findLoadBalancer name
  | findImage name | findGateway name resourceGroupId => exact finds_find? _ _
  | createVpc prototype | createSubnet prototype | createGateway prototype
  | createSecurityGroup prototype | createLoadBalancer prototype | createImage prototype =>
    exact ⟨rfl, fresh_unused _⟩
  | _ => trivial

theorem reflects_liveTraffic (protocol : Protocol) :
    (Simulation.Account.liveTraffic protocol).Reflects protocol := by
  cases protocol with
  | all => trivial
  | icmp type code => exact ⟨rfl, rfl⟩
  | ports transport range => cases range <;> exact ⟨rfl, rfl⟩

theorem reflects_liveRemote (remote : RemotePrototype) : (liveRemote remote).Reflects remote := by
  cases remote <;> rfl

theorem grants_answer (site : Site) (held : Inventory) (request : Request) :
    held.Grants site ⟨request, .answer (answer site held request)⟩ := by
  cases request with
  | getVpc id | getSubnet id | getSecurityGroup id | getLoadBalancer id | getImage id =>
    exact finds_find? _ _
  | listResourceGroups name | listZones region | listRules groupId => rfl
  | createSubnet prototype => rfl
  | createRule groupId prototype =>
    exact ⟨rfl, reflects_liveTraffic _, reflects_liveRemote _⟩
  | createLoadBalancer prototype => exact BalancerState.noConfusion
  | _ => trivial

theorem works (site : Site) : (responder site).Works site id where
  admits request held := admits_answer site held request
  grants request held := grants_answer site held request
  after _ _ := rfl

end Ledger

end VpcOperator.Cloud
