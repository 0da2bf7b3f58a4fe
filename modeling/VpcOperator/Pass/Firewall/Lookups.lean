import VpcOperator.Firewall.Traffic
import VpcOperator.Pass.Basic
import VpcOperator.Plan

/-!
# Matching rules

Whether a live rule already does what one remote of a declared rule asks for,
and which remote a rule is created with. The subnets and groups that remotes
name are looked up once and remembered for the rest of the pass.
-/

namespace VpcOperator

namespace Pass

/-- What has been looked up in this pass, by the names used in rules. -/
structure Lookups where
  cidrs : Table String
  groups : Table Cloud.SecurityGroup
  deriving DecidableEq

namespace Lookups

def none : Lookups :=
  ⟨.empty, .empty⟩

def fetchSubnet (name : String) : Pass (Option Cloud.Subnet) := do
  match (← status).subnetId? name with
  | some id => call id (.getSubnet id)
  | .none => call name (.findSubnet name)

def cidr (name : String) (known : Lookups) : Pass (String × Lookups) := do
  match known.cidrs.find? name with
  | some block => return (block, known)
  | .none =>
    match (← fetchSubnet name).bind (·.cidr) with
    | some block => return (block, { known with cidrs := known.cidrs.insert name block })
    | .none => fail (.notFound .subnet name "cannot resolve the CIDR block of a rule remote")

def fetchGroup (name : String) : Pass (Option Cloud.SecurityGroup) := do
  match (← status).securityGroupId? name with
  | some id => call id (.getSecurityGroup id)
  | .none => call name (.findSecurityGroup name)

def group (name : String) (known : Lookups) : Pass (Cloud.SecurityGroup × Lookups) := do
  match known.groups.find? name with
  | some group => return (group, known)
  | .none =>
    match ← fetchGroup name with
    | some group => return (group, { known with groups := known.groups.insert name group })
    | .none =>
      fail (.notFound .securityGroup name "referenced by a rule remote but does not exist")

/-- A group is recognised by its name, by its remembered ID or by its CRN; only the last needs
a look-up. -/
def matchesRemote (wanted : Desired.Remote) (live : Cloud.Remote) (known : Lookups) :
    Pass (Bool × Lookups) :=
  match wanted, live with
  | .any, .cidr block | .any, .ip block => return (block = anyBlock, known)
  | .address ip, .ip liveIp => return (ip = liveIp, known)
  | .subnet name, .cidr block => do
    let (wantedBlock, known) ← cidr name known
    return (wantedBlock = block, known)
  | .group name, .group liveId liveName liveCrn => do
    let status ← status
    if liveName = some name || (liveId.isSome && liveId = status.securityGroupId? name) then
      return (true, known)
    else
      match liveCrn with
      | .none => return (false, known)
      | some crn =>
        let (wantedGroup, known) ← group name known
        return (crn = wantedGroup.crn, known)
  | _, _ => return (false, known)

def matchesRule (direction : Direction) (protocol : Protocol) (remote : Desired.Remote)
    (live : Cloud.Rule) (known : Lookups) : Pass (Bool × Lookups) :=
  if live.direction = direction && protocol.isCarriedBy live.traffic then
    matchesRemote remote live.remote known
  else
    return (false, known)

/-- The remote a new rule is created with. -/
def prototype (remote : Desired.Remote) (known : Lookups) :
    Pass (Cloud.RemotePrototype × Lookups) :=
  match remote with
  | .any => return (.cidr anyBlock, known)
  | .address ip => return (.address ip, known)
  | .subnet name => do
    let (block, known) ← cidr name known
    return (.cidr block, known)
  | .group name => do
    let (group, known) ← group name known
    return (.group group.crn, known)

end Lookups

end Pass

end VpcOperator
