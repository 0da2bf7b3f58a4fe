import VpcOperator.Pass.Firewall.Lookups

/-!
# Enforcing rules

Every remote of a declared rule needs a live rule that satisfies it; where
there is none, one is created.
-/

namespace VpcOperator.Pass.Rules

/-- A declared group that is known to exist. -/
structure Identified where
  id : String
  name : String
  rules : List Desired.Rule
  deriving DecidableEq

/-- Whether one of the live rules does what a remote asks for; the first that does ends the search. -/
def isSatisfied (direction : Direction) (protocol : Protocol) (remote : Desired.Remote) :
    List Cloud.Rule → Lookups → Pass (Bool × Lookups)
  | [], known => return (false, known)
  | live :: rest, known => do
    let (found, known) ← known.matchesRule direction protocol remote live
    if found then
      return (true, known)
    else
      isSatisfied direction protocol remote rest known

def createRule (group : Identified) (direction : Direction) (protocol : Protocol)
    (remote : Desired.Remote) (known : Lookups) : Pass Lookups := do
  let (remote, known) ← known.prototype remote
  let _ ← call group.name (.createRule group.id { direction, protocol, remote })
  return known

/-- A rule is created for every remote that no live rule satisfies. Tells whether none was. -/
def enforceRemotes (group : Identified) (direction : Direction) (protocol : Protocol)
    (live : List Cloud.Rule) : List Desired.Remote → Lookups → Pass (Bool × Lookups)
  | [], known => return (true, known)
  | remote :: rest, known => do
    let (found, known) ← isSatisfied direction protocol remote live known
    if found then
      enforceRemotes group direction protocol live rest known
    else
      let known ← createRule group direction protocol remote known
      let (_, known) ← enforceRemotes group direction protocol live rest known
      return (false, known)

def enforceRule (group : Identified) (rule : Desired.Rule) (known : Lookups) :
    Pass (Bool × Lookups) := do
  let live ← call group.name (.listRules group.id)
  enforceRemotes group rule.direction rule.body.protocol live rule.body.remotes known

def enforceRules (group : Identified) : List Desired.Rule → Lookups → Pass (Bool × Lookups)
  | [], known => return (true, known)
  | rule :: rest, known => do
    let (kept, known) ← enforceRule group rule known
    let (othersKept, known) ← enforceRules group rest known
    return (kept && othersKept, known)

def enforceAll : List Identified → Lookups → Pass (Bool × Lookups)
  | [], known => return (true, known)
  | group :: rest, known => do
    let (kept, known) ← enforceRules group group.rules known
    let (othersKept, known) ← enforceAll rest known
    return (kept && othersKept, known)

end VpcOperator.Pass.Rules
