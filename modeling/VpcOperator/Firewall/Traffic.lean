import VpcOperator.Cloud.Resource

/-!
# Declared and live traffic

When the traffic of a live rule is the one a declared rule asks for.
-/

namespace VpcOperator

/-- Every address. -/
def anyBlock : String :=
  "0.0.0.0/0"

/-- The live traffic is the declared one. ICMP types and codes count only if both are declared. -/
def Protocol.isCarriedBy (protocol : Protocol) (traffic : Cloud.Traffic) : Bool :=
  match protocol, traffic with
  | .all, .all => true
  | .icmp .., .icmp type code =>
    match protocol.icmpFilter with
    | some (wantedType, wantedCode) => type = some wantedType && code = some wantedCode
    | none => true
  | .ports wanted range, .ports transport .. =>
    wanted = transport && traffic.portRange? = some (range.getD .all)
  | _, _ => false

end VpcOperator
