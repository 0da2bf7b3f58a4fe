import VpcOperator.Pass.Basic
import VpcOperator.Plan

/-!
# Ownership tags

Everything created for a cluster carries a tag with the cluster's name.
-/

namespace VpcOperator.Pass.Ownership

/-- Attaches a tag, which is created first if the account does not have it. -/
def attach (tag crn : String) : Pass Unit := do
  let tags ← call tag .listTags
  if tags.contains tag then
    call tag (.attachTag tag crn)
  else
    call tag (.createTag tag)
    call tag (.attachTag tag crn)

def mark (plan : Plan) (kind : Kind) (name crn : String) : Pass Unit :=
  mapFailure (.untagged kind name) (attach plan.clusterName crn)

end VpcOperator.Pass.Ownership
