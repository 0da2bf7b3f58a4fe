import VpcOperator.Cloud.Request

/-!
# Why a pass fails
-/

namespace VpcOperator

open Cloud (ServiceError)

inductive Failure where
  /-- Something that must exist does not, or is not unique. -/
  | notFound (kind : Kind) (name reason : String)
  /-- Something that must be known or declared is not. -/
  | precondition (kind : Kind) (name reason : String)
  /-- The account answered a request with an error. -/
  | service (kind : Kind) (verb target : String) (source : ServiceError)
  /-- A resource was created, but the tag of its cluster is missing. -/
  | untagged (kind : Kind) (name : String) (source : Failure)
  /-- A request outlasted the deadline of the pass. -/
  | cancelled (kind : Kind) (verb target : String)
  deriving DecidableEq

namespace Failure

def kind : Failure → Kind
  | notFound kind .. | precondition kind .. | service kind .. | untagged kind .. | cancelled kind .. =>
    kind

def message : Failure → String
  | notFound kind name reason => kind.label ++ " " ++ name ++ " not found: " ++ reason
  | precondition kind name reason => "cannot reconcile " ++ kind.label ++ " " ++ name ++ ": " ++ reason
  | service kind verb target source =>
    "failed to " ++ verb ++ " " ++ kind.label ++ " " ++ target ++ ": " ++ source.message
  | untagged kind name source =>
    kind.label ++ " " ++ name ++ " was created but could not be tagged: " ++ source.message
  | cancelled kind verb target =>
    "deadline exceeded while trying to " ++ verb ++ " " ++ kind.label ++ " " ++ target

/-- One word for the kind of failure. -/
def reason : Failure → String
  | notFound .. => "NotFound"
  | precondition .. => "PreconditionFailed"
  | service .. => "CloudApiError"
  | untagged .. => "TaggingFailed"
  | cancelled .. => "Cancelled"

/-- The message of what lies behind the failure. -/
def source? : Failure → Option String
  | service _ _ _ source => some source.message
  | untagged _ _ source => some source.message
  | _ => none

end Failure

end VpcOperator
