import VpcOperator.Pass.Firewall.Groups
import VpcOperator.Pass.Image
import VpcOperator.Pass.LoadBalancers
import VpcOperator.Pass.Network.Subnets
import VpcOperator.Pass.Network.Vpc

/-!
# The steps of a pass

A pass goes through its steps in the order in which resources depend on each
other, and ends at the first one that fails or is not ready.
-/

namespace VpcOperator

inductive Step where
  | resourceGroups
  | vpc
  | image
  | subnets
  | securityGroups
  | loadBalancers
  deriving DecidableEq

namespace Step

def kind : Step → Kind
  | resourceGroups => .resourceGroup
  | vpc => .vpc
  | image => .customImage
  | subnets => .subnet
  | securityGroups => .securityGroup
  | loadBalancers => .loadBalancer

def run (plan : Plan) : Step → Pass Outcome
  | resourceGroups => Pass.ResourceGroups.step plan
  | vpc => Pass.Vpc.step plan
  | image => Pass.Image.step plan
  | subnets => Pass.Subnets.step plan
  | securityGroups => Pass.Groups.step plan
  | loadBalancers => Pass.LoadBalancers.step plan

def standard : List Step :=
  [resourceGroups, vpc, image, subnets, securityGroups, loadBalancers]

end Step

namespace Pass

def runSteps (plan : Plan) : List Step → Pass Outcome
  | [] => return .ready
  | step :: rest => do
    match ← step.run plan with
    | .ready => runSteps plan rest
    | .requeue => return .requeue

def standard (plan : Plan) : Pass Outcome :=
  runSteps plan Step.standard

end Pass

end VpcOperator
