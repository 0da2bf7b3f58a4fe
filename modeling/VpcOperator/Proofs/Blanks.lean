import VpcOperator.Proofs.Runs

/-! # Blank declarations

Blank text in an optional field says as much as no text: a pass cannot tell the
two apart, by its requests or by what it leaves behind. Only the name of the
VPC is taken as it is, blank or not.
-/

namespace VpcOperator

open Cloud (Request)
open Observed (Status)

@[simp] theorem given?_given? (value : Option String) : given? (given? value) = given? value := by
  simp [given?]

/-- Where no text is needed, blank text and none read the same anyway. -/
theorem getD_given? (value : Option String) : (given? value).getD "" = value.getD "" := by
  cases value with
  | none => rfl
  | some text =>
    rw [given?, Option.filter_some]
    split
    · rfl
    · simp_all

/-! ## Declarations without blanks -/

namespace Desired

def Reference.withoutBlanks (reference : Reference) : Reference :=
  { id := given? reference.id, name := given? reference.name }

theorem Reference.bind_id_withoutBlanks (reference : Option Reference) :
    (reference.map withoutBlanks).bind (·.id) = given? (reference.bind (·.id)) := by
  cases reference <;> rfl

theorem Reference.bind_name_withoutBlanks (reference : Option Reference) :
    (reference.map withoutBlanks).bind (·.name) = given? (reference.bind (·.name)) := by
  cases reference <;> rfl

def Subnet.withoutBlanks (subnet : Subnet) : Subnet :=
  { id := given? subnet.id, name := given? subnet.name, zone := given? subnet.zone }

def SecurityGroup.withoutBlanks (group : SecurityGroup) : SecurityGroup :=
  { group with id := given? group.id, name := given? group.name }

/-- The name of a load balancer is not optional, nor are its pools and listeners affected. -/
def LoadBalancer.withoutBlanks (balancer : LoadBalancer) : LoadBalancer :=
  { balancer with
    id := given? balancer.id
    securityGroups := balancer.securityGroups.map (·.withoutBlanks) }

def Network.withoutBlanks (network : Network) : Network where
  vpc := network.vpc.map (·.withoutBlanks)
  resourceGroup := given? network.resourceGroup
  controlPlaneSubnets := network.controlPlaneSubnets.map (·.withoutBlanks)
  workerSubnets := network.workerSubnets.map (·.withoutBlanks)
  securityGroups := network.securityGroups.map (·.withoutBlanks)
  loadBalancers := network.loadBalancers.map (·.withoutBlanks)

theorem Network.subnets_withoutBlanks (network : Network) (role : Role) :
    network.withoutBlanks.subnets role = (network.subnets role).map (·.withoutBlanks) := by
  cases role <;> rfl

/-- The name of an image is not optional. -/
def Image.withoutBlanks (image : Image) : Image where
  name := image.name
  instanceName := given? image.instanceName
  bucket := given? image.bucket
  bucketRegion := given? image.bucketRegion
  object := given? image.object
  operatingSystem := given? image.operatingSystem
  resourceGroup := image.resourceGroup.map (·.withoutBlanks)

def ClusterSpec.withoutBlanks (spec : ClusterSpec) : ClusterSpec :=
  { spec with network := spec.network.withoutBlanks, image := spec.image.map (·.withoutBlanks) }

end Desired

namespace Plan

variable {plan : Plan}

def withoutBlanks (plan : Plan) : Plan :=
  { plan with spec := plan.spec.withoutBlanks }

theorem vpcName_withoutBlanks (hname : plan.spec.network.vpc.bind (·.name) ≠ some "") :
    plan.withoutBlanks.vpcName = plan.vpcName := by
  have hread : plan.withoutBlanks.spec.network.vpc.bind (·.name) =
      given? (plan.spec.network.vpc.bind (·.name)) :=
    Desired.Reference.bind_name_withoutBlanks _
  unfold vpcName
  rw [hread]
  cases hdeclared : plan.spec.network.vpc.bind (·.name) with
  | none => rfl
  | some text =>
    rw [hdeclared] at hname
    rw [given?, Option.filter_some, if_pos (by simpa using hname)]
    rfl

theorem vpcId_withoutBlanks (hname : plan.spec.network.vpc.bind (·.name) ≠ some "") :
    plan.withoutBlanks.vpcId = plan.vpcId := by
  funext s
  simp only [vpcId, vpcName_withoutBlanks hname]

end Plan

namespace Pass

variable {plan : Plan}

/-! ## Step by step -/

theorem ResourceGroups.step_withoutBlanks (plan : Plan) : step plan.withoutBlanks = step plan := by
  have hread : given? plan.withoutBlanks.spec.network.resourceGroup =
      given? plan.spec.network.resourceGroup :=
    given?_given? _
  have hnetwork : settleNetwork plan.withoutBlanks = settleNetwork plan := by
    unfold settleNetwork
    rw [hread]
    rfl
  unfold step
  rw [hnetwork]
  rfl

theorem Vpc.step_withoutBlanks (hname : plan.spec.network.vpc.bind (·.name) ≠ some "") :
    step plan.withoutBlanks = step plan := by
  have hid : declaredId? plan.withoutBlanks = declaredId? plan := by
    refine (congrArg given? (Desired.Reference.bind_id_withoutBlanks _)).trans ?_
    exact given?_given? _
  have hcreate : create plan.withoutBlanks = create plan := by
    unfold create
    rw [Plan.vpcName_withoutBlanks hname]
    rfl
  have hadopt : adoptOrCreate plan.withoutBlanks = adoptOrCreate plan := by
    unfold adoptOrCreate
    rw [hcreate, Plan.vpcName_withoutBlanks hname]
    refine congrArg (call plan.vpcName (.findVpc plan.vpcName) >>= ·) (funext fun found => ?_)
    cases found <;> rfl
  unfold step
  rw [hid, hadopt]

namespace Image

theorem resourceGroupId_withoutBlanks (plan : Plan) (image : Desired.Image) :
    resourceGroupId plan.withoutBlanks image.withoutBlanks = resourceGroupId plan image := by
  have hid : given? (image.withoutBlanks.resourceGroup.bind (·.id)) =
      given? (image.resourceGroup.bind (·.id)) :=
    (congrArg given? (Desired.Reference.bind_id_withoutBlanks _)).trans (given?_given? _)
  have hname : given? (image.withoutBlanks.resourceGroup.bind (·.name)) =
      given? (image.resourceGroup.bind (·.name)) :=
    (congrArg given? (Desired.Reference.bind_name_withoutBlanks _)).trans (given?_given? _)
  unfold resourceGroupId
  rw [hid, hname]
  rfl

theorem create_withoutBlanks (plan : Plan) (image : Desired.Image) :
    create plan.withoutBlanks image.withoutBlanks = create plan image := by
  have hneed : ∀ field (value : Option String),
      need image.withoutBlanks field (given? value) = need image field value := by
    intro field value
    unfold need
    rw [given?_given?]
    rfl
  have hregion : given? image.withoutBlanks.bucketRegion = given? image.bucketRegion :=
    given?_given? _
  unfold create
  rw [resourceGroupId_withoutBlanks, hregion]
  simp only [← hneed]
  rfl

theorem step_withoutBlanks (plan : Plan) : step plan.withoutBlanks = step plan := by
  have hdeclared : plan.withoutBlanks.spec.image = plan.spec.image.map (·.withoutBlanks) := rfl
  have hwanted : ∀ entry, wantedName entry plan.withoutBlanks.spec.image =
      wantedName entry plan.spec.image := by
    intro entry
    rw [hdeclared, wantedName, Option.map_map]
    rfl
  have hfind : findOrCreate plan.withoutBlanks = findOrCreate plan := by
    funext name
    unfold findOrCreate
    rw [hdeclared]
    cases plan.spec.image with
    | none => rfl
    | some image => simp only [Option.map_some, create_withoutBlanks]
  unfold step
  simp only [hwanted, hfind]
  rw [hdeclared, Option.isNone_map]

end Image

namespace Subnets

variable {role : Desired.Role}

theorem settle_plan_withoutBlanks (hname : plan.spec.network.vpc.bind (·.name) ≠ some "")
    (subnet : Desired.Subnet) : settle plan.withoutBlanks role subnet = settle plan role subnet := by
  have hgateway : Gateway.create plan.withoutBlanks = Gateway.create plan := by
    unfold Gateway.create
    rw [Plan.vpcId_withoutBlanks hname]
    rfl
  have hcreate : create plan.withoutBlanks = create plan := by
    unfold create Gateway.ofZone
    rw [Plan.vpcId_withoutBlanks hname, hgateway]
    rfl
  unfold settle resolve findOrCreate
  rw [hcreate]

theorem settle_withoutBlanks (subnet : Desired.Subnet) :
    settle plan role subnet.withoutBlanks = settle plan role subnet := by
  have hid : given? subnet.withoutBlanks.id = given? subnet.id := given?_given? _
  have hname : given? subnet.withoutBlanks.name = given? subnet.name := given?_given? _
  have hzone : given? subnet.withoutBlanks.zone = given? subnet.zone := given?_given? _
  unfold settle resolve findOrCreate observe remembered?
  rw [hid, hname, hzone]

/-- Generated subnets are the same for both, blank zones included. -/
theorem settleAll_withoutBlanks (hname : plan.spec.network.vpc.bind (·.name) ≠ some "")
    (generated : List Desired.Subnet) :
    settleAll plan.withoutBlanks role
        (wanted (plan.withoutBlanks.spec.network.subnets role) generated) =
      settleAll plan role (wanted (plan.spec.network.subnets role) generated) := by
  have hplan : ∀ subnets : List Desired.Subnet,
      settleAll plan.withoutBlanks role subnets = settleAll plan role subnets := by
    intro subnets
    induction subnets with
    | nil => rfl
    | cons subnet rest ih =>
      unfold settleAll
      rw [settle_plan_withoutBlanks hname, ih]
  have hsubnets : ∀ subnets : List Desired.Subnet,
      settleAll plan role (subnets.map (·.withoutBlanks)) = settleAll plan role subnets := by
    intro subnets
    induction subnets with
    | nil => rfl
    | cons subnet rest ih =>
      rw [List.map_cons]
      unfold settleAll
      rw [settle_withoutBlanks, ih]
  have hdeclared : plan.withoutBlanks.spec.network.subnets role =
      (plan.spec.network.subnets role).map (·.withoutBlanks) :=
    Desired.Network.subnets_withoutBlanks _ role
  rw [hplan, hdeclared, wanted, wanted, List.isEmpty_map]
  split
  · rfl
  · exact hsubnets _

theorem step_withoutBlanks (hname : plan.spec.network.vpc.bind (·.name) ≠ some "") :
    step plan.withoutBlanks = step plan := by
  have hgenerated : generated plan.withoutBlanks = generated plan := by
    unfold generated
    simp only [Plan.withoutBlanks, Desired.ClusterSpec.withoutBlanks, Desired.Network.withoutBlanks,
      List.isEmpty_map]
    rfl
  unfold step
  simp only [hgenerated, settleAll_withoutBlanks hname]

end Subnets

namespace Groups

theorem identify_plan_withoutBlanks (hname : plan.spec.network.vpc.bind (·.name) ≠ some "")
    (group : Desired.SecurityGroup) : identify plan.withoutBlanks group = identify plan group := by
  have hcreate : create plan.withoutBlanks = create plan := by
    unfold create
    rw [Plan.vpcId_withoutBlanks hname]
    rfl
  unfold identify resolve
  rw [hcreate]

theorem identify_withoutBlanks (group : Desired.SecurityGroup) :
    identify plan group.withoutBlanks = identify plan group := by
  have hid : given? group.withoutBlanks.id = given? group.id := given?_given? _
  have hname : given? group.withoutBlanks.name = given? group.name := given?_given? _
  unfold identify resolve observe remembered?
  rw [hid, hname]
  rfl

theorem step_withoutBlanks (hname : plan.spec.network.vpc.bind (·.name) ≠ some "") :
    step plan.withoutBlanks = step plan := by
  have hall : ∀ groups : List Desired.SecurityGroup,
      identifyAll plan.withoutBlanks (groups.map (·.withoutBlanks)) = identifyAll plan groups := by
    intro groups
    induction groups with
    | nil => rfl
    | cons group rest ih =>
      rw [List.map_cons]
      unfold identifyAll
      rw [identify_plan_withoutBlanks hname, identify_withoutBlanks, ih]
  have hdeclared : plan.withoutBlanks.spec.network.securityGroups =
      plan.spec.network.securityGroups.map (·.withoutBlanks) :=
    rfl
  unfold step
  rw [hdeclared, hall]

end Groups

namespace LoadBalancers

theorem securityGroupIds_withoutBlanks (balancer : Desired.LoadBalancer)
    (references : List Desired.Reference) :
    securityGroupIds balancer.withoutBlanks (references.map (·.withoutBlanks)) =
      securityGroupIds balancer references := by
  have hone : ∀ reference : Desired.Reference,
      securityGroupId balancer.withoutBlanks reference.withoutBlanks =
        securityGroupId balancer reference := by
    intro reference
    have hid : given? reference.withoutBlanks.id = given? reference.id := given?_given? _
    have hname : reference.withoutBlanks.name.getD "" = reference.name.getD "" := getD_given? _
    unfold securityGroupId
    rw [hid, hname]
    rfl
  induction references with
  | nil => rfl
  | cons reference rest ih =>
    rw [List.map_cons]
    unfold securityGroupIds
    rw [hone, ih]

theorem create_withoutBlanks (plan : Plan) (balancer : Desired.LoadBalancer) :
    create plan.withoutBlanks balancer.withoutBlanks = create plan balancer := by
  have hgroups : securityGroupIds balancer.withoutBlanks balancer.withoutBlanks.securityGroups =
      securityGroupIds balancer balancer.securityGroups :=
    securityGroupIds_withoutBlanks balancer _
  unfold create
  rw [hgroups]
  rfl

theorem find_withoutBlanks (balancer : Desired.LoadBalancer) :
    find balancer.withoutBlanks = find balancer := by
  have hid : given? balancer.withoutBlanks.id = given? balancer.id := given?_given? _
  unfold find lookUp remembered?
  rw [hid]
  rfl

theorem step_withoutBlanks (plan : Plan) : step plan.withoutBlanks = step plan := by
  have hall : ∀ (balancers : List Desired.LoadBalancer) (created : Bool),
      settleAll plan.withoutBlanks (balancers.map (·.withoutBlanks)) created =
        settleAll plan balancers created := by
    intro balancers
    induction balancers with
    | nil => exact fun _ => rfl
    | cons balancer rest ih =>
      intro created
      rw [List.map_cons]
      unfold settleAll
      rw [find_withoutBlanks, create_withoutBlanks, ih, ih]
  exact hall _ false

end LoadBalancers

/-! ## The whole pass -/

theorem standard_withoutBlanks (hname : plan.spec.network.vpc.bind (·.name) ≠ some "") :
    standard plan.withoutBlanks = standard plan := by
  unfold standard Step.standard
  simp only [runSteps, Step.run, ResourceGroups.step_withoutBlanks, Vpc.step_withoutBlanks hname,
    Image.step_withoutBlanks, Subnets.step_withoutBlanks hname, Groups.step_withoutBlanks hname,
    LoadBalancers.step_withoutBlanks]

/-- Whatever the account does, the same requests are made, the pass ends alike and the same status is
left, whether optional fields are blank or missing. -/
theorem runs_withoutBlanks_iff (hname : plan.spec.network.vpc.bind (·.name) ≠ some "")
    {s s' : Status} {t : Trace} {r : Except Failure Outcome} :
    (standard plan.withoutBlanks).Runs s t r s' ↔ (standard plan).Runs s t r s' := by
  rw [standard_withoutBlanks hname]

/-- Everything is declared, and half of it is blank. -/
def blankPlan : Plan where
  clusterName := "a"
  resourceGroupName := "a"
  spec :=
    { region := "r"
      resourceGroup := ""
      network :=
        { vpc := some ⟨some "", some "v"⟩
          resourceGroup := some ""
          controlPlaneSubnets := [⟨some "", some "c", some ""⟩]
          workerSubnets := [⟨some "3", some "", some ""⟩]
          securityGroups := [{ id := some "", name := some "g", rules := [] }]
          loadBalancers :=
            [{ name := "l", id := some "", isPublic := false, listeners := [], pools := [],
               securityGroups := [⟨some "", some ""⟩] }] }
      image :=
        some { name := "i", instanceName := some "", bucket := some "", bucketRegion := some "",
               object := some "", operatingSystem := some "", resourceGroup := some ⟨some "", some ""⟩ }
      apiServerPort := none }

def blankStart : Status :=
  (Status.empty.putResourceGroup ⟨"1", none⟩).put .vpc "" ⟨"2", "v", true⟩

def blankTrace : Trace :=
  [⟨.getVpc "2", .answer (some ⟨"2", "v", "", .available⟩)⟩,
    ⟨.findImage "i", .answer (some ⟨"6", "i", "", .available⟩)⟩,
    ⟨.findSubnet "c", .answer (some ⟨"4", "c", "", "z", none, .available⟩)⟩,
    ⟨.getSubnet "3", .answer (some ⟨"3", "w", "", "z", none, .available⟩)⟩,
    ⟨.findSecurityGroup "g", .answer (some ⟨"5", "g", ""⟩)⟩,
    ⟨.findLoadBalancer "l", .answer (some ⟨"7", "l", "", .active, none⟩)⟩]

/-- No blank is ever asked about. -/
theorem runs_withoutBlanks_iff_blankPlan :
    blankPlan.spec.network.vpc.bind (·.name) ≠ some "" ∧ blankPlan.withoutBlanks ≠ blankPlan ∧
    ∃ s', (standard blankPlan).Runs blankStart blankTrace (.ok .ready) s' ∧
      (standard blankPlan.withoutBlanks).Runs blankStart blankTrace (.ok .ready) s' := by
  have hname : blankPlan.spec.network.vpc.bind (·.name) ≠ some "" := by decide
  have hrun : ∃ s', (standard blankPlan).Runs blankStart blankTrace (.ok .ready) s' :=
    ⟨_, .ask (.ask (.ask (.ask (.ask (.ask (.done _))))))⟩
  obtain ⟨s', hrun⟩ := hrun
  exact ⟨hname, by decide, s', hrun, (runs_withoutBlanks_iff hname).2 hrun⟩

/-- The VPC has a blank name, and nothing else is declared. -/
def namelessPlan : Plan :=
  { Plan.bare "a" with
    spec := { (Plan.bare "a").spec with
              network := { Desired.Network.empty with vpc := some ⟨none, some ""⟩ } } }

def namelessTrace : Trace :=
  [⟨.findVpc "", .answer none⟩,
    ⟨.createVpc ⟨"", "1", "auto"⟩, .answer ⟨"2", "", "crn", .pending⟩⟩,
    ⟨.listTags, .answer ["a"]⟩,
    ⟨.attachTag "a" "crn", .answer ()⟩]

/-- A VPC without a name is looked for and created, where a missing name would have been generated. -/
theorem blank_vpc_name_is_taken :
    (∃ s', (standard namelessPlan).Runs (Status.empty.putResourceGroup ⟨"1", none⟩) namelessTrace
      (.ok .requeue) s') ∧
    ¬ ∃ r s', (standard namelessPlan.withoutBlanks).Runs (Status.empty.putResourceGroup ⟨"1", none⟩)
      namelessTrace r s' := by
  refine ⟨⟨_, .ask (.ask (.ask (.ask (.done _))))⟩, ?_⟩
  rintro ⟨r, s', hrun⟩
  obtain ⟨reply, rest, ht, -⟩ := Program.runs_ask_iff.1 hrun
  have hgenerated : namelessPlan.withoutBlanks.vpcName ≠ "" := by decide
  simp [namelessTrace, hgenerated] at ht

end Pass

end VpcOperator
