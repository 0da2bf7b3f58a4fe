import VpcOperator.Controller.Round
import VpcOperator.Proofs.Sharing.Own

/-! # Clusters that share an account

Clusters of different names never take what is the other's, however their
requests alternate. The namespace of a cluster is no part of generated names,
though: clusters of one name share what they find.
-/

namespace VpcOperator

open Observed (Status)

/-! ## Several clusters -/

structure Cluster.Key where
  namespaceName : Option String
  name : String
  deriving DecidableEq

def Cluster.key (cluster : Cluster) : Cluster.Key :=
  ⟨cluster.metadata.namespaceName, cluster.name⟩

/-- All exchanges with an account in their order, each with the cluster that it was made for. -/
abbrev Journal := List (Cluster.Key × Exchange)

namespace Journal

def exchanges (journal : Journal) : Trace :=
  journal.map (·.2)

def of (journal : Journal) (key : Cluster.Key) : Trace :=
  (journal.filter (·.1 = key)).map (·.2)

theorem of_subset (journal : Journal) (key : Cluster.Key) : journal.of key ⊆ journal.exchanges :=
  List.map_subset _ (List.filter_subset_self _)

/-- A subnet for one of the clusters was asked for with a gateway that was created for the other. -/
def SharesGateway (journal : Journal) (one other : Cluster.Key) : Prop :=
  ∃ gatewayPrototype gateway prototype reply,
    ⟨.createGateway gatewayPrototype, .answer gateway⟩ ∈ journal.of one ∧
      ⟨.createSubnet prototype, reply⟩ ∈ journal.of other ∧ prototype.gatewayId = gateway.id

end Journal

/-- The passes for a cluster so far: their exchanges, and what its status has been, the latest
first. No VPC and no subnets are known at the start, and none are ever declared by ID or by name. A
pass starts from a status that the cluster has had; one that is broken off leaves none. -/
inductive Course (key : Cluster.Key) : Trace → List Status → Prop
  | start {s : Status} :
      (∀ kind ∈ [Kind.vpc, .subnet], ∀ id, ¬ s.Caches kind id) → Course key [] [s]
  | pass {cluster : Cluster} {past t : Trace} {held : List Status} {r : Except Failure Outcome}
      {s' : Status} :
      Course key past held → cluster.key = key → (Plan.ofCluster cluster).DeclaresNothing →
      cluster.status.getD .empty ∈ held →
      (Pass.standard (.ofCluster cluster)).Runs (cluster.status.getD .empty) t r s' →
      Course key (past ++ t) (Controller.conclude r s' :: held)
  | broken {cluster : Cluster} {past t lost : Trace} {held : List Status}
      {r : Except Failure Outcome} {s' : Status} :
      Course key past held → cluster.key = key → (Plan.ofCluster cluster).DeclaresNothing →
      cluster.status.getD .empty ∈ held →
      (Pass.standard (.ofCluster cluster)).Runs (cluster.status.getD .empty) (t ++ lost) r s' →
      Course key (past ++ t) held

/-- What a round reports besides does not touch what is remembered. -/
theorem Trace.OwnsAll.conclude {journal : Trace} {cluster : String} {s : Status}
    (h : journal.OwnsAll cluster s) (r : Except Failure Outcome) :
    journal.OwnsAll cluster (Controller.conclude r s) := by
  rintro kind hkind id ⟨shelf, name, entry, rfl, hentry, rfl⟩
  refine h _ hkind _ ⟨shelf, name, entry, rfl, ?_, rfl⟩
  cases shelf <;> exact hentry

theorem Course.keeps {journal t : Trace} {key : Cluster.Key} {held : List Status}
    (h : Course key t held) (hsub : t ⊆ journal) (hjournal : journal.FromNothing)
    (hzones : Pass.Subnets.PlainZones journal) :
    (∀ s ∈ held, journal.OwnsAll key.name s) ∧
      ∀ exchange ∈ t, exchange.Within journal key.name := by
  induction h with
  | start hnone =>
    refine ⟨fun s hs kind hkind id hcaches => ?_, by simp⟩
    obtain rfl := List.mem_singleton.1 hs
    exact absurd hcaches (hnone kind hkind id)
  | pass _ hkey hnothing hstart hrun ih =>
    subst hkey
    obtain ⟨hpast, hlast⟩ := List.append_subset.1 hsub
    obtain ⟨howns, hwithin⟩ := ih hpast
    obtain ⟨hparts, hend⟩ := Pass.standard_keepsOwn hjournal hzones hnothing hrun (howns _ hstart)
    exact ⟨List.forall_mem_cons.2 ⟨(hend hlast).1.conclude _, howns⟩,
      List.forall_mem_append.2 ⟨hwithin, hparts _ [] (by simp) hlast⟩⟩
  | broken _ hkey hnothing hstart hrun ih =>
    subst hkey
    obtain ⟨hpast, hlast⟩ := List.append_subset.1 hsub
    obtain ⟨howns, hwithin⟩ := ih hpast
    obtain ⟨hparts, -⟩ := Pass.standard_keepsOwn hjournal hzones hnothing hrun (howns _ hstart)
    exact ⟨howns, List.forall_mem_append.2 ⟨hwithin, hparts _ _ rfl hlast⟩⟩

namespace Journal

variable {journal : Journal} {one other : Cluster.Key} {held held' : List Status}

theorem not_sharesGateway (hnames : one.name ≠ other.name)
    (hjournal : journal.exchanges.FromNothing)
    (hone : ∀ exchange ∈ journal.of one, exchange.Within journal.exchanges one.name)
    (hother : ∀ exchange ∈ journal.of other, exchange.Within journal.exchanges other.name) :
    ¬ journal.SharesGateway one other := by
  rintro ⟨gatewayPrototype, gateway, prototype, reply, hgateway, hsubnet, hid⟩
  have hcreated : journal.exchanges.Owns one.name .publicGateway gateway.id := hone _ hgateway
  have hused : journal.exchanges.Owns other.name .publicGateway prototype.gatewayId :=
    hother _ hsubnet
  exact hnames (hcreated.cluster_unique (hid ▸ hused) hjournal)

/-- In an account that was empty at first, clusters of different names that declare nothing keep
apart, however their requests alternate and wherever their passes are broken off: the ID of a VPC or
of a subnet is never remembered for both, and no subnet of one gets a gateway of the other. -/
theorem clusters_keep_apart (hnames : one.name ≠ other.name)
    (hjournal : journal.exchanges.FromNothing) (hzones : Pass.Subnets.PlainZones journal.exchanges)
    (hone : Course one (journal.of one) held) (hother : Course other (journal.of other) held') :
    (∀ s ∈ held, ∀ s' ∈ held', ∀ kind ∈ [Kind.vpc, .subnet], ∀ id,
      ¬ (s.Caches kind id ∧ s'.Caches kind id)) ∧
    ¬ journal.SharesGateway one other ∧ ¬ journal.SharesGateway other one := by
  obtain ⟨howns, hwithin⟩ := hone.keeps (journal.of_subset one) hjournal hzones
  obtain ⟨howns', hwithin'⟩ := hother.keeps (journal.of_subset other) hjournal hzones
  refine ⟨?_, not_sharesGateway hnames hjournal hwithin hwithin',
    not_sharesGateway hnames.symm hjournal hwithin' hwithin⟩
  rintro s hs s' hs' kind hkind id ⟨hcaches, hcaches'⟩
  exact hnames ((howns s hs kind hkind id hcaches).cluster_unique
    (howns' s' hs' kind hkind id hcaches') hjournal)

/-! ## Two clusters in an account -/

def bareCluster (key : Cluster.Key) (status : Status) : Cluster :=
  { metadata := { name := some key.name, generateName := none, namespaceName := key.namespaceName,
                  labels := none }
    spec := (Plan.bare key.name).spec
    status := some status }

theorem bareCluster_declares_nothing (key : Cluster.Key) (status : Status) :
    (Plan.ofCluster (bareCluster key status)).DeclaresNothing := by
  refine ⟨rfl, rfl, ?_⟩
  rintro (_ | _) subnet hmem <;> cases hmem

def groupedStatus : Status :=
  Status.empty.putResourceGroup ⟨"1", none⟩

theorem grouped_course (key : Cluster.Key) : Course key [] [groupedStatus] := by
  refine .start ?_
  rintro kind - id ⟨shelf, name, entry, -, hentry, -⟩
  cases shelf <;> cases hentry

/-- The VPC is created, but it cannot be tagged. What is created for a cluster gets the cluster's
name as its ID. -/
def vpcExchanges (cluster : String) : Trace :=
  [⟨.findVpc (cluster ++ "-vpc"), .answer none⟩,
    ⟨.createVpc ⟨cluster ++ "-vpc", "1", "auto"⟩,
      .answer ⟨cluster, cluster ++ "-vpc", "crn", .available⟩⟩,
    ⟨.listTags, .aborted⟩]

def vpcStatus (cluster : String) : Status :=
  Controller.conclude
    (.error (.untagged .vpc (cluster ++ "-vpc") (.cancelled .tag "list" cluster)))
    (groupedStatus.put .vpc "" ⟨cluster, cluster ++ "-vpc", false⟩)

theorem vpc_course (key : Cluster.Key) :
    Course key (vpcExchanges key.name) [vpcStatus key.name, groupedStatus] := by
  have hrun : (Pass.standard (.ofCluster (bareCluster key groupedStatus))).Runs groupedStatus
      (vpcExchanges key.name) _ _ := .ask (.ask (.ask (.done _)))
  exact (grouped_course key).pass rfl (bareCluster_declares_nothing _ _) (by simp [bareCluster])
    hrun

/-- The gateway is created for the control plane. It cannot be tagged either, but the subnet of the
workers gets it. -/
def subnetExchanges (cluster : String) : Trace :=
  let gateway : Cloud.Gateway := ⟨cluster, cluster ++ "-pgateway-z", "crn", "z", .available⟩
  [⟨.getVpc cluster, .answer (some ⟨cluster, cluster ++ "-vpc", "crn", .available⟩)⟩,
    ⟨.listZones "", .answer ["z"]⟩,
    ⟨.findSubnet (cluster ++ "-subnet-z"), .answer none⟩,
    ⟨.findGateway (cluster ++ "-pgateway-z") "1", .answer none⟩,
    ⟨.createGateway ⟨cluster ++ "-pgateway-z", cluster, "z", "1"⟩, .answer gateway⟩,
    ⟨.listTags, .aborted⟩,
    ⟨.findSubnet (cluster ++ "-subnet-z"), .answer none⟩,
    ⟨.findGateway (cluster ++ "-pgateway-z") "1", .answer (some gateway)⟩,
    ⟨.createSubnet ⟨cluster ++ "-subnet-z", cluster, "z", "1", cluster, "ipv4", 256⟩,
      .answer ⟨cluster, cluster ++ "-subnet-z", "crn", "z", none, .pending⟩⟩]

def keyA : Cluster.Key := ⟨some "x", "a"⟩

def keyB : Cluster.Key := ⟨some "x", "b"⟩

/-- The second pass is broken off after it has asked for the subnet. -/
theorem subnet_course {key : Cluster.Key} (hkey : key = keyA ∨ key = keyB) :
    Course key (vpcExchanges key.name ++ subnetExchanges key.name)
      [vpcStatus key.name, groupedStatus] := by
  have hrun : ∃ r s', (Pass.standard (.ofCluster (bareCluster key (vpcStatus key.name)))).Runs
      (vpcStatus key.name) (subnetExchanges key.name ++ [⟨.listTags, .aborted⟩]) r s' := by
    rcases hkey with rfl | rfl <;>
      exact ⟨_, _, .ask (.ask (.ask (.ask (.ask (.ask (.ask (.ask (.ask (.ask (.done _))))))))))⟩
  obtain ⟨r, s', hrun⟩ := hrun
  exact (vpc_course key).broken rfl (bareCluster_declares_nothing _ _) (by simp [bareCluster]) hrun

/-- The requests for two clusters alternate. -/
def alternating : Journal :=
  ((vpcExchanges "a" ++ subnetExchanges "a").zip (vpcExchanges "b" ++ subnetExchanges "b")).flatMap
    fun (one, other) => [(keyA, one), (keyB, other)]

theorem alternating_fromNothing : alternating.exchanges.FromNothing where
  account := by
    refine Cloud.Inventory.Steady.follows ?_
    simp [alternating, exchanges, vpcExchanges, subnetExchanges, Cloud.Inventory.Steady,
      Cloud.Inventory.Admits, Cloud.Inventory.after, Cloud.Inventory.empty, Cloud.Finds,
      Cloud.Fresh, Cloud.Inventory.gatewaysIn]
  truthful := by
    simp [alternating, exchanges, vpcExchanges, subnetExchanges, Exchange.Truthful]
  ids := by decide

theorem alternating_plainZones : Pass.Subnets.PlainZones alternating.exchanges := by
  intro region zones hmem zone hzone
  obtain ⟨-, rfl⟩ : region = "" ∧ zones = ["z"] := by
    simpa [alternating, exchanges, vpcExchanges, subnetExchanges] using hmem
  obtain rfl := List.mem_singleton.1 hzone
  exact ⟨by decide, by decide⟩

theorem clusters_keep_apart_alternating :
    (alternating.exchanges.FromNothing ∧ Pass.Subnets.PlainZones alternating.exchanges ∧
      Course keyA (alternating.of keyA) [vpcStatus "a", groupedStatus] ∧
      Course keyB (alternating.of keyB) [vpcStatus "b", groupedStatus]) ∧
    ¬ ((vpcStatus "a").Caches .vpc "a" ∧ (vpcStatus "b").Caches .vpc "a") ∧
    ¬ alternating.SharesGateway keyA keyB ∧ ¬ alternating.SharesGateway keyB keyA := by
  have hone : Course keyA (alternating.of keyA) _ := subnet_course (.inl rfl)
  have hother : Course keyB (alternating.of keyB) _ := subnet_course (.inr rfl)
  obtain ⟨hcached, hgateways⟩ := clusters_keep_apart (by decide) alternating_fromNothing
    alternating_plainZones hone hother
  exact ⟨⟨alternating_fromNothing, alternating_plainZones, hone, hother⟩,
    hcached _ (by simp [keyA]) _ (by simp [keyB]) .vpc (by simp) "a", hgateways⟩

def namesake : Cluster.Key := ⟨some "y", "a"⟩

/-- One has its VPC, and then the other looks for its own. -/
def ofNamesakes : Journal :=
  (vpcExchanges "a").map (keyA, ·) ++
    [(namesake, ⟨.findVpc "a-vpc", .answer (some ⟨"a", "a-vpc", "crn", .available⟩)⟩)]

/-- Clusters of one name in two namespaces remember the same VPC as theirs. -/
theorem namesakes_share_a_vpc :
    keyA ≠ namesake ∧ ofNamesakes.exchanges.FromNothing ∧
    Pass.Subnets.PlainZones ofNamesakes.exchanges ∧
    ∃ held held', Course keyA (ofNamesakes.of keyA) held ∧
      Course namesake (ofNamesakes.of namesake) held' ∧
      ∃ s ∈ held, ∃ s' ∈ held', s.Caches .vpc "a" ∧ s'.Caches .vpc "a" := by
  have hfromNothing : ofNamesakes.exchanges.FromNothing := by
    refine ⟨Cloud.Inventory.Steady.follows ?_, ?_, by decide⟩
    · simp [ofNamesakes, exchanges, vpcExchanges, Cloud.Inventory.Steady, Cloud.Inventory.Admits,
        Cloud.Inventory.after, Cloud.Inventory.empty, Cloud.Finds, Cloud.Fresh]
    · simp [ofNamesakes, exchanges, vpcExchanges, Exchange.Truthful]
  have hzones : Pass.Subnets.PlainZones ofNamesakes.exchanges := by
    intro region zones hmem
    simp [ofNamesakes, exchanges, vpcExchanges] at hmem
  have hrun : (Pass.standard (.ofCluster (bareCluster namesake groupedStatus))).Runs groupedStatus
      (ofNamesakes.of namesake) _ _ := .ask (.done _)
  have hone : Course keyA (ofNamesakes.of keyA) _ := vpc_course keyA
  have hother : Course namesake (ofNamesakes.of namesake) _ :=
    (grouped_course namesake).pass rfl (bareCluster_declares_nothing _ _) (by simp [bareCluster])
      hrun
  exact ⟨by decide, hfromNothing, hzones, _, _, hone, hother, _, List.mem_cons_self, _,
    List.mem_cons_self, ⟨.vpc, "", _, rfl, rfl, rfl⟩, ⟨.vpc, "", _, rfl, rfl, rfl⟩⟩

end Journal

end VpcOperator
