import VpcOperator.Proofs.Ready.Answers

/-! # Ready security groups

A step that ends ready has found an ID for every declared group, and among the
rules listed for it one for every remote. What rules name has been looked up in
the same pass: `T` stands for all exchanges of it.
-/

namespace VpcOperator.Observed.Status

theorem Same.subnetId? {s s' : Status} (h : ∀ role, Same (.shelf (.subnets role)) s s')
    (name : String) : s'.subnetId? name = s.subnetId? name := by
  rw [Status.subnetId?, Status.subnetId?, (h .controlPlane).find?, (h .worker).find?]

theorem Same.securityGroupId? {s s' : Status} (h : Same (.shelf .securityGroups) s s')
    (name : String) : s'.securityGroupId? name = s.securityGroupId? name := by
  rw [Status.securityGroupId?, Status.securityGroupId?, h.find?]

end VpcOperator.Observed.Status

namespace VpcOperator.Pass

open Observed (Status)

variable {plan : Plan} {s s' : Status} {t T : Trace}

namespace Lookups

variable {known known' : Lookups} {name : String}

/-- The subnet was looked up under this name: by the ID remembered for it, if there is one. -/
def NamesSubnet (s : Status) (T : Trace) (name : String) (subnet : Cloud.Subnet) : Prop :=
  match s.subnetId? name with
  | some id => ⟨.getSubnet id, .answer (some subnet)⟩ ∈ T
  | .none => ⟨.findSubnet name, .answer (some subnet)⟩ ∈ T

/-- The group was looked up under this name: by the ID remembered for it, if there is one. -/
def NamesGroup (s : Status) (T : Trace) (name : String) (group : Cloud.SecurityGroup) : Prop :=
  match s.securityGroupId? name with
  | some id => ⟨.getSecurityGroup id, .answer (some group)⟩ ∈ T
  | .none => ⟨.findSecurityGroup name, .answer (some group)⟩ ∈ T

/-- The live remote is the one that is wanted. -/
def Serves (s : Status) (T : Trace) : Desired.Remote → Cloud.Remote → Prop
  | .any, .cidr block | .any, .ip block => block = anyBlock
  | .address ip, .ip liveIp => liveIp = ip
  | .subnet name, .cidr block => ∃ subnet, NamesSubnet s T name subnet ∧ subnet.cidr = some block
  | .group name, .group liveId liveName liveCrn =>
    liveName = some name ∨ (liveId.isSome ∧ liveId = s.securityGroupId? name) ∨
      ∃ group, NamesGroup s T name group ∧ liveCrn = some group.crn
  | _, _ => False

/-- What is known in a pass is what has been answered in it. -/
structure Backed (s : Status) (T : Trace) (known : Lookups) : Prop where
  cidrs : ∀ name block, known.cidrs.find? name = some block →
    ∃ subnet, NamesSubnet s T name subnet ∧ subnet.cidr = some block
  groups : ∀ name group, known.groups.find? name = some group → NamesGroup s T name group

theorem backed_none : Backed s T none :=
  ⟨by simp [none], by simp [none]⟩

theorem fetchSubnet_ok {found : Option Cloud.Subnet}
    (h : (fetchSubnet name).Runs s t (.ok found) s') (hsub : t ⊆ T) :
    s' = s ∧ ∀ subnet, found = some subnet → NamesSubnet s T name subnet := by
  rw [fetchSubnet, runs_status_bind] at h
  unfold NamesSubnet
  cases hid : s.subnetId? name with
  | some id =>
    rw [hid] at h
    obtain ⟨rfl, rfl⟩ := runs_call_ok.1 h
    refine ⟨rfl, fun subnet hfound => hsub ?_⟩
    rw [hfound]
    exact List.mem_cons_self
  | none =>
    rw [hid] at h
    obtain ⟨rfl, rfl⟩ := runs_call_ok.1 h
    refine ⟨rfl, fun subnet hfound => hsub ?_⟩
    rw [hfound]
    exact List.mem_cons_self

theorem fetchGroup_ok {found : Option Cloud.SecurityGroup}
    (h : (fetchGroup name).Runs s t (.ok found) s') (hsub : t ⊆ T) :
    s' = s ∧ ∀ group, found = some group → NamesGroup s T name group := by
  rw [fetchGroup, runs_status_bind] at h
  unfold NamesGroup
  cases hid : s.securityGroupId? name with
  | some id =>
    rw [hid] at h
    obtain ⟨rfl, rfl⟩ := runs_call_ok.1 h
    refine ⟨rfl, fun group hfound => hsub ?_⟩
    rw [hfound]
    exact List.mem_cons_self
  | none =>
    rw [hid] at h
    obtain ⟨rfl, rfl⟩ := runs_call_ok.1 h
    refine ⟨rfl, fun group hfound => hsub ?_⟩
    rw [hfound]
    exact List.mem_cons_self

theorem cidr_ok {block : String} (h : (cidr name known).Runs s t (.ok (block, known')) s')
    (hsub : t ⊆ T) (hbacked : known.Backed s T) :
    s' = s ∧ known'.Backed s T ∧
      ∃ subnet, NamesSubnet s T name subnet ∧ subnet.cidr = some block := by
  unfold cidr at h
  split at h
  · rename_i hfind
    obtain ⟨rfl, ⟨⟩, rfl⟩ := runs_pure_ok.1 h
    exact ⟨rfl, hbacked, hbacked.cidrs name _ hfind⟩
  · obtain ⟨found, mid, first, rest, rfl, hfetch, hrest⟩ := runs_bind_ok.1 h
    obtain ⟨rfl, hnames⟩ := fetchSubnet_ok hfetch (List.append_subset.1 hsub).1
    split at hrest
    · rename_i hblock
      obtain ⟨rfl, ⟨⟩, rfl⟩ := runs_pure_ok.1 hrest
      obtain ⟨subnet, rfl, hcidr⟩ := Option.bind_eq_some_iff.1 hblock
      have hsubnet := hnames subnet rfl
      have hcidrs := Table.forall_find?_insert hbacked.cidrs ⟨subnet, hsubnet, hcidr⟩
      exact ⟨rfl, ⟨hcidrs, hbacked.groups⟩, subnet, hsubnet, hcidr⟩
    · simp at hrest

theorem group_ok {group : Cloud.SecurityGroup}
    (h : (Lookups.group name known).Runs s t (.ok (group, known')) s') (hsub : t ⊆ T)
    (hbacked : known.Backed s T) : s' = s ∧ known'.Backed s T ∧ NamesGroup s T name group := by
  unfold Lookups.group at h
  split at h
  · rename_i hfind
    obtain ⟨rfl, ⟨⟩, rfl⟩ := runs_pure_ok.1 h
    exact ⟨rfl, hbacked, hbacked.groups name _ hfind⟩
  · obtain ⟨found, mid, first, rest, rfl, hfetch, hrest⟩ := runs_bind_ok.1 h
    obtain ⟨rfl, hnames⟩ := fetchGroup_ok hfetch (List.append_subset.1 hsub).1
    split at hrest
    · obtain ⟨rfl, ⟨⟩, rfl⟩ := runs_pure_ok.1 hrest
      have hgroup := hnames _ rfl
      exact ⟨rfl, ⟨hbacked.cidrs, Table.forall_find?_insert hbacked.groups hgroup⟩, hgroup⟩
    · simp at hrest

theorem matchesRemote_ok {wanted : Desired.Remote} {live : Cloud.Remote} {found : Bool}
    (h : (matchesRemote wanted live known).Runs s t (.ok (found, known')) s') (hsub : t ⊆ T)
    (hbacked : known.Backed s T) :
    s' = s ∧ known'.Backed s T ∧ (found = true → Serves s T wanted live) := by
  unfold matchesRemote at h
  split at h
  · obtain ⟨-, ⟨⟩, rfl⟩ := runs_pure_ok.1 h
    exact ⟨rfl, hbacked, of_decide_eq_true⟩
  · obtain ⟨-, ⟨⟩, rfl⟩ := runs_pure_ok.1 h
    exact ⟨rfl, hbacked, of_decide_eq_true⟩
  · obtain ⟨-, ⟨⟩, rfl⟩ := runs_pure_ok.1 h
    exact ⟨rfl, hbacked, fun hfound => (of_decide_eq_true hfound).symm⟩
  · obtain ⟨⟨block, known₁⟩, mid, first, rest, rfl, hcidr, hrest⟩ := runs_bind_ok.1 h
    obtain ⟨rfl, hbacked₁, hserves⟩ :=
      cidr_ok hcidr (List.append_subset.1 hsub).1 hbacked
    obtain ⟨-, ⟨⟩, rfl⟩ := runs_pure_ok.1 hrest
    exact ⟨rfl, hbacked₁, fun hfound => of_decide_eq_true hfound ▸ hserves⟩
  · rw [runs_status_bind] at h
    split at h
    · rename_i hknown
      obtain ⟨-, ⟨⟩, rfl⟩ := runs_pure_ok.1 h
      refine ⟨rfl, hbacked, fun _ => ?_⟩
      simp only [Bool.or_eq_true, decide_eq_true_eq, Bool.and_eq_true] at hknown
      exact hknown.imp_right .inl
    · split at h
      · obtain ⟨-, ⟨⟩, rfl⟩ := runs_pure_ok.1 h
        exact ⟨rfl, hbacked, by simp⟩
      · obtain ⟨⟨group, known₁⟩, mid, first, rest, rfl, hgroup, hrest⟩ := runs_bind_ok.1 h
        obtain ⟨rfl, hbacked₁, hnames⟩ :=
          group_ok hgroup (List.append_subset.1 hsub).1 hbacked
        obtain ⟨-, ⟨⟩, rfl⟩ := runs_pure_ok.1 hrest
        refine ⟨rfl, hbacked₁, fun hfound => .inr (.inr ⟨group, hnames, ?_⟩)⟩
        rw [of_decide_eq_true hfound]
  · obtain ⟨-, ⟨⟩, rfl⟩ := runs_pure_ok.1 h
    exact ⟨rfl, hbacked, by simp⟩

end Lookups

namespace Rules

variable {known known' : Lookups} {group : Identified} {direction : Direction}
  {protocol : Protocol} {remote : Desired.Remote} {remotes : List Desired.Remote}
  {live : List Cloud.Rule} {rule : Desired.Rule} {rules : List Desired.Rule}

/-- The live rule does what a declared rule asks for with one of its remotes. -/
structure Fits (s : Status) (T : Trace) (direction : Direction) (protocol : Protocol)
    (remote : Desired.Remote) (live : Cloud.Rule) : Prop where
  direction : live.direction = direction
  traffic : protocol.isCarriedBy live.traffic = true
  remote : Lookups.Serves s T remote live.remote

/-- Every remote of the rule is served by a rule that was listed for the group with this ID. -/
def Kept (s : Status) (T : Trace) (groupId : String) (rule : Desired.Rule) : Prop :=
  ∃ live, ⟨.listRules groupId, .answer live⟩ ∈ T ∧
    ∀ remote ∈ rule.body.remotes, ∃ one ∈ live, Fits s T rule.direction rule.body.protocol remote one

theorem Fits.frame {one : Cloud.Rule} (h : Fits s T direction protocol remote one)
    (hsubnets : ∀ role, Status.Same (.shelf (.subnets role)) s s')
    (hgroups : Status.Same (.shelf .securityGroups) s s') :
    Fits s' T direction protocol remote one := by
  obtain ⟨hdirection, htraffic, hserves⟩ := h
  refine ⟨hdirection, htraffic, ?_⟩
  unfold Lookups.Serves Lookups.NamesSubnet Lookups.NamesGroup at *
  simpa only [Status.Same.subnetId? hsubnets, hgroups.securityGroupId?] using hserves

theorem Kept.frame {groupId : String} (h : Kept s T groupId rule)
    (hsubnets : ∀ role, Status.Same (.shelf (.subnets role)) s s')
    (hgroups : Status.Same (.shelf .securityGroups) s s') : Kept s' T groupId rule := by
  obtain ⟨live, hlist, hfits⟩ := h
  refine ⟨live, hlist, fun remote hmem => ?_⟩
  obtain ⟨one, hone, hfit⟩ := hfits remote hmem
  exact ⟨one, hone, hfit.frame hsubnets hgroups⟩

theorem isSatisfied_ok {found : Bool}
    (h : (isSatisfied direction protocol remote live known).Runs s t (.ok (found, known')) s')
    (hsub : t ⊆ T) (hbacked : known.Backed s T) :
    s' = s ∧ known'.Backed s T ∧
      (found = true → ∃ one ∈ live, Fits s T direction protocol remote one) := by
  induction live generalizing known t with
  | nil =>
    obtain ⟨-, ⟨⟩, rfl⟩ := runs_pure_ok.1 h
    exact ⟨rfl, hbacked, by simp⟩
  | cons one others ih =>
    obtain ⟨⟨first, known₁⟩, mid, t₁, t₂, rfl, hmatch, hrest⟩ := runs_bind_ok.1 h
    obtain ⟨hsub₁, hsub₂⟩ := List.append_subset.1 hsub
    have hone : mid = s ∧ known₁.Backed s T ∧
        (first = true → Fits s T direction protocol remote one) := by
      unfold Lookups.matchesRule at hmatch
      split at hmatch
      · rename_i hcarried
        obtain ⟨hdirection, hcarried⟩ := by simpa using hcarried
        obtain ⟨rfl, hbacked₁, hserves⟩ := Lookups.matchesRemote_ok hmatch hsub₁ hbacked
        exact ⟨rfl, hbacked₁, fun hfirst => ⟨hdirection, hcarried, hserves hfirst⟩⟩
      · obtain ⟨-, ⟨⟩, rfl⟩ := runs_pure_ok.1 hmatch
        exact ⟨rfl, hbacked, by simp⟩
    obtain ⟨rfl, hbacked₁, hfits⟩ := hone
    dsimp only at hrest
    split at hrest
    · obtain ⟨-, ⟨⟩, rfl⟩ := runs_pure_ok.1 hrest
      exact ⟨rfl, hbacked₁, fun _ => ⟨one, by simp, hfits ‹_›⟩⟩
    · obtain ⟨rfl, hbacked₂, hothers⟩ := ih hrest hsub₂ hbacked₁
      refine ⟨rfl, hbacked₂, fun hfound => ?_⟩
      obtain ⟨other, hmem, hfits⟩ := hothers hfound
      exact ⟨other, List.mem_cons_of_mem _ hmem, hfits⟩

/-- A part of the step that finds everything in place, with what it has learned for the rest. -/
structure Passes (s : Status) (T t : Trace) (known : Lookups) (s' : Status) : Prop where
  same : s' = s
  backed : known.Backed s T
  changes_nothing : t.ChangesNothing

theorem Passes.append {s₁ : Status} {t₁ t₂ : Trace} {known₁ : Lookups}
    (h₁ : Passes s T t₁ known₁ s₁) (h₂ : Passes s₁ T t₂ known s') :
    Passes s T (t₁ ++ t₂) known s' := by
  obtain rfl := h₁.same
  exact ⟨h₂.same, h₂.backed,
    Trace.changesNothing_append.2 ⟨h₁.changes_nothing, h₂.changes_nothing⟩⟩

theorem enforceRemotes_kept
    (h : (enforceRemotes group direction protocol live remotes known).Runs s t
      (.ok (true, known')) s')
    (hsub : t ⊆ T) (hbacked : known.Backed s T) :
    Passes s T t known' s' ∧
      ∀ remote ∈ remotes, ∃ one ∈ live, Fits s T direction protocol remote one := by
  induction remotes generalizing known t with
  | nil =>
    obtain ⟨rfl, ⟨⟩, rfl⟩ := runs_pure_ok.1 h
    exact ⟨⟨rfl, hbacked, by simp⟩, by simp⟩
  | cons remote rest ih =>
    obtain ⟨⟨found, known₁⟩, mid, t₁, t₂, rfl, hfound, hrest⟩ := runs_bind_ok.1 h
    obtain ⟨hsub₁, hsub₂⟩ := List.append_subset.1 hsub
    have hnothing := (isSatisfied_does _ _ _ _ _ hfound).changes_nothing
    obtain ⟨rfl, hbacked₁, hserved⟩ := isSatisfied_ok hfound hsub₁ hbacked
    dsimp only at hrest
    split at hrest
    · obtain ⟨hpasses, hothers⟩ := ih hrest hsub₂ hbacked₁
      refine ⟨.append ⟨rfl, hbacked₁, hnothing⟩ hpasses, fun other hmem => ?_⟩
      rcases List.mem_cons.1 hmem with rfl | hmem
      · exact hserved ‹_›
      · exact hothers other hmem
    · obtain ⟨_, _, _, _, -, -, hrest⟩ := runs_bind_ok.1 hrest
      obtain ⟨_, _, _, _, -, -, hrest⟩ := runs_bind_ok.1 hrest
      simp at hrest

theorem enforceRules_kept
    (h : (enforceRules group rules known).Runs s t (.ok (true, known')) s') (hsub : t ⊆ T)
    (hbacked : known.Backed s T) :
    Passes s T t known' s' ∧ ∀ rule ∈ rules, Kept s T group.id rule := by
  induction rules generalizing known s t with
  | nil =>
    obtain ⟨rfl, ⟨⟩, rfl⟩ := runs_pure_ok.1 h
    exact ⟨⟨rfl, hbacked, by simp⟩, by simp⟩
  | cons rule rest ih =>
    obtain ⟨⟨first, known₁⟩, mid, t₁, t₂, rfl, hrule, hrest⟩ := runs_bind_ok.1 h
    obtain ⟨⟨others, known₂⟩, mid', t₂, t₃, rfl, hothers, hend⟩ := runs_bind_ok.1 hrest
    obtain ⟨rfl, hkept, rfl⟩ := runs_pure_ok.1 hend
    simp only [Prod.mk.injEq, Bool.true_eq, Bool.and_eq_true] at hkept
    obtain ⟨⟨rfl, rfl⟩, rfl⟩ := hkept
    simp only [List.append_subset] at hsub
    obtain ⟨live, t₁, rfl, hremotes⟩ := runs_call_bind_ok.1 hrule
    obtain ⟨hlist, hsub₁⟩ := List.cons_subset.1 hsub.1
    obtain ⟨hpasses, hserved⟩ := enforceRemotes_kept hremotes hsub₁ hbacked
    have hone : Passes s T (⟨.listRules group.id, .answer live⟩ :: t₁) known₁ mid :=
      ⟨hpasses.same, hpasses.backed, by simpa using hpasses.changes_nothing⟩
    obtain rfl := hpasses.same
    obtain ⟨hpasses', hrules⟩ := ih hothers hsub.2.1 hpasses.backed
    refine ⟨by simpa using hone.append hpasses', fun other hmem => ?_⟩
    rcases List.mem_cons.1 hmem with rfl | hmem
    · exact ⟨live, hlist, hserved⟩
    · exact hrules other hmem

theorem enforceAll_kept {groups : List Identified}
    (h : (enforceAll groups known).Runs s t (.ok (true, known')) s') (hsub : t ⊆ T)
    (hbacked : known.Backed s T) :
    Passes s T t known' s' ∧ ∀ group ∈ groups, ∀ rule ∈ group.rules, Kept s T group.id rule := by
  induction groups generalizing known s t with
  | nil =>
    obtain ⟨rfl, ⟨⟩, rfl⟩ := runs_pure_ok.1 h
    exact ⟨⟨rfl, hbacked, by simp⟩, by simp⟩
  | cons group rest ih =>
    obtain ⟨⟨first, known₁⟩, mid, t₁, t₂, rfl, hrules, hrest⟩ := runs_bind_ok.1 h
    obtain ⟨⟨others, known₂⟩, mid', t₂, t₃, rfl, hothers, hend⟩ := runs_bind_ok.1 hrest
    obtain ⟨rfl, hkept, rfl⟩ := runs_pure_ok.1 hend
    simp only [Prod.mk.injEq, Bool.true_eq, Bool.and_eq_true] at hkept
    obtain ⟨⟨rfl, rfl⟩, rfl⟩ := hkept
    simp only [List.append_subset] at hsub
    obtain ⟨hpasses, hone⟩ := enforceRules_kept hrules hsub.1 hbacked
    obtain rfl := hpasses.same
    obtain ⟨hpasses', hgroups⟩ := ih hothers hsub.2.1 hpasses.backed
    refine ⟨by simpa using hpasses.append hpasses', fun other hmem => ?_⟩
    rcases List.mem_cons.1 hmem with rfl | hmem
    · exact hone
    · exact hgroups other hmem

end Rules

namespace Groups

open Rules (Identified)

variable {before : Status} {group : Desired.SecurityGroup} {found : Identified}

/-- The group with this ID goes by the name: it was remembered under it before the pass, or was
answered in the pass under it or for a declaration that keeps it under it. -/
inductive GoesBy (plan : Plan) (before : Status) (T : Trace) (name : String) : String → Prop
  | remembered {entry : Observed.Entry} :
      before.find? .securityGroups name = some entry → GoesBy plan before T name entry.id
  | found {live : Cloud.SecurityGroup} :
      ⟨.findSecurityGroup name, .answer (some live)⟩ ∈ T → GoesBy plan before T name live.id
  | declared {group : Desired.SecurityGroup} {live : Cloud.SecurityGroup} {id : String} :
      group ∈ plan.spec.network.securityGroups → given? group.id = some id →
      ⟨.getSecurityGroup id, .answer (some live)⟩ ∈ T →
      (given? group.name).getD live.name = name → GoesBy plan before T name id

/-- A declared group is the one that goes by its name; one without a name is declared by its ID. -/
def Resolves (plan : Plan) (before : Status) (T : Trace) (group : Desired.SecurityGroup)
    (id : String) : Prop :=
  match given? group.name with
  | some name => GoesBy plan before T name id
  | none => given? group.id = some id

/-- The entries of a status in the middle of the pass go by their names. -/
def Known (plan : Plan) (before : Status) (T : Trace) (s : Status) : Prop :=
  ∀ name entry, s.find? .securityGroups name = some entry → GoesBy plan before T name entry.id

/-- A group that was identified without being created. -/
structure Identifies (plan : Plan) (before : Status) (T : Trace) (group : Desired.SecurityGroup)
    (found : Identified) (t : Trace) (s' : Status) : Prop where
  changes_nothing : t.ChangesNothing
  known : Known plan before T s'
  rules : found.rules = group.rules
  id_ne : found.id ≠ ""
  resolves : Resolves plan before T group found.id

theorem observe_identifies {live : Cloud.SecurityGroup}
    (h : (observe group live).Runs s t (.ok found) s') (hknown : Known plan before T s)
    (hid : live.id ≠ "") (hgoes : GoesBy plan before T ((given? group.name).getD live.name) live.id)
    (hnamed : given? group.name = none → given? group.id = some live.id) :
    Identifies plan before T group found t s' := by
  simp only [observe, runs_update_bind, runs_pure_ok] at h
  obtain ⟨rfl, rfl, rfl⟩ := h
  refine ⟨by simp, fun name entry hfind => ?_, rfl, hid, ?_⟩
  · rw [Status.find?_put_securityGroups] at hfind
    split at hfind
    · cases hfind
      rename_i hname
      exact hname ▸ hgoes
    · exact hknown name entry hfind
  · unfold Resolves
    split
    · rename_i hname
      rwa [hname] at hgoes
    · exact hnamed ‹_›

theorem resolve_identifies (h : (resolve plan group).Runs s t (.ok (found, false)) s')
    (hgroup : group ∈ plan.spec.network.securityGroups) (hsub : t ⊆ T) (htruthful : T.Truthful)
    (hknown : Known plan before T s) : Identifies plan before T group found t s' := by
  unfold resolve at h
  split at h
  · rename_i id hid
    obtain ⟨answer, rest, rfl, hrest⟩ := runs_call_bind_ok.1 h
    have hmem := hsub List.mem_cons_self
    split at hrest
    · obtain ⟨one, mid, first, last, rfl, hobserve, hend⟩ := runs_bind_ok.1 hrest
      obtain ⟨rfl, ⟨⟩, rfl⟩ := runs_pure_ok.1 hend
      obtain ⟨rfl, hne⟩ := htruthful _ hmem
      have hone := observe_identifies hobserve hknown hne (.declared hgroup hid hmem rfl)
        fun _ => hid
      exact { hone with changes_nothing := by simpa using hone.changes_nothing }
    · simp at hrest
  · split at h
    · simp at h
    · rename_i name hname
      obtain ⟨answer, rest, rfl, hrest⟩ := runs_call_bind_ok.1 h
      have hmem := hsub List.mem_cons_self
      split at hrest
      · obtain ⟨one, mid, first, last, rfl, hobserve, hend⟩ := runs_bind_ok.1 hrest
        obtain ⟨rfl, ⟨⟩, rfl⟩ := runs_pure_ok.1 hend
        obtain ⟨-, hne⟩ := htruthful _ hmem
        have hone := observe_identifies hobserve hknown hne (by rw [hname]; exact .found hmem)
          fun hnone => by simp [hname] at hnone
        exact { hone with changes_nothing := by simpa using hone.changes_nothing }
      · obtain ⟨_, _, _, _, -, -, hend⟩ := runs_bind_ok.1 hrest
        simp at hend

theorem identify_identifies (h : (identify plan group).Runs s t (.ok (found, false)) s')
    (hgroup : group ∈ plan.spec.network.securityGroups) (hsub : t ⊆ T) (htruthful : T.Truthful)
    (hknown : Known plan before T s) : Identifies plan before T group found t s' := by
  rw [identify, runs_status_bind] at h
  split at h
  · rename_i entry hentry
    obtain ⟨hremembered, hne⟩ := Option.filter_eq_some_iff.1 hentry
    obtain ⟨rfl, ⟨⟩, rfl⟩ := runs_pure_ok.1 h
    refine ⟨by simp, hknown, rfl, of_decide_eq_true hne, ?_⟩
    unfold remembered? at hremembered
    split at hremembered
    · rename_i name hname
      simp only [Resolves, hname]
      exact hknown name entry hremembered
    · rename_i hname
      obtain ⟨id, hid, hfind⟩ := Option.bind_eq_some_iff.1 hremembered
      obtain rfl : entry.id = id := by simpa using List.find?_some hfind
      simp only [Resolves, hname]
      exact hid
  · exact resolve_identifies h hgroup hsub htruthful hknown

theorem identifyAll_identifies {groups : List Desired.SecurityGroup} {all : List Identified}
    (h : (identifyAll plan groups).Runs s t (.ok (all, false)) s')
    (hgroups : groups ⊆ plan.spec.network.securityGroups) (hsub : t ⊆ T) (htruthful : T.Truthful)
    (hknown : Known plan before T s) :
    t.ChangesNothing ∧ ∀ group ∈ groups, ∃ found ∈ all, found.rules = group.rules ∧
      found.id ≠ "" ∧ Resolves plan before T group found.id := by
  induction groups generalizing s t all with
  | nil =>
    obtain ⟨rfl, -, -⟩ := runs_pure_ok.1 h
    exact ⟨by simp, by simp⟩
  | cons group rest ih =>
    obtain ⟨⟨one, created⟩, mid, t₁, t₂, rfl, hfirst, hrest⟩ := runs_bind_ok.1 h
    obtain ⟨⟨others, anyCreated⟩, mid', t₂, t₃, rfl, hothers, hend⟩ := runs_bind_ok.1 hrest
    obtain ⟨rfl, hall, rfl⟩ := runs_pure_ok.1 hend
    simp only [Prod.mk.injEq, Bool.false_eq, Bool.or_eq_false_iff] at hall
    obtain ⟨rfl, rfl, rfl⟩ := hall
    obtain ⟨hgroup, hgroups⟩ := List.cons_subset.1 hgroups
    simp only [List.append_subset] at hsub
    have hone := identify_identifies hfirst hgroup hsub.1 htruthful hknown
    obtain ⟨hnothing, hrest⟩ := ih hothers hgroups hsub.2.1 hone.known
    refine ⟨by simp [hone.changes_nothing, hnothing], fun other hmem => ?_⟩
    rcases List.mem_cons.1 hmem with rfl | hmem
    · exact ⟨one, by simp, hone.rules, hone.id_ne, hone.resolves⟩
    · obtain ⟨found, hfound, hother⟩ := hrest other hmem
      exact ⟨found, List.mem_cons_of_mem _ hfound, hother⟩

/-- Every declared group has been identified, and its rules are in place. -/
def Settled (plan : Plan) (before : Status) (T : Trace) (s : Status) : Prop :=
  ∀ group ∈ plan.spec.network.securityGroups, ∃ id, id ≠ "" ∧ Resolves plan before T group id ∧
    ∀ rule ∈ group.rules, Rules.Kept s T id rule

theorem Settled.frame (h : Settled plan before T s)
    (hsubnets : ∀ role, Status.Same (.shelf (.subnets role)) s s')
    (hgroups : Status.Same (.shelf .securityGroups) s s') : Settled plan before T s' := by
  intro group hmem
  obtain ⟨id, hne, hresolves, hkept⟩ := h group hmem
  exact ⟨id, hne, hresolves, fun rule hrule => (hkept rule hrule).frame hsubnets hgroups⟩

theorem step_ready (h : (step plan).Runs s t (.ok .ready) s') (hsub : t ⊆ T)
    (htruthful : T.Truthful) (hknown : Known plan before T s) :
    t.ChangesNothing ∧ Settled plan before T s' := by
  obtain ⟨⟨all, created⟩, mid, t₁, t₂, rfl, hall, hrest⟩ := runs_bind_ok.1 h
  dsimp only at hrest
  split at hrest
  · simp at hrest
  · rename_i hcreated
    obtain rfl := eq_false_of_ne_true hcreated
    obtain ⟨⟨kept, known⟩, mid', t₂, t₃, rfl, hkept, hend⟩ := runs_bind_ok.1 hrest
    obtain ⟨rfl, hready, rfl⟩ := runs_pure_ok.1 hend
    obtain rfl := Outcome.ofReady_eq_ready_iff.1 hready.symm
    simp only [List.append_subset] at hsub
    obtain ⟨hnothing, hgroups⟩ :=
      identifyAll_identifies hall (List.Subset.refl _) hsub.1 htruthful hknown
    obtain ⟨hpasses, hrules⟩ := Rules.enforceAll_kept hkept hsub.2.1 Lookups.backed_none
    obtain rfl := hpasses.same
    refine ⟨by simp [hnothing, hpasses.changes_nothing], fun group hmem => ?_⟩
    obtain ⟨found, hfound, hsame, hne, hresolves⟩ := hgroups group hmem
    exact ⟨found.id, hne, hresolves, hsame ▸ hrules found hfound⟩

end Groups

end VpcOperator.Pass
