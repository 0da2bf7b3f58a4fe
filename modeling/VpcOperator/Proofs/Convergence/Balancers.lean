import VpcOperator.Proofs.Convergence.Groups

/-! # Load balancers come about

Every pass that gets to this step and does not end ready has created one that
was missing, as soon as those that exist are provisioned.
-/

namespace VpcOperator.Pass.LoadBalancers

open Cloud (Inventory Site)
open Observed (BalancerEntry Status)

variable {plan : Plan} {site : Site} {s s' : Status} {held left mid : Inventory}
  {balancer : Desired.LoadBalancer} {balancers rest : List Desired.LoadBalancer}

/-! ## What is missing -/

/-- The load balancer has yet to be created. -/
def isMissing (held : Inventory) (balancer : Desired.LoadBalancer) : Bool :=
  (given? balancer.id).isNone && !held.loadBalancers.any (·.name = balancer.name)

/-- How many load balancers have yet to be created. -/
def missing (held : Inventory) (balancers : List Desired.LoadBalancer) : Nat :=
  balancers.countP (isMissing held)

theorem isMissing_of_grows (hgrows : held.Grows left) (h : isMissing left balancer = true) :
    isMissing held balancer = true := by
  simp only [isMissing, Bool.and_eq_true, Bool.not_eq_true', List.any_eq_false,
    decide_eq_true_eq] at *
  refine ⟨h.1, fun live hmem hname => ?_⟩
  obtain ⟨other, hother, -, hsame⟩ := hgrows.loadBalancers live hmem
  exact h.2 other hother (hsame.trans hname)

theorem made_of_grows (hgrows : held.Grows left) (h : isMissing held balancer = false) :
    isMissing left balancer = false := by
  refine eq_false_of_ne_true fun hmissing => ?_
  rw [isMissing_of_grows hgrows hmissing] at h
  cases h

theorem missing_mono (hgrows : held.Grows left) (balancers : List Desired.LoadBalancer) :
    missing left balancers ≤ missing held balancers :=
  List.countP_mono_left fun _ _ h => isMissing_of_grows hgrows h

theorem missing_lt (hgrows : held.Grows left) (hmem : balancer ∈ balancers)
    (hmissing : isMissing held balancer = true) (hmade : isMissing left balancer = false) :
    missing left balancers < missing held balancers := by
  induction balancers with
  | nil => cases hmem
  | cons first rest ih =>
    unfold missing at *
    rw [List.countP_cons, List.countP_cons]
    rcases List.mem_cons.1 hmem with rfl | hmem
    · have hrest : rest.countP (isMissing left) ≤ rest.countP (isMissing held) :=
        missing_mono hgrows rest
      rw [if_pos hmissing, if_neg (by simp [hmade])]
      omega
    · have hrest := ih hmem
      split
      · rw [if_pos (isMissing_of_grows hgrows ‹_›)]
        omega
      · omega

/-! ## One load balancer -/

theorem not_missing_of_mem {live : Cloud.LoadBalancer} (hmem : live ∈ held.loadBalancers)
    (hname : live.name = balancer.name) : isMissing held balancer = false := by
  have hany : held.loadBalancers.any (·.name = balancer.name) = true :=
    List.any_eq_true.2 ⟨live, hmem, decide_eq_true hname⟩
  rw [isMissing, hany]
  simp

theorem not_missing_of_id {id : String} (hid : given? balancer.id = some id) :
    isMissing held balancer = false := by
  simp [isMissing, hid]

/-- What is remembered for a load balancer is held, under the name it is declared with. -/
theorem remembered_held {entry : BalancerEntry} (hgrounded : s.Grounded held)
    (h : remembered? s balancer = some entry) :
    held.HasBalancer entry.id entry.name ∧ isMissing held balancer = false := by
  unfold remembered? at h
  split at h
  · rename_i hid
    exact ⟨hgrounded.balancers entry (Status.mem_balancers_of_balancer? h), not_missing_of_id hid⟩
  · have hhas := hgrounded.balancers entry (List.mem_of_find?_eq_some h)
    obtain ⟨live, hmem, -, hname⟩ := id hhas
    have hdeclared : entry.name = balancer.name := by simpa using List.find?_some h
    exact ⟨hhas, not_missing_of_mem hmem (hname.trans hdeclared)⟩

/-- What is found is held, has not failed and is active if all is provisioned. -/
structure Usable (held : Inventory) (live : Cloud.LoadBalancer) : Prop where
  exists_held : held.HasBalancer live.id live.name
  not_failed : live.state ≠ .failed
  active : held.Provisioned → live.state = .active

theorem usable_of_mem {live : Cloud.LoadBalancer} (hsound : held.Sound)
    (hmem : live ∈ held.loadBalancers) : Usable held live :=
  ⟨⟨live, hmem, rfl, rfl⟩, (hsound.loadBalancers live hmem).2,
    fun hprovisioned => hprovisioned.loadBalancers live hmem⟩

/-- The outcome of a search for a load balancer. -/
def Searched (held : Inventory) (balancer : Desired.LoadBalancer) : Option Cloud.LoadBalancer → Prop
  | some live => Usable held live ∧ isMissing held balancer = false
  | none => isMissing held balancer = true

theorem findByName_meets (hname : balancer.name ≠ "") (hid : given? balancer.id = none)
    (hsound : held.Sound) :
    Meets site (findByName balancer) s held fun found s' left =>
      s' = s ∧ left = held ∧ Searched held balancer found := by
  rw [findByName, if_neg hname]
  refine .call fun found hadmits _ => ⟨rfl, rfl, ?_⟩
  cases found with
  | some live => exact ⟨usable_of_mem hsound hadmits.1, not_missing_of_mem hadmits.1 hadmits.2⟩
  | none =>
    have hnone : ∀ live ∈ held.loadBalancers, live.name ≠ balancer.name := hadmits
    simpa [Searched, isMissing, hid] using hnone

theorem find_meets (hcomplete : plan.CompleteBalancer held balancer) (hsound : held.Sound)
    (hgrounded : s.Grounded held) :
    Meets site (find balancer) s held fun found s' left =>
      s' = s ∧ left = held ∧ Searched held balancer found := by
  refine .status_bind ?_
  dsimp only
  split
  · rename_i entry hentry
    obtain ⟨hremembered, hactive⟩ := Option.filter_eq_some_iff.1 hentry
    have hactive : entry.state = .active := of_decide_eq_true hactive
    obtain ⟨hhas, hmade⟩ := remembered_held hgrounded hremembered
    exact .pure ⟨rfl, rfl, ⟨hhas, by simp [ofEntry, hactive], fun _ => hactive⟩, hmade⟩
  · unfold lookUp
    cases hid : given? balancer.id with
    | some id =>
      refine .look_bind rfl fun found _ hgrants => ?_
      obtain ⟨declared, hmem, hsame⟩ := hcomplete.id id hid
      cases found with
      | some live =>
        exact .pure ⟨rfl, rfl, usable_of_mem hsound hgrants.1, not_missing_of_id hid⟩
      | none => exact absurd hsame (hgrants declared hmem)
    | none =>
      cases hremembered : remembered? s balancer with
      | none => exact findByName_meets hcomplete.name hid hsound
      | some entry =>
        refine .look_bind rfl fun found _ hgrants => ?_
        obtain ⟨⟨known, hmem, hsame, -⟩, hmade⟩ := remembered_held hgrounded hremembered
        cases found with
        | some live => exact .pure ⟨rfl, rfl, usable_of_mem hsound hgrants.1, hmade⟩
        | none => exact absurd hsame (hgrants known hmem)

theorem settleFound_meets {live : Cloud.LoadBalancer} (hgrounded : s.Grounded held)
    (hlive : Usable held live) :
    Meets site (settleFound live) s held fun outcome s' left => s'.Grounded left ∧ left = held ∧
      (held.Provisioned → outcome = .ready) := by
  refine .update_bind ?_
  rw [if_neg hlive.not_failed]
  refine .pure ⟨hgrounded.putBalancer hlive.exists_held, rfl, fun hprovisioned => ?_⟩
  rw [hlive.active hprovisioned]
  rfl

/-! ## What load balancers are created with -/

theorem subnetIds_ne_nil {role : Desired.Role} {name : String} (hsound : held.Sound)
    (hgrounded : s.Grounded held) (hentry : (s.find? (.subnets role) name).isSome) :
    s.subnetIds ≠ [] := by
  obtain ⟨entry, hentry⟩ := Option.isSome_iff_exists.1 hentry
  have hid := hsound.id_ne (hgrounded.entries (.subnets role) name entry hentry)
  exact List.ne_nil_of_mem (Status.mem_subnetIds.2 ⟨hid, role, name, entry, hentry, rfl⟩)

theorem securityGroupId_meets {reference : Desired.Reference} (hsound : held.Sound)
    (hgrounded : s.Grounded held) (hgroups : Groups.Remembered s plan.spec.network.securityGroups)
    (hnames : given? reference.id = none → plan.NamesGroup held (reference.name.getD "")) :
    Meets site (securityGroupId balancer reference) s held fun _ s' left =>
      s' = s ∧ left = held := by
  unfold securityGroupId
  cases hid : given? reference.id with
  | some id => exact .pure ⟨rfl, rfl⟩
  | none =>
    refine .status_bind ?_
    cases hknown : s.securityGroupId? (reference.name.getD "") with
    | some id => exact .pure ⟨rfl, rfl⟩
    | none =>
      refine .look_bind rfl fun found hadmits _ => ?_
      cases found with
      | some group => exact .pure ⟨rfl, rfl⟩
      | none =>
        rcases hnames hid with ⟨group, hmem, hname⟩ | ⟨group, hmem, hname⟩
        · have hgiven := Groups.given?_of_entry hsound hgrounded (hgroups group hmem _ hname)
          rw [Status.securityGroupId?] at hknown
          simp [hknown] at hgiven
        · exact absurd hname (hadmits group hmem)

theorem securityGroupIds_meets {references : List Desired.Reference} (hsound : held.Sound)
    (hgrounded : s.Grounded held) (hgroups : Groups.Remembered s plan.spec.network.securityGroups)
    (hnames : ∀ reference ∈ references, given? reference.id = none →
      plan.NamesGroup held (reference.name.getD "")) :
    Meets site (securityGroupIds balancer references) s held fun _ s' left =>
      s' = s ∧ left = held := by
  induction references with
  | nil => exact .pure ⟨rfl, rfl⟩
  | cons reference rest ih =>
    obtain ⟨hfirst, hrest⟩ := List.forall_mem_cons.1 hnames
    refine .bind ((securityGroupId_meets hsound hgrounded hgroups hfirst).mono ?_)
    rintro id s held ⟨rfl, rfl⟩
    refine .bind ((ih hrest).mono ?_)
    rintro ids s held ⟨rfl, rfl⟩
    exact .pure ⟨rfl, rfl⟩

/-- All that load balancers are created with is known. -/
structure Furnished (plan : Plan) (site : Site) (s : Status) (held : Inventory) : Prop where
  complete : plan.Complete site held
  sound : held.Sound
  grounded : s.Grounded held
  rooted : plan.Rooted s
  subnets : Subnets.AllRemembered plan site s
  groups : Groups.Remembered s plan.spec.network.securityGroups

theorem Furnished.later {t : Trace} (h : Furnished plan site s held)
    (hwrites : Status.Writes [.balancers] s s') (hworks : held.Works site t left)
    (hgrounded : s'.Grounded left) : Furnished plan site s' left where
  complete := h.complete.grows hworks.grows
  sound := hworks.sound h.sound
  grounded := hgrounded
  rooted := h.rooted.frame (hwrites _ (by simp)) (hwrites _ (by simp))
  subnets role := (h.subnets role).frame (hwrites _ (by simp))
  groups := h.groups.frame (hwrites _ (by simp))

theorem Furnished.subnetIds_isEmpty (h : Furnished plan site s held) :
    s.subnetIds.isEmpty = false := by
  obtain ⟨subnet, hmem⟩ := List.exists_mem_of_ne_nil _ (h.complete.wantedSubnets_ne_nil .worker)
  obtain ⟨name, hname⟩ :=
    Option.isSome_iff_exists.1 (h.complete.subnets .worker subnet hmem).name
  have hne := subnetIds_ne_nil h.sound h.grounded (h.subnets .worker subnet hmem name hname)
  simpa using hne

theorem create_meets (h : Furnished plan site s held)
    (hcomplete : plan.CompleteBalancer held balancer) :
    Meets site (create plan balancer) s held fun _ s' left =>
      s'.Grounded left ∧ isMissing left balancer = false := by
  obtain ⟨groupId, hgroup⟩ := h.rooted.group
  refine .status_bind ?_
  dsimp only
  rw [h.subnetIds_isEmpty]
  refine .status_bind (.ofExcept_bind hgroup (.bind ?_))
  refine (securityGroupIds_meets h.sound h.grounded h.groups hcomplete.groups).mono ?_
  rintro ids s held ⟨rfl, rfl⟩
  refine .bind (.call fun live hadmits _ => .update_bind (Ownership.mark_meets ⟨?_, ?_⟩))
  · have hgrown :=
      h.grounded.grows (Inventory.grows_after held ⟨.createLoadBalancer _, .answer live⟩)
    exact hgrown.putBalancer ⟨live, List.mem_cons_self, rfl, rfl⟩
  · have hname : live.name = balancer.name := hadmits.1
    simp [isMissing, Inventory.after, hname]

/-! ## The step -/

/-- What becomes of these load balancers in a part of the step. -/
structure Advances (balancers : List Desired.LoadBalancer) (created : Bool) (held : Inventory)
    (outcome : Outcome) (s' : Status) (left : Inventory) : Prop where
  grounded : s'.Grounded left
  arrives : outcome = .ready → ∀ balancer ∈ balancers, isMissing left balancer = false
  advances : held.Provisioned → created = false → outcome = .ready ∨
    ∃ balancer ∈ balancers, isMissing held balancer = true ∧ isMissing left balancer = false

theorem Advances.found {created : Bool} {first others : Outcome} (hgrows : held.Grows left)
    (hmade : isMissing held balancer = false) (hactive : held.Provisioned → first = .ready)
    (h : Advances rest created held others s' left) :
    Advances (balancer :: rest) created held (first.both others) s' left := by
  refine ⟨h.grounded, fun hready => ?_, fun hprovisioned hnew => ?_⟩
  · obtain ⟨rfl, rfl⟩ := Outcome.both_eq_ready_iff.1 hready
    exact List.forall_mem_cons.2 ⟨made_of_grows hgrows hmade, h.arrives rfl⟩
  · obtain rfl := hactive hprovisioned
    refine (h.advances hprovisioned hnew).imp id ?_
    rintro ⟨other, hmem, hother⟩
    exact ⟨other, List.mem_cons_of_mem _ hmem, hother⟩

theorem Advances.created {created : Bool} (hgrounded : s'.Grounded left)
    (hmissing : isMissing held balancer = true) (hmade : isMissing left balancer = false) :
    Advances (balancer :: rest) created held .requeue s' left := by
  refine ⟨hgrounded, fun hready => ?_, fun _ _ => .inr ?_⟩
  · cases hready
  · exact ⟨balancer, List.mem_cons_self, hmissing, hmade⟩

/-- One load balancer is created in a pass; others wait for the next. -/
theorem advances_of_later (hgrounded : s'.Grounded left) :
    Advances balancers true held .requeue s' left := by
  refine ⟨hgrounded, fun hready => ?_, fun _ hnew => ?_⟩
  · cases hready
  · cases hnew

theorem settleAll_meets {created : Bool} (h : Furnished plan site s held)
    (hcomplete : ∀ balancer ∈ balancers, plan.CompleteBalancer held balancer) :
    Meets site (settleAll plan balancers created) s held (Advances balancers created held) := by
  induction balancers generalizing s held created with
  | nil => exact .pure ⟨h.grounded, by simp, fun _ _ => .inl rfl⟩
  | cons balancer rest ih =>
    obtain ⟨hfirst, hrest⟩ := List.forall_mem_cons.1 hcomplete
    refine .bind ((find_meets hfirst h.sound h.grounded).mono ?_)
    rintro found s held ⟨rfl, rfl, hfound⟩
    cases found with
    | some live =>
      obtain ⟨husable, hmade⟩ := hfound
      refine .bind ((settleFound_meets h.grounded husable).runs.mono ?_)
      rintro first mid held ⟨⟨hgrounded, rfl, hactive⟩, t, hrun, hworks⟩
      have hlater := h.later (settleFound_does live hrun).writes hworks hgrounded
      refine .bind ((ih hlater hrest).runs.mono ?_)
      rintro others s' left ⟨hothers, t', -, hworks'⟩
      exact .pure (hothers.found hworks'.grows hmade hactive)
    | none =>
      dsimp only
      split
      · rename_i hcreated
        obtain rfl : created = true := hcreated
        exact .bind ((ih h hrest).mono fun hothers => .pure (advances_of_later hothers.grounded))
      · refine .bind ((create_meets h hfirst).runs.mono ?_)
        rintro _ mid between ⟨⟨hgrounded, hmade⟩, t, hrun, hworks⟩
        have hlater := h.later (create_does plan balancer hrun).writes hworks hgrounded
        have hrest' : ∀ other ∈ rest, plan.CompleteBalancer between other :=
          fun other hmem => (hrest other hmem).grows hworks.grows
        refine .bind ((ih hlater hrest').runs.mono ?_)
        rintro _ s' left ⟨hothers, t', -, hworks'⟩
        exact .pure (.created hothers.grounded hfound (made_of_grows hworks'.grows hmade))

theorem step_meets (h : Furnished plan site s held) :
    let balancers := plan.spec.network.loadBalancers
    Meets site (step plan) s held fun outcome s' left => s'.Grounded left ∧
      (outcome = .ready → missing left balancers = 0) ∧
      (held.Provisioned →
        outcome = .ready ∨ missing left balancers < missing held balancers) := by
  intro balancers
  refine (settleAll_meets h h.complete.loadBalancers).runs.mono ?_
  rintro outcome s' left ⟨hall, t, -, hworks⟩
  refine ⟨hall.grounded, fun hready => ?_, fun hprovisioned => ?_⟩
  · exact List.countP_eq_zero.2 fun balancer hmem => by simp [hall.arrives hready balancer hmem]
  · refine (hall.advances hprovisioned rfl).imp id ?_
    rintro ⟨balancer, hmem, hmissing, hmade⟩
    exact missing_lt hworks.grows hmem hmissing hmade

end VpcOperator.Pass.LoadBalancers
