import VpcOperator.Proofs.Quiet

/-! # Load balancers in the order of their declaration

What a step over load balancers can come to, whatever is declared and remembered
and however the account behaves: the first that nothing leads to is created, and
whatever is missing after it waits for another pass.
-/

namespace VpcOperator

open Observed (BalancerEntry Status)

/-! ## What is asked for -/

/-- What load balancers were asked for with, whether or not they have been created. -/
def Trace.requestedBalancers (t : Trace) : List Cloud.LoadBalancerPrototype :=
  t.filterMap fun exchange =>
    match exchange.request with
    | .createLoadBalancer prototype => some prototype
    | _ => none

@[simp] theorem Trace.requestedBalancers_nil : Trace.requestedBalancers [] = [] := rfl

@[simp] theorem Trace.requestedBalancers_cons {prototype : Cloud.LoadBalancerPrototype}
    {reply : Cloud.Reply Cloud.LoadBalancer} {rest : Trace} :
    Trace.requestedBalancers (⟨.createLoadBalancer prototype, reply⟩ :: rest) =
      prototype :: rest.requestedBalancers :=
  rfl

@[simp] theorem Trace.requestedBalancers_append {first rest : Trace} :
    (first ++ rest).requestedBalancers = first.requestedBalancers ++ rest.requestedBalancers :=
  List.filterMap_append

theorem Does.requestedBalancers {parts : List Observed.Part} {looks makes : List Kind}
    {s s' : Status} {t : Trace} (h : Does parts looks makes s t s')
    (hmakes : .loadBalancer ∉ makes) : t.requestedBalancers = [] := by
  apply List.filterMap_eq_nil_iff.2
  intro exchange hmem
  have hasks := h.asks exchange hmem
  split
  · rename_i hrequest
    rw [hrequest] at hasks
    exact absurd hasks hmakes
  · rfl

namespace Pass.LoadBalancers

variable {plan : Plan} {balancer : Desired.LoadBalancer} {balancers : List Desired.LoadBalancer}
  {s mid s' : Status} {t : Trace}

/-! ## One look-up -/

/-- What the look-up of a load balancer can ask, and what it then comes to. -/
inductive LooksUp (s : Status) (balancer : Desired.LoadBalancer) :
    Trace → Option Cloud.LoadBalancer → Prop
  /-- An entry that is active answers in the place of the account. -/
  | active {entry : BalancerEntry} :
      remembered? s balancer = some entry → entry.state = .active →
      LooksUp s balancer [] (some (ofEntry entry))
  | declared {id : String} {live : Cloud.LoadBalancer} :
      given? balancer.id = some id →
      (∀ entry, remembered? s balancer = some entry → entry.state ≠ .active) →
      LooksUp s balancer [⟨.getLoadBalancer id, .answer (some live)⟩] (some live)
  | known {entry : BalancerEntry} {live : Cloud.LoadBalancer} :
      given? balancer.id = none → remembered? s balancer = some entry → entry.state ≠ .active →
      LooksUp s balancer [⟨.getLoadBalancer entry.id, .answer (some live)⟩] (some live)
  | named {found : Option Cloud.LoadBalancer} :
      given? balancer.id = none → remembered? s balancer = none → balancer.name ≠ "" →
      LooksUp s balancer [⟨.findLoadBalancer balancer.name, .answer found⟩] found
  | gone {entry : BalancerEntry} {found : Option Cloud.LoadBalancer} :
      given? balancer.id = none → remembered? s balancer = some entry → entry.state ≠ .active →
      balancer.name ≠ "" →
      LooksUp s balancer [⟨.getLoadBalancer entry.id, .answer none⟩,
        ⟨.findLoadBalancer balancer.name, .answer found⟩] found

theorem mem_of_remembered? {entry : BalancerEntry} (h : remembered? s balancer = some entry) :
    entry ∈ s.balancers := by
  unfold remembered? at h
  split at h
  · exact Status.mem_balancers_of_balancer? h
  · exact List.mem_of_find?_eq_some h

theorem name_of_remembered? {entry : BalancerEntry} (hid : given? balancer.id = none)
    (h : remembered? s balancer = some entry) : entry.name = balancer.name := by
  rw [remembered?, hid] at h
  simpa using List.find?_some h

theorem findByName_asks {found : Option Cloud.LoadBalancer}
    (hrun : (findByName balancer).Runs s t (.ok found) s') :
    balancer.name ≠ "" ∧ t = [⟨.findLoadBalancer balancer.name, .answer found⟩] := by
  unfold findByName at hrun
  split at hrun
  · simp at hrun
  · exact ⟨‹_›, (runs_call_ok.1 hrun).1⟩

theorem find_looksUp {found : Option Cloud.LoadBalancer}
    (hrun : (find balancer).Runs s t (.ok found) s') : s' = s ∧ LooksUp s balancer t found := by
  refine ⟨find_quiet balancer hrun, ?_⟩
  rw [find, runs_status_bind] at hrun
  dsimp only at hrun
  cases hactive : (remembered? s balancer).filter (·.state = .active) with
  | some entry =>
    rw [hactive] at hrun
    obtain ⟨rfl, hfound, -⟩ := runs_pure_ok.1 hrun
    obtain ⟨hentry, hstate⟩ := Option.filter_eq_some_iff.1 hactive
    rw [hfound]
    exact .active hentry (of_decide_eq_true hstate)
  | none =>
    rw [hactive] at hrun
    dsimp only at hrun
    have hstate : ∀ entry, remembered? s balancer = some entry → entry.state ≠ .active := by
      simpa [Option.filter_eq_none_iff] using hactive
    unfold lookUp at hrun
    cases hid : given? balancer.id with
    | some id =>
      rw [hid] at hrun
      obtain ⟨answer, rest, rfl, hrest⟩ := runs_call_bind_ok.1 hrun
      cases answer with
      | some live =>
        obtain ⟨rfl, rfl, -⟩ := runs_pure_ok.1 hrest
        exact .declared hid hstate
      | none => simp at hrest
    | none =>
      cases hentry : remembered? s balancer with
      | none =>
        simp only [hid, hentry] at hrun
        obtain ⟨hname, rfl⟩ := findByName_asks hrun
        exact .named hid hentry hname
      | some entry =>
        simp only [hid, hentry] at hrun
        obtain ⟨answer, rest, rfl, hrest⟩ := runs_call_bind_ok.1 hrun
        cases answer with
        | some live =>
          obtain ⟨rfl, rfl, -⟩ := runs_pure_ok.1 hrest
          exact .known hid hentry (hstate entry hentry)
        | none =>
          obtain ⟨hname, rfl⟩ := findByName_asks hrest
          exact .gone hid hentry (hstate entry hentry) hname

/-! ## The whole step -/

/-- These were found one after the other, and none of them has failed. -/
inductive Found : Status → List Desired.LoadBalancer → Trace → Status → Prop
  | nil (s : Status) : Found s [] [] s
  | cons {s mid s' : Status} {balancer : Desired.LoadBalancer} {rest : List Desired.LoadBalancer}
      {first last : Trace} {live : Cloud.LoadBalancer} {outcome : Outcome} :
      LooksUp s balancer first (some live) → (settleFound live).Runs s [] (.ok outcome) mid →
      Found mid rest last s' → Found s (balancer :: rest) (first ++ last) s'

/-- The step ends at this load balancer before anything is created for it: either the look-up fails,
or what it finds has. -/
inductive Fails (s : Status) (balancer : Desired.LoadBalancer) : Trace → Failure → Status → Prop
  | unknown {t : Trace} {e : Failure} {s' : Status} :
      (find balancer).Runs s t (.error e) s' → Fails s balancer t e s'
  | failed {t : Trace} {live : Cloud.LoadBalancer} {e : Failure} {s' : Status} :
      LooksUp s balancer t (some live) → (settleFound live).Runs s [] (.error e) s' →
      Fails s balancer t e s'

/-- In a step that has created a load balancer the others are found or put off, unless it fails at
one of them. -/
inductive Waits : Status → List Desired.LoadBalancer → Trace → Except Failure Unit → Status → Prop
  | nil (s : Status) : Waits s [] [] (.ok ()) s
  | found {s mid s' : Status} {balancer : Desired.LoadBalancer} {rest : List Desired.LoadBalancer}
      {first last : Trace} {live : Cloud.LoadBalancer} {outcome : Outcome}
      {r : Except Failure Unit} :
      LooksUp s balancer first (some live) → (settleFound live).Runs s [] (.ok outcome) mid →
      Waits mid rest last r s' → Waits s (balancer :: rest) (first ++ last) r s'
  | deferred {s s' : Status} {balancer : Desired.LoadBalancer} {rest : List Desired.LoadBalancer}
      {first last : Trace} {r : Except Failure Unit} :
      LooksUp s balancer first none → Waits s rest last r s' →
      Waits s (balancer :: rest) (first ++ last) r s'
  | failed {s s' : Status} {balancer : Desired.LoadBalancer} {rest : List Desired.LoadBalancer}
      {t : Trace} {e : Failure} :
      Fails s balancer t e s' → Waits s (balancer :: rest) t (.error e) s'

/-- What a step over load balancers can come to, and the load balancer that it creates, or tries to:
the first that nothing leads to. -/
inductive Course (plan : Plan) (s : Status) : List Desired.LoadBalancer → Trace →
    Option Desired.LoadBalancer → Except Failure Outcome → Status → Prop
  | found {balancers : List Desired.LoadBalancer} {t : Trace} {outcome : Outcome} {s' : Status} :
      Found s balancers t s' → Course plan s balancers t none (.ok outcome) s'
  | failed {earlier later : List Desired.LoadBalancer} {balancer : Desired.LoadBalancer}
      {first last : Trace} {mid s' : Status} {e : Failure} :
      Found s earlier first mid → Fails mid balancer last e s' →
      Course plan s (earlier ++ balancer :: later) (first ++ last) none (.error e) s'
  | uncreated {earlier later : List Desired.LoadBalancer} {balancer : Desired.LoadBalancer}
      {first sought made : Trace} {mid s' : Status} {e : Failure} :
      Found s earlier first mid → LooksUp mid balancer sought none →
      (create plan balancer).Runs mid made (.error e) s' →
      Course plan s (earlier ++ balancer :: later) (first ++ (sought ++ made)) (some balancer)
        (.error e) s'
  | created {earlier later : List Desired.LoadBalancer} {balancer : Desired.LoadBalancer}
      {first sought made last : Trace} {mid stop s' : Status} {r : Except Failure Unit} :
      Found s earlier first mid → LooksUp mid balancer sought none →
      (create plan balancer).Runs mid made (.ok ()) stop → Waits stop later last r s' →
      Course plan s (earlier ++ balancer :: later) (first ++ (sought ++ (made ++ last)))
        (some balancer) (r.map fun _ => .requeue) s'

variable {r : Except Failure Outcome} {first : Trace} {live : Cloud.LoadBalancer}
  {created : Option Desired.LoadBalancer}

theorem settleFound_puts {r : Except Failure Outcome} (hrun : (settleFound live).Runs s t r s') :
    t = [] ∧ ∃ entry : BalancerEntry, entry.id = live.id ∧ entry.name = live.name ∧
      entry.state = live.state ∧ s' = s.putBalancer entry := by
  simp only [settleFound, observe, runs_update_bind] at hrun
  split at hrun
  · obtain ⟨rfl, -, rfl⟩ := runs_fail.1 hrun
    exact ⟨rfl, _, rfl, rfl, rfl, rfl⟩
  · obtain ⟨rfl, -, rfl⟩ := runs_pure.1 hrun
    exact ⟨rfl, _, rfl, rfl, rfl, rfl⟩

/-- What is found leaves the step as it was for the others. -/
theorem Course.cons {outcome : Outcome} (hfirst : LooksUp s balancer first (some live))
    (hfound : (settleFound live).Runs s [] (.ok outcome) mid)
    (h : Course plan mid balancers t created r s') :
    Course plan s (balancer :: balancers) (first ++ t) created (r.map outcome.both) s' := by
  cases h with
  | found hall => exact .found (.cons hfirst hfound hall)
  | failed hearlier hfails =>
    rw [← List.append_assoc, ← List.cons_append]
    exact .failed (.cons hfirst hfound hearlier) hfails
  | uncreated hearlier hsought hmade =>
    rw [← List.append_assoc, ← List.cons_append]
    exact .uncreated (.cons hfirst hfound hearlier) hsought hmade
  | @created _ _ _ _ _ _ _ _ _ _ r hearlier hsought hmade hlater =>
    have hrequeue : (r.map fun _ => Outcome.requeue).map outcome.both =
        r.map fun _ => Outcome.requeue := by
      cases r <;> cases outcome <;> rfl
    rw [hrequeue, ← List.append_assoc, ← List.cons_append]
    exact .created (.cons hfirst hfound hearlier) hsought hmade hlater

/-- What a step can do at the first of the load balancers, and what it leaves for the others. -/
inductive Turn (plan : Plan) (s : Status) (balancer : Desired.LoadBalancer)
    (rest : List Desired.LoadBalancer) : Bool → Trace → Except Failure Outcome → Status → Prop
  | fails {created : Bool} {t : Trace} {e : Failure} {s' : Status} :
      Fails s balancer t e s' → Turn plan s balancer rest created t (.error e) s'
  | found {created : Bool} {first last : Trace} {live : Cloud.LoadBalancer} {outcome : Outcome}
      {mid s' : Status} {r : Except Failure Outcome} :
      LooksUp s balancer first (some live) → (settleFound live).Runs s [] (.ok outcome) mid →
      (settleAll plan rest created).Runs mid last r s' →
      Turn plan s balancer rest created (first ++ last) (r.map outcome.both) s'
  | deferred {first last : Trace} {s' : Status} {r : Except Failure Outcome} :
      LooksUp s balancer first none → (settleAll plan rest true).Runs s last r s' →
      Turn plan s balancer rest true (first ++ last) (r.map fun _ => .requeue) s'
  | uncreated {first made : Trace} {e : Failure} {s' : Status} :
      LooksUp s balancer first none → (create plan balancer).Runs s made (.error e) s' →
      Turn plan s balancer rest false (first ++ made) (.error e) s'
  | created {first made last : Trace} {mid s' : Status} {r : Except Failure Outcome} :
      LooksUp s balancer first none → (create plan balancer).Runs s made (.ok ()) mid →
      (settleAll plan rest true).Runs mid last r s' →
      Turn plan s balancer rest false (first ++ (made ++ last)) (r.map fun _ => .requeue) s'

theorem settleAll_turn {rest : List Desired.LoadBalancer} {created : Bool}
    (hrun : (settleAll plan (balancer :: rest) created).Runs s t r s') :
    Turn plan s balancer rest created t r s' := by
  rcases runs_bind.1 hrun with ⟨found, mid, first, last, rfl, hfind, hrest⟩ | ⟨e, rfl, hfind⟩
  · obtain ⟨rfl, hlooksUp⟩ := find_looksUp hfind
    cases found with
    | some live =>
      rcases runs_bind.1 hrest with
        ⟨outcome, after, asked, others, rfl, hfound, hothers⟩ | ⟨e, rfl, hfound⟩
      · obtain rfl := (settleFound_puts hfound).1
        obtain ⟨result, rfl, hlast⟩ := runs_bind_pure.1 hothers
        exact .found hlooksUp hfound hlast
      · obtain rfl := (settleFound_puts hfound).1
        rw [List.append_nil]
        exact .fails (.failed hlooksUp hfound)
    | none =>
      cases created with
      | true =>
        obtain ⟨result, rfl, hothers⟩ := runs_bind_pure.1 hrest
        exact .deferred hlooksUp hothers
      | false =>
        rcases runs_bind.1 hrest with
          ⟨_, after, made, others, rfl, hmade, hothers⟩ | ⟨e, rfl, hmade⟩
        · obtain ⟨result, rfl, hlast⟩ := runs_bind_pure.1 hothers
          exact .created hlooksUp hmade hlast
        · exact .uncreated hlooksUp hmade
  · exact .fails (.unknown hfind)

theorem settleAll_waits (hrun : (settleAll plan balancers true).Runs s t r s') :
    Waits s balancers t (r.map fun _ => ()) s' := by
  induction balancers generalizing s t r with
  | nil =>
    obtain ⟨rfl, rfl, rfl⟩ := runs_pure.1 hrun
    exact .nil _
  | cons balancer rest ih =>
    have hmap : ∀ {r : Except Failure Outcome} {f : Outcome → Outcome},
        (r.map f).map (fun _ => ()) = r.map fun _ => () := by
      rintro (_ | _) f <;> rfl
    cases settleAll_turn hrun with
    | fails hfails => exact .failed hfails
    | found hlooksUp hfound hothers =>
      rw [hmap]
      exact .found hlooksUp hfound (ih hothers)
    | deferred hlooksUp hothers =>
      rw [hmap]
      exact .deferred hlooksUp (ih hothers)

theorem settleAll_course (hrun : (settleAll plan balancers false).Runs s t r s') :
    ∃ created, Course plan s balancers t created r s' := by
  induction balancers generalizing s t r with
  | nil =>
    obtain ⟨rfl, rfl, rfl⟩ := runs_pure.1 hrun
    exact ⟨none, .found (.nil _)⟩
  | cons balancer rest ih =>
    cases settleAll_turn hrun with
    | fails hfails => exact ⟨none, .failed (.nil s) hfails⟩
    | found hlooksUp hfound hothers =>
      obtain ⟨created, hcourse⟩ := ih hothers
      exact ⟨created, hcourse.cons hlooksUp hfound⟩
    | uncreated hlooksUp hmade => exact ⟨some balancer, .uncreated (.nil s) hlooksUp hmade⟩
    | @created _ _ _ _ _ r hlooksUp hmade hothers =>
      have hlater := settleAll_waits hothers
      have hcourse := Course.created (.nil s) hlooksUp hmade hlater
      have hmap : ((r.map fun _ => ()).map fun _ => Outcome.requeue) =
          r.map fun _ => Outcome.requeue := by cases r <;> rfl
      rw [hmap] at hcourse
      exact ⟨some balancer, hcourse⟩

/-! ## What is asked for in it -/

theorem LooksUp.requests_nothing {found : Option Cloud.LoadBalancer} (h : LooksUp s balancer t found) :
    t.requestedBalancers = [] := by
  cases h <;> rfl

theorem Fails.requests_nothing {e : Failure} (h : Fails s balancer t e s') :
    t.requestedBalancers = [] := by
  cases h with
  | unknown hrun => exact (find_does balancer hrun).requestedBalancers (by simp)
  | failed hlooksUp _ => exact hlooksUp.requests_nothing

theorem Found.requests_nothing (h : Found s balancers t s') : t.requestedBalancers = [] := by
  induction h with
  | nil => rfl
  | cons hlooksUp _ _ ih => simp [hlooksUp.requests_nothing, ih]

theorem Waits.requests_nothing {r : Except Failure Unit} (h : Waits s balancers t r s') :
    t.requestedBalancers = [] := by
  induction h with
  | nil => rfl
  | found hlooksUp _ _ ih => simp [hlooksUp.requests_nothing, ih]
  | deferred hlooksUp _ ih => simp [hlooksUp.requests_nothing, ih]
  | failed hfails => exact hfails.requests_nothing

/-- What a creation asks: what the load balancer is made with, then for the load balancer itself and,
once it is there, for its tag. -/
inductive Creates (s : Status) (balancer : Desired.LoadBalancer) :
    Trace → Except Failure Unit → Status → Prop
  | unasked {t : Trace} {e : Failure} :
      t.requestedBalancers = [] → Creates s balancer t (.error e) s
  | denied {looked : Trace} {prototype : Cloud.LoadBalancerPrototype}
      {reply : Cloud.Reply Cloud.LoadBalancer} {e : Failure} :
      looked.requestedBalancers = [] → prototype.name = balancer.name →
      (∀ live, reply ≠ .answer live) →
      Creates s balancer (looked ++ [⟨.createLoadBalancer prototype, reply⟩]) (.error e) s
  | made {looked marking : Trace} {prototype : Cloud.LoadBalancerPrototype}
      {live : Cloud.LoadBalancer} {r : Except Failure Unit} :
      looked.requestedBalancers = [] → prototype.name = balancer.name →
      marking.requestedBalancers = [] →
      Creates s balancer (looked ++ ⟨.createLoadBalancer prototype, .answer live⟩ :: marking) r
        (s.putBalancer { id := live.id, name := live.name, state := live.state,
                         hostname := live.hostname, created := true })

theorem create_creates {r : Except Failure Unit} (hrun : (create plan balancer).Runs s t r s') :
    Creates s balancer t r s' := by
  rw [create, runs_status_bind] at hrun
  dsimp only at hrun
  split at hrun
  · obtain ⟨rfl, rfl, rfl⟩ := runs_fail.1 hrun
    exact .unasked rfl
  · rw [runs_status_bind] at hrun
    rcases runs_bind.1 hrun with ⟨groupId, mid, asked, rest, rfl, hgroup, hrest⟩ | ⟨e, rfl, hgroup⟩
    · obtain ⟨rfl, -, rfl⟩ := runs_ofExcept.1 hgroup
      rcases runs_bind.1 hrest with ⟨ids, mid, looked, rest, rfl, hids, hrest⟩ | ⟨e, rfl, hids⟩
      · have hlooked := (securityGroupIds_does balancer _ hids).requestedBalancers (by simp)
        obtain rfl := securityGroupIds_quiet balancer _ hids
        rw [List.nil_append]
        rcases runs_call_bind.1 hrest with
          ⟨live, marking, rfl, hlive⟩ | ⟨reply, e, rfl, hreply, rfl, rfl⟩
        · rw [observe, runs_update_bind] at hlive
          have hmarking := (Ownership.mark_does plan _ _ _ hlive).requestedBalancers (by simp)
          obtain rfl := Ownership.mark_quiet plan _ _ _ hlive
          exact .made hlooked rfl hmarking
        · refine .denied hlooked rfl fun live heq => ?_
          rw [heq] at hreply
          cases hreply
      · have hlooked := (securityGroupIds_does balancer _ hids).requestedBalancers (by simp)
        obtain rfl := securityGroupIds_quiet balancer _ hids
        exact .unasked (by simpa using hlooked)
    · obtain ⟨rfl, -, rfl⟩ := runs_ofExcept.1 hgroup
      exact .unasked rfl

theorem Creates.requests {r : Except Failure Unit} (h : Creates s balancer t r s') :
    (t.requestedBalancers.map (·.name)).Sublist [balancer.name] := by
  cases h with
  | unasked hnothing => simp [hnothing]
  | denied hlooked hname _ => simp [hlooked, hname]
  | made hlooked hname hmarking => simp [hlooked, hname, hmarking]

/-- There is one request at most for a load balancer, and it is for the one that the step creates. -/
theorem Course.requests (h : Course plan s balancers t created r s') :
    (t.requestedBalancers.map (·.name)).Sublist (created.toList.map (·.name)) := by
  cases h with
  | found hall => simp [hall.requests_nothing]
  | failed hearlier hfails => simp [hearlier.requests_nothing, hfails.requests_nothing]
  | uncreated hearlier hlooksUp hmade =>
    simpa [hearlier.requests_nothing, hlooksUp.requests_nothing] using (create_creates hmade).requests
  | created hearlier hlooksUp hmade hlater =>
    simpa [hearlier.requests_nothing, hlooksUp.requests_nothing, hlater.requests_nothing]
      using (create_creates hmade).requests

end Pass.LoadBalancers

end VpcOperator
