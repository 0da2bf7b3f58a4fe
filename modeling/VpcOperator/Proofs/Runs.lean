import VpcOperator.Pass.Step

/-! # Runs of passes

A run is one way a pass can go: its exchanges with the account in their order,
and how it ends. Every sequence of replies gives a run, so a statement about
all runs is one about every behaviour of the account. The inversion lemmas say
what a run of a composed pass is made of.
-/

namespace VpcOperator

open Cloud (Request Reply)
open Observed (Status)

/-- A request and the reply it got. -/
structure Exchange where
  request : Request
  reply : Reply request.Answer

abbrev Trace := List Exchange

/-- An exchange of two runs one after the other is in the first or in the second. -/
theorem Trace.append_eq_split {first rest before after : Trace} {exchange : Exchange}
    (h : first ++ rest = before ++ exchange :: after) :
    (∃ between, first = before ++ exchange :: between ∧ after = between ++ rest) ∨
      ∃ between, before = first ++ between ∧ rest = between ++ exchange :: after := by
  rcases List.append_eq_append_iff.1 h with ⟨between, hbefore, hrest⟩ | ⟨between, hfirst, hrest⟩
  · exact .inr ⟨between, hbefore, hrest⟩
  · cases between with
    | nil => exact .inr ⟨[], by simpa using hfirst.symm, by simpa using hrest.symm⟩
    | cons head between =>
      obtain ⟨rfl, hafter⟩ := List.cons_eq_cons.1 hrest
      exact .inl ⟨between, hfirst, hafter⟩

theorem Trace.append_eq_split_of_not_mem {first rest before after : Trace} {exchange : Exchange}
    (h : first ++ rest = before ++ exchange :: after) (hnot : exchange ∉ first) :
    ∃ between, before = first ++ between ∧ rest = between ++ exchange :: after := by
  refine (append_eq_split h).resolve_left ?_
  rintro ⟨between, rfl, -⟩
  exact hnot (by simp)

/-- A plan that declares nothing: names are generated, and so are subnets. -/
def Plan.bare (clusterName : String) : Plan :=
  { clusterName, resourceGroupName := clusterName
    spec := { region := "", resourceGroup := "", network := .empty, image := none,
              apiServerPort := none } }

namespace Program

variable {α β : Type}

inductive Runs : CloudProgram α → Trace → α → Prop
  | done (value : α) : Runs (.done value) [] value
  | ask {request : Request} {next : Reply request.Answer → CloudProgram α}
      {reply : Reply request.Answer} {rest : Trace} {value : α} :
      Runs (next reply) rest value → Runs (.ask request next) (⟨request, reply⟩ :: rest) value

theorem runs_done_iff {value result : α} {t : Trace} :
    Runs (.done value) t result ↔ t = [] ∧ result = value := by
  constructor
  · intro h
    cases h
    exact ⟨rfl, rfl⟩
  · rintro ⟨rfl, rfl⟩
    exact .done _

theorem runs_ask_iff {request : Request} {next : Reply request.Answer → CloudProgram α} {t : Trace}
    {result : α} :
    Runs (.ask request next) t result ↔
      ∃ reply rest, t = ⟨request, reply⟩ :: rest ∧ Runs (next reply) rest result := by
  constructor
  · intro h
    cases h with
    | ask h => exact ⟨_, _, rfl, h⟩
  · rintro ⟨reply, rest, rfl, h⟩
    exact .ask h

theorem runs_bind_iff {p : CloudProgram α} {f : α → CloudProgram β} {t : Trace} {result : β} :
    Runs (p.bind f) t result ↔
      ∃ middle first rest,
        t = first ++ rest ∧ Runs p first middle ∧ Runs (f middle) rest result := by
  induction p generalizing t with
  | done value =>
    constructor
    · intro h
      exact ⟨value, [], t, rfl, .done _, h⟩
    · rintro ⟨middle, first, rest, rfl, h, hf⟩
      obtain ⟨rfl, rfl⟩ := runs_done_iff.1 h
      exact hf
  | ask request next ih =>
    constructor
    · intro h
      obtain ⟨reply, rest, rfl, hnext⟩ := runs_ask_iff.1 h
      obtain ⟨middle, first, last, rfl, hp, hf⟩ := (ih reply).1 hnext
      exact ⟨middle, _ :: first, last, rfl, .ask hp, hf⟩
    · rintro ⟨middle, first, rest, rfl, h, hf⟩
      obtain ⟨reply, inner, rfl, hnext⟩ := runs_ask_iff.1 h
      exact .ask ((ih reply).2 ⟨middle, inner, rest, rfl, hnext, hf⟩)

/-- How far a program gets is a matter of the replies. -/
theorem Runs.unique {p : CloudProgram α} {first rest first' rest' : Trace} {a b : α}
    (h : Runs p first a) (h' : Runs p first' b) (ht : first ++ rest = first' ++ rest') :
    first = first' ∧ rest = rest' ∧ a = b := by
  induction h generalizing first' with
  | done value =>
    obtain ⟨rfl, rfl⟩ := runs_done_iff.1 h'
    exact ⟨rfl, ht, rfl⟩
  | ask _ ih =>
    obtain ⟨reply, inner, rfl, hnext⟩ := runs_ask_iff.1 h'
    obtain ⟨hhead, htail⟩ := List.cons_eq_cons.1 ht
    cases hhead
    obtain ⟨rfl, rfl, rfl⟩ := ih hnext htail
    exact ⟨rfl, rfl, rfl⟩

end Program

namespace Pass

variable {α β : Type} {s s' : Status} {t : Trace}

/-- The pass can go this way from the status `s`: with these exchanges, to this result and status. -/
def Runs (pass : Pass α) (s : Status) (t : Trace) (r : Except Failure α) (s' : Status) : Prop :=
  Program.Runs (pass s) t (r, s')

/-! ## Single passes -/

@[simp] theorem runs_pure {a : α} {r : Except Failure α} :
    Runs (pure a) s t r s' ↔ t = [] ∧ r = .ok a ∧ s' = s := by
  refine Program.runs_done_iff.trans ?_
  rw [Prod.mk.injEq]

theorem runs_pure_ok {a b : α} : Runs (pure a) s t (.ok b) s' ↔ t = [] ∧ b = a ∧ s' = s := by
  rw [runs_pure, Except.ok.injEq]

@[simp] theorem runs_ofExcept {result r : Except Failure α} :
    Runs (ofExcept result) s t r s' ↔ t = [] ∧ r = result ∧ s' = s := by
  refine Program.runs_done_iff.trans ?_
  rw [Prod.mk.injEq]

@[simp] theorem runs_fail {failure : Failure} {r : Except Failure α} :
    Runs (fail failure) s t r s' ↔ t = [] ∧ r = .error failure ∧ s' = s :=
  runs_ofExcept

@[simp] theorem runs_status {r : Except Failure Status} :
    Runs status s t r s' ↔ t = [] ∧ r = .ok s ∧ s' = s := by
  refine Program.runs_done_iff.trans ?_
  rw [Prod.mk.injEq]

@[simp] theorem runs_update {change : Status → Status} {r : Except Failure Unit} :
    Runs (update change) s t r s' ↔ t = [] ∧ r = .ok () ∧ s' = change s := by
  refine Program.runs_done_iff.trans ?_
  rw [Prod.mk.injEq]

theorem runs_call {target : String} {request : Request} {r : Except Failure request.Answer} :
    Runs (call target request) s t r s' ↔
      ∃ reply, t = [⟨request, reply⟩] ∧ r = settle request.kind request.verb target reply ∧
        s' = s := by
  refine Program.runs_ask_iff.trans ?_
  constructor
  · rintro ⟨reply, rest, rfl, h⟩
    obtain ⟨rfl, h⟩ := Program.runs_done_iff.1 h
    cases h
    exact ⟨reply, rfl, rfl, rfl⟩
  · rintro ⟨reply, rfl, rfl, rfl⟩
    exact ⟨reply, [], rfl, .done _⟩

/-! ## Composed passes -/

/-- Either the first part ends well and the second goes on, or its failure ends the pass. -/
theorem runs_bind {p : Pass α} {f : α → Pass β} {r : Except Failure β} :
    Runs (p >>= f) s t r s' ↔
      (∃ a mid first rest, t = first ++ rest ∧ Runs p s first (.ok a) mid ∧
        Runs (f a) mid rest r s') ∨
      (∃ e, r = .error e ∧ Runs p s t (.error e) s') := by
  refine Program.runs_bind_iff.trans ?_
  constructor
  · rintro ⟨⟨_ | a, mid⟩, first, rest, rfl, hp, hf⟩
    · obtain ⟨rfl, hend⟩ := Program.runs_done_iff.1 hf
      cases hend
      rw [List.append_nil]
      exact .inr ⟨_, rfl, hp⟩
    · exact .inl ⟨a, mid, first, rest, rfl, hp, hf⟩
  · rintro (⟨a, mid, first, rest, rfl, hp, hf⟩ | ⟨e, rfl, hp⟩)
    · exact ⟨_, first, rest, rfl, hp, hf⟩
    · exact ⟨_, t, [], (List.append_nil t).symm, hp, .done _⟩

theorem runs_bind_ok {p : Pass α} {f : α → Pass β} {b : β} :
    Runs (p >>= f) s t (.ok b) s' ↔
      ∃ a mid first rest, t = first ++ rest ∧ Runs p s first (.ok a) mid ∧
        Runs (f a) mid rest (.ok b) s' := by
  simp [runs_bind]

@[simp] theorem runs_pure_bind {a : α} {f : α → Pass β} {r : Except Failure β} :
    Runs (pure a >>= f) s t r s' ↔ Runs (f a) s t r s' :=
  Iff.rfl

theorem runs_bind_pure {p : Pass α} {f : α → β} {r : Except Failure β} :
    Runs (p >>= fun a => pure (f a)) s t r s' ↔ ∃ result, r = result.map f ∧ Runs p s t result s' := by
  rw [runs_bind]
  constructor
  · rintro (⟨a, mid, first, rest, rfl, hp, hend⟩ | ⟨e, rfl, hp⟩)
    · obtain ⟨rfl, rfl, rfl⟩ := runs_pure.1 hend
      rw [List.append_nil]
      exact ⟨.ok a, rfl, hp⟩
    · exact ⟨.error e, rfl, hp⟩
  · rintro ⟨result, rfl, hp⟩
    cases result with
    | ok a => exact .inl ⟨a, s', t, [], (List.append_nil t).symm, hp, runs_pure.2 ⟨rfl, rfl, rfl⟩⟩
    | error e => exact .inr ⟨e, rfl, hp⟩

theorem runs_of_bind_pure {p : Pass α} {f : α → β} {r : Except Failure β}
    (h : Runs (p >>= fun a => pure (f a)) s t r s') : ∃ result, Runs p s t result s' :=
  (runs_bind_pure.1 h).imp fun _ h => h.2

@[simp] theorem runs_status_bind {f : Status → Pass β} {r : Except Failure β} :
    Runs (status >>= f) s t r s' ↔ Runs (f s) s t r s' :=
  Iff.rfl

@[simp] theorem runs_update_bind {change : Status → Status} {f : Unit → Pass β}
    {r : Except Failure β} :
    Runs (update change >>= f) s t r s' ↔ Runs (f ()) (change s) t r s' :=
  Iff.rfl

@[simp] theorem runs_ofExcept_bind_ok {result : Except Failure α} {f : α → Pass β} {b : β} :
    Runs (ofExcept result >>= f) s t (.ok b) s' ↔
      ∃ a, result = .ok a ∧ Runs (f a) s t (.ok b) s' := by
  cases result with
  | ok a =>
    constructor
    · intro h
      exact ⟨a, rfl, h⟩
    · rintro ⟨_, ⟨⟩, h⟩
      exact h
  | error e => simp [runs_bind_ok]

theorem runs_call_ok {target : String} {request : Request} {a : request.Answer} :
    Runs (call target request) s t (.ok a) s' ↔ t = [⟨request, .answer a⟩] ∧ s' = s := by
  constructor
  · intro h
    obtain ⟨reply, rfl, hr, rfl⟩ := runs_call.1 h
    cases reply with
    | answer value =>
      cases hr
      exact ⟨rfl, rfl⟩
    | error source => cases hr
    | aborted => cases hr
  · rintro ⟨rfl, rfl⟩
    exact runs_call.2 ⟨_, rfl, rfl, rfl⟩

theorem runs_ofExcept_ok_bind {a : α} {f : α → Pass β} {r : Except Failure β} :
    Runs (ofExcept (.ok a) >>= f) s t r s' ↔ Runs (f a) s t r s' :=
  Iff.rfl

/-- Without an answer there is nothing to go on with. -/
theorem runs_call_bind {target : String} {request : Request} {f : request.Answer → Pass β}
    {r : Except Failure β} :
    Runs (call target request >>= f) s t r s' ↔
      (∃ answer rest, t = ⟨request, .answer answer⟩ :: rest ∧ Runs (f answer) s rest r s') ∨
      ∃ reply e, t = [⟨request, reply⟩] ∧
        settle request.kind request.verb target reply = .error e ∧ r = .error e ∧ s' = s := by
  rw [runs_bind]
  refine or_congr ⟨?_, ?_⟩ ⟨?_, ?_⟩
  · rintro ⟨a, mid, first, rest, rfl, hcall, hf⟩
    obtain ⟨rfl, rfl⟩ := runs_call_ok.1 hcall
    exact ⟨a, rest, rfl, hf⟩
  · rintro ⟨answer, rest, rfl, hf⟩
    exact ⟨answer, s, [_], rest, rfl, runs_call_ok.2 ⟨rfl, rfl⟩, hf⟩
  · rintro ⟨e, rfl, hcall⟩
    obtain ⟨reply, rfl, hr, rfl⟩ := runs_call.1 hcall
    exact ⟨reply, e, rfl, hr.symm, rfl, rfl⟩
  · rintro ⟨reply, e, rfl, hr, rfl, rfl⟩
    exact ⟨e, rfl, runs_call.2 ⟨reply, rfl, hr.symm, rfl⟩⟩

theorem runs_call_bind_ok {target : String} {request : Request} {f : request.Answer → Pass β}
    {b : β} :
    Runs (call target request >>= f) s t (.ok b) s' ↔
      ∃ answer rest, t = ⟨request, .answer answer⟩ :: rest ∧ Runs (f answer) s rest (.ok b) s' := by
  simp [runs_call_bind]

theorem runs_attempt {p : Pass α} {r : Except Failure (Except Failure α)} :
    Runs (attempt p) s t r s' ↔ ∃ result, r = .ok result ∧ Runs p s t result s' := by
  refine Program.runs_bind_iff.trans ?_
  constructor
  · rintro ⟨⟨result, mid⟩, first, rest, rfl, hp, hf⟩
    obtain ⟨rfl, hend⟩ := Program.runs_done_iff.1 hf
    cases hend
    rw [List.append_nil]
    exact ⟨result, rfl, hp⟩
  · rintro ⟨result, rfl, hp⟩
    exact ⟨_, t, [], (List.append_nil t).symm, hp, .done _⟩

theorem runs_attempt_bind {p : Pass α} {f : Except Failure α → Pass β} {r : Except Failure β} :
    Runs (attempt p >>= f) s t r s' ↔
      ∃ result mid first rest, t = first ++ rest ∧ Runs p s first result mid ∧
        Runs (f result) mid rest r s' := by
  rw [runs_bind]
  constructor
  · rintro (⟨result, mid, first, rest, ht, hp, hf⟩ | ⟨e, -, hp⟩)
    · obtain ⟨_, hresult, hp⟩ := runs_attempt.1 hp
      cases hresult
      exact ⟨result, mid, first, rest, ht, hp, hf⟩
    · obtain ⟨_, hresult, -⟩ := runs_attempt.1 hp
      cases hresult
  · rintro ⟨result, mid, first, rest, ht, hp, hf⟩
    exact .inl ⟨result, mid, first, rest, ht, runs_attempt.2 ⟨result, rfl, hp⟩, hf⟩

theorem runs_mapFailure {g : Failure → Failure} {p : Pass α} {r : Except Failure α} :
    Runs (mapFailure g p) s t r s' ↔ ∃ result, r = result.mapError g ∧ Runs p s t result s' := by
  refine Program.runs_bind_iff.trans ?_
  constructor
  · rintro ⟨⟨result, mid⟩, first, rest, rfl, hp, hf⟩
    obtain ⟨rfl, hend⟩ := Program.runs_done_iff.1 hf
    cases hend
    rw [List.append_nil]
    exact ⟨result, rfl, hp⟩
  · rintro ⟨result, rfl, hp⟩
    exact ⟨_, t, [], (List.append_nil t).symm, hp, .done _⟩

/-! ## The standard steps -/

/-- Every exchange of a pass is one of its steps, and unless that step ends well, it ends the pass. -/
theorem runs_runSteps_exchange {plan : Plan} {steps : List Step} {r : Except Failure Outcome}
    {before after : Trace} {exchange : Exchange}
    (hrun : (runSteps plan steps).Runs s (before ++ exchange :: after) r s') :
    ∃ step ∈ steps, ∃ earlier first start outcome stop last rest,
      before = earlier ++ first ∧ after = last ++ rest ∧
        (step.run plan).Runs start (first ++ exchange :: last) outcome stop ∧
        ((∃ a, outcome = .ok a) ∨ rest = [] ∧ outcome = r) := by
  induction steps generalizing s before with
  | nil =>
    obtain ⟨ht, -, -⟩ := runs_pure.1 hrun
    simp at ht
  | cons step steps ih =>
    rcases runs_bind.1 hrun with ⟨a, mid, t₁, t₂, ht, hstep, hrest⟩ | ⟨e, rfl, hstep⟩
    · rcases Trace.append_eq_split ht.symm with ⟨between, rfl, rfl⟩ | ⟨between, rfl, rfl⟩
      · exact ⟨step, List.mem_cons_self, [], before, s, _, mid, between, t₂, rfl, rfl, hstep,
          .inl ⟨a, rfl⟩⟩
      · cases a with
        | ready =>
          obtain ⟨other, hmem, earlier, first, start, outcome, stop, last, rest, rfl, hlater⟩ :=
            ih hrest
          exact ⟨other, List.mem_cons_of_mem _ hmem, t₁ ++ earlier, first, start, outcome, stop,
            last, rest, by simp, hlater⟩
        | requeue =>
          obtain ⟨ht, -, -⟩ := runs_pure.1 hrest
          simp at ht
    · exact ⟨step, List.mem_cons_self, [], before, s, _, s', after, [], rfl, by simp, hstep,
        .inr ⟨rfl, rfl⟩⟩

/-- What composes holds of a pass if it holds of its steps. -/
theorem standard_of_steps {plan : Plan} {Q : Pass Outcome → Prop}
    (hpure : ∀ outcome, Q (pure outcome))
    (hbind : ∀ {pass : Pass Outcome} {next : Outcome → Pass Outcome},
      Q pass → (∀ outcome, Q (next outcome)) → Q (pass >>= next))
    (hresourceGroups : Q (ResourceGroups.step plan)) (hvpc : Q (Vpc.step plan))
    (himage : Q (Image.step plan)) (hsubnets : Q (Subnets.step plan))
    (hgroups : Q (Groups.step plan)) (hbalancers : Q (LoadBalancers.step plan)) :
    Q (standard plan) := by
  have hstep : ∀ {step : Step} {rest : List Step}, Q (step.run plan) → Q (runSteps plan rest) →
      Q (runSteps plan (step :: rest)) := by
    intro step rest hfirst hrest
    refine hbind hfirst fun outcome => ?_
    cases outcome with
    | ready => exact hrest
    | requeue => exact hpure _
  exact hstep hresourceGroups <| hstep hvpc <| hstep himage <| hstep hsubnets <| hstep hgroups <|
    hstep hbalancers <| hpure _

end Pass

end VpcOperator
