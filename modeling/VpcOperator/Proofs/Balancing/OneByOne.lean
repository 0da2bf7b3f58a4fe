import VpcOperator.Proofs.Account.Keeping
import VpcOperator.Proofs.Balancing.Placement
import VpcOperator.Proofs.Balancing.Turns
import VpcOperator.Proofs.Convergence.Balancers
import VpcOperator.Proofs.Provenance.Steps

/-! # Load balancers come one by one

A pass creates the first of the load balancers that are missing, and the passes
after it the others, in the order of their declaration.
-/

namespace VpcOperator.Pass.LoadBalancers

open Cloud (Inventory)
open Observed (BalancerEntry Status)

variable {plan : Plan} {balancer : Desired.LoadBalancer} {balancers all : List Desired.LoadBalancer}
  {s s' : Status} {held left : Inventory} {t : Trace} {live : Cloud.LoadBalancer}

/-! ## What is missing -/

/-- A name that none has goes with no ID. -/
theorem forall_not_named {lives : List Cloud.LoadBalancer} {name : String} :
    (∀ id, ¬ ∃ live ∈ lives, live.id = id ∧ live.name = name) ↔
      ∀ live ∈ lives, live.name ≠ name := by
  constructor
  · intro hnone live hmem hname
    exact hnone live.id ⟨live, hmem, rfl, hname⟩
  · rintro hnone id ⟨live, hmem, -, hname⟩
    exact hnone live hmem hname

theorem isMissing_iff : isMissing held balancer = true ↔
    given? balancer.id = none ∧ ∀ id, ¬ held.HasBalancer id balancer.name := by
  unfold Inventory.HasBalancer
  rw [forall_not_named]
  simp [isMissing]

/-- Of what was missing only that stays missing for which nothing has been created. -/
theorem isMissing_keeps (h : held.Keeps t left) :
    isMissing left balancer = true ↔
      isMissing held balancer = true ∧ ∀ live ∈ t.madeBalancers, live.name ≠ balancer.name := by
  rw [isMissing_iff, isMissing_iff, ← forall_not_named, and_assoc, ← forall_and]
  simp only [h.hasBalancer_iff, not_or]

theorem isMissing_still (h : held.Keeps t left) (hnothing : t.madeBalancers = []) :
    isMissing left = isMissing held := by
  funext balancer
  have hiff : isMissing left balancer = true ↔ isMissing held balancer = true := by
    simp [isMissing_keeps h, hnothing]
  exact Bool.eq_iff_iff.2 hiff

/-- No entry leads to a load balancer that is missing: none under its name says that it is active, or
has an ID that is in use. -/
structure Agrees (balancers : List Desired.LoadBalancer) (s : Status) (held : Inventory) : Prop where
  keyed : s.KeyedById
  clear : ∀ balancer ∈ balancers, isMissing held balancer = true → ∀ entry ∈ s.balancers,
    entry.name = balancer.name → entry.state ≠ .active ∧ ∀ name, ¬ held.HasBalancer entry.id name

theorem Agrees.frame (h : Agrees all s held) (hsame : Status.Same .balancers s s') :
    Agrees all s' held :=
  ⟨h.keyed.frame hsame, fun balancer hmem hmissing entry hentry =>
    h.clear balancer hmem hmissing entry (hsame.balancers ▸ hentry)⟩

theorem Agrees.keeps (h : Agrees all s held) (hkeeps : held.Keeps t left)
    (hnothing : t.madeBalancers = []) : Agrees all s left := by
  refine ⟨h.keyed, fun balancer hmem hmissing entry hentry hname => ?_⟩
  have hbefore := ((isMissing_keeps hkeeps).1 hmissing).1
  obtain ⟨hstate, hheld⟩ := h.clear balancer hmem hbefore entry hentry hname
  exact ⟨hstate, fun name hhas => hheld name ((hkeeps.still hnothing).1 hhas)⟩

/-! ## One load balancer -/

theorem LooksUp.makes_nothing {found : Option Cloud.LoadBalancer} (h : LooksUp s balancer t found) :
    t.madeBalancers = [] := by
  cases h <;> rfl

/-- What is found is in the account, or an entry says so. -/
theorem LooksUp.held_or_remembered (h : LooksUp s balancer t (some live)) (hkeeps : held.Keeps t left) :
    held.HasBalancer live.id live.name ∨
      ∃ entry ∈ s.balancers, entry.id = live.id ∧ entry.name = live.name ∧
        entry.state = live.state := by
  have hnothing := h.makes_nothing
  cases h with
  | @active entry hentry _ => exact .inr ⟨entry, mem_of_remembered? hentry, rfl, rfl, rfl⟩
  | declared _ => exact .inl (hkeeps.got hnothing List.mem_cons_self).1
  | known _ _ _ => exact .inl (hkeeps.got hnothing List.mem_cons_self).1
  | named _ _ _ => exact .inl (hkeeps.found hnothing List.mem_cons_self).1
  | gone _ _ _ _ =>
    exact .inl (hkeeps.found hnothing (List.mem_cons_of_mem _ List.mem_cons_self)).1

theorem LooksUp.not_missing (h : LooksUp s balancer t (some live)) (hkeeps : held.Keeps t left)
    (hagrees : Agrees all s held) (hmem : balancer ∈ all) : isMissing held balancer = false := by
  have hnothing := h.makes_nothing
  refine eq_false_of_ne_true fun hmissing => ?_
  obtain ⟨hid, hnone⟩ := isMissing_iff.1 hmissing
  have hclear := hagrees.clear balancer hmem hmissing
  cases h with
  | active hentry hstate =>
    have hname := name_of_remembered? hid hentry
    exact (hclear _ (mem_of_remembered? hentry) hname).1 hstate
  | declared hdeclared => simp [hid] at hdeclared
  | known _ hentry _ =>
    obtain ⟨hhas, hsame⟩ := hkeeps.got hnothing List.mem_cons_self
    have hname := name_of_remembered? hid hentry
    exact (hclear _ (mem_of_remembered? hentry) hname).2 live.name (hsame ▸ hhas)
  | named _ _ _ =>
    obtain ⟨hhas, hname⟩ := hkeeps.found hnothing List.mem_cons_self
    exact hnone live.id (hname ▸ hhas)
  | gone _ _ _ _ =>
    obtain ⟨hhas, hname⟩ := hkeeps.found hnothing (List.mem_cons_of_mem _ List.mem_cons_self)
    exact hnone live.id (hname ▸ hhas)

theorem LooksUp.none_missing (h : LooksUp s balancer t none) (hkeeps : held.Keeps t left) :
    isMissing held balancer = true := by
  have hnothing := h.makes_nothing
  cases h with
  | named hid =>
    exact isMissing_iff.2 ⟨hid, fun _ => hkeeps.not_found hnothing List.mem_cons_self⟩
  | gone hid =>
    exact isMissing_iff.2 ⟨hid, fun _ =>
      hkeeps.not_found hnothing (List.mem_cons_of_mem _ List.mem_cons_self)⟩

theorem Agrees.put {entry : BalancerEntry} (h : Agrees all s held)
    (hknown : held.HasBalancer entry.id entry.name ∨ ∃ other ∈ s.balancers,
      other.id = entry.id ∧ other.name = entry.name ∧ other.state = entry.state) :
    Agrees all (s.putBalancer entry) held := by
  refine ⟨h.keyed.putBalancer entry, fun balancer hmem hmissing other hother hname => ?_⟩
  rcases Status.mem_balancers_putBalancer hother with rfl | hother
  · rcases hknown with hhas | ⟨old, hold, hid, holdName, hstate⟩
    · rw [hname] at hhas
      exact absurd hhas ((isMissing_iff.1 hmissing).2 other.id)
    · rw [← hid, ← hstate]
      exact h.clear balancer hmem hmissing old hold (holdName.trans hname)
  · exact h.clear balancer hmem hmissing other hother hname

/-- The entry of a load balancer that was created takes the place of what had its ID. -/
theorem Agrees.put_made {entry : BalancerEntry} (h : Agrees all s held)
    (hkeeps : held.Keeps t left) (hmade : t.madeBalancers = [live])
    (hid : entry.id = live.id) (hname : entry.name = live.name) :
    Agrees all (s.putBalancer entry) left := by
  have hkeyed := h.keyed.putBalancer entry
  refine ⟨hkeyed, fun balancer hmem hmissing other hother hsame => ?_⟩
  obtain ⟨hbefore, hothers⟩ := (isMissing_keeps hkeeps).1 hmissing
  have hne : live.name ≠ balancer.name := hothers live (by simp [hmade])
  have hold : other ≠ entry := by
    rintro rfl
    exact hne (hname.symm.trans hsame)
  have hthere := (Status.mem_balancers_putBalancer hother).resolve_left hold
  obtain ⟨hstate, hunused⟩ := h.clear balancer hmem hbefore other hthere hsame
  refine ⟨hstate, fun name hhas => ?_⟩
  rcases hkeeps.hasBalancer_iff.1 hhas with hhas | ⟨new, hnew, hnewId, -⟩
  · exact hunused name hhas
  · -- Under the new ID there is only the new entry.
    have hfind := hkeyed.balancer?_id hother
    have hnewId : other.id = entry.id := by
      rw [hmade] at hnew
      obtain rfl := List.mem_singleton.1 hnew
      exact hnewId.symm.trans hid.symm
    rw [Status.balancer?_putBalancer, if_pos hnewId] at hfind
    exact hold (Option.some.inj hfind).symm

/-! ## The step -/

theorem makes_nothing_of_requests (h : t.requestedBalancers = []) : t.madeBalancers = [] := by
  apply List.filterMap_eq_nil_iff.2
  intro exchange hmem
  have hrequest := List.filterMap_eq_nil_iff.1 h exchange hmem
  split
  · cases hrequest
  · rfl

/-- What a creation has made, and that the entry for it takes the place of what had its ID. -/
theorem Creates.makes {r : Except Failure Unit} (h : Creates s balancer t r s')
    (hkeeps : held.Keeps t left) :
    (t.madeBalancers = [] ∧ s' = s ∧ ∃ e, r = .error e) ∨
      ∃ live, t.madeBalancers = [live] ∧ live.name = balancer.name ∧
        ∃ entry : BalancerEntry, entry.id = live.id ∧ entry.name = live.name ∧
          s' = s.putBalancer entry := by
  cases h with
  | unasked hnothing => exact .inl ⟨makes_nothing_of_requests hnothing, rfl, _, rfl⟩
  | @denied looked prototype reply _ hlooked _ hdenied =>
    have hlast : Trace.madeBalancers [⟨.createLoadBalancer prototype, reply⟩] = [] := by
      cases reply with
      | answer live => exact absurd rfl (hdenied live)
      | error _ => rfl
      | aborted => rfl
    refine .inl ⟨?_, rfl, _, rfl⟩
    rw [Trace.madeBalancers_append, makes_nothing_of_requests hlooked, hlast]
    rfl
  | @made looked marking prototype live _ hlooked hname hmarking =>
    have hmade : Trace.madeBalancers (looked ++ ⟨.createLoadBalancer prototype, .answer live⟩ ::
        marking) = [live] := by
      rw [Trace.madeBalancers_append, Trace.madeBalancers_cons, makes_nothing_of_requests hlooked,
        makes_nothing_of_requests hmarking]
      rfl
    obtain ⟨mid, -, hrest⟩ := hkeeps.split
    cases hrest with
    | cons _ hadmits _ _ => exact .inr ⟨live, hmade, hadmits.1.trans hname, _, rfl, rfl, rfl⟩

theorem Creates.agrees {r : Except Failure Unit} (h : Creates s balancer t r s')
    (hagrees : Agrees all s held) (hkeeps : held.Keeps t left) : Agrees all s' left := by
  rcases h.makes hkeeps with ⟨hnothing, rfl, -⟩ | ⟨live, hmade, -, entry, hid, hname, rfl⟩
  · exact hagrees.keeps hkeeps hnothing
  · exact hagrees.put_made hkeeps hmade hid hname

theorem LooksUp.agrees {r : Except Failure Outcome} (h : LooksUp s balancer t (some live))
    (hfound : (settleFound live).Runs s [] r s') (hagrees : Agrees all s held)
    (hkeeps : held.Keeps t left) : Agrees all s' left := by
  obtain ⟨-, entry, hid, hname, hstate, rfl⟩ := settleFound_puts hfound
  have hknown := h.held_or_remembered hkeeps
  rw [← hid, ← hname, ← hstate] at hknown
  exact (hagrees.put hknown).keeps hkeeps h.makes_nothing

theorem Fails.agrees {e : Failure} (h : Fails s balancer t e s') (hagrees : Agrees all s held)
    (hkeeps : held.Keeps t left) : Agrees all s' left := by
  have hnothing := makes_nothing_of_requests h.requests_nothing
  cases h with
  | unknown hrun =>
    obtain rfl := find_quiet balancer hrun
    exact hagrees.keeps hkeeps hnothing
  | failed hlooksUp hfound => exact hlooksUp.agrees hfound hagrees hkeeps

theorem exists_ok_of_map {α β : Type} {r : Except Failure α} {f : α → β}
    (h : ∃ b, r.map f = .ok b) : ∃ a, r = .ok a := by
  obtain ⟨b, hb⟩ := h
  cases r with
  | ok a => exact ⟨a, rfl⟩
  | error e => cases hb

/-- What a part of a step does that is about some load balancers: if all goes well, it creates the
first of them that is missing, unless one has been created before. -/
structure Advance (all balancers : List Desired.LoadBalancer) (created : Bool) (held : Inventory)
    (t : Trace) (r : Except Failure Outcome) (s' : Status) (left : Inventory) : Prop where
  agrees : Agrees all s' left
  makes : balancers ⊆ all → (∃ outcome, r = .ok outcome) → t.madeBalancers.map (·.name) =
    if created then [] else ((balancers.find? (isMissing held)).map (·.name)).toList

theorem settleAll_advance {created : Bool} {r : Except Failure Outcome} (hagrees : Agrees all s held)
    (hrun : (settleAll plan balancers created).Runs s t r s') (hkeeps : held.Keeps t left) :
    Advance all balancers created held t r s' left := by
  induction balancers generalizing s held t r created with
  | nil =>
    obtain ⟨rfl, -, rfl⟩ := runs_pure.1 hrun
    cases hkeeps with
    | nil => exact ⟨hagrees, fun _ _ => by cases created <;> rfl⟩
  | cons balancer rest ih =>
    have hmem : balancer :: rest ⊆ all → balancer ∈ all := fun hsub => hsub List.mem_cons_self
    have hrest : balancer :: rest ⊆ all → rest ⊆ all :=
      fun hsub _ hlater => hsub (List.mem_cons_of_mem _ hlater)
    cases settleAll_turn hrun with
    | fails hfails => exact ⟨hfails.agrees hagrees hkeeps, fun _ => nofun⟩
    | @found _ first last live outcome mid _ r hlooksUp hfound hothers =>
      obtain ⟨now, hfirst, hlast⟩ := hkeeps.split
      have hnothing := hlooksUp.makes_nothing
      have hadvance := ih (hlooksUp.agrees hfound hagrees hfirst) hothers hlast
      refine ⟨hadvance.agrees, fun hsub hr => ?_⟩
      have hnot := hlooksUp.not_missing hfirst hagrees (hmem hsub)
      rw [Trace.madeBalancers_append, hnothing, List.nil_append,
        hadvance.makes (hrest hsub) (exists_ok_of_map hr), isMissing_still hfirst hnothing,
        List.find?_cons_of_neg (by simp [hnot])]
    | @deferred first last _ r hlooksUp hothers =>
      obtain ⟨now, hfirst, hlast⟩ := hkeeps.split
      have hnothing := hlooksUp.makes_nothing
      have hadvance := ih (hagrees.keeps hfirst hnothing) hothers hlast
      refine ⟨hadvance.agrees, fun hsub hr => ?_⟩
      rw [Trace.madeBalancers_append, hnothing, List.nil_append,
        hadvance.makes (hrest hsub) (exists_ok_of_map hr)]
      rfl
    | uncreated hlooksUp hmade =>
      obtain ⟨now, hfirst, hlast⟩ := hkeeps.split
      have hnow := hagrees.keeps hfirst hlooksUp.makes_nothing
      exact ⟨(create_creates hmade).agrees hnow hlast, fun _ => nofun⟩
    | @created first made last _ _ r hlooksUp hmade hothers =>
      obtain ⟨now, hfirst, hlater⟩ := hkeeps.split
      obtain ⟨after, hmaking, hlast⟩ := hlater.split
      have hnothing := hlooksUp.makes_nothing
      have hnow := hagrees.keeps hfirst hnothing
      have hadvance := ih ((create_creates hmade).agrees hnow hmaking) hothers hlast
      refine ⟨hadvance.agrees, fun hsub hr => ?_⟩
      have hmissing := hlooksUp.none_missing hfirst
      have hothers : last.madeBalancers.map (·.name) = [] :=
        hadvance.makes (hrest hsub) (exists_ok_of_map hr)
      rcases (create_creates hmade).makes hmaking with ⟨-, -, e, he⟩ | ⟨live, hlive, hname, -⟩
      · cases he
      · rw [Trace.madeBalancers_append, Trace.madeBalancers_append, hnothing, hlive,
          List.find?_cons_of_pos hmissing]
        simp [hothers, hname]

/-! ## Pass after pass -/

/-- With an account that keeps its load balancers, what is remembered goes on to agree with it. -/
def StaysAgreed (all : List Desired.LoadBalancer) : Effect := fun s t s' =>
  ∀ held left, Inventory.Keeps held t left → Agrees all s held → Agrees all s' left

instance (all : List Desired.LoadBalancer) : Composes (StaysAgreed all) where
  nil s := by
    rintro held _ ⟨⟩ hagrees
    exact hagrees
  append {s₁ s₂ s₃ t₁ t₂} h₁ h₂ := by
    intro held left hkeeps hagrees
    obtain ⟨mid, hfirst, hrest⟩ := hkeeps.split
    exact h₂ mid left hrest (h₁ held mid hfirst hagrees)

theorem staysAgreed_of_does {parts : List Observed.Part} {looks makes : List Kind}
    (h : Does parts looks makes s t s') (hparts : .balancers ∉ parts)
    (hmakes : .loadBalancer ∉ makes) : StaysAgreed all s t s' := by
  intro held left hkeeps hagrees
  have hnothing := makes_nothing_of_requests (h.requestedBalancers hmakes)
  exact (hagrees.frame (h.writes _ hparts)).keeps hkeeps hnothing

theorem standard_staysAgreed (plan : Plan) : Always (StaysAgreed all) (standard plan) := by
  have hstep : Always (StaysAgreed all) (step plan) := by
    intro s t r s' hrun held left hkeeps hagrees
    exact (settleAll_advance hagrees hrun hkeeps).agrees
  exact standard_of_balancers (fun h hparts _ hmakes => staysAgreed_of_does h hparts hmakes) hstep

theorem agrees_of_passes {past : History} (h : Passes s past s')
    (hkeeps : held.Keeps past.exchanges left) (hagrees : Agrees all s held) :
    Agrees all s' left := by
  induction h generalizing held with
  | nil =>
    cases hkeeps with
    | nil => exact hagrees
  | cons hrun _ ih =>
    obtain ⟨mid, hfirst, hrest⟩ := hkeeps.split
    exact ih hrest (standard_staysAgreed _ hrun held mid hfirst hagrees)

theorem agrees_empty : Agrees all .empty held := by
  constructor
  · intro id entry hentry
    cases hentry
  · intro balancer _ _ entry hentry
    cases hentry

/-- Steps over these load balancers in passes one after the other, none of which fails, with an
account that keeps its load balancers. Whatever else the status holds can change between them. -/
inductive Rounds (balancers : List Desired.LoadBalancer) : Status → Inventory → List Trace → Prop
  | nil (s : Status) (held : Inventory) : Rounds balancers s held []
  | cons {plan : Plan} {s start stop : Status} {held left : Inventory} {t : Trace}
      {outcome : Outcome} {rest : List Trace} :
      Status.Same .balancers s start → plan.spec.network.loadBalancers = balancers →
      (step plan).Runs start t (.ok outcome) stop → held.Keeps t left →
      Rounds balancers stop left rest → Rounds balancers s held (t :: rest)

/-- The names of the load balancers that have yet to be created. -/
def missingNames (held : Inventory) (balancers : List Desired.LoadBalancer) : List String :=
  (balancers.filter (isMissing held)).map (·.name)

theorem filter_not_head {names : List String} (h : names.Nodup) :
    names.filter (fun name => name ∉ names.head?.toList) = names.tail := by
  cases names with
  | nil => rfl
  | cons first rest =>
    have hfirst : first ∉ rest := (List.nodup_cons.1 h).1
    have hothers : ∀ name ∈ rest, name ≠ first := fun name hmem heq => hfirst (heq ▸ hmem)
    simpa using hothers

/-- With the first of them created, the others are missing. -/
theorem missingNames_keeps (hkeeps : held.Keeps t left)
    (hnames : (missingNames held balancers).Nodup)
    (hmade : t.madeBalancers.map (·.name) = (missingNames held balancers).head?.toList) :
    missingNames left balancers = (missingNames held balancers).tail := by
  have hstill : ∀ balancer, isMissing left balancer =
      (decide (balancer.name ∉ t.madeBalancers.map (·.name)) && isMissing held balancer) := by
    intro balancer
    have hnone : (∀ live ∈ t.madeBalancers, live.name ≠ balancer.name) ↔
        balancer.name ∉ t.madeBalancers.map (·.name) := by
      simp only [List.mem_map, not_exists, not_and]
    rw [Bool.eq_iff_iff, isMissing_keeps hkeeps, hnone, Bool.and_eq_true, decide_eq_true_eq, and_comm]
  calc missingNames left balancers
      = (missingNames held balancers).filter (· ∉ t.madeBalancers.map (·.name)) := by
        unfold missingNames
        rw [List.filter_map, List.filter_filter, funext hstill]
        rfl
    _ = (missingNames held balancers).tail := by
        rw [hmade, filter_not_head hnames]

/-- Each of the passes creates the first load balancer that is missing then. -/
theorem Rounds.makes {traces : List Trace} (h : Rounds balancers s held traces)
    (hagrees : Agrees balancers s held) (hnames : (missingNames held balancers).Nodup) (i : Nat)
    (hi : traces[i]? = some t) :
    t.madeBalancers.map (·.name) = (missingNames held balancers)[i]?.toList := by
  induction h generalizing i with
  | nil => cases hi
  | @cons plan s start stop held left now outcome rest hsame hplan hrun hkeeps _ ih =>
    subst hplan
    have hadvance := settleAll_advance (hagrees.frame hsame) hrun hkeeps
    have hfirst : now.madeBalancers.map (·.name) =
        (missingNames held plan.spec.network.loadBalancers).head?.toList := by
      rw [hadvance.makes (List.Subset.refl _) ⟨outcome, rfl⟩, missingNames, List.head?_map,
        List.head?_filter]
      rfl
    cases i with
    | zero =>
      cases hi
      rw [hfirst, List.head?_eq_getElem?]
    | succ i =>
      have hleft := missingNames_keeps hkeeps hnames hfirst
      have hlater := ih hadvance.agrees (hleft ▸ hnames.sublist (List.tail_sublist _)) i hi
      rw [hlater, hleft, List.getElem?_tail]

/-- A step creates one load balancer at most, and that is the first that nothing leads to: before it
all are found, after it none is created, and it does not end ready. So in an account that keeps its
load balancers those that are missing come one by one, in the order in which they are declared,
whatever passes there were before. -/
theorem one_per_pass_in_order :
    (∀ {plan : Plan} {s s' : Status} {t : Trace} {r : Except Failure Outcome},
      (step plan).Runs s t r s' →
      ∃ created, Course plan s plan.spec.network.loadBalancers t created r s' ∧
        (t.requestedBalancers.map (·.name)).Sublist (created.toList.map (·.name))) ∧
    (∀ {balancers : List Desired.LoadBalancer} {past : History} {s : Status} {start held : Inventory},
      Passes .empty past s → start.Keeps past.exchanges held → Agrees balancers s held) ∧
    ∀ {balancers : List Desired.LoadBalancer} {s : Status} {held : Inventory} {traces : List Trace},
      Agrees balancers s held → (missingNames held balancers).Nodup →
      Rounds balancers s held traces → ∀ (i : Nat) (t : Trace), traces[i]? = some t →
        t.madeBalancers.map (·.name) = (missingNames held balancers)[i]?.toList := by
  refine ⟨?_, ?_, ?_⟩
  · intro plan s s' t r hrun
    obtain ⟨created, hcourse⟩ := settleAll_course hrun
    exact ⟨created, hcourse, hcourse.requests⟩
  · intro balancers past s start held hpast hkeeps
    exact agrees_of_passes hpast hkeeps agrees_empty
  · intro balancers s held traces hagrees hnames hrounds i t hi
    exact hrounds.makes hagrees hnames i hi

def queuedBalancer (name : String) : Desired.LoadBalancer :=
  { name, id := none, isPublic := true, listeners := [], pools := [], securityGroups := [] }

/-- Two load balancers, and nothing else that has to be known for them. -/
def queuedPlan : Plan :=
  { Plan.bare "a" with
    spec := { (Plan.bare "a").spec with
              network :=
                { Desired.Network.empty with
                  loadBalancers := [queuedBalancer "b", queuedBalancer "c"] } } }

/-- What the account holds besides load balancers. -/
def queuedHeld (balancers : List Cloud.LoadBalancer) : Inventory :=
  { Inventory.empty with
    vpcs := [⟨"2", "a-vpc", "", .available⟩]
    subnets := [⟨"3", "x", "", "z", none, .available⟩, ⟨"4", "y", "", "z", none, .available⟩]
    loadBalancers := balancers }

def queuedPrototype (name : String) : Cloud.LoadBalancerPrototype :=
  { name, resourceGroupId := "1", isPublic := true, subnetIds := ["3", "4"], securityGroupIds := [],
    pools := [Pool.default (name ++ "-pool-6443")],
    listeners := [⟨6443, "tcp", name ++ "-pool-6443"⟩] }

def queuedLive (id name : String) : Cloud.LoadBalancer :=
  ⟨id, name, "crn", .createPending, none⟩

/-- `b` is created, and `c` has to wait. -/
def firstInQueue : Trace :=
  [⟨.findLoadBalancer "b", .answer none⟩,
    ⟨.createLoadBalancer (queuedPrototype "b"), .answer (queuedLive "8" "b")⟩,
    ⟨.listTags, .answer ["a"]⟩, ⟨.attachTag "a" "crn", .answer ()⟩,
    ⟨.findLoadBalancer "c", .answer none⟩]

def secondInQueue : Trace :=
  [⟨.getLoadBalancer "8", .answer (some (queuedLive "8" "b"))⟩,
    ⟨.findLoadBalancer "c", .answer none⟩,
    ⟨.createLoadBalancer (queuedPrototype "c"), .answer (queuedLive "9" "c")⟩,
    ⟨.listTags, .answer ["a"]⟩, ⟨.attachTag "a" "crn", .answer ()⟩]

theorem beforeMove_keeps : (queuedHeld []).Keeps (History.exchanges beforeMove) (queuedHeld []) := by
  refine .cons (fun _ _ => .rfl) trivial trivial (.cons (fun _ _ => .rfl) ?_ trivial
    (.cons (fun _ _ => .rfl) trivial trivial (.cons (fun _ _ => .rfl) ?_ trivial
      (.cons (fun _ _ => .rfl) ?_ trivial (.cons (fun _ _ => .rfl) trivial trivial (.nil _))))))
  all_goals simp [Inventory.Admits, Inventory.after, Cloud.Finds, availableSubnet, queuedHeld]

theorem firstInQueue_keeps :
    (queuedHeld []).Keeps firstInQueue (queuedHeld [queuedLive "8" "b"]) := by
  refine .cons (fun _ _ => .rfl) ?_ trivial (.cons (fun _ _ => .rfl) ?_ trivial
    (.cons (fun _ _ => .rfl) trivial trivial (.cons (fun _ _ => .rfl) trivial trivial
      (.cons (fun _ _ => .rfl) ?_ trivial (.nil _)))))
  · simp [Inventory.Admits, Cloud.Finds, queuedHeld]
  · simp [Inventory.Admits, Inventory.after, Cloud.Fresh, queuedHeld, queuedLive, queuedPrototype]
  · simp [Inventory.Admits, Inventory.after, Cloud.Finds, queuedHeld, queuedLive]

theorem secondInQueue_keeps :
    (queuedHeld [queuedLive "8" "b"]).Keeps secondInQueue
      (queuedHeld [queuedLive "9" "c", queuedLive "8" "b"]) := by
  refine .cons (fun _ _ => .rfl) trivial ?_ (.cons (fun _ _ => .rfl) ?_ trivial
    (.cons (fun _ _ => .rfl) ?_ trivial (.cons (fun _ _ => .rfl) trivial trivial
      (.cons (fun _ _ => .rfl) trivial trivial (.nil _)))))
  · simp [Inventory.FindsById, queuedHeld, queuedLive]
  · simp [Inventory.Admits, Inventory.after, Cloud.Finds, queuedHeld, queuedLive]
  · simp [Inventory.Admits, Inventory.after, Cloud.Fresh, queuedHeld, queuedLive, queuedPrototype]

theorem one_per_pass_in_order_queue :
    (∃ stop created, (step queuedPlan).Runs settledStatus firstInQueue (.ok .requeue) stop ∧
      Course queuedPlan settledStatus [queuedBalancer "b", queuedBalancer "c"] firstInQueue created
        (.ok .requeue) stop) ∧
    Passes .empty beforeMove settledStatus ∧
    (queuedHeld []).Keeps (History.exchanges beforeMove) (queuedHeld []) ∧
    Rounds [queuedBalancer "b", queuedBalancer "c"] settledStatus (queuedHeld [])
      [firstInQueue, secondInQueue] ∧
    (missingNames (queuedHeld []) [queuedBalancer "b", queuedBalancer "c"]).Nodup ∧
    firstInQueue.madeBalancers.map (·.name) = ["b"] ∧
    secondInQueue.madeBalancers.map (·.name) = ["c"] := by
  have hruns : ∃ stop, (step queuedPlan).Runs settledStatus firstInQueue (.ok .requeue) stop ∧
      ∃ last, (step queuedPlan).Runs stop secondInQueue (.ok .requeue) last :=
    ⟨_, .ask (.ask (.ask (.ask (.ask (.done _))))), _, .ask (.ask (.ask (.ask (.ask (.done _)))))⟩
  obtain ⟨stop, hfirst, last, hsecond⟩ := hruns
  have hrounds : Rounds [queuedBalancer "b", queuedBalancer "c"] settledStatus (queuedHeld [])
      [firstInQueue, secondInQueue] :=
    .cons (.refl _ _) rfl hfirst firstInQueue_keeps
      (.cons (.refl _ _) rfl hsecond secondInQueue_keeps (.nil _ _))
  have hnames : (missingNames (queuedHeld []) [queuedBalancer "b", queuedBalancer "c"]).Nodup := by
    decide
  obtain ⟨hcourses, hpasses, hcome⟩ := one_per_pass_in_order
  obtain ⟨created, hcourse, -⟩ := hcourses hfirst
  have hagrees : Agrees [queuedBalancer "b", queuedBalancer "c"] settledStatus (queuedHeld []) :=
    hpasses beforeMove_passes beforeMove_keeps
  exact ⟨⟨stop, created, hfirst, hcourse⟩, beforeMove_passes, beforeMove_keeps, hrounds, hnames,
    hcome hagrees hnames hrounds 0 firstInQueue rfl, hcome hagrees hnames hrounds 1 secondInQueue rfl⟩

end VpcOperator.Pass.LoadBalancers
