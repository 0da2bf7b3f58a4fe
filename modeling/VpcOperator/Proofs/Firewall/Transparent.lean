import VpcOperator.Proofs.Account.Still
import VpcOperator.Proofs.Firewall.Verdict

/-! # What is remembered changes no verdict

One matcher is asked one question after the other, while account and status stay
the same. It comes to the verdicts of a matcher that knows nothing yet, failures
included, and finds each subnet and each group at most once.
-/

namespace VpcOperator

open Observed (Status)

namespace Program

variable {α β : Type} {answers : Cloud.Answers}

theorem follow_bind (p : CloudProgram α) (f : α → CloudProgram β) :
    follow answers (p.bind f) =
      ((follow answers p).1 ++ (follow answers (f (follow answers p).2)).1,
        (follow answers (f (follow answers p).2)).2) := by
  induction p with
  | done value => rfl
  | ask request next ih =>
    simp only [bind, follow, ih]
    rfl

end Program

namespace Pass

variable {α β : Type} {answers : Cloud.Answers} {pass : Pass α} {s s' : Status} {t : Trace}

theorem follow_bind_ok {a : α} (next : α → Pass β)
    (h : Program.follow answers (pass s) = (t, .ok a, s')) :
    Program.follow answers ((pass >>= next) s) =
      (t ++ (Program.follow answers (next a s')).1, (Program.follow answers (next a s')).2) := by
  refine (Program.follow_bind _ _).trans ?_
  rw [h]

theorem follow_bind_error {e : Failure} (next : α → Pass β)
    (h : Program.follow answers (pass s) = (t, .error e, s')) :
    Program.follow answers ((pass >>= next) s) = (t, .error e, s') := by
  refine (Program.follow_bind _ _).trans ?_
  rw [h]
  exact congrArg (·, _) (List.append_nil t)

end Pass

/-- The account has found the subnet or the group. A subnet without addresses does not count. -/
def Exchange.finds : Exchange → Bool
  | ⟨.getSubnet _, .answer (some subnet)⟩ => subnet.cidr.isSome
  | ⟨.findSubnet _, .answer (some subnet)⟩ => subnet.cidr.isSome
  | ⟨.getSecurityGroup _, .answer (some _)⟩ => true
  | ⟨.findSecurityGroup _, .answer (some _)⟩ => true
  | _ => false

namespace Pass.Lookups

/-! ## Questions one after the other -/

/-- What the matcher is asked. -/
inductive Question where
  /-- Whether the live rule satisfies the remote of a declared rule. -/
  | fits (direction : Direction) (protocol : Protocol) (remote : Desired.Remote) (live : Cloud.Rule)
  /-- What a rule for the remote is created with. -/
  | resolve (remote : Desired.Remote)

inductive Verdict where
  | fits (found : Bool)
  | resolved (prototype : Cloud.RemotePrototype)

namespace Question

def remote : Question → Desired.Remote
  | fits _ _ remote _ => remote
  | resolve remote => remote

def ask (question : Question) (known : Lookups) : Pass (Verdict × Lookups) :=
  match question with
  | fits direction protocol remote live => do
    let (found, known) ← known.matchesRule direction protocol remote live
    return (.fits found, known)
  | resolve remote => do
    let (prototype, known) ← known.prototype remote
    return (.resolved prototype, known)

end Question

/-- How a question has been answered. -/
structure Turn where
  question : Question
  exchanges : Trace
  verdict : Except Failure Verdict
  status : Status

/-- Also gives what the matcher knows afterwards: after a failure, what it knew before. -/
def Question.turn (answers : Cloud.Answers) (question : Question) (known : Lookups) (s : Status) :
    Turn × Lookups :=
  match Program.follow answers (question.ask known s) with
  | (exchanges, .ok (verdict, known), status) =>
    ({ question, exchanges, verdict := .ok verdict, status }, known)
  | (exchanges, .error failure, status) =>
    ({ question, exchanges, verdict := .error failure, status }, known)

def turns (answers : Cloud.Answers) : List Question → Lookups → Status → List Turn
  | [], _, _ => []
  | question :: rest, known, s =>
    let (turn, known) := question.turn answers known s
    turn :: turns answers rest known turn.status

/-- The remotes whose subnet or group has been found in the account, each as often as it has been. -/
def found (turns : List Turn) : List Desired.Remote :=
  turns.flatMap fun turn => (turn.exchanges.filter (·.finds)).map fun _ => turn.question.remote

/-! ## One question -/

variable {α β : Type} {answers : Cloud.Answers} {s : Status} {known : Lookups} {name : String}
  {remote : Desired.Remote}

/-- What a matcher that knows something comes to know when it looks for what a remote refers to. The
account finds it at most once, and only if it was not known, but is known afterwards. -/
structure Learns (answers : Cloud.Answers) (s : Status) (remote : Desired.Remote)
    (known later : Lookups) (exchanges : Trace) : Prop where
  follows : later.Follows answers s
  keeps : Extends known later
  finds : exchanges.filter (·.finds) = [] ∨
    (∃ exchange, exchanges.filter (·.finds) = [exchange]) ∧
      known.resolve? remote = .none ∧ (later.resolve? remote).isSome

theorem Learns.nothing (h : known.Follows answers s) : Learns answers s remote known known [] :=
  ⟨h, .refl known, .inl rfl⟩

/-- Whatever is known of this account already, the same value or failure results. A failure is not
known beforehand, it takes a request, and it is not known afterwards. -/
def Transparent (answers : Cloud.Answers) (s : Status) (remote : Desired.Remote)
    (look : Lookups → Pass (α × Lookups)) : Prop :=
  ∃ result : Except Failure α, ∀ known : Lookups, known.Follows answers s →
    ∃ exchanges later,
      Program.follow answers (look known s) = (exchanges, result.map fun a => (a, later), s) ∧
      Learns answers s remote known later exchanges ∧
      ∀ e, result = .error e → exchanges ≠ [] ∧ later = known

namespace Transparent

theorem pure (a : α) : Transparent answers s remote fun known => Pure.pure (a, known) :=
  ⟨.ok a, fun known hknown => ⟨[], known, rfl, .nothing hknown, nofun⟩⟩

theorem congr {look look' : Lookups → Pass (α × Lookups)} (h : Transparent answers s remote look)
    (heq : ∀ known, look' known s = look known s) : Transparent answers s remote look' := by
  obtain ⟨result, hlook⟩ := h
  refine ⟨result, fun known hknown => ?_⟩
  rw [heq]
  exact hlook known hknown

theorem map {look : Lookups → Pass (α × Lookups)} (h : Transparent answers s remote look)
    (f : α → β) :
    Transparent answers s remote fun known => do
      let (a, later) ← look known
      return (f a, later) := by
  obtain ⟨result, hlook⟩ := h
  refine ⟨result.map f, fun known hknown => ?_⟩
  obtain ⟨exchanges, later, hfollow, hlearns, hasks⟩ := hlook known hknown
  refine ⟨exchanges, later, ?_, hlearns, ?_⟩
  · cases result with
    | ok a => exact (follow_bind_ok _ hfollow).trans (congrArg (·, _) (List.append_nil exchanges))
    | error failure => exact follow_bind_error _ hfollow
  · intro e he
    cases result with
    | ok a => cases he
    | error failure => exact hasks failure rfl

end Transparent

theorem status_bind_apply {β : Type} (next : Status → Pass β) (s : Status) :
    (status >>= next) s = next s s := rfl

theorem follow_fetchSubnet (answers : Cloud.Answers) (s : Status) (name : String) :
    ∃ exchange, Program.follow answers (fetchSubnet name s) =
        ([exchange], .ok (answers.subnet? s name), s) ∧
      exchange.finds = (answers.block? s name).isSome := by
  rw [fetchSubnet, status_bind_apply, Cloud.Answers.block?, Cloud.Answers.subnet?]
  cases s.subnetId? name with
  | some id => exact ⟨_, rfl, by dsimp only; cases answers (.getSubnet id) <;> rfl⟩
  | none => exact ⟨_, rfl, by dsimp only; cases answers (.findSubnet name) <;> rfl⟩

theorem follow_fetchGroup (answers : Cloud.Answers) (s : Status) (name : String) :
    ∃ exchange, Program.follow answers (fetchGroup name s) =
        ([exchange], .ok (answers.group? s name), s) ∧
      exchange.finds = (answers.group? s name).isSome := by
  rw [fetchGroup, status_bind_apply, Cloud.Answers.group?]
  cases s.securityGroupId? name with
  | some id => exact ⟨_, rfl, by dsimp only; cases answers (.getSecurityGroup id) <;> rfl⟩
  | none => exact ⟨_, rfl, by dsimp only; cases answers (.findSecurityGroup name) <;> rfl⟩

theorem cidr_transparent (answers : Cloud.Answers) (s : Status) (name : String) :
    Transparent answers s (.subnet name) (cidr name) := by
  obtain ⟨exchange, hfetch, hfinds⟩ := follow_fetchSubnet answers s name
  refine ⟨(answers.block? s name).elim
    (.error (.notFound .subnet name "cannot resolve the CIDR block of a rule remote")) .ok,
    fun known hknown => ?_⟩
  cases hfind : known.cidrs.find? name with
  | some block =>
    rw [hknown.cidrs name block hfind, cidr_of_known hfind]
    exact ⟨[], known, rfl, .nothing hknown, nofun⟩
  | none =>
    have hunknown : known.resolve? (.subnet name) = .none := by rw [resolve?, hfind]; rfl
    rw [cidr, hfind]
    cases hblock : answers.block? s name with
    | some block =>
      have hbind : (answers.subnet? s name).bind (·.cidr) = some block := hblock
      refine ⟨[exchange], { known with cidrs := known.cidrs.insert name block }, ?_,
        ⟨hknown.insert_cidr hblock, extends_insert_cidr hfind, .inr ⟨⟨exchange, ?_⟩, hunknown, ?_⟩⟩,
        nofun⟩
      · refine (follow_bind_ok _ hfetch).trans ?_
        rw [hbind]
        rfl
      · simp [hfinds, hblock]
      · simp [resolve?, Table.find?_insert]
    | none =>
      have hbind : (answers.subnet? s name).bind (·.cidr) = .none := hblock
      refine ⟨[exchange], known, ?_, ⟨hknown, .refl known, .inl ?_⟩,
        fun _ _ => ⟨List.cons_ne_nil _ _, rfl⟩⟩
      · refine (follow_bind_ok _ hfetch).trans ?_
        rw [hbind]
        rfl
      · simp [hfinds, hblock]

theorem group_transparent (answers : Cloud.Answers) (s : Status) (name : String) :
    Transparent answers s (.group name) (Lookups.group name) := by
  obtain ⟨exchange, hfetch, hfinds⟩ := follow_fetchGroup answers s name
  refine ⟨(answers.group? s name).elim
    (.error (.notFound .securityGroup name "referenced by a rule remote but does not exist")) .ok,
    fun known hknown => ?_⟩
  cases hfind : known.groups.find? name with
  | some group =>
    rw [hknown.groups name group hfind, group_of_known hfind]
    exact ⟨[], known, rfl, .nothing hknown, nofun⟩
  | none =>
    have hunknown : known.resolve? (.group name) = .none := by rw [resolve?, hfind]; rfl
    rw [Lookups.group, hfind]
    cases hgroup : answers.group? s name with
    | some group =>
      rw [hgroup] at hfetch hfinds
      refine ⟨[exchange], { known with groups := known.groups.insert name group }, ?_,
        ⟨hknown.insert_group hgroup, extends_insert_group hfind,
          .inr ⟨⟨exchange, ?_⟩, hunknown, ?_⟩⟩, nofun⟩
      · exact follow_bind_ok _ hfetch
      · simp [hfinds]
      · simp [resolve?, Table.find?_insert]
    | none =>
      rw [hgroup] at hfetch hfinds
      refine ⟨[exchange], known, ?_, ⟨hknown, .refl known, .inl ?_⟩,
        fun _ _ => ⟨List.cons_ne_nil _ _, rfl⟩⟩
      · exact follow_bind_ok _ hfetch
      · simp [hfinds]

theorem matchesRemote_transparent (answers : Cloud.Answers) (s : Status) (wanted : Desired.Remote)
    (live : Cloud.Remote) : Transparent answers s wanted (matchesRemote wanted live) := by
  unfold matchesRemote
  split
  · exact .pure _
  · exact .pure _
  · exact .pure _
  · rename_i name block
    exact (cidr_transparent answers s name).map fun wantedBlock => decide (wantedBlock = block)
  · rename_i name liveId liveName liveCrn
    by_cases hknown : liveName = some name || (liveId.isSome && liveId = s.securityGroupId? name)
    · refine (Transparent.pure true).congr fun known => ?_
      show (ite _ _ _ : Pass _) s = _
      rw [if_pos hknown]
    · cases liveCrn with
      | none =>
        refine (Transparent.pure false).congr fun known => ?_
        show (ite _ _ _ : Pass _) s = _
        rw [if_neg hknown]
      | some crn =>
        refine ((group_transparent answers s name).map fun group => decide (crn = group.crn)).congr
          fun known => ?_
        show (ite _ _ _ : Pass _) s = _
        rw [if_neg hknown]
  · exact .pure _

theorem matchesRule_transparent (answers : Cloud.Answers) (s : Status) (direction : Direction)
    (protocol : Protocol) (remote : Desired.Remote) (live : Cloud.Rule) :
    Transparent answers s remote (matchesRule direction protocol remote live) := by
  unfold matchesRule
  split
  · exact matchesRemote_transparent answers s remote live.remote
  · exact .pure _

theorem prototype_transparent (answers : Cloud.Answers) (s : Status) (remote : Desired.Remote) :
    Transparent answers s remote (prototype remote) := by
  unfold prototype
  split
  · exact .pure _
  · exact .pure _
  · exact (cidr_transparent answers s _).map Cloud.RemotePrototype.cidr
  · exact (group_transparent answers s _).map fun group => Cloud.RemotePrototype.group group.crn

theorem Question.ask_transparent (answers : Cloud.Answers) (s : Status) (question : Question) :
    Transparent answers s question.remote question.ask := by
  cases question with
  | fits direction protocol remote live =>
    exact (matchesRule_transparent answers s direction protocol remote live).map Verdict.fits
  | resolve remote => exact (prototype_transparent answers s remote).map Verdict.resolved

/-! ## All questions -/

/-- What is known makes no difference to the verdict. -/
theorem Question.turn_transparent (answers : Cloud.Answers) (s : Status) (question : Question) :
    ∃ verdict : Except Failure Verdict, ∀ known : Lookups, known.Follows answers s →
      ∃ exchanges later,
        question.turn answers known s = ({ question, exchanges, verdict, status := s }, later) ∧
        Learns answers s question.remote known later exchanges ∧
        ∀ e, verdict = .error e → exchanges ≠ [] := by
  obtain ⟨result, hask⟩ := question.ask_transparent answers s
  refine ⟨result, fun known hknown => ?_⟩
  obtain ⟨exchanges, later, hfollow, hlearns, hfails⟩ := hask known hknown
  refine ⟨exchanges, later, ?_, hlearns, fun e he => (hfails e he).1⟩
  rw [turn, hfollow]
  cases result with
  | ok verdict => rfl
  | error failure =>
    obtain ⟨-, rfl⟩ := hfails failure rfl
    rfl

theorem resolve?_eq_none_of_extends {later : Lookups} (h : Extends known later)
    (hlater : later.resolve? remote = .none) : known.resolve? remote = .none := by
  cases hknown : known.resolve? remote with
  | none => rfl
  | some prototype =>
    rw [h.resolve? hknown] at hlater
    cases hlater

/-- What has been found so far is known, and what is known is not looked for. -/
theorem turns_transparent (questions : List Question) (hknown : known.Follows answers s) :
    (turns answers questions known s).map (·.verdict) =
        questions.map (fun question => (question.turn answers none s).1.verdict) ∧
      (∀ turn ∈ turns answers questions known s,
        turn.status = s ∧ ∀ e, turn.verdict = .error e → turn.exchanges ≠ []) ∧
      (found (turns answers questions known s)).Nodup ∧
      ∀ remote ∈ found (turns answers questions known s), known.resolve? remote = .none := by
  induction questions generalizing known with
  | nil => simp [turns, found]
  | cons question rest ih =>
    obtain ⟨verdict, hturn⟩ := question.turn_transparent answers s
    obtain ⟨exchanges, later, hthis, hlearns, hfails⟩ := hturn known hknown
    obtain ⟨_, _, hfresh, -⟩ := hturn none follows_none
    obtain ⟨hverdicts, hstatus, hnodup, hunknown⟩ := ih hlearns.follows
    have hbefore : ∀ remote ∈ found (turns answers rest later s), known.resolve? remote = .none :=
      fun remote hmem => resolve?_eq_none_of_extends hlearns.keeps (hunknown remote hmem)
    simp only [turns, hthis, found, List.map_cons, hfresh, List.flatMap_cons]
    refine ⟨congrArg _ hverdicts, List.forall_mem_cons.2 ⟨⟨rfl, hfails⟩, hstatus⟩, ?_, ?_⟩
    · rcases hlearns.finds with hnothing | ⟨⟨exchange, hone⟩, -, hafter⟩
      · rw [hnothing]
        exact hnodup
      · rw [hone]
        refine List.nodup_cons.2 ⟨fun hmem => ?_, hnodup⟩
        rw [hunknown _ hmem] at hafter
        cases hafter
    · rcases hlearns.finds with hnothing | ⟨⟨exchange, hone⟩, hfirst, -⟩
      · rw [hnothing]
        exact hbefore
      · rw [hone]
        exact List.forall_mem_cons.2 ⟨hfirst, hbefore⟩

/-- A matcher that remembers what it has looked up answers every question like one that is asked
nothing else, leaves the status alone and finds each subnet and each group at most once. Failures are
not remembered: each has asked the account itself. -/
theorem remembering_is_transparent (answers : Cloud.Answers) (s : Status)
    (questions : List Question) :
    (turns answers questions none s).map (·.verdict) =
        questions.map (fun question => (question.turn answers none s).1.verdict) ∧
      (∀ turn ∈ turns answers questions none s,
        turn.status = s ∧ ∀ e, turn.verdict = .error e → turn.exchanges ≠ []) ∧
      (found (turns answers questions none s)).Nodup := by
  obtain ⟨hverdicts, hturns, hnodup, -⟩ := turns_transparent questions (follows_none (s := s))
  exact ⟨hverdicts, hturns, hnodup⟩

end Pass.Lookups

end VpcOperator
