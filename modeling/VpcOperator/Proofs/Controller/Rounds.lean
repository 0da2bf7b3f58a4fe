import Mathlib.Algebra.Group.Nat.Defs
import VpcOperator.Controller.Round
import VpcOperator.Proofs.Runs

/-! # Runs of a round

A round looks at the clock first. If there is room for its deadline, what
follows is a run of its pass, each request of which carries the deadline, one
patch and the verdict on both. If not, nothing follows.
-/

namespace VpcOperator

open Observed (Status)

namespace Timing

variable {timing : Timing} {now : Nat}

theorem deadline?_eq_some (h : now + timing.passTimeout < 2 ^ 63) :
    timing.deadline? now = some (now + timing.passTimeout) :=
  if_pos h

theorem deadline?_eq_none_iff :
    timing.deadline? now = none ↔ 2 ^ 63 ≤ now + timing.passTimeout := by
  have hlimit : 1 <<< 63 = 2 ^ 63 := by decide
  rw [deadline?, hlimit]
  split
  · simpa using by omega
  · simpa using by omega

end Timing

namespace Controller

/-- What a reply to a round is, if its pass asks an account. -/
abbrev CloudReply : Request Cloud.Request → Type :=
  Request.Reply fun request => Cloud.Reply request.Answer

/-- A request of a round and the reply it got. -/
structure Exchange where
  request : Request Cloud.Request
  reply : CloudReply request

def Exchange.within (deadline : Nat) (exchange : VpcOperator.Exchange) : Exchange :=
  ⟨.pass deadline exchange.request, exchange.reply⟩

inductive Runs {α : Type} : Program CloudReply α → List Exchange → α → Prop
  | done (value : α) : Runs (.done value) [] value
  | ask {request : Request Cloud.Request} {next : CloudReply request → Program CloudReply α}
      {reply : CloudReply request} {rest : List Exchange} {value : α} :
      Runs (next reply) rest value → Runs (.ask request next) (⟨request, reply⟩ :: rest) value

section Programs

variable {α β : Type} {journal : List Exchange} {result : α}

theorem runs_done_iff {value : α} :
    Runs (.done value) journal result ↔ journal = [] ∧ result = value := by
  constructor
  · intro h
    cases h
    exact ⟨rfl, rfl⟩
  · rintro ⟨rfl, rfl⟩
    exact .done _

theorem runs_ask_iff {request : Request Cloud.Request}
    {next : CloudReply request → Program CloudReply α} :
    Runs (.ask request next) journal result ↔
      ∃ reply rest, journal = ⟨request, reply⟩ :: rest ∧ Runs (next reply) rest result := by
  constructor
  · intro h
    cases h with
    | ask h => exact ⟨_, _, rfl, h⟩
  · rintro ⟨reply, rest, rfl, h⟩
    exact .ask h

theorem runs_ask_cons_iff {request : Request Cloud.Request}
    {next : CloudReply request → Program CloudReply α} {reply : CloudReply request} :
    Runs (.ask request next) (⟨request, reply⟩ :: journal) result ↔
      Runs (next reply) journal result := by
  constructor
  · intro h
    cases h with
    | ask h => exact h
  · exact .ask

/-- What comes first is a run of the pass, exchange by exchange. -/
theorem runs_within_bind_iff {deadline : Nat} {p : CloudProgram β}
    {next : β → Program CloudReply α} :
    Runs ((within deadline p).bind next) journal result ↔
      ∃ cloud middle rest, journal = cloud.map (.within deadline) ++ rest ∧ p.Runs cloud middle ∧
        Runs (next middle) rest result := by
  induction p generalizing journal with
  | done value =>
    constructor
    · intro h
      exact ⟨[], value, journal, rfl, .done _, h⟩
    · rintro ⟨cloud, middle, rest, rfl, hp, hnext⟩
      obtain ⟨rfl, rfl⟩ := Program.runs_done_iff.1 hp
      exact hnext
  | ask request answers ih =>
    constructor
    · intro h
      obtain ⟨reply, rest, rfl, hrest⟩ := runs_ask_iff.1 h
      obtain ⟨cloud, middle, last, rfl, hp, hnext⟩ := (ih reply).1 hrest
      exact ⟨⟨request, reply⟩ :: cloud, middle, last, rfl, .ask hp, hnext⟩
    · rintro ⟨cloud, middle, rest, rfl, hp, hnext⟩
      obtain ⟨reply, inner, rfl, hinner⟩ := Program.runs_ask_iff.1 hp
      exact .ask ((ih reply).2 ⟨inner, middle, rest, rfl, hinner, hnext⟩)

end Programs

variable {timing : Timing} {pass : Plan → Pass Outcome} {cluster : Cluster} {now : Nat}
  {journal : List Exchange} {ending : RoundEnd}

theorem runs_round_clock (h : Runs (round timing pass cluster) journal ending) :
    ∃ now rest, journal = ⟨.clock, now⟩ :: rest := by
  obtain ⟨now, rest, hjournal, -⟩ := runs_ask_iff.1 h
  exact ⟨now, rest, hjournal⟩

/-- Without a deadline there is neither a pass nor a patch. -/
theorem runs_round_of_overflow (h : 2 ^ 63 ≤ now + timing.passTimeout) :
    Runs (round timing pass cluster) (⟨.clock, now⟩ :: journal) ending ↔
      journal = [] ∧ ending = .overflow := by
  refine runs_ask_cons_iff.trans ?_
  rw [Timing.deadline?_eq_none_iff.2 h]
  exact runs_done_iff

/-- With one there is the pass up to it, one patch and the verdict on both. -/
theorem runs_round_of_deadline (h : now + timing.passTimeout < 2 ^ 63) :
    Runs (round timing pass cluster) (⟨.clock, now⟩ :: journal) ending ↔
      ∃ cloud result after accepted,
        (pass (.ofCluster cluster)).Runs (cluster.status.getD .empty) cloud result after ∧
          journal = cloud.map (.within (now + timing.passTimeout)) ++
            [⟨.patch (patchFor cluster (conclude result after)), accepted⟩] ∧
          ending = .verdict (verdict timing result accepted) := by
  refine runs_ask_cons_iff.trans ?_
  rw [Timing.deadline?_eq_some h]
  refine runs_within_bind_iff.trans ?_
  constructor
  · rintro ⟨cloud, ⟨result, after⟩, rest, rfl, hpass, hrest⟩
    obtain ⟨accepted, last, rfl, hend⟩ := runs_ask_iff.1 hrest
    obtain ⟨rfl, rfl⟩ := runs_done_iff.1 hend
    exact ⟨cloud, result, after, accepted, hpass, rfl, rfl⟩
  · rintro ⟨cloud, result, after, accepted, hpass, rfl, rfl⟩
    exact ⟨cloud, (result, after), _, rfl, hpass, .ask (.done _)⟩

end Controller

end VpcOperator
