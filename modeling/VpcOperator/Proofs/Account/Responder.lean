import VpcOperator.Proofs.Account.Still
import VpcOperator.Proofs.Always
import VpcOperator.Proofs.Prompt

/-! # Passes against an account

An account that answers every request by a state of its own, and passes against
it one after another. What is done to the account between passes is a parameter.
-/

namespace VpcOperator

open Cloud (Request)
open Observed (Status)

abbrev Cloud.Responder (σ : Type) : Type :=
  (request : Request) → σ → request.Answer × σ

/-- How a pass has ended, and its exchanges. -/
structure Ended (σ : Type) where
  trace : Trace
  result : Except Failure Outcome
  status : Status
  state : σ

namespace Cloud.Responder

variable {α σ : Type} {responder : Responder σ} {state : σ}

def answers (responder : Responder σ) (state : σ) : Answers :=
  fun request => (responder request state).1

def serve (responder : Responder σ) : CloudProgram α → σ → Trace × α × σ
  | .done value, state => ([], value, state)
  | .ask request next, state =>
    let answer := (responder request state).1
    let rest := responder.serve (next (.answer answer)) (responder request state).2
    (⟨request, .answer answer⟩ :: rest.1, rest.2)

theorem serve_eq_run (p : CloudProgram α) :
    (responder.serve p state).2 =
      p.run (fun request state => (.answer (responder request state).1, (responder request state).2))
        state := by
  induction p generalizing state with
  | done value => rfl
  | ask request next ih => exact ih _

theorem serve_runs (p : CloudProgram α) :
    p.Runs (responder.serve p state).1 (responder.serve p state).2.1 := by
  induction p generalizing state with
  | done value => exact .done value
  | ask request next ih => exact .ask (ih _)

/-- The replies of an account to requests one after another; a request can fail instead, whatever
the account makes of it. -/
inductive Serves (responder : Responder σ) : σ → Trace → σ → Prop
  | nil (state : σ) : Serves responder state [] state
  | answer {request : Request} {state last : σ} {rest : Trace} :
      Serves responder (responder request state).2 rest last →
      Serves responder state (⟨request, .answer (responder request state).1⟩ :: rest) last
  | failure {exchange : Exchange} {state next last : σ} {rest : Trace} :
      (∀ answer, exchange.reply ≠ .answer answer) → Serves responder next rest last →
      Serves responder state (exchange :: rest) last

theorem serve_serves (p : CloudProgram α) :
    responder.Serves state (responder.serve p state).1 (responder.serve p state).2.2 := by
  induction p generalizing state with
  | done value => exact .nil state
  | ask request next ih => exact .answer (ih _)

variable {t : Trace} {last : σ}

/-- An account that is only looked at stays as it is. -/
theorem Serves.still (h : responder.Serves state t last) (ht : t.Answered)
    (hnothing : t.ChangesNothing)
    (hlook : ∀ request state, request.changes = false → (responder request state).2 = state) :
    last = state ∧ t.AnsweredBy (responder.answers state) := by
  induction h with
  | nil => exact ⟨rfl, by simp⟩
  | answer h ih =>
    obtain ⟨hrequest, hrest⟩ := Trace.changesNothing_cons.1 hnothing
    obtain ⟨hlast, hanswered⟩ := ih (Trace.answered_cons.1 ht).2 hrest
    rw [hlook _ _ hrequest] at hlast hanswered
    exact ⟨hlast, Trace.answeredBy_cons.2 ⟨rfl, hanswered⟩⟩
  | failure hfailed h ih =>
    obtain ⟨answer, hanswer⟩ := (Trace.answered_cons.1 ht).1
    exact absurd hanswer (hfailed answer)

theorem serve_of_still {p : CloudProgram α} {value : α} (h : p.Runs t value)
    (hanswered : t.AnsweredBy (responder.answers state)) (hnothing : t.ChangesNothing)
    (hlook : ∀ request state, request.changes = false → (responder request state).2 = state) :
    responder.serve p state = (t, value, state) := by
  induction h with
  | done value => rfl
  | @ask request next reply rest value h ih =>
    obtain ⟨hrequest, hrest⟩ := Trace.changesNothing_cons.1 hnothing
    obtain ⟨hreply, hothers⟩ := Trace.answeredBy_cons.1 hanswered
    dsimp only at hreply
    subst hreply
    have hstate : (responder request state).2 = state := hlook request state hrequest
    have hserve := ih hothers hrest
    simp only [answers] at hserve
    simp only [serve, hstate, hserve, answers]

def pass (responder : Responder σ) (plan : Plan) (status : Status) (state : σ) : Ended σ :=
  let (trace, (result, status), state) := responder.serve (Pass.standard plan status) state
  { trace, result, status, state }

/-- The passes from this status on, each from what the one before has left. -/
def passes (responder : Responder σ) (plan : Plan) (between : σ → σ) (status : Status) (state : σ) :
    Nat → Ended σ
  | 0 => responder.pass plan status state
  | n + 1 =>
    let last := responder.passes plan between status state n
    responder.pass plan last.status (between last.state)

theorem pass_runs (plan : Plan) (status : Status) (state : σ) :
    (Pass.standard plan).Runs status (responder.pass plan status state).trace
      (responder.pass plan status state).result (responder.pass plan status state).status :=
  serve_runs _

theorem pass_serves (plan : Plan) (status : Status) (state : σ) :
    responder.Serves state (responder.pass plan status state).trace
      (responder.pass plan status state).state :=
  serve_serves _

end Cloud.Responder

end VpcOperator
