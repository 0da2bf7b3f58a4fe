import VpcOperator.Proofs.Account.Still
import VpcOperator.Proofs.Always

/-! # Passes that change nothing

How a pass goes against an account that stands still, where it is known to
change nothing; and passes that go the same way from different statuses because
they read only what these have in common.
-/

namespace VpcOperator.Pass

open Cloud (Request)
open Observed (Status)

variable {α β : Type} {answers : Cloud.Answers} {s s' mid : Status}

/-- Against the account as it stands, the pass goes this way and changes nothing. -/
def Steady (answers : Cloud.Answers) (pass : Pass α) (s : Status) (a : α) (s' : Status) : Prop :=
  ∃ t, pass.Runs s t (.ok a) s' ∧ t.AnsweredBy answers ∧ t.ChangesNothing

namespace Steady

theorem pure (a : α) : Steady answers (pure a) s a s :=
  ⟨[], runs_pure_ok.2 ⟨rfl, rfl, rfl⟩, by simp, by simp⟩

theorem ofExcept (a : α) : Steady answers (ofExcept (.ok a)) s a s :=
  pure a

theorem call {target : String} {request : Request} (hlook : request.changes = false) :
    Steady answers (call target request) s (answers request) s :=
  ⟨[_], runs_call_ok.2 ⟨rfl, rfl⟩, by simp, Trace.changesNothing_cons.2 ⟨hlook, by simp⟩⟩

theorem bind {pass : Pass α} {next : α → Pass β} {a : α} {b : β} (h : Steady answers pass s a mid)
    (hnext : Steady answers (next a) mid b s') : Steady answers (pass >>= next) s b s' := by
  obtain ⟨first, hrun, hanswered, hnothing⟩ := h
  obtain ⟨rest, hrun', hanswered', hnothing'⟩ := hnext
  exact ⟨first ++ rest, runs_bind_ok.2 ⟨a, mid, first, rest, rfl, hrun, hrun'⟩,
    Trace.answeredBy_append.2 ⟨hanswered, hanswered'⟩,
    Trace.changesNothing_append.2 ⟨hnothing, hnothing'⟩⟩

theorem status_bind {next : Status → Pass β} {b : β} (h : Steady answers (next s) s b s') :
    Steady answers (status >>= next) s b s' :=
  h

theorem update_bind {change : Status → Status} {next : Unit → Pass β} {b : β}
    (h : Steady answers (next ()) (change s) b s') :
    Steady answers (update change >>= next) s b s' :=
  h

theorem attempt {pass : Pass α} {a : α} (h : Steady answers pass s a s') :
    Steady answers (attempt pass) s (.ok a) s' := by
  obtain ⟨t, hrun, hanswered, hnothing⟩ := h
  exact ⟨t, runs_attempt.2 ⟨.ok a, rfl, hrun⟩, hanswered, hnothing⟩

end Steady

/-- The pass leaves the status as it is, and goes the same way from one that looks the same. -/
def Sees (alike : Status → Status → Prop) (pass : Pass α) : Prop :=
  ∀ ⦃s s₂ t r s'⦄, alike s s₂ → pass.Runs s t r s' → s' = s ∧ pass.Runs s₂ t r s₂

namespace Sees

variable {alike : Status → Status → Prop} {pass : Pass α} {next : α → Pass β}

theorem ofExcept (result : Except Failure α) : Sees alike (ofExcept result) := by
  intro s s₂ t r s' _ hrun
  obtain ⟨rfl, rfl, rfl⟩ := runs_ofExcept.1 hrun
  exact ⟨rfl, runs_ofExcept.2 ⟨rfl, rfl, rfl⟩⟩

theorem pure (a : α) : Sees alike (pure a) :=
  ofExcept (.ok a)

theorem fail (failure : Failure) : Sees alike (fail failure : Pass α) :=
  ofExcept (.error failure)

theorem call (target : String) (request : Request) : Sees alike (call target request) := by
  intro s s₂ t r s' _ hrun
  obtain ⟨reply, rfl, rfl, rfl⟩ := runs_call.1 hrun
  exact ⟨rfl, runs_call.2 ⟨reply, rfl, rfl, rfl⟩⟩

theorem bind (h : Sees alike pass) (hnext : ∀ a, Sees alike (next a)) :
    Sees alike (pass >>= next) := by
  intro s s₂ t r s' halike hrun
  rcases runs_bind.1 hrun with ⟨a, mid, first, rest, rfl, hfirst, hrest⟩ | ⟨e, rfl, hfirst⟩
  · obtain ⟨rfl, hsame⟩ := h halike hfirst
    obtain ⟨rfl, hsame'⟩ := hnext a halike hrest
    exact ⟨rfl, runs_bind.2 (.inl ⟨a, s₂, first, rest, rfl, hsame, hsame'⟩)⟩
  · obtain ⟨rfl, hsame⟩ := h halike hfirst
    exact ⟨rfl, runs_bind.2 (.inr ⟨e, rfl, hsame⟩)⟩

theorem status_bind {next : Status → Pass β} (hsame : ∀ {s s₂}, alike s s₂ → next s₂ = next s)
    (hnext : ∀ s, Sees alike (next s)) : Sees alike (status >>= next) := by
  intro s s₂ t r s' halike hrun
  obtain ⟨rfl, hrun'⟩ := hnext s halike hrun
  refine ⟨rfl, ?_⟩
  rw [runs_status_bind, hsame halike]
  exact hrun'

theorem steady {a : α} (h : Sees alike pass) {s₂ : Status} (halike : alike s s₂)
    (hsteady : Steady answers pass s a s') : s' = s ∧ Steady answers pass s₂ a s₂ := by
  obtain ⟨t, hrun, hanswered, hnothing⟩ := hsteady
  obtain ⟨rfl, hrun'⟩ := h halike hrun
  exact ⟨rfl, t, hrun', hanswered, hnothing⟩

end Sees

end VpcOperator.Pass
