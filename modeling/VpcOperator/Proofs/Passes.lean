import VpcOperator.Proofs.Runs

/-! # Pass after pass

What is desired can change from one pass to the next; what is remembered is
carried over as the pass before has left it.
-/

namespace VpcOperator

open Observed (Status)

/-- Passes one after the other, each with what it works from and its exchanges. -/
abbrev History := List (Plan × Trace)

/-- Each of the passes starts from the status that the one before it has left, however that one
ended. -/
inductive Passes : Status → History → Status → Prop
  | nil (s : Status) : Passes s [] s
  | cons {plan : Plan} {t : Trace} {r : Except Failure Outcome} {s mid s' : Status}
      {rest : History} :
      (Pass.standard plan).Runs s t r mid → Passes mid rest s' → Passes s ((plan, t) :: rest) s'

namespace Passes

variable {s s' : Status} {passes : History}

theorem append {first rest : History} {mid : Status} (hfirst : Passes s first mid)
    (hrest : Passes mid rest s') : Passes s (first ++ rest) s' := by
  induction hfirst with
  | nil => exact hrest
  | cons hrun _ ih => exact .cons hrun (ih hrest)

/-- What every one of the passes keeps up holds after the last of them, and each does what it does
wherever this holds. -/
theorem induct {P : Status → Prop} {Q : Plan × Trace → Prop} (h : Passes s passes s')
    (hpass : ∀ {pass r start stop}, pass ∈ passes → (Pass.standard pass.1).Runs start pass.2 r stop →
      P start → P stop ∧ Q pass)
    (hs : P s) : P s' ∧ ∀ pass ∈ passes, Q pass := by
  induction h with
  | nil => exact ⟨hs, fun _ hmem => nomatch hmem⟩
  | cons hrun _ ih =>
    obtain ⟨hmid, hdoes⟩ := hpass List.mem_cons_self hrun hs
    obtain ⟨hend, hothers⟩ := ih (fun hmem => hpass (List.mem_cons_of_mem _ hmem)) hmid
    exact ⟨hend, List.forall_mem_cons.2 ⟨hdoes, hothers⟩⟩

end Passes

end VpcOperator
