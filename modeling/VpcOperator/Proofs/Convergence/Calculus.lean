import VpcOperator.Proofs.Account.Working

/-! # What a pass achieves

Total correctness of passes against an account that works: no run fails, and
every run reaches its goal.
-/

namespace VpcOperator.Pass

open Cloud (Inventory Request Site)
open Observed (Status)

/-- What is to hold of the value, of the status and of what the account holds in the end. -/
abbrev Goal (α : Type) : Type :=
  α → Status → Inventory → Prop

variable {α β : Type} {site : Site} {pass : Pass α} {s : Status} {held : Inventory}

/-- Whatever is answered, the pass does not fail and reaches the goal. -/
def Meets (site : Site) (pass : Pass α) (s : Status) (held : Inventory) (goal : Goal α) : Prop :=
  ∀ ⦃t r s' left⦄, pass.Runs s t r s' → held.Works site t left → ∃ a, r = .ok a ∧ goal a s' left

namespace Meets

variable {goal goal' : Goal α}

theorem mono (h : Meets site pass s held goal)
    (hgoal : ∀ {a s' left}, goal a s' left → goal' a s' left) : Meets site pass s held goal' := by
  intro t r s' left hrun hworks
  obtain ⟨a, rfl, ha⟩ := h hrun hworks
  exact ⟨a, rfl, hgoal ha⟩

theorem ofExcept {result : Except Failure α} {a : α} (hresult : result = .ok a)
    (h : goal a s held) : Meets site (ofExcept result) s held goal := by
  intro t r s' left hrun hworks
  obtain ⟨rfl, rfl, rfl⟩ := runs_ofExcept.1 hrun
  obtain rfl := Inventory.works_nil.1 hworks
  exact ⟨a, hresult, h⟩

theorem pure {a : α} (h : goal a s held) : Meets site (pure a) s held goal :=
  ofExcept rfl h

theorem call {target : String} {request : Request} {goal : Goal request.Answer}
    (h : ∀ answer, held.Admits ⟨request, .answer answer⟩ →
      held.Grants site ⟨request, .answer answer⟩ →
      goal answer s (held.after ⟨request, .answer answer⟩)) :
    Meets site (call target request) s held goal := by
  intro t r s' left hrun hworks
  obtain ⟨reply, rfl, rfl, rfl⟩ := runs_call.1 hrun
  obtain ⟨hadmits, hgrants, hrest⟩ := Inventory.works_cons.1 hworks
  obtain rfl := Inventory.works_nil.1 hrest
  obtain ⟨answer, rfl⟩ := hgrants.answered
  exact ⟨answer, rfl, h answer hadmits hgrants⟩

theorem bind {next : α → Pass β} {goal : Goal β}
    (h : Meets site pass s held fun a s' left => Meets site (next a) s' left goal) :
    Meets site (pass >>= next) s held goal := by
  intro t r s' left hrun hworks
  rcases runs_bind.1 hrun with ⟨a, mid, first, rest, rfl, hfirst, hrest⟩ | ⟨e, rfl, hfirst⟩
  · obtain ⟨between, hworks₁, hworks₂⟩ := Inventory.works_append.1 hworks
    obtain ⟨_, ⟨⟩, hnext⟩ := h hfirst hworks₁
    exact hnext hrest hworks₂
  · obtain ⟨_, ⟨⟩, -⟩ := h hfirst hworks

theorem status_bind {next : Status → Pass β} {goal : Goal β} (h : Meets site (next s) s held goal) :
    Meets site (status >>= next) s held goal :=
  h

theorem update_bind {change : Status → Status} {next : Unit → Pass β} {goal : Goal β}
    (h : Meets site (next ()) (change s) held goal) :
    Meets site (update change >>= next) s held goal :=
  h

theorem update {change : Status → Status} {goal : Goal Unit} (h : goal () (change s) held) :
    Meets site (update change) s held goal :=
  update_bind (.pure h)

theorem ofExcept_bind {result : Except Failure α} {next : α → Pass β} {goal : Goal β} {a : α}
    (hresult : result = .ok a) (h : Meets site (next a) s held goal) :
    Meets site (Pass.ofExcept result >>= next) s held goal :=
  bind (.ofExcept hresult h)

/-- A look-up leaves what is held as it is. -/
theorem look_bind {target : String} {request : Request} {next : request.Answer → Pass β}
    {goal : Goal β} (hlook : request.changes = false)
    (h : ∀ answer, held.Admits ⟨request, .answer answer⟩ →
      held.Grants site ⟨request, .answer answer⟩ →
      Meets site (next answer) s held goal) :
    Meets site (Pass.call target request >>= next) s held goal := by
  refine bind (.call fun answer hadmits hgrants => ?_)
  rw [Inventory.after_of_look hlook]
  exact h answer hadmits hgrants

theorem attempt {goal : Goal (Except Failure α)}
    (h : Meets site pass s held fun a s' left => goal (.ok a) s' left) :
    Meets site (attempt pass) s held goal := by
  intro t r s' left hrun hworks
  obtain ⟨result, rfl, hpass⟩ := runs_attempt.1 hrun
  obtain ⟨a, rfl, ha⟩ := h hpass hworks
  exact ⟨.ok a, rfl, ha⟩

theorem mapFailure {g : Failure → Failure} (h : Meets site pass s held goal) :
    Meets site (mapFailure g pass) s held goal := by
  intro t r s' left hrun hworks
  obtain ⟨result, rfl, hpass⟩ := runs_mapFailure.1 hrun
  obtain ⟨a, rfl, ha⟩ := h hpass hworks
  exact ⟨a, rfl, ha⟩

/-- What is known of all runs is known of the one the pass takes. -/
theorem runs (h : Meets site pass s held goal) :
    Meets site pass s held fun a s' left =>
      goal a s' left ∧ ∃ t, pass.Runs s t (.ok a) s' ∧ held.Works site t left := by
  intro t r s' left hrun hworks
  obtain ⟨a, rfl, ha⟩ := h hrun hworks
  exact ⟨a, rfl, ha, t, hrun, hworks⟩

end Meets

/-- Tags are not part of what an account holds. -/
theorem Ownership.mark_meets {plan : Plan} {kind : Kind} {name crn : String} {goal : Goal Unit}
    (h : goal () s held) : Meets site (mark plan kind name crn) s held goal := by
  refine .mapFailure (.look_bind rfl fun tags _ _ => ?_)
  split
  · exact .call fun _ _ _ => h
  · exact .bind (.call fun _ _ _ => .call fun _ _ _ => h)

end VpcOperator.Pass
