import VpcOperator.Proofs.Frame
import VpcOperator.Proofs.Runs

/-! # What every run of a pass does

Relations between the status before a run, its exchanges and the status after
it. One that composes is proved of a pass from its parts, failing runs
included.
-/

namespace VpcOperator

open Cloud (Request Reply)
open Observed (Status Part)

abbrev Effect := Status → Trace → Status → Prop

class Composes (P : Effect) : Prop where
  nil : ∀ s, P s [] s
  append : ∀ {s₁ s₂ s₃ t₁ t₂}, P s₁ t₁ s₂ → P s₂ t₂ s₃ → P s₁ (t₁ ++ t₂) s₃

namespace Pass

variable {α β : Type} {P Q : Effect}

def Always (P : Effect) (pass : Pass α) : Prop :=
  ∀ ⦃s t r s'⦄, pass.Runs s t r s' → P s t s'

namespace Always

theorem mono {pass : Pass α} (h : Always P pass) (hPQ : ∀ {s t s'}, P s t s' → Q s t s') :
    Always Q pass :=
  fun _ _ _ _ hrun => hPQ (h hrun)

theorem call {target : String} {request : Request}
    (h : ∀ s reply, P s [⟨request, reply⟩] s) : Always P (call target request) := by
  intro s t r s' hrun
  obtain ⟨reply, rfl, -, rfl⟩ := runs_call.1 hrun
  exact h _ reply

theorem update {change : Status → Status} (h : ∀ s, P s [] (change s)) :
    Always P (update change) := by
  intro s t r s' hrun
  obtain ⟨rfl, -, rfl⟩ := runs_update.1 hrun
  exact h s

theorem attempt {pass : Pass α} (h : Always P pass) : Always P (attempt pass) := by
  intro s t r s' hrun
  obtain ⟨result, -, hrun⟩ := runs_attempt.1 hrun
  exact h hrun

theorem mapFailure {g : Failure → Failure} {pass : Pass α} (h : Always P pass) :
    Always P (mapFailure g pass) := by
  intro s t r s' hrun
  obtain ⟨result, -, hrun⟩ := runs_mapFailure.1 hrun
  exact h hrun

variable [Composes P]

theorem ofExcept (result : Except Failure α) : Always P (ofExcept result) := by
  intro s t r s' hrun
  obtain ⟨rfl, -, rfl⟩ := runs_ofExcept.1 hrun
  exact Composes.nil s'

theorem pure (a : α) : Always P (pure a) :=
  ofExcept (.ok a)

theorem fail (failure : Failure) : Always P (fail failure : Pass α) :=
  ofExcept (.error failure)

theorem status : Always P status := by
  intro s t r s' hrun
  obtain ⟨rfl, -, rfl⟩ := runs_status.1 hrun
  exact Composes.nil s'

/-- The first part need have the effect from the status at hand only. -/
theorem bind_run {pass : Pass α} {next : α → Pass β} {s s' : Status} {t : Trace}
    {r : Except Failure β} (h : ∀ {t r s'}, pass.Runs s t r s' → P s t s')
    (hnext : ∀ a, Always P (next a)) (hrun : (pass >>= next).Runs s t r s') : P s t s' := by
  rcases runs_bind.1 hrun with ⟨a, mid, first, rest, rfl, hfirst, hrest⟩ | ⟨e, rfl, hfirst⟩
  · exact Composes.append (h hfirst) (hnext a hrest)
  · exact h hfirst

theorem bind {pass : Pass α} {next : α → Pass β} (h : Always P pass)
    (hnext : ∀ a, Always P (next a)) : Always P (pass >>= next) :=
  fun _ _ _ _ hrun => bind_run (fun hfirst => h hfirst) hnext hrun

end Always

end Pass

/-! ## Which parts are written, and which kinds are asked about -/

/-- Whether a request creates something or attaches a tag. -/
@[simp] def Cloud.Request.changes : Request → Bool
  | .createVpc _ | .createSubnet _ | .createGateway _ | .createSecurityGroup _ | .createRule _ _
  | .createLoadBalancer _ | .createImage _ | .createTag _ | .attachTag _ _ => true
  | _ => false

attribute [simp] Cloud.Request.kind

/-- Only these parts of the status are written, only these kinds are looked up, and only those are
made. -/
structure Does (parts : List Part) (looks makes : List Kind) (s : Status) (t : Trace)
    (s' : Status) : Prop where
  writes : Status.Writes parts s s'
  asks : ∀ exchange ∈ t,
    exchange.request.kind ∈ if exchange.request.changes then makes else looks

namespace Trace

/-- Nothing is created and no tag is attached. -/
def ChangesNothing (t : Trace) : Prop :=
  ∀ exchange ∈ t, exchange.request.changes = false

variable {exchange : Exchange} {first rest : Trace}

@[simp] theorem changesNothing_nil : ChangesNothing [] := by
  simp [ChangesNothing]

@[simp] theorem changesNothing_cons :
    ChangesNothing (exchange :: rest) ↔
      exchange.request.changes = false ∧ ChangesNothing rest := by
  simp [ChangesNothing]

@[simp] theorem changesNothing_append :
    ChangesNothing (first ++ rest) ↔ ChangesNothing first ∧ ChangesNothing rest := by
  simp [ChangesNothing, or_imp, forall_and]

theorem ChangesNothing.not_mem {t : Trace} (h : t.ChangesNothing)
    (hchanges : exchange.request.changes = true) : exchange ∉ t :=
  fun hmem => Bool.false_ne_true ((h exchange hmem).symm.trans hchanges)

end Trace

theorem Does.changes_nothing {parts : List Part} {looks : List Kind} {s s' : Status}
    {t : Trace} (h : Does parts looks [] s t s') : t.ChangesNothing := by
  intro exchange hmem
  have hask := h.asks exchange hmem
  split at hask
  · cases hask
  · exact eq_false_of_ne_true ‹_›

theorem Does.wider {parts many : List Part} {looks looks' makes makes' : List Kind} {s s' : Status}
    {t : Trace} (h : Does parts looks makes s t s') (hparts : parts ⊆ many)
    (hlooks : looks ⊆ looks') (hmakes : makes ⊆ makes') : Does many looks' makes' s t s' := by
  refine ⟨h.writes.mono hparts, fun exchange hmem => ?_⟩
  have hask := h.asks exchange hmem
  split at hask
  · rw [if_pos ‹_›]
    exact hmakes hask
  · rw [if_neg ‹_›]
    exact hlooks hask

instance (parts : List Part) (looks makes : List Kind) : Composes (Does parts looks makes) where
  nil s := ⟨.refl parts s, by simp⟩
  append h₁ h₂ := by
    refine ⟨h₁.writes.trans h₂.writes, fun exchange hmem => ?_⟩
    rcases List.mem_append.1 hmem with hmem | hmem
    · exact h₁.asks exchange hmem
    · exact h₂.asks exchange hmem

namespace Pass

variable {α : Type} {parts : List Part} {looks makes : List Kind} {pass : Pass α}

theorem Always.wider (h : Always (Does parts looks makes) pass) {parts' : List Part}
    {looks' makes' : List Kind} (hparts : parts ⊆ parts') (hlooks : looks ⊆ looks')
    (hmakes : makes ⊆ makes') : Always (Does parts' looks' makes') pass :=
  h.mono fun hdoes => hdoes.wider hparts hlooks hmakes

theorem Always.asks {target : String} {request : Request}
    (h : request.kind ∈ if request.changes then makes else looks) :
    Always (Does parts looks makes) (Pass.call target request) :=
  .call fun s _ => ⟨.refl parts s, by simpa using h⟩

theorem Always.puts {shelf : Observed.Shelf} (h : .shelf shelf ∈ parts) (name : String)
    (entry : Observed.Entry) :
    Always (Does parts looks makes) (Pass.update (·.put shelf name entry)) :=
  .update fun s => ⟨(Status.writes_put s shelf name entry).mono (by simpa using h), by simp⟩

end Pass

end VpcOperator
