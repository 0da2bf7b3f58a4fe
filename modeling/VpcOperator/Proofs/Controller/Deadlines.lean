import VpcOperator.Proofs.Controller.Rounds
import VpcOperator.Proofs.Controller.Settings
import VpcOperator.Simulation.Controller

/-! # Which settings let a pass start

A pass starts once its deadline is known, and the deadline has to fit into the
63 bits of a clock that is never negative. The time a pass may take has 64 bits,
so not every setting that is accepted lets a pass start. While the clock leaves
62 bits of room, those up to that length do; beyond the clock's own range no
pass ever starts.
-/

namespace VpcOperator

open Observed (Status)
open Simulation (Conditions Stage Supply)

namespace Timing

variable {timing : Timing} {now : Nat}

/-- Of the clocks that leave this much room the latest one decides. -/
theorem forall_deadline?_iff {room : Nat} (hroom : room < 2 ^ 63) :
    (∀ now, now + room < 2 ^ 63 → timing.deadline? now = some (now + timing.passTimeout)) ↔
      timing.passTimeout ≤ room := by
  constructor
  · intro h
    by_contra hlong
    have hlatest := h (2 ^ 63 - 1 - room) (by omega)
    have hnone : timing.deadline? (2 ^ 63 - 1 - room) = none :=
      deadline?_eq_none_iff.2 (by omega)
    rw [hnone] at hlatest
    cases hlatest
  · intro hshort now hnow
    exact deadline?_eq_some (by omega)

end Timing

/-- A round breaks off when there is no deadline for it at the moment it starts, and only then. -/
theorem Controller.run_round_overflow_iff {Q σ : Type} {A : Q → Type} {timing : Timing}
    {pass : Plan → Status → Program A (Except Failure Outcome × Status)} {cluster : Cluster}
    {respond : (request : Request Q) → σ → request.Reply A × σ} {state : σ} :
    ((round timing pass cluster).run respond state).1 = .overflow ↔
      timing.deadline? (respond .clock state).1 = none := by
  constructor
  · intro hrun
    by_contra hsome
    obtain ⟨deadline, hdeadline⟩ := Option.ne_none_iff_exists'.1 hsome
    simp only [round, Program.run, hdeadline, Program.run_bind] at hrun
    cases hrun
  · intro hnone
    simp only [round, Program.run, hnone]

namespace Simulation

variable {conditions : Conditions} {stage : Stage}

/-- No round starts after the time limit, so none is too late for its deadline if the last one is
not. -/
theorem Stage.rounds_not_overflow
    (h : conditions.maxSeconds + conditions.timing.passTimeout ≤ 2 ^ 63) (passes : Nat) :
    (stage.rounds conditions passes).1 ≠ .overflow := by
  induction passes generalizing stage with
  | zero => nofun
  | succ passes ih =>
    unfold rounds
    split
    · nofun
    · rename_i hclock
      dsimp only
      split
      · rename_i hrun
        have hnone := Controller.run_round_overflow_iff.1 (congrArg Prod.fst hrun)
        have hlate := Timing.deadline?_eq_none_iff.1 hnone
        exact absurd hclock (by dsimp only [respond] at hlate; omega)
      · split
        · nofun
        · exact ih

theorem Stage.rounds_patches (h : 2 ^ 63 ≤ conditions.timing.passTimeout) (passes : Nat) :
    (stage.rounds conditions passes).2 = stage.patches := by
  cases passes with
  | zero => rfl
  | succ passes =>
    unfold rounds
    split
    · rfl
    · dsimp only
      split
      · rfl
      · rename_i hverdict
        have hnone : conditions.timing.deadline? (respond conditions .clock stage).1 = none :=
          Timing.deadline?_eq_none_iff.2 (h.trans (Nat.le_add_left _ _))
        have hends := congrArg Prod.fst hverdict
        rw [Controller.run_round_overflow_iff.2 hnone] at hends
        cases hends

theorem runController_not_overflow (document : Json) (supply : Supply)
    (h : conditions.maxSeconds + conditions.timing.passTimeout ≤ 2 ^ 63) :
    (runController conditions document supply).ending ≠ .overflow := by
  dsimp only [runController]
  split
  · exact Stage.rounds_not_overflow h _
  · nofun

theorem runController_patches (document : Json) (supply : Supply)
    (h : 2 ^ 63 ≤ conditions.timing.passTimeout) :
    (runController conditions document supply).patches = [] := by
  dsimp only [runController]
  split
  · exact Stage.rounds_patches h _
  · rfl

end Simulation

namespace Timing

/-- Settings that are accepted let a pass start at every moment that leaves 62 bits of room if and
only if they give it no more than that, and such a pass starts in every run of the controller that
ends in time. A round runs its pass if its deadline fits the clock, and does nothing if not. If a
pass may take more than any clock holds, then no run does so much as a single patch. -/
theorem passes_start_iff {lookUp : String → Option String} {timing : Timing}
    (hload : (load lookUp).1 = .ok timing) :
    ((∀ now, now + 2 ^ 62 < 2 ^ 63 → timing.deadline? now = some (now + timing.passTimeout)) ↔
      ∃ seconds, Setting.passTimeout.Comes (lookUp (Setting.key .passTimeout)) seconds ∧
        seconds ≤ 2 ^ 62) ∧
    (∀ now, timing.deadline? now = none ↔ 2 ^ 63 ≤ now + timing.passTimeout) ∧
    (∀ (pass : Plan → Pass Outcome) cluster now journal ending,
      Controller.Runs (Controller.round timing pass cluster) (⟨.clock, now⟩ :: journal) ending →
        (now + timing.passTimeout < 2 ^ 63 → ∃ cloud : Trace, ∃ result after rest,
          (pass (.ofCluster cluster)).Runs (cluster.status.getD .empty) cloud result after ∧
            journal = cloud.map (.within (now + timing.passTimeout)) ++ rest) ∧
        (2 ^ 63 ≤ now + timing.passTimeout → journal = [] ∧ ending = .overflow)) ∧
    ∀ conditions document supply, conditions.timing = timing →
      (conditions.maxSeconds + timing.passTimeout ≤ 2 ^ 63 →
        (Simulation.runController conditions document supply).ending ≠ .overflow) ∧
      (2 ^ 63 ≤ timing.passTimeout →
        (Simulation.runController conditions document supply).patches = []) := by
  have hcomes := comes_of_load hload .passTimeout
  refine ⟨(forall_deadline?_iff (by decide)).trans ⟨fun hshort => ⟨_, hcomes, hshort⟩, ?_⟩,
    fun now => deadline?_eq_none_iff, ?_, ?_⟩
  · rintro ⟨seconds, hother, hshort⟩
    obtain rfl := comes_unique hother hcomes
    exact hshort
  · intro pass cluster now journal ending hrun
    refine ⟨fun hroom => ?_, fun hnone => (Controller.runs_round_of_overflow hnone).1 hrun⟩
    obtain ⟨cloud, result, after, _, hpass, hjournal, -⟩ :=
      (Controller.runs_round_of_deadline hroom).1 hrun
    exact ⟨cloud, result, after, _, hpass, hjournal⟩
  · rintro conditions document supply rfl
    exact ⟨Simulation.runController_not_overflow document supply,
      Simulation.runController_patches document supply⟩

/-- A pass may take a minute, or as long as 64 bits can say. -/
def minutely (key : String) : Option String :=
  if key = Setting.key .passTimeout then some "60" else none

def endless (key : String) : Option String :=
  if key = Setting.key .passTimeout then some "18446744073709551615" else none

theorem load_minutely : (load minutely).1 = .ok { default with passTimeout := 60 } := by
  decide +kernel

theorem load_endless : (load endless).1 = .ok { default with passTimeout := 2 ^ 64 - 1 } := by
  decide +kernel

theorem passes_start_iff_minutely :
    (load minutely).1 = .ok { default with passTimeout := 60 } ∧
      ∀ now, now + 2 ^ 62 < 2 ^ 63 →
        deadline? { default with passTimeout := 60 } now = some (now + 60) :=
  ⟨load_minutely, (passes_start_iff load_minutely).1.2
    ⟨60, comes_of_load load_minutely .passTimeout, by decide⟩⟩

/-- The setting is accepted, but although the clock has just started there is no deadline for it, so
no pass ever starts. -/
theorem endless_pass_never_starts :
    (load endless).1 = .ok { default with passTimeout := 2 ^ 64 - 1 } ∧ 0 + 2 ^ 62 < 2 ^ 63 ∧
      deadline? { default with passTimeout := 2 ^ 64 - 1 } 0 = none ∧
      ∀ conditions document supply,
        conditions.timing = { default with passTimeout := 2 ^ 64 - 1 } →
          (Simulation.runController conditions document supply).patches = [] := by
  refine ⟨load_endless, by decide, deadline?_eq_none_iff.2 (by decide), ?_⟩
  intro conditions document supply htiming
  exact Simulation.runController_patches document supply (by rw [htiming]; decide)

end Timing

end VpcOperator
