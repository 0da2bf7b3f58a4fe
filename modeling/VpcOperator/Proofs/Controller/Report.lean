import VpcOperator.Proofs.Controller.Deadlines
import VpcOperator.Proofs.Unreported

/-! # What a round reports

A round that has a deadline ends with one patch, whatever became of the pass.
The status in it is the one the pass has left, and tells how the pass ended:
once as a flag and once as a condition. Both are written from the same result,
so no sequence of rounds makes them disagree, refused patches included. A patch
that cannot be sent counts as refused. A round without a deadline reports
nothing.
-/

namespace VpcOperator

open Observed (Condition Status)

/-! ## Flag and condition -/

namespace Observed

structure Condition.IsReconciled (condition : Condition) : Prop where
  type : condition.type = Condition.readyType
  status : condition.status = "True"
  reason : condition.reason = some "Reconciled"

namespace Status

def SaysReconciled (status : Status) : Prop :=
  ∃ condition ∈ status.conditions, condition.IsReconciled

def Agrees (status : Status) : Prop :=
  status.ready = true ↔ status.SaysReconciled

theorem saysReconciled_setCondition {status : Status} {condition : Condition}
    (h : condition.type = Condition.readyType) :
    (status.setCondition condition).SaysReconciled ↔ condition.IsReconciled := by
  constructor
  · rintro ⟨other, hmem, hother⟩
    rcases List.mem_append.1 hmem with hmem | hmem
    · have hne : other.type ≠ condition.type := by simpa using (List.mem_filter.1 hmem).2
      exact absurd (hother.type.trans h.symm) hne
    · obtain rfl := List.mem_singleton.1 hmem
      exact hother
  · intro hreconciled
    exact ⟨condition, by simp [setCondition], hreconciled⟩

end Status

end Observed

namespace Controller

/-- What a status tells of a pass that ended with this result and left the status `after`. -/
structure Tells (result : Except Failure Outcome) (after told : Status) : Prop where
  /-- Only the flag and the conditions are the round's own. -/
  rest : { told with ready := after.ready, conditions := after.conditions } = after
  ready : told.ready = true ↔ result = .ok .ready
  reconciled : told.SaysReconciled ↔ result = .ok .ready
  /-- One condition of the type stands at the end; the others are left as they are. -/
  conditions : ∃ condition, condition.type = Condition.readyType ∧
    told.conditions =
      after.conditions.filter (fun other => other.type ≠ Condition.readyType) ++ [condition]

theorem condition_type (result : Except Failure Outcome) :
    (condition result).type = Condition.readyType := by
  rcases result with _ | _ | _ <;> rfl

theorem condition_isReconciled {result : Except Failure Outcome} :
    (condition result).IsReconciled ↔ result = .ok .ready := by
  constructor
  · intro h
    rcases result with failure | _ | _
    · exact absurd h.status (by simp [condition, Condition.ofReady])
    · rfl
    · exact absurd h.status (by simp [condition, Condition.ofReady])
  · rintro rfl
    exact ⟨rfl, rfl, rfl⟩

theorem isReady_iff {result : Except Failure Outcome} :
    isReady result = true ↔ result = .ok .ready := by
  rcases result with _ | _ | _ <;> simp [isReady]

theorem conclude_tells (result : Except Failure Outcome) (after : Status) :
    Tells result after (conclude result after) where
  rest := rfl
  ready := isReady_iff
  reconciled :=
    (Status.saysReconciled_setCondition (condition_type result)).trans condition_isReconciled
  conditions := by
    refine ⟨condition result, condition_type result, ?_⟩
    simp only [conclude, Status.setCondition, condition_type]

theorem Tells.agrees {result : Except Failure Outcome} {after told : Status}
    (h : Tells result after told) : told.Agrees :=
  h.ready.trans h.reconciled.symm

/-- The failure of the pass comes first, then that of the patch, and the delay fits the outcome. -/
structure Returns (timing : Timing) (result : Except Failure Outcome) (accepted : Bool)
    (verdict : Except RoundFailure Nat) : Prop where
  failed : ∀ failure, result = .error failure → verdict = .error (.pass failure)
  refused : ∀ outcome, result = .ok outcome → accepted = false → verdict = .error .patchRefused
  resync : result = .ok .ready → accepted = true → verdict = .ok timing.resync
  requeue : result = .ok .requeue → accepted = true → verdict = .ok timing.requeue

theorem verdict_returns (timing : Timing) (result : Except Failure Outcome) (accepted : Bool) :
    Returns timing result accepted (verdict timing result accepted) where
  failed := by
    rintro failure rfl
    rfl
  refused := by
    rintro outcome rfl rfl
    rfl
  resync := by
    rintro rfl rfl
    rfl
  requeue := by
    rintro rfl rfl
    rfl

/-! ## Round after round -/

structure Round where
  cluster : Cluster
  journal : List Exchange
  ending : RoundEnd

/-- The status the server holds after an exchange: an accepted patch replaces it. -/
def Exchange.leaves (held : Option Status) : Exchange → Option Status
  | ⟨.patch patch, accepted⟩ => if accepted = true then some patch.status else held
  | ⟨.clock, _⟩ | ⟨.pass _ _, _⟩ => held

def Round.leaves (held : Option Status) (round : Round) : Option Status :=
  round.journal.foldl Exchange.leaves held

/-- Rounds one after the other, each for the cluster as the server holds it. What is desired may
change from one to the next. -/
inductive Rounds (timing : Timing) (pass : Plan → Pass Outcome) :
    Option Status → List Round → Option Status → Prop
  | nil (held : Option Status) : Rounds timing pass held [] held
  | cons {round : Round} {rest : List Round} {last : Option Status} :
      Runs (Controller.round timing pass round.cluster) round.journal round.ending →
        Rounds timing pass (round.leaves round.cluster.status) rest last →
        Rounds timing pass round.cluster.status (round :: rest) last

variable {timing : Timing} {pass : Plan → Pass Outcome} {held last : Option Status} {round : Round}
  {rounds : List Round}

/-- A round is a pass up to its deadline, the one patch that reports on it, and what is returned. -/
def Round.Reports (timing : Timing) (pass : Plan → Pass Outcome) (round : Round) : Prop :=
  ∃ now cloud result after patch accepted verdict,
    now + timing.passTimeout < 2 ^ 63 ∧
      (pass (.ofCluster round.cluster)).Runs (round.cluster.status.getD .empty) cloud result after ∧
      round.journal = ⟨.clock, now⟩ :: cloud.map (.within (now + timing.passTimeout)) ++
        [⟨.patch patch, accepted⟩] ∧
      patch.clusterNamespace = round.cluster.metadata.namespaceName.getD "" ∧
      patch.clusterName = round.cluster.name ∧
      Tells result after patch.status ∧
      round.ending = .verdict verdict ∧
      Returns timing result accepted verdict ∧
      ∀ steps, pass = (Pass.runSteps · steps) →
        after.conditions = (round.cluster.status.getD .empty).conditions

/-- The deadline does not fit the clock, and nothing comes after that has been found out. -/
def Round.Overflows (timing : Timing) (round : Round) : Prop :=
  ∃ now, 2 ^ 63 ≤ now + timing.passTimeout ∧ round.journal = [⟨.clock, now⟩] ∧
    round.ending = .overflow

theorem Round.reports
    (h : Runs (Controller.round timing pass round.cluster) round.journal round.ending) :
    round.Reports timing pass ∨ round.Overflows timing := by
  obtain ⟨now, rest, hjournal⟩ := runs_round_clock h
  rw [hjournal] at h
  rcases Nat.lt_or_ge (now + timing.passTimeout) (2 ^ 63) with hroom | hnone
  · obtain ⟨cloud, result, after, accepted, hpass, rfl, hending⟩ :=
      (runs_round_of_deadline hroom).1 h
    refine .inl ⟨now, cloud, result, after, _, accepted, _, hroom, hpass, hjournal, rfl, rfl,
      conclude_tells result after, hending, verdict_returns timing result accepted, ?_⟩
    rintro steps rfl
    exact (Pass.runSteps_unreported _ steps hpass).2
  · obtain ⟨rfl, hending⟩ := (runs_round_of_overflow hnone).1 h
    exact .inr ⟨now, hnone, hjournal, hending⟩

/-- Only an accepted patch changes what the server holds, and it holds what was reported then. -/
theorem Round.Reports.leaves (h : round.Reports timing pass) (held : Option Status) :
    round.leaves held = held ∨ ∃ status, round.leaves held = some status ∧ status.Agrees := by
  obtain ⟨now, cloud, result, after, patch, accepted, -, -, -, hjournal, -, -, htells, -⟩ := h
  have hleaves : round.leaves held = if accepted = true then some patch.status else held := by
    have hpass : (⟨.clock, now⟩ :: cloud.map (.within (now + timing.passTimeout))).foldl
        Exchange.leaves held = held := by
      rw [List.foldl_cons, List.foldl_map]
      exact List.foldl_fixed' (fun _ => rfl) cloud
    rw [Round.leaves, hjournal, List.foldl_append, hpass]
    rfl
  rw [hleaves]
  split
  · exact .inr ⟨patch.status, rfl, htells.agrees⟩
  · exact .inl rfl

theorem Round.Overflows.leaves (h : round.Overflows timing) (held : Option Status) :
    round.leaves held = held := by
  obtain ⟨now, -, hjournal, -⟩ := h
  rw [Round.leaves, hjournal]
  rfl

/-- Every round with a deadline sends one patch, which tells how its pass ended, and the others do
nothing at all; once a patch has been accepted the flag and the condition the server holds agree
from then on. -/
theorem rounds_report (h : Rounds timing pass held rounds last) :
    (∀ round ∈ rounds, round.Reports timing pass ∨ round.Overflows timing) ∧
      (last = held ∨ ∃ status, last = some status ∧ status.Agrees) := by
  induction h with
  | nil held => exact ⟨by simp, .inl rfl⟩
  | @cons round rest last hround _ ih =>
    have hreports := Round.reports hround
    refine ⟨List.forall_mem_cons.2 ⟨hreports, ih.1⟩, ?_⟩
    rcases ih.2 with hlast | hagrees
    · rw [hlast]
      exact hreports.elim (·.leaves _) fun hoverflows => .inl (hoverflows.leaves _)
    · exact .inr hagrees

/-- A status with more than one condition of the type, none of which the flag bears out. -/
def muddled : Status :=
  { Status.empty with
    conditions := [.ofReady true "Reconciled" none,
      { type := "Aged", status := "True", reason := none, message := none },
      .ofReady true "Reconciled" none] }

def muddledCluster : Cluster :=
  { metadata := { name := some "a", generateName := none, namespaceName := some "x",
                  labels := none }
    spec := (Plan.bare "a").spec
    status := some muddled }

def lateFailure : Failure :=
  .cancelled .resourceGroup "list" "a"

def abortedRound (now : Nat) (accepted : Bool) : Round :=
  { cluster := muddledCluster
    journal :=
      [⟨.clock, now⟩, .within (now + 300) ⟨.listResourceGroups "a", .aborted⟩,
        ⟨.patch (patchFor muddledCluster (conclude (.error lateFailure) muddled)), accepted⟩]
    ending := .verdict (.error (.pass lateFailure)) }

/-- A round of a cluster that has been told of the failure, at the end of all time. -/
def lastRound : Round :=
  { cluster := { muddledCluster with status := some (conclude (.error lateFailure) muddled) }
    journal := [⟨.clock, 2 ^ 63 - 1⟩]
    ending := .overflow }

theorem rounds_report_muddled :
    ¬ muddled.Agrees ∧
      ∃ last, Rounds .default Pass.standard (some muddled)
          [abortedRound 0 false, abortedRound 60 true, lastRound] last ∧ last ≠ some muddled ∧
        (∀ round ∈ [abortedRound 0 false, abortedRound 60 true, lastRound],
          round.Reports .default Pass.standard ∨ round.Overflows .default) ∧
        (last = some muddled ∨ ∃ status, last = some status ∧ status.Agrees) := by
  have hround : ∀ now accepted, now + 300 < 2 ^ 63 →
      Runs (Controller.round .default Pass.standard (abortedRound now accepted).cluster)
        (abortedRound now accepted).journal (abortedRound now accepted).ending := by
    intro now accepted hnow
    exact (runs_round_of_deadline hnow).2
      ⟨[⟨.listResourceGroups "a", .aborted⟩], .error lateFailure, muddled, accepted,
        .ask (.done _), rfl, rfl⟩
  have hlast : Runs (Controller.round .default Pass.standard lastRound.cluster) lastRound.journal
      lastRound.ending :=
    (runs_round_of_overflow (by decide)).2 ⟨rfl, rfl⟩
  have hrun : Rounds .default Pass.standard (some muddled)
      [abortedRound 0 false, abortedRound 60 true, lastRound]
        (some (conclude (.error lateFailure) muddled)) :=
    .cons (hround 0 false (by decide)) (.cons (hround 60 true (by decide)) (.cons hlast (.nil _)))
  refine ⟨fun h => ?_, _, hrun, by decide, rounds_report hrun⟩
  exact absurd (h.2 ⟨_, List.mem_cons_self, rfl, rfl, rfl⟩) (by decide)

/-- The setting is accepted, and yet a round that starts with the clock has no patch to report
with. -/
theorem endless_round_reports_nothing :
    (Timing.load Timing.endless).1 = .ok { Timing.default with passTimeout := 2 ^ 64 - 1 } ∧
      Runs (Controller.round { Timing.default with passTimeout := 2 ^ 64 - 1 } Pass.standard
        muddledCluster) [⟨.clock, 0⟩] .overflow ∧
      ¬ ∃ patch accepted, (⟨.patch patch, accepted⟩ : Exchange) ∈ [⟨.clock, 0⟩] := by
  refine ⟨Timing.load_endless, (runs_round_of_overflow (by decide)).2 ⟨rfl, rfl⟩, ?_⟩
  rintro ⟨patch, accepted, hmem⟩
  cases List.mem_singleton.1 hmem

end Controller

end VpcOperator
