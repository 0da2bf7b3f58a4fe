import VpcOperator.Proofs.Account.Still
import VpcOperator.Proofs.Effects

/-! # Answers a ready pass rests on

What look-ups are trusted to answer, and that a pass which creates something
does not end ready.
-/

namespace VpcOperator

open Observed (Status)

/-- A look-up by ID answers something with that ID, one by name something with that name, and no ID
is blank. -/
def Exchange.Truthful : Exchange → Prop
  | ⟨.getVpc id, .answer (some vpc)⟩ => vpc.id = id ∧ vpc.id ≠ ""
  | ⟨.findVpc name, .answer (some vpc)⟩ => vpc.name = name ∧ vpc.id ≠ ""
  | ⟨.getSubnet id, .answer (some subnet)⟩ => subnet.id = id ∧ subnet.id ≠ ""
  | ⟨.findSubnet name, .answer (some subnet)⟩ => subnet.name = name ∧ subnet.id ≠ ""
  | ⟨.findGateway name _, .answer (some gateway)⟩ => gateway.name = name ∧ gateway.id ≠ ""
  | ⟨.getSecurityGroup id, .answer (some group)⟩ => group.id = id ∧ group.id ≠ ""
  | ⟨.findSecurityGroup name, .answer (some group)⟩ => group.name = name ∧ group.id ≠ ""
  | ⟨.getLoadBalancer id, .answer (some balancer)⟩ => balancer.id = id ∧ balancer.id ≠ ""
  | ⟨.findLoadBalancer name, .answer (some balancer)⟩ => balancer.name = name ∧ balancer.id ≠ ""
  | ⟨.getImage id, .answer (some image)⟩ => image.id = id ∧ image.id ≠ ""
  | ⟨.findImage name, .answer (some image)⟩ => image.name = name ∧ image.id ≠ ""
  | _ => True

namespace Trace

def Truthful (t : Trace) : Prop :=
  ∀ exchange ∈ t, exchange.Truthful

variable {exchange : Exchange} {first rest : Trace}

@[simp] theorem truthful_nil : Truthful [] := by
  simp [Truthful]

@[simp] theorem truthful_cons :
    Truthful (exchange :: rest) ↔ exchange.Truthful ∧ Truthful rest := by
  simp [Truthful]

@[simp] theorem truthful_append :
    Truthful (first ++ rest) ↔ Truthful first ∧ Truthful rest := by
  simp [Truthful, or_imp, forall_and]

end Trace

theorem given?_eq_some {value : Option String} {text : String} :
    given? value = some text ↔ value = some text ∧ text ≠ "" := by
  simp [given?]

namespace Pass

variable {α : Type} {plan : Plan}

/-- There is always something left for another pass. -/
def Unready (pass : Pass Outcome) : Prop :=
  ∀ ⦃s t s'⦄, ¬ pass.Runs s t (.ok .ready) s'

theorem Unready.bind {pass : Pass α} {next : α → Pass Outcome} (h : ∀ a, Unready (next a)) :
    Unready (pass >>= next) := by
  intro s t s' hrun
  obtain ⟨a, mid, first, rest, rfl, -, hrest⟩ := runs_bind_ok.1 hrun
  exact h a hrest

theorem Unready.requeue : Unready (pure .requeue) := by
  intro s t s' hrun
  simp at hrun

theorem Vpc.create_unready : Unready (create plan) :=
  .bind fun _ => .bind fun _ => .bind fun _ => .bind fun _ => .bind fun _ => .requeue

theorem Vpc.adoptOrCreate_unready : Unready (adoptOrCreate plan) := by
  refine .bind fun found => ?_
  split
  · exact .bind fun _ => .requeue
  · exact create_unready

theorem Image.create_unready {image : Desired.Image} : Unready (create plan image) :=
  .bind fun _ => .bind fun _ => .bind fun _ => .bind fun _ => .bind fun _ => .bind fun _ =>
    .bind fun _ => .bind fun _ => .requeue

theorem Subnets.create_unready {role : Desired.Role} {name zone : String} :
    Unready (create plan role name zone) :=
  .bind fun _ => .bind fun _ => .bind fun _ => .bind fun _ => .bind fun _ => .bind fun _ =>
    .bind fun _ => .bind fun _ => .requeue

end Pass

end VpcOperator
