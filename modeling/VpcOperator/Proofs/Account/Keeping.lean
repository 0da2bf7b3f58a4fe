import VpcOperator.Proofs.Convergence.Grounded

/-! # Accounts that keep their load balancers

An account from which no load balancer is removed, whatever else happens to it
and whatever fails: it has those it had, and those it was asked for since.
-/

namespace VpcOperator

/-- The load balancers that were created. -/
def Trace.madeBalancers (t : Trace) : List Cloud.LoadBalancer :=
  t.filterMap fun
    | ⟨.createLoadBalancer _, .answer live⟩ => some live
    | _ => none

@[simp] theorem Trace.madeBalancers_nil : Trace.madeBalancers [] = [] := rfl

@[simp] theorem Trace.madeBalancers_append {first rest : Trace} :
    (first ++ rest).madeBalancers = first.madeBalancers ++ rest.madeBalancers :=
  List.filterMap_append

theorem Trace.madeBalancers_cons (exchange : Exchange) (rest : Trace) :
    Trace.madeBalancers (exchange :: rest) =
      Trace.madeBalancers [exchange] ++ rest.madeBalancers :=
  @Trace.madeBalancers_append [exchange] rest

namespace Cloud.Inventory

variable {held left : Inventory} {exchange : Exchange} {t first rest : Trace} {id name : String}

/-- A look-up by ID finds no load balancer but the one with this ID, if there is one. -/
def FindsById (held : Inventory) : Exchange → Prop
  | ⟨.getLoadBalancer id, .answer (some live)⟩ => live ∈ held.loadBalancers ∧ live.id = id
  | _ => True

/-- The exchanges as the account takes part in them. Before each of them its load balancers can get
into another state, but none goes and nobody else creates any. -/
inductive Keeps : Inventory → Trace → Inventory → Prop
  | nil (held : Inventory) : Keeps held [] held
  | cons {held now last : Inventory} {exchange : Exchange} {rest : Trace} :
      (∀ id name, now.HasBalancer id name ↔ held.HasBalancer id name) → now.Admits exchange →
      now.FindsById exchange → Keeps (now.after exchange) rest last →
      Keeps held (exchange :: rest) last

theorem Keeps.split (h : Keeps held (first ++ rest) left) :
    ∃ mid, Keeps held first mid ∧ Keeps mid rest left := by
  induction first generalizing held with
  | nil => exact ⟨held, .nil held, h⟩
  | cons exchange first ih =>
    cases h with
    | cons hsame hadmits hfinds hrest =>
      obtain ⟨mid, hfirst, hlast⟩ := ih hrest
      exact ⟨mid, .cons hsame hadmits hfinds hfirst, hlast⟩

theorem loadBalancers_after (held : Inventory) (exchange : Exchange) :
    (held.after exchange).loadBalancers =
      Trace.madeBalancers [exchange] ++ held.loadBalancers := by
  obtain ⟨request, reply⟩ := exchange
  cases reply with
  | answer value => cases request <;> rfl
  | error source => cases request <;> rfl
  | aborted => cases request <;> rfl

theorem hasBalancer_after :
    (held.after exchange).HasBalancer id name ↔ held.HasBalancer id name ∨
      ∃ live ∈ Trace.madeBalancers [exchange], live.id = id ∧ live.name = name := by
  unfold HasBalancer
  rw [loadBalancers_after]
  simp only [List.mem_append, or_and_right, exists_or]
  exact or_comm

/-- What is there in the end was there before or has been created. -/
theorem Keeps.hasBalancer_iff (h : Keeps held t left) :
    left.HasBalancer id name ↔
      held.HasBalancer id name ∨ ∃ live ∈ t.madeBalancers, live.id = id ∧ live.name = name := by
  induction h with
  | nil held => simp
  | @cons held now last exchange rest hsame _ _ _ ih =>
    rw [ih, hasBalancer_after, hsame, Trace.madeBalancers_cons exchange rest, or_assoc]
    simp only [List.mem_append, or_and_right, exists_or]

theorem Keeps.still (h : Keeps held t left) (hnothing : t.madeBalancers = []) :
    left.HasBalancer id name ↔ held.HasBalancer id name := by
  simp [h.hasBalancer_iff, hnothing]

/-- Where nothing is created, each exchange is one with the account as it was. -/
theorem Keeps.meanwhile (h : Keeps held t left) (hnothing : t.madeBalancers = [])
    (hmem : exchange ∈ t) :
    ∃ now : Inventory, (∀ id name, now.HasBalancer id name ↔ held.HasBalancer id name) ∧
      now.Admits exchange ∧ now.FindsById exchange := by
  obtain ⟨before, after, rfl⟩ := List.append_of_mem hmem
  obtain ⟨mid, hbefore, hafter⟩ := h.split
  have hfirst : Trace.madeBalancers before = [] := by
    rw [Trace.madeBalancers_append] at hnothing
    exact (List.append_eq_nil_iff.1 hnothing).1
  cases hafter with
  | @cons _ now _ _ _ hsame hadmits hfinds _ =>
    exact ⟨now, fun id name => (hsame id name).trans (hbefore.still hfirst), hadmits, hfinds⟩

variable {live : LoadBalancer}

theorem Keeps.got (h : Keeps held t left) (hnothing : t.madeBalancers = [])
    (hmem : ⟨.getLoadBalancer id, .answer (some live)⟩ ∈ t) :
    held.HasBalancer live.id live.name ∧ live.id = id := by
  obtain ⟨now, hsame, -, hnow, hid⟩ := h.meanwhile hnothing hmem
  exact ⟨(hsame live.id live.name).1 ⟨live, hnow, rfl, rfl⟩, hid⟩

theorem Keeps.found (h : Keeps held t left) (hnothing : t.madeBalancers = [])
    (hmem : ⟨.findLoadBalancer name, .answer (some live)⟩ ∈ t) :
    held.HasBalancer live.id live.name ∧ live.name = name := by
  obtain ⟨now, hsame, ⟨hnow, hname⟩, -⟩ := h.meanwhile hnothing hmem
  exact ⟨(hsame live.id live.name).1 ⟨live, hnow, rfl, rfl⟩, hname⟩

theorem Keeps.not_found (h : Keeps held t left) (hnothing : t.madeBalancers = [])
    (hmem : ⟨.findLoadBalancer name, .answer none⟩ ∈ t) : ¬ held.HasBalancer id name := by
  obtain ⟨now, hsame, hnone, -⟩ := h.meanwhile hnothing hmem
  intro hhas
  obtain ⟨live, hlive, -, hname⟩ := (hsame id name).2 hhas
  exact hnone live hlive hname

end Cloud.Inventory

end VpcOperator
