import VpcOperator.Proofs.Runs
import VpcOperator.Simulation.Account

/-! # An account that stands still

While nothing changes, a request gets the same answer every time. A pass then
can go one way only.
-/

namespace VpcOperator

open Cloud (Request)

abbrev Cloud.Answers : Type :=
  (request : Request) → request.Answer

variable {α : Type} {answers : Cloud.Answers}

/-- No request has failed, and each has got its answer. -/
def Trace.AnsweredBy (answers : Cloud.Answers) (t : Trace) : Prop :=
  ∀ exchange ∈ t, exchange.reply = .answer (answers exchange.request)

namespace Trace

variable {exchange : Exchange} {first rest : Trace}

@[simp] theorem answeredBy_nil : AnsweredBy answers [] := by
  simp [AnsweredBy]

@[simp] theorem answeredBy_cons :
    AnsweredBy answers (exchange :: rest) ↔
      exchange.reply = .answer (answers exchange.request) ∧ AnsweredBy answers rest := by
  simp [AnsweredBy]

@[simp] theorem answeredBy_append :
    AnsweredBy answers (first ++ rest) ↔ AnsweredBy answers first ∧ AnsweredBy answers rest := by
  simp [AnsweredBy, or_imp, forall_and]

theorem AnsweredBy.forall {t : Trace} {P : Exchange → Prop} (h : t.AnsweredBy answers)
    (hP : ∀ exchange ∈ t, P ⟨exchange.request, .answer (answers exchange.request)⟩) :
    ∀ exchange ∈ t, P exchange := by
  rintro ⟨request, reply⟩ hmem
  have hreply : reply = .answer (answers request) := h _ hmem
  have hexchange := hP _ hmem
  rwa [← hreply] at hexchange

end Trace

namespace Program

/-- The exchanges and the value of a program whose requests get these answers. -/
def follow (answers : Cloud.Answers) : CloudProgram α → Trace × α
  | .done value => ([], value)
  | .ask request next =>
    let (rest, value) := follow answers (next (.answer (answers request)))
    (⟨request, .answer (answers request)⟩ :: rest, value)

theorem follow_forall {P : Exchange → Prop} (h : ∀ request, P ⟨request, .answer (answers request)⟩)
    (p : CloudProgram α) : ∀ exchange ∈ (follow answers p).1, P exchange := by
  induction p with
  | done value => simp [follow]
  | ask request next ih => exact List.forall_mem_cons.2 ⟨h request, ih _⟩

theorem runs_follow (answers : Cloud.Answers) (p : CloudProgram α) :
    Runs p (follow answers p).1 (follow answers p).2 := by
  induction p with
  | done value => exact .done value
  | ask request next ih => exact .ask (ih _)

end Program

/-! ## A small account -/

/-- A VPC is declared by its ID and its subnets are generated; a group admits its own members. -/
def Plan.small : Plan :=
  { clusterName := "a", resourceGroupName := "a"
    spec := { region := "r", resourceGroup := "", image := none, apiServerPort := none
              network :=
                { Desired.Network.empty with
                  vpc := some { id := some "2", name := none }
                  securityGroups := [{ id := none, name := some "g", rules :=
                    [{ direction := .inbound, body := ⟨.all, [.group "g"]⟩ }] }]
                  loadBalancers := [{ name := "b", id := none, isPublic := false, listeners := []
                                      pools := [], securityGroups := [] }] } } }

/-- It holds all that the small plan asks for. -/
def Simulation.Account.small : Simulation.Account :=
  { Simulation.Account.empty with
    resourceGroups := [⟨"1", "a"⟩]
    zones := ⟨[("r", ["z"])], by simp⟩
    vpcs := [{ id := "2", name := "a-vpc", crn := "", state := .available }]
    subnets :=
      [{ id := "3", name := "a-subnet-z", crn := "", zone := "z", cidr := none, state := .available }]
    securityGroups := [{ id := "4", name := "g", crn := "c" }]
    rules := ⟨[("4", [{ id := "5", direction := .inbound, traffic := .all
                        remote := .group none none (some "c") }])], by simp⟩
    loadBalancers := [{ id := "6", name := "b", crn := "", state := .active, hostname := none }] }

/-- What an account answers as long as it stays the same. -/
def Simulation.Account.still (account : Simulation.Account) : Cloud.Answers :=
  fun request => (account.answer request).1

end VpcOperator
