import VpcOperator.Proofs.Always

/-! # Rule books

The rules of every group, by its ID. A cloud that lists faithfully answers a
listing with the rules of the book and those created since: in the order of
creation, where `order` is equality, or in any order.
-/

namespace VpcOperator

/-- The rules of a security group, by its ID. -/
abbrev RuleBook : Type :=
  String → List Cloud.Rule

namespace Trace

variable {exchange : Exchange} {t first rest : Trace} {groupId : String}

def createdRules (groupId : String) (t : Trace) : List Cloud.Rule :=
  t.filterMap fun
    | ⟨.createRule id _, .answer rule⟩ => if id = groupId then some rule else none
    | _ => none

@[simp] theorem createdRules_append :
    createdRules groupId (first ++ rest) =
      createdRules groupId first ++ createdRules groupId rest :=
  List.filterMap_append

theorem mem_createdRules {rule : Cloud.Rule} :
    rule ∈ createdRules groupId t ↔
      ∃ prototype, ⟨.createRule groupId prototype, .answer rule⟩ ∈ t := by
  constructor
  · intro hmem
    obtain ⟨exchange, hexchange, hrule⟩ := List.mem_filterMap.1 hmem
    split at hrule
    · split at hrule
      · rename_i hid
        cases hid
        cases hrule
        exact ⟨_, hexchange⟩
      · cases hrule
    · cases hrule
  · rintro ⟨prototype, hexchange⟩
    exact List.mem_filterMap.2 ⟨_, hexchange, by simp⟩

theorem ChangesNothing.not_createRule {prototype : Cloud.RulePrototype} {reply}
    (h : t.ChangesNothing) : ⟨.createRule groupId prototype, reply⟩ ∉ t :=
  h.not_mem rfl

theorem ChangesNothing.createdRules (h : t.ChangesNothing) : t.createdRules groupId = [] := by
  refine List.eq_nil_iff_forall_not_mem.2 fun rule hmem => ?_
  obtain ⟨prototype, hexchange⟩ := mem_createdRules.1 hmem
  exact h.not_createRule hexchange

end Trace

def RuleBook.after (book : RuleBook) (t : Trace) : RuleBook := fun groupId =>
  book groupId ++ t.createdRules groupId

/-- How a listing goes with the rules that are there. -/
abbrev RuleOrder : Type :=
  List Cloud.Rule → List Cloud.Rule → Prop

/-- Those of the book are listed and those created since. -/
def Trace.Lists (order : RuleOrder) (book : RuleBook) (t : Trace) : Prop :=
  ∀ before groupId listed after, t = before ++ ⟨.listRules groupId, .answer listed⟩ :: after →
    order listed (book.after before groupId)

namespace RuleBook

variable {book : RuleBook} {t first rest : Trace}

@[simp] theorem after_nil : book.after [] = book := by
  funext groupId
  exact List.append_nil _

theorem after_append : book.after (first ++ rest) = (book.after first).after rest := by
  funext groupId
  simp [after]

/-- A listing creates nothing. -/
theorem after_listRules {groupId id : String} {reply : Cloud.Reply (List Cloud.Rule)} :
    book.after (⟨.listRules id, reply⟩ :: rest) groupId =
      book groupId ++ rest.createdRules groupId := rfl

theorem after_of_changesNothing (h : t.ChangesNothing) : book.after t = book := by
  funext groupId
  rw [after, h.createdRules, List.append_nil]

end RuleBook

namespace Trace

variable {order : RuleOrder} {book : RuleBook} {exchange : Exchange} {t first rest : Trace}
  {groupId : String}

theorem lists_append :
    Lists order book (first ++ rest) ↔
      Lists order book first ∧ Lists order (book.after first) rest := by
  constructor
  · intro h
    refine ⟨fun before groupId listed after ht => ?_, fun before groupId listed after ht => ?_⟩
    · exact h before groupId listed (after ++ rest) (by rw [ht]; simp)
    · rw [← RuleBook.after_append]
      exact h (first ++ before) groupId listed after (by rw [ht]; simp)
  · rintro ⟨hfirst, hrest⟩ before groupId listed after ht
    rcases append_eq_split ht with ⟨between, hbefore, -⟩ | ⟨between, rfl, hafter⟩
    · exact hfirst before groupId listed between hbefore
    · rw [RuleBook.after_append]
      exact hrest between groupId listed after hafter

theorem lists_cons :
    Lists order book (exchange :: rest) ↔
      Lists order book [exchange] ∧ Lists order (book.after [exchange]) rest := by
  show Lists order book ([exchange] ++ rest) ↔ _
  exact lists_append

theorem Lists.listed {listed : List Cloud.Rule}
    (h : Lists order book (⟨.listRules groupId, .answer listed⟩ :: rest)) :
    order listed (book groupId) := by
  have hlisted := h [] groupId listed rest rfl
  rwa [RuleBook.after_nil] at hlisted

theorem lists_singleton :
    Lists order book [exchange] ↔
      ∀ groupId listed, exchange = ⟨.listRules groupId, .answer listed⟩ →
        order listed (book groupId) := by
  constructor
  · rintro h groupId listed rfl
    exact h.listed
  · intro h before groupId listed after ht
    cases before with
    | nil =>
      obtain ⟨hexchange, -⟩ := List.cons_eq_cons.1 ht
      rw [RuleBook.after_nil]
      exact h groupId listed hexchange
    | cons head before => simp at ht

theorem lists_listing {listed : List Cloud.Rule} (h : order listed (book groupId)) :
    Lists order book [⟨.listRules groupId, .answer listed⟩] := by
  refine lists_singleton.2 fun other answered hexchange => ?_
  cases hexchange
  exact h

theorem lists_of_not_listing (h : ∀ groupId, exchange.request ≠ .listRules groupId) :
    Lists order book [exchange] := by
  refine lists_singleton.2 fun groupId listed hexchange => ?_
  rw [hexchange] at h
  exact absurd rfl (h groupId)

end Trace

end VpcOperator
