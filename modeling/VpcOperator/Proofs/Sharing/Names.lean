import Mathlib.Data.List.Basic
import VpcOperator.Resource

/-! # Generated names

A generated name starts with the name of its cluster, and in a subnet's and a
gateway's the zone comes last. Since a word stands between the two, the name
can be taken apart in one way only, unless the zone has that word as well.
-/

namespace VpcOperator

/-! ## Words between dashes -/

section Names

variable {word moved rest rest' : List Char}

/-- If a word between dashes stands at the start of a text and further on as well, the word and the
dash after it are in what comes after the first one. -/
theorem eq_nil_of_dashed_shift (hword : '-' ∉ word)
    (h : '-' :: (word ++ ['-']) ++ rest = moved ++ ('-' :: (word ++ ['-']) ++ rest'))
    (hrest : ¬ word ++ ['-'] <:+: rest) : moved = [] := by
  rcases List.append_eq_append_iff.1 h with ⟨between, -, rfl⟩ | ⟨overlap, hmoved, hoverlap⟩
  · exact absurd ⟨between ++ ['-'], rest', by simp⟩ hrest
  cases moved with
  | nil => rfl
  | cons _ moved =>
    have htail : word ++ ['-'] = moved ++ overlap := (List.cons_eq_cons.1 hmoved).2
    cases overlap with
    | nil => exact absurd ⟨['-'], rest', by simpa using hoverlap⟩ hrest
    | cons dash overlap =>
      obtain ⟨rfl, hinner⟩ := List.cons_eq_cons.1 hoverlap
      -- The overlap starts with a dash, and the only one left is the last character.
      obtain ⟨-, -, rfl⟩ := (List.append_cons_inj_of_notMem hword List.not_mem_nil).1 htail
      exact absurd ⟨[], rest', by simpa using hinner⟩ hrest

theorem eq_of_dashed {one other zone zone' dashed : String} (word : List Char)
    (h : one ++ dashed ++ zone = other ++ dashed ++ zone')
    (hdashed : dashed.toList = '-' :: (word ++ ['-'])) (hword : '-' ∉ word)
    (hzone : ¬ word ++ ['-'] <:+: zone.toList) (hzone' : ¬ word ++ ['-'] <:+: zone'.toList) :
    one = other := by
  have heq := congrArg String.toList h
  simp only [String.toList_append, List.append_assoc, hdashed] at heq
  refine String.toList_inj.1 ?_
  rcases List.append_eq_append_iff.1 heq with ⟨moved, hone, hmoved⟩ | ⟨moved, hother, hmoved⟩
  · rw [hone, eq_nil_of_dashed_shift hword hmoved hzone, List.append_nil]
  · rw [hother, eq_nil_of_dashed_shift hword hmoved hzone', List.append_nil]

end Names

/-! ## Names of clusters -/

/-- The zone has neither of the words in its name that come before a zone in a generated name. -/
structure PlainZone (zone : String) : Prop where
  subnet : ¬ "subnet-".toList <:+: zone.toList
  gateway : ¬ "pgateway-".toList <:+: zone.toList

def Generates (cluster : String) : Kind → String → Prop
  | .vpc, name => name = cluster ++ "-vpc"
  | .subnet, name => ∃ zone, PlainZone zone ∧ name = cluster ++ "-subnet-" ++ zone
  | .publicGateway, name => ∃ zone, PlainZone zone ∧ name = cluster ++ "-pgateway-" ++ zone
  | _, _ => False

theorem Generates.cluster_unique {one other name : String} {kind : Kind}
    (h : Generates one kind name) (h' : Generates other kind name) : one = other := by
  cases kind with
  | vpc =>
    have heq := congrArg String.toList (h.symm.trans h')
    rw [String.toList_append, String.toList_append] at heq
    exact String.toList_inj.1 (List.append_cancel_right heq)
  | subnet =>
    obtain ⟨zone, hzone, rfl⟩ := h
    obtain ⟨zone', hzone', hname⟩ := h'
    exact eq_of_dashed "subnet".toList hname rfl (by decide) hzone.subnet hzone'.subnet
  | publicGateway =>
    obtain ⟨zone, hzone, rfl⟩ := h
    obtain ⟨zone', hzone', hname⟩ := h'
    exact eq_of_dashed "pgateway".toList hname rfl (by decide) hzone.gateway hzone'.gateway
  | _ => exact h.elim

end VpcOperator
