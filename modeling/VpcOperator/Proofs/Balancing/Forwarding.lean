import Mathlib.Data.List.Forall2
import Mathlib.Data.List.Nodup
import VpcOperator.Balancing.Pools

/-! # Where each port is forwarded to

Every port of a load balancer has a listener of its own, and every listener a
pool of its own. The name of a pool ends with the number of its port after the
last dash, so no two pools have one name, whatever the load balancer is called.
-/

namespace VpcOperator

/-! ## The first of each -/

section FirstOccurrence

variable {α : Type} [DecidableEq α]

/-- What is left out does not change which of two others comes first. -/
theorem idxOf_lt_of_filter {keep : α → Bool} {one other : α} (items : List α)
    (hone : keep one = true) (hother : keep other = true)
    (h : (items.filter keep).idxOf one < (items.filter keep).idxOf other) :
    items.idxOf one < items.idxOf other := by
  induction items with
  | nil => simp at h
  | cons first rest ih =>
    by_cases hfirst : keep first = true
    · rw [List.filter_cons_of_pos hfirst] at h
      by_cases hsame : first = other
      · subst hsame
        simp at h
      · rw [List.idxOf_cons_ne _ hsame] at h ⊢
        by_cases hbegins : first = one
        · subst hbegins
          simp
        · rw [List.idxOf_cons_ne _ hbegins] at h ⊢
          have hrest := ih (by omega)
          omega
    · rw [List.filter_cons_of_neg hfirst] at h
      have hne : ∀ item, keep item = true → first ≠ item := by
        rintro item hitem rfl
        exact hfirst hitem
      rw [List.idxOf_cons_ne _ (hne one hone), List.idxOf_cons_ne _ (hne other hother)]
      have hrest := ih h
      omega

theorem eraseDups_inOrder (items : List α) :
    items.eraseDups.Pairwise fun one other => items.idxOf one < items.idxOf other := by
  match items with
  | [] => simp
  | first :: rest =>
    have hshorter := List.length_filter_le (fun item => !item == first) rest
    have hrest := eraseDups_inOrder (rest.filter fun item => !item == first)
    have hkept : ∀ item ∈ (rest.filter fun item => !item == first).eraseDups,
        (!item == first) = true := by
      intro item hmem
      exact (List.mem_filter.1 (List.mem_eraseDups.1 hmem)).2
    have hne : ∀ item ∈ (rest.filter fun item => !item == first).eraseDups, first ≠ item := by
      intro item hmem
      have hdiffers : item ≠ first := by simpa using hkept item hmem
      exact hdiffers.symm
    rw [List.eraseDups_cons, List.pairwise_cons]
    constructor
    · intro item hmem
      rw [List.idxOf_cons_self, List.idxOf_cons_ne _ (hne item hmem)]
      omega
    · apply hrest.imp_of_mem
      intro one other hone hother hlt
      have hlt' := idxOf_lt_of_filter rest (hkept one hone) (hkept other hother) hlt
      rw [List.idxOf_cons_ne _ (hne one hone), List.idxOf_cons_ne _ (hne other hother)]
      omega
  termination_by items.length
  decreasing_by simp only [List.length_cons]; omega

end FirstOccurrence

/-! ## Numbers in names -/

theorem dash_not_mem_number (n : Nat) : '-' ∉ (toString n).toList := by
  intro hmem
  rw [Nat.toString_eq_repr, Nat.toList_repr] at hmem
  have hdigit := Nat.isDigit_of_mem_toDigits (by omega) (by omega) hmem
  exact absurd hdigit (by decide)

theorem eq_of_last_dash {one other last last' : List Char} (hlast : '-' ∉ last)
    (hlast' : '-' ∉ last') (h : one ++ '-' :: last = other ++ '-' :: last') : last = last' := by
  have hcases := List.append_eq_append_iff.1 h
  rcases hcases with ⟨between, -, hbetween⟩ | ⟨between, -, hbetween⟩
  · cases between with
    | nil => exact (List.cons_eq_cons.1 hbetween).2
    | cons dash between =>
      have hmem : '-' ∈ last := by simp [(List.cons_eq_cons.1 hbetween).2]
      exact absurd hmem hlast
  · cases between with
    | nil => exact ((List.cons_eq_cons.1 hbetween).2).symm
    | cons dash between =>
      have hmem : '-' ∈ last' := by simp [(List.cons_eq_cons.1 hbetween).2]
      exact absurd hmem hlast'

theorem eq_of_numbered {one other : String} {m n : Nat}
    (h : one ++ "-" ++ toString m = other ++ "-" ++ toString n) : m = n := by
  have hlist := congrArg String.toList h
  simp only [String.toList_append, List.append_assoc] at hlist
  have hnumbers := eq_of_last_dash (dash_not_mem_number m) (dash_not_mem_number n) hlist
  have hdigits : Nat.toDigits 10 m = Nat.toDigits 10 n := by
    simpa only [Nat.toString_eq_repr, Nat.toList_repr] using hnumbers
  have hread := congrArg (Nat.ofDigitChars 10 · 0) hdigits
  simpa using hread

/-! ## Ports and pools -/

/-- A pool as it is declared first under its name, or the default one where none is declared. -/
inductive Pool.IsFrom (declared : List Pool) (pool : Pool) : Prop
  | declared {earlier later : List Pool} :
      declared = earlier ++ pool :: later → (∀ other ∈ earlier, other.name ≠ pool.name) →
      Pool.IsFrom declared pool
  | default :
      (∀ other ∈ declared, other.name ≠ pool.name) → pool = Pool.default pool.name →
      Pool.IsFrom declared pool

namespace Desired.LoadBalancer

variable {balancer : LoadBalancer} {apiPort : UInt16}

def wantedPorts (balancer : LoadBalancer) (apiPort : UInt16) : List UInt16 :=
  apiPort :: balancer.listeners.map (·.port)

/-- What is right about the pools and listeners a load balancer is created with. -/
structure WellForwarded (balancer : LoadBalancer) (apiPort : UInt16) (pools : List Pool)
    (listeners : List Cloud.ListenerPrototype) : Prop where
  /-- There are as many of the ones as of the others, and each listener forwards to the pool in its
  place. -/
  paired : List.Forall₂ (fun listener pool => listener.pool = pool.name) listeners pools
  api_first : (listeners.map (·.port)).head? = some apiPort
  ports_nodup : (listeners.map (·.port)).Nodup
  ports_all : ∀ port, port ∈ listeners.map (·.port) ↔ port ∈ balancer.wantedPorts apiPort
  /-- A port stands before another if it is wanted first. -/
  ports_inOrder : (listeners.map (·.port)).Pairwise fun one other =>
    (balancer.wantedPorts apiPort).idxOf one < (balancer.wantedPorts apiPort).idxOf other
  names_nodup : (pools.map (·.name)).Nodup
  pool_unique : ∀ listener ∈ listeners, ∃! pool, pool ∈ pools ∧ pool.name = listener.pool
  override_once : ∀ declared ∈ balancer.pools,
    (pools.filter (·.name = declared.name)).length ≤ 1
  parameters : ∀ pool ∈ pools, pool.IsFrom balancer.pools

theorem map_fst_ports : (balancer.ports apiPort).map (·.1) =
    (balancer.wantedPorts apiPort).eraseDups := by
  have hkeep : (fun port : UInt16 => !port == apiPort) = fun port => decide (port ≠ apiPort) := by
    funext port
    by_cases h : port = apiPort <;> simp [h]
  simp [ports, wantedPorts, List.eraseDups_cons, hkeep, Function.comp_def]

theorem name_of_mem_ports {entry : UInt16 × String} (hmem : entry ∈ balancer.ports apiPort) :
    ∃ stem, entry.2 = stem ++ "-" ++ toString entry.1.toNat := by
  unfold ports at hmem
  rcases List.mem_cons.1 hmem with rfl | hmem
  · refine ⟨balancer.name ++ "-pool", ?_⟩
    simp [String.append_assoc]
  · obtain ⟨port, -, rfl⟩ := List.mem_map.1 hmem
    exact ⟨"additional-pool", rfl⟩

theorem ports_fst_nodup : ((balancer.ports apiPort).map (·.1)).Nodup := by
  rw [map_fst_ports]
  apply (eraseDups_inOrder (balancer.wantedPorts apiPort)).imp
  rintro one other hlt rfl
  omega

theorem ports_snd_nodup : ((balancer.ports apiPort).map (·.2)).Nodup := by
  apply List.Nodup.map_on
  · intro one hone other hother hname
    obtain ⟨stem, hstem⟩ := name_of_mem_ports hone
    obtain ⟨stem', hstem'⟩ := name_of_mem_ports hother
    have hport : one.1.toNat = other.1.toNat :=
      eq_of_numbered (hstem.symm.trans (hname.trans hstem'))
    exact List.inj_on_of_nodup_map ports_fst_nodup hone hother (UInt16.toNat_inj.1 hport)
  · exact List.Nodup.of_map _ ports_fst_nodup

theorem poolNamed_name (balancer : LoadBalancer) (name : String) :
    (balancer.poolNamed name).name = name := by
  unfold poolNamed
  cases h : balancer.pools.find? (·.name = name) with
  | none => rfl
  | some pool => simpa using List.find?_some h

theorem poolNamed_isFrom (balancer : LoadBalancer) (name : String) :
    (balancer.poolNamed name).IsFrom balancer.pools := by
  have hname := poolNamed_name balancer name
  unfold poolNamed at hname ⊢
  cases h : balancer.pools.find? (·.name = name) with
  | none =>
    have hnone : ∀ other ∈ balancer.pools, other.name ≠ name := by
      simpa using List.find?_eq_none.1 h
    exact .default hnone rfl
  | some pool =>
    rw [h] at hname
    obtain ⟨-, earlier, later, hpools, hearlier⟩ := List.find?_eq_some_iff_append.1 h
    apply Pool.IsFrom.declared hpools
    intro other hmem heq
    have hne : other.name ≠ name := by simpa using hearlier other hmem
    exact hne (heq.trans hname)

theorem map_port_allListeners : (balancer.allListeners apiPort).map (·.port) =
    (balancer.wantedPorts apiPort).eraseDups := by
  rw [← map_fst_ports]
  simp [allListeners, Function.comp_def]

theorem map_name_allPools :
    (balancer.allPools apiPort).map (·.name) = (balancer.ports apiPort).map (·.2) := by
  simp [allPools, Function.comp_def, poolNamed_name]

/-- Each port that is wanted has one listener, in the order in which the ports are wanted first, and
each listener one pool, which has the parameters that are declared for it. -/
theorem allPools_wellForwarded (balancer : LoadBalancer) (apiPort : UInt16) :
    balancer.WellForwarded apiPort (balancer.allPools apiPort) (balancer.allListeners apiPort) := by
  have hports : (balancer.allListeners apiPort).map (·.port) =
      (balancer.wantedPorts apiPort).eraseDups := map_port_allListeners
  have hnames : ((balancer.allPools apiPort).map (·.name)).Nodup := by
    rw [map_name_allPools]
    exact ports_snd_nodup
  have hpaired : List.Forall₂ (fun listener pool => listener.pool = pool.name)
      (balancer.allListeners apiPort) (balancer.allPools apiPort) := by
    unfold allListeners allPools
    rw [List.forall₂_map_left_iff, List.forall₂_map_right_iff, List.forall₂_same]
    intro entry _
    exact (poolNamed_name balancer entry.2).symm
  refine ⟨hpaired, ?_, ?_, ?_, ?_, hnames, ?_, ?_, ?_⟩
  · rw [hports, wantedPorts, List.eraseDups_cons, List.head?_cons]
  · rw [hports, ← map_fst_ports]
    exact ports_fst_nodup
  · intro port
    rw [hports, List.mem_eraseDups]
  · rw [hports]
    exact eraseDups_inOrder _
  · intro listener hmem
    obtain ⟨entry, hentry, rfl⟩ := List.mem_map.1 hmem
    refine ⟨balancer.poolNamed entry.2, ⟨List.mem_map_of_mem hentry, poolNamed_name _ _⟩, ?_⟩
    rintro pool ⟨hpool, hname⟩
    obtain ⟨other, hother, rfl⟩ := List.mem_map.1 hpool
    rw [poolNamed_name] at hname
    exact congrArg balancer.poolNamed hname
  · intro declared _
    have hcount := List.nodup_iff_count_le_one.1 hnames declared.name
    rw [List.count, List.countP_map, List.countP_eq_length_filter] at hcount
    simpa [Function.comp_def, beq_eq_decide] using hcount
  · intro pool hmem
    obtain ⟨entry, -, rfl⟩ := List.mem_map.1 hmem
    exact poolNamed_isFrom balancer entry.2

/-- A load balancer with the name that additional pools start with. -/
example :
    let balancer : LoadBalancer :=
      { name := "additional", id := none, isPublic := true, listeners := [⟨80⟩, ⟨6443⟩, ⟨80⟩],
        pools := [], securityGroups := [] }
    (balancer.allPools 6443).map (·.name) = ["additional-pool-6443", "additional-pool-80"] := by
  decide

end Desired.LoadBalancer

end VpcOperator
