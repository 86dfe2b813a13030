import ResidentialIPManager.Sorting.Comparator
import ResidentialIPManager.Web.Failover

/-! # Candidate selection is a ranking

The four chained keys of `connectionCandidates` form a strict weak order, total on
nodes whose IDs differ. The stable sort therefore has one result for every order of the
node list, and an attempt limit takes an initial part of it.
-/
namespace ResidentialIPManager.Web
open Text Domain Sorting

/-- IDs differ as Go strings do: in their bytes. -/
def DistinctIDs (nodes : List VpnNode) : Prop := (nodes.map fun n => GoString.bytes n.id).Nodup

instance (nodes : List VpnNode) : Decidable (DistinctIDs nodes) :=
  inferInstanceAs (Decidable (List.Nodup _))

/-- Rank descending, latency ascending, score descending, ID ascending. -/
def RankedBefore (a b : VpnNode) : Prop :=
  nodeRank b < nodeRank a ∨ nodeRank a = nodeRank b ∧
    (latencyRank a < latencyRank b ∨ latencyRank a = latencyRank b ∧
      (b.score < a.score ∨ a.score = b.score ∧ GoString.bytes a.id < GoString.bytes b.id))

theorem strictWeak_idLess : StrictWeak (fun a b : VpnNode => GoString.less a.id b.id) where
  asymm a b hab := by
    unfold GoString.less at hab ⊢
    exact decide_eq_false (List.lt_asymm (of_decide_eq_true hab))
  cotrans a b c hac := by
    unfold GoString.less at hac ⊢
    simp only [decide_eq_true_eq] at hac ⊢
    by_cases hab : GoString.bytes a.id < GoString.bytes b.id
    · exact .inl hab
    · exact .inr (List.lt_of_le_of_lt (List.not_lt.mp hab) hac)

/-- The comparison as a chain of keys. -/
theorem candidateLess_eq : candidateLess =
    byKey (fun n => OrderDual.toDual (nodeRank n)) (byKey latencyRank
      (byKey (fun n => OrderDual.toDual n.score) fun a b => GoString.less a.id b.id)) := by
  funext a b
  simp [candidateLess, byKey]

theorem strictWeak_candidateLess : StrictWeak candidateLess := by
  rw [candidateLess_eq]
  exact ((strictWeak_idLess.byKey _).byKey _).byKey _

theorem candidateLess_iff (a b : VpnNode) : candidateLess a b = true ↔ RankedBefore a b := by
  rw [candidateLess_eq]
  simp only [byKey_iff, OrderDual.toDual_lt_toDual, OrderDual.toDual_inj, GoString.less,
    decide_eq_true_eq]
  rfl

/-- Nodes with different IDs are never tied. -/
theorem candidateLess_total {a b : VpnNode} (h : GoString.bytes a.id ≠ GoString.bytes b.id) :
    candidateLess a b = true ∨ candidateLess b a = true := by
  simp only [candidateLess_iff, RankedBefore]
  have hid : GoString.bytes a.id < GoString.bytes b.id ∨
      GoString.bytes b.id < GoString.bytes a.id := by
    by_contra hn
    rw [not_or, List.not_lt, List.not_lt] at hn
    exact h (List.le_antisymm hn.2 hn.1)
  rcases lt_trichotomy (nodeRank a) (nodeRank b) with hr | hr | hr
  · exact .inr (.inl hr)
  · rcases lt_trichotomy (latencyRank a) (latencyRank b) with hl | hl | hl
    · exact .inl (.inr ⟨hr, .inl hl⟩)
    · grind
    · exact .inr (.inr ⟨hr.symm, .inl hl⟩)
  · exact .inl (.inl hr)

theorem DistinctIDs.nodup {nodes : List VpnNode} (h : DistinctIDs nodes) : nodes.Nodup :=
  h.of_map _

theorem DistinctIDs.bytes_ne {nodes : List VpnNode} (h : DistinctIDs nodes) {a b : VpnNode}
    (ha : a ∈ nodes) (hb : b ∈ nodes) (hne : a ≠ b) :
    GoString.bytes a.id ≠ GoString.bytes b.id :=
  fun heq => hne (List.inj_on_of_nodup_map h ha hb heq)

theorem DistinctIDs.perm {nodes nodes' : List VpnNode} (h : DistinctIDs nodes)
    (hp : nodes'.Perm nodes) : DistinctIDs nodes' :=
  (hp.map _).nodup_iff.mpr h

theorem comparable_connectable {nodes : List VpnNode} (h : DistinctIDs nodes) (now : Time) :
    Comparable candidateLess (nodes.filter (connectable · now)) := by
  intro a ha b hb hne
  exact candidateLess_total (h.bytes_ne (List.mem_of_mem_filter ha) (List.mem_of_mem_filter hb) hne)

theorem rankedCandidates_perm (nodes : List VpnNode) (now : Time) :
    (rankedCandidates nodes now).Perm (nodes.filter (connectable · now)) :=
  List.perm_insertionSort _ _

theorem rankedCandidates_pairwise {nodes : List VpnNode} (h : DistinctIDs nodes) (now : Time) :
    (rankedCandidates nodes now).Pairwise RankedBefore := by
  have hless := pairwise_insertionSort_less strictWeak_candidateLess (h.nodup.filter _)
    (comparable_connectable h now)
  exact hless.imp fun hab => (candidateLess_iff _ _).mp hab

theorem rankedCandidates_invariant {nodes nodes' : List VpnNode} (h : DistinctIDs nodes)
    (hp : nodes'.Perm nodes) (now : Time) :
    rankedCandidates nodes' now = rankedCandidates nodes now := by
  have h' := h.perm hp
  exact insertionSort_perm_invariant strictWeak_candidateLess (hp.filter _) (h'.nodup.filter _)
    (comparable_connectable h' now)

def selectedCount (k : Int) (n : Nat) : Nat := if k ≤ 0 then n else min k.toNat n

theorem connectionCandidates_take (nodes : List VpnNode) (k : Int) (now : Time) :
    connectionCandidates nodes [] k now = (rankedCandidates nodes now).take
      (selectedCount k (rankedCandidates nodes now).length) := by
  unfold connectionCandidates selectedCount
  simp only [ne_eq, not_true_eq_false, if_false]
  by_cases hk : k ≤ 0
  · simp [hk]
  · by_cases hlen : (rankedCandidates nodes now).length < k
    · rw [if_pos (.inr hlen), if_neg hk, min_eq_right (by omega), List.take_length]
    · rw [if_neg (by omega), if_neg hk, min_eq_left (by omega)]

theorem connectionCandidates_all (nodes : List VpnNode) (now : Time) :
    connectionCandidates nodes [] 0 now = rankedCandidates nodes now := by
  simp [connectionCandidates]

theorem connectionCandidates_requested {nodes : List VpnNode} {now : Time} {n : VpnNode}
    (h : DistinctIDs nodes) (hn : n ∈ nodes) (hid : n.id ≠ []) (hc : connectable n now = true)
    (k : Int) : connectionCandidates nodes n.id k now = [n] := by
  obtain ⟨m, hm, hmid, heq⟩ := connectionCandidates_byID hn hid hc k
  by_cases hmn : m = n
  · rw [heq, hmn]
  · exact absurd (congrArg GoString.bytes hmid) (h.bytes_ne hm hn hmn)

theorem connectionCandidates_absent {nodes : List VpnNode} {id : GoString} {now : Time}
    (hid : id ≠ []) (hnone : ∀ n ∈ nodes, n.id = id → connectable n now = false) (k : Int) :
    connectionCandidates nodes id k now = [] := by
  unfold connectionCandidates
  rw [if_pos hid, List.find?_eq_none.mpr fun n hn => by simpa using hnone n hn]

structure RankedSelection (nodes : List VpnNode) (now : Time) : Prop where
  irrefl : ∀ a ∈ nodes, connectable a now = true → candidateLess a a = false
  trans : ∀ a ∈ nodes, ∀ b ∈ nodes, ∀ c ∈ nodes, connectable a now = true →
    connectable b now = true → connectable c now = true →
    candidateLess a b = true → candidateLess b c = true → candidateLess a c = true
  total : ∀ a ∈ nodes, ∀ b ∈ nodes, connectable a now = true → connectable b now = true →
    a ≠ b → candidateLess a b = true ∨ candidateLess b a = true
  keys : ∀ a b, candidateLess a b = true ↔ RankedBefore a b
  selected : ∃ ranked : List VpnNode, ranked.Perm (nodes.filter (connectable · now)) ∧
    ranked.Pairwise RankedBefore ∧ ∀ k, connectionCandidates nodes [] k now =
      ranked.take (selectedCount k ranked.length)
  permuted : ∀ nodes' : List VpnNode, nodes'.Perm nodes → ∀ k,
    connectionCandidates nodes' [] k now = connectionCandidates nodes [] k now
  initial : ∀ k k' : Int, 0 < k ∧ k ≤ k' ∨ k' ≤ 0 →
    connectionCandidates nodes [] k now <+: connectionCandidates nodes [] k' now
  requested : ∀ n ∈ nodes, n.id ≠ [] → connectable n now = true → ∀ k,
    connectionCandidates nodes n.id k now = [n]
  absent : ∀ id : GoString, id ≠ [] → (∀ n ∈ nodes, n.id = id → connectable n now = false) →
    ∀ k, connectionCandidates nodes id k now = []

/-- With distinct IDs the selection is a ranking; a limit that is not positive selects
all candidates, a positive one an initial part. -/
theorem connectionCandidates_ranked {nodes : List VpnNode} (h : DistinctIDs nodes) (now : Time) :
    RankedSelection nodes now where
  irrefl a _ _ := strictWeak_candidateLess.irrefl a
  trans a _ b _ c _ _ _ _ hab hbc := strictWeak_candidateLess.trans hab hbc
  total a ha b hb _ _ hne := candidateLess_total (h.bytes_ne ha hb hne)
  keys := candidateLess_iff
  selected := ⟨rankedCandidates nodes now, rankedCandidates_perm nodes now,
    rankedCandidates_pairwise h now, fun k => connectionCandidates_take nodes k now⟩
  permuted nodes' hp k := by
    rw [connectionCandidates_take, connectionCandidates_take, rankedCandidates_invariant h hp]
  initial k k' hk := by
    rw [connectionCandidates_take, connectionCandidates_take]
    refine List.take_prefix_take_left ?_
    unfold selectedCount
    split_ifs <;> omega
  requested n hn hne hc k := connectionCandidates_requested h hn hne hc k
  absent id hid hnone k := connectionCandidates_absent hid hnone k

/-- Two untested nodes with equal keys apart from the ID. -/
def tiedNodes : List VpnNode :=
  [{ id := lit "b", protocol := lit "tcp" }, { id := lit "a", protocol := lit "tcp" }]

theorem connectionCandidates_ranked_tied :
    DistinctIDs tiedNodes ∧ RankedSelection tiedNodes 0 :=
  ⟨by decide +kernel, connectionCandidates_ranked (by decide +kernel) 0⟩

/-- Raising the limit from zero to one shortens the selection: zero means no limit. -/
theorem zero_limit_not_initial :
    ¬ ∀ (nodes : List VpnNode) (now : Time), DistinctIDs nodes → ∀ k k' : Int, k < k' →
      connectionCandidates nodes [] k now <+: connectionCandidates nodes [] k' now := by
  intro h
  have hlen := (h tiedNodes 0 (by decide +kernel) 0 1 (by decide)).length_le
  revert hlen
  decide +kernel

end ResidentialIPManager.Web
