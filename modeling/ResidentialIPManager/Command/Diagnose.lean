import ResidentialIPManager.Probe.Consistency
import ResidentialIPManager.Sorting.Comparator

/-! # The order in which the diagnosis tries nodes

`diagnosticCandidates` compares latencies where both are set and scores otherwise, which
is no order on arbitrary nodes. A probe sets the latency of every node that it finds
available, so on the list that a probe returns the comparison is a chain of two keys.
-/
namespace ResidentialIPManager.Command
open Text Domain Probe Sorting Transition

def diagnosable (node : VpnNode) : Bool :=
  decide (node.protocol = lit "tcp") && decide (node.status = .available)

/-- The comparison given to `sort.SliceStable`. -/
def diagnosticLess (left right : VpnNode) : Bool :=
  match left.latencyMS, right.latencyMS with
  | some l, some r => if l ≠ r then decide (l < r) else decide (right.score < left.score)
  | _, _ => decide (right.score < left.score)

def diagnosticCandidates (nodes : List VpnNode) : List VpnNode :=
  (nodes.filter diagnosable).insertionSort (notAfter diagnosticLess)

def TriedBefore (p q : VpnNode × Nat) : Prop :=
  ∃ l m, p.1.latencyMS = some l ∧ q.1.latencyMS = some m ∧
    (l < m ∨ l = m ∧ (q.1.score < p.1.score ∨ p.1.score = q.1.score ∧ p.2 < q.2))

def latencyThenScore : VpnNode → VpnNode → Bool :=
  byKey (fun n => n.latencyMS.getD 0) (byKey (fun n => OrderDual.toDual n.score) fun _ _ => false)

theorem strictWeak_latencyThenScore : StrictWeak latencyThenScore := by
  have hnone : StrictWeak (fun _ _ : VpnNode => false) :=
    ⟨fun _ _ h => absurd h (by simp), fun _ _ _ h => absurd h (by simp)⟩
  exact (hnone.byKey _).byKey _

theorem diagnosticLess_eq {a b : VpnNode} (ha : a.latencyMS.isSome) (hb : b.latencyMS.isSome) :
    diagnosticLess a b = latencyThenScore a b := by
  obtain ⟨l, hl⟩ := Option.isSome_iff_exists.mp ha
  obtain ⟨m, hm⟩ := Option.isSome_iff_exists.mp hb
  by_cases hscore : a.score = b.score
  · simp [diagnosticLess, latencyThenScore, byKey, hl, hm, hscore]
  · simp [diagnosticLess, latencyThenScore, byKey, hl, hm, hscore]

/-- A probe leaves no available node without a latency. -/
theorem latency_of_available {cfg : ProbeConfig} {logs : Nat → DialLog} {nodes : List VpnNode}
    {n : VpnNode} (hn : n ∈ probe cfg logs nodes) (h : n.status = .available) :
    n.latencyMS.isSome = true := by
  have hprobed : ∀ (samples : Int) (log : DialLog) (m : VpnNode),
      (probeNode samples log m).status = .available →
      (probeNode samples log m).latencyMS.isSome = true := by
    intro samples log m
    unfold probeNode
    cases isTCP m.protocol with
    | false => simp
    | true => cases log.median samples <;> simp
  obtain ⟨m, -, log, rfl | rfl⟩ := mem_probe hn
  · exact hprobed _ _ _ h
  · rw [markSuspicious_eq] at h ⊢
    exact hprobed _ _ _ h

abbrev Selected (nodes : List VpnNode) := {n : VpnNode // n ∈ nodes ∧ diagnosable n = true}

/-- What the diagnosis can rely on for one list: the comparison orders the selected nodes,
and the candidates are these nodes, each once, in the order of latency, score and place. -/
structure DiagnosticOrder (nodes : List VpnNode) : Prop where
  strictWeak : StrictWeak fun a b : Selected nodes => diagnosticLess a.val b.val
  ordered : ∃ placed : List (VpnNode × Nat),
    placed.Perm (nodes.zipIdx.filter fun p => diagnosable p.1) ∧
      diagnosticCandidates nodes = placed.map Prod.fst ∧ placed.Pairwise TriedBefore

section Order

variable {nodes : List VpnNode}
  (hlatency : ∀ n ∈ nodes, diagnosable n = true → n.latencyMS.isSome = true)

include hlatency

theorem strictWeak_diagnosticLess :
    StrictWeak fun a b : Selected nodes => diagnosticLess a.val b.val := by
  have heq : (fun a b : Selected nodes => diagnosticLess a.val b.val) =
      fun a b : Selected nodes => latencyThenScore a.val b.val := by
    funext a b
    exact diagnosticLess_eq (hlatency a a.2.1 a.2.2) (hlatency b b.2.1 b.2.2)
  rw [heq]
  exact strictWeak_latencyThenScore.comap Subtype.val

theorem triedBefore_of_thenPlace {p q : VpnNode × Nat}
    (hp : p ∈ nodes.zipIdx.filter fun p => diagnosable p.1)
    (hq : q ∈ nodes.zipIdx.filter fun p => diagnosable p.1)
    (h : thenPlace latencyThenScore p q = true) : TriedBefore p q := by
  have hset : ∀ r ∈ nodes.zipIdx.filter fun p => diagnosable p.1,
      ∃ ms, r.1.latencyMS = some ms := by
    intro r hr
    rw [List.mem_filter] at hr
    apply Option.isSome_iff_exists.mp
    exact hlatency r.1 (List.fst_mem_of_mem_zipIdx hr.1) hr.2
  obtain ⟨l, hl⟩ := hset p hp
  obtain ⟨m, hm⟩ := hset q hq
  refine ⟨l, m, hl, hm, ?_⟩
  rw [thenPlace_iff] at h
  simp only [latencyThenScore, ← Bool.not_eq_true, byKey_iff, hl, hm, Option.getD_some,
    OrderDual.toDual_lt_toDual, OrderDual.toDual_inj, Bool.false_eq_true, and_false, or_false] at h
  omega

theorem ordered_diagnosticCandidates : ∃ placed : List (VpnNode × Nat),
    placed.Perm (nodes.zipIdx.filter fun p => diagnosable p.1) ∧
      diagnosticCandidates nodes = placed.map Prod.fst ∧ placed.Pairwise TriedBefore := by
  have hplaces := (pairwise_zipIdx nodes 0).filter fun p => diagnosable p.1
  have hselected : (nodes.zipIdx.filter fun p => diagnosable p.1).map Prod.fst =
      nodes.filter diagnosable := by
    rw [← Function.comp_def diagnosable Prod.fst, ← List.filter_map, List.zipIdx_map_fst]
  obtain ⟨placed, hperm, hsorted, hbefore⟩ := exists_places strictWeak_latencyThenScore hplaces
  refine ⟨placed, hperm, ?_, ?_⟩
  · rw [← hsorted, hselected, diagnosticCandidates]
    apply insertionSort_congr
    intro a ha b hb
    rw [List.mem_filter] at ha hb
    exact diagnosticLess_eq (hlatency a ha.1 ha.2) (hlatency b hb.1 hb.2)
  · apply hbefore.imp_of_mem
    intro p q hp hq
    exact triedBefore_of_thenPlace hlatency (hperm.mem_iff.mp hp) (hperm.mem_iff.mp hq)

end Order

/-- Whatever the workers of a probe do, the list that it returns is diagnosed in a sound
order. -/
theorem diagnosticOrder_probed {cfg : ProbeConfig} {logs : Nat → DialLog} {nodes : List VpnNode}
    {actions : List CrewAction} {crew : Crew Place VpnNode} {result : List VpnNode}
    (hrun : probeRun cfg logs nodes actions = some crew) (hresult : returned crew = some result) :
    DiagnosticOrder result := by
  have hprobe : result = probe cfg logs nodes := by
    cases hjoined : crew.joined with
    | false => simp [returned, hjoined] at hresult
    | true =>
      simp only [returned, hjoined, if_true, Option.some.injEq] at hresult
      rw [← hresult, probeRun_cells hrun hjoined, probe]
  have hlatency : ∀ n ∈ result, diagnosable n = true → n.latencyMS.isSome = true := by
    intro n hn hsel
    rw [hprobe] at hn
    simp only [diagnosable, Bool.and_eq_true, decide_eq_true_eq] at hsel
    exact latency_of_available hn hsel.2
  exact ⟨strictWeak_diagnosticLess hlatency, ordered_diagnosticCandidates hlatency⟩

/-- A probe of one node. -/
theorem diagnosticOrder_probed_solo :
    ∃ (crew : Crew Place VpnNode) (result : List VpnNode),
      probeRun { samples := 1 } (fun _ => { now := 0, outcome := fun _ => .ok 7000000 })
        [{ id := lit "a", remoteHost := lit "1.1.1.1", protocol := lit "tcp" }]
        [.spawn, .acquire 0, .act 0, .act 0, .act 0, .act 0, .act 0, .leave 0, .done 0, .join] =
          some crew ∧ returned crew = some result ∧ DiagnosticOrder result := by
  obtain ⟨crew, hrun, hjoined⟩ : ∃ crew,
      probeRun { samples := 1 } (fun _ => { now := 0, outcome := fun _ => .ok 7000000 })
        [{ id := lit "a", remoteHost := lit "1.1.1.1", protocol := lit "tcp" }]
        [.spawn, .acquire 0, .act 0, .act 0, .act 0, .act 0, .act 0, .leave 0, .done 0, .join] =
          some crew ∧ crew.joined = true := ⟨_, rfl, rfl⟩
  have hresult : returned crew = some (markBatchLatencyAnomaly crew.cells) := by
    rw [returned, if_pos hjoined]
  exact ⟨crew, _, hrun, hresult, diagnosticOrder_probed hrun hresult⟩

/-- Without the latencies of a probe the comparison is no order: three nodes, one of them
without a latency, are each before the next around a circle. -/
example :
    let a : VpnNode := { id := lit "a", latencyMS := some 5, score := 3 }
    let b : VpnNode := { id := lit "b", score := 2 }
    let c : VpnNode := { id := lit "c", latencyMS := some 1, score := 1 }
    diagnosticLess a b = true ∧ diagnosticLess b c = true ∧ diagnosticLess c a = true := by
  decide

end ResidentialIPManager.Command
