import ResidentialIPManager.Probe.Consistency
import ResidentialIPManager.Source.Payload
import ResidentialIPManager.Web.Ranking

/-! # Measured against advertised latencies

`latencyRank` puts every advertised ping above 100000, out of reach of a trusted
measurement, as long as the addition stays within 64 bits. The ping comes from the CSV
unchecked, so the addition can wrap around.
-/
namespace ResidentialIPManager.Web
open Text Domain Sorting

/-- The ranges of what `ParseVPNGateCSV` and `Probe` write: a ping of 64 bits, and for a
latency the milliseconds of a duration of 64 bits. -/
structure Producible (n : VpnNode) : Prop where
  ping : minInt64 ≤ n.advertisedPingMS ∧ n.advertisedPingMS ≤ maxInt64
  latency : ∀ ms, n.latencyMS = some ms → minInt64 / 1000000 ≤ ms

/-- `a` has a trusted measurement, `b` has none, and the rank does not decide. -/
structure MeasuredAgainst (nodes : List VpnNode) (now : Time) (a b : VpnNode) : Prop where
  left_mem : a ∈ nodes
  right_mem : b ∈ nodes
  left_connectable : connectable a now = true
  right_connectable : connectable b now = true
  rank : nodeRank a = nodeRank b
  measured : ∃ ms, a.latencyMS = some ms ∧ ms ≤ 100000
  trusted : a.latencySuspicious = false
  untrusted : b.latencyMS = none ∨ b.latencySuspicious = true

/-- `b` is not tried unless `a` is tried earlier. -/
structure SelectedBefore (candidates : List VpnNode) (a b : VpnNode) : Prop where
  selected : b ∈ candidates → a ∈ candidates
  earlier : ∀ i j : Nat, candidates[i]? = some a → candidates[j]? = some b → i < j

section Produced

theorem atoi_within (s : GoString) : minInt64 ≤ (atoi s).1 ∧ (atoi s).1 ≤ maxInt64 := by
  unfold atoi
  dsimp only
  split_ifs <;> simp only [minInt64, maxInt64] at * <;> omega

theorem safeInt_within (value : GoString) :
    minInt64 ≤ Source.safeInt value ∧ Source.safeInt value ≤ maxInt64 := by
  have hatoi := atoi_within (trimSpace value)
  unfold Source.safeInt
  split
  · next n heq =>
    rw [heq] at hatoi
    exact hatoi
  · decide

theorem producible_parsed {text : GoString} {nodes : List VpnNode}
    (h : Source.parseVPNGateCSV text = .ok nodes) : ∀ n ∈ nodes, Producible n := by
  intro n hn
  obtain ⟨header, rows, -, hparse⟩ := Source.parseVPNGateCSV_eq_ok.mp h
  obtain ⟨row, index, hrow⟩ := Source.mem_parseRecords hparse hn
  obtain ⟨ip, decoded, -, rfl⟩ := Source.rowToNode_accepted hrow
  exact ⟨safeInt_within _, by simp [Source.acceptedNode]⟩

theorem le_ceilMilliseconds (d : Duration) : minInt64 / 1000000 ≤ Probe.ceilMilliseconds d := by
  unfold Probe.ceilMilliseconds Probe.millisecond
  split_ifs
  · decide
  · have hwrap : minInt64 ≤ wrap64 (d + 1000000 - 1) := by
      unfold minInt64 wrap64
      omega
    have hfloor := Int.ediv_le_ediv (by decide : (0 : Int) < 1000000) hwrap
    rw [Int.tdiv_eq_ediv]
    split_ifs
    · omega
    · exact hfloor.trans (Int.le_add_of_nonneg_right (by decide))

theorem le_latency_probeNode {samples : Int} {log : Probe.DialLog} {n : VpnNode} {ms : Int}
    (h : (Probe.probeNode samples log n).latencyMS = some ms) : minInt64 / 1000000 ≤ ms := by
  rw [Probe.latencyMS_probeNode] at h
  split_ifs at h
  obtain ⟨k, d, -, rfl⟩ := Probe.DialLog.mem_latencies (Probe.DialLog.middle_of_median h).sampled
  exact le_ceilMilliseconds d

theorem producible_probed {cfg : ProbeConfig} {logs : Nat → Probe.DialLog} {nodes : List VpnNode}
    (h : ∀ n ∈ nodes, Producible n) : ∀ n ∈ Probe.probe cfg logs nodes, Producible n := by
  intro n hn
  obtain ⟨m, hm, log, hprobed⟩ := Probe.mem_probe hn
  have hprobe : Producible (Probe.probeNode (Probe.effectiveSamples cfg) log m) := by
    refine ⟨?_, fun ms hms => le_latency_probeNode hms⟩
    rw [congrArg (·.advertisedPingMS) (Probe.probeNode_eq (Probe.effectiveSamples cfg) log m)]
    exact (h m hm).ping
  rcases hprobed with rfl | rfl
  · exact hprobe
  · -- the batch pass changes neither of the two fields
    rw [Probe.markSuspicious_eq]
    exact ⟨hprobe.ping, hprobe.latency⟩

end Produced

section Ranks

variable {n : VpnNode} {ms : Int}

theorem latencyRank_trusted (hms : n.latencyMS = some ms) (h : n.latencySuspicious = false) :
    latencyRank n = ms := by
  simp [latencyRank, hms, h]

theorem latencyRank_untrusted (h : n.latencyMS = none ∨ n.latencySuspicious = true) :
    latencyRank n =
      if 0 < n.advertisedPingMS then wrap64 (100000 + n.advertisedPingMS) else 1000000 := by
  unfold latencyRank
  rcases h with hnone | hflag
  · rw [hnone]
  · cases n.latencyMS with
    | none => rfl
    | some ms => simp [hflag]

theorem lt_latencyRank (h : n.latencyMS = none ∨ n.latencySuspicious = true)
    (hping : n.advertisedPingMS ≤ maxInt64 - 100000) : 100000 < latencyRank n := by
  rw [latencyRank_untrusted h]
  unfold maxInt64 at hping
  unfold wrap64
  split_ifs <;> omega

theorem latencyRank_neg (h : n.latencyMS = none ∨ n.latencySuspicious = true)
    (hmax : n.advertisedPingMS ≤ maxInt64) (hping : maxInt64 - 100000 < n.advertisedPingMS) :
    latencyRank n < minInt64 / 1000000 := by
  rw [latencyRank_untrusted h]
  unfold maxInt64 at hmax hping
  unfold wrap64 minInt64
  split_ifs <;> omega

end Ranks

section Selection

variable {nodes : List VpnNode} {now : Time} {a b : VpnNode}

theorem candidateLess_of_latencyRank (hrank : nodeRank a = nodeRank b)
    (h : latencyRank a < latencyRank b) : candidateLess a b = true :=
  (candidateLess_iff a b).mpr (.inr ⟨hrank, .inl h⟩)

theorem mem_rankedCandidates (ha : a ∈ nodes) (hconnectable : connectable a now = true) :
    a ∈ rankedCandidates nodes now :=
  (rankedCandidates_perm nodes now).mem_iff.mpr (List.mem_filter.mpr ⟨ha, hconnectable⟩)

/-- A smaller node is selected before, however many attempts there are. -/
theorem selectedBefore_of_less (ha : a ∈ nodes) (hconnectable : connectable a now = true)
    (hless : candidateLess a b = true) (k : Int) :
    SelectedBefore (connectionCandidates nodes [] k now) a b := by
  rw [connectionCandidates_take]
  generalize selectedCount k (rankedCandidates nodes now).length = count
  have hearlier : ∀ i j : Nat, (rankedCandidates nodes now)[i]? = some a →
      (rankedCandidates nodes now)[j]? = some b → i < j :=
    fun i j hi hj => index_lt_of_less strictWeak_candidateLess hless hi hj
  constructor
  · -- a selection that reaches `b` has passed `a`
    intro hb
    obtain ⟨j, hj, hjb⟩ := List.mem_take_iff_getElem.mp hb
    obtain ⟨i, hi⟩ := List.getElem?_of_mem (mem_rankedCandidates ha hconnectable)
    have hij := hearlier i j hi (List.getElem?_eq_some_iff.mpr ⟨by omega, hjb⟩)
    obtain ⟨hlen, hia⟩ := List.getElem?_eq_some_iff.mp hi
    exact List.mem_take_iff_getElem.mpr ⟨i, by omega, hia⟩
  · intro i j hi hj
    rw [List.getElem?_take] at hi hj
    split_ifs at hi hj
    exact hearlier i j hi hj

/-- In the whole selection a larger node is not before a smaller one. -/
theorem not_selectedBefore_of_less (ha : a ∈ nodes) (hb : b ∈ nodes)
    (hca : connectable a now = true) (hcb : connectable b now = true)
    (hless : candidateLess b a = true) :
    ¬ SelectedBefore (connectionCandidates nodes [] 0 now) a b := by
  intro h
  obtain ⟨i, hi⟩ := List.getElem?_of_mem (mem_rankedCandidates ha hca)
  obtain ⟨j, hj⟩ := List.getElem?_of_mem (mem_rankedCandidates hb hcb)
  rw [connectionCandidates_all] at h
  have hij := h.earlier i j hi hj
  have hji := index_lt_of_less strictWeak_candidateLess hless hj hi
  exact Nat.lt_asymm hij hji

/-- A trusted measurement comes first exactly if adding to the other node's ping does not
overflow. -/
theorem measured_first_iff (ha : Producible a) (hb : Producible b)
    (h : MeasuredAgainst nodes now a b) :
    (∀ k, SelectedBefore (connectionCandidates nodes [] k now) a b) ↔
      b.advertisedPingMS ≤ maxInt64 - 100000 := by
  obtain ⟨ms, hms, hle⟩ := h.measured
  have hleft : latencyRank a = ms := latencyRank_trusted hms h.trusted
  constructor
  · intro hfirst
    by_contra hover
    have hright := latencyRank_neg h.untrusted hb.ping.2 (not_le.mp hover)
    have hleast := ha.latency ms hms
    have hless : candidateLess b a = true :=
      candidateLess_of_latencyRank h.rank.symm (by omega)
    exact not_selectedBefore_of_less h.left_mem h.right_mem h.left_connectable
      h.right_connectable hless (hfirst 0)
  · intro hfits k
    have hright := lt_latencyRank h.untrusted hfits
    exact selectedBefore_of_less h.left_mem h.left_connectable
      (candidateLess_of_latencyRank h.rank (by omega)) k

def measuredNode : VpnNode := { id := lit "a", protocol := lit "tcp", latencyMS := some 100000 }

def suspiciousNode : VpnNode :=
  { id := lit "b"
    protocol := lit "tcp"
    advertisedPingMS := 20
    latencyMS := some 2
    latencySuspicious := true }

theorem measured_first_suspicious :
    MeasuredAgainst [suspiciousNode, measuredNode] 0 measuredNode suspiciousNode ∧
      ∀ k, SelectedBefore (connectionCandidates [suspiciousNode, measuredNode] [] k 0)
        measuredNode suspiciousNode := by
  have hmeasured : Producible measuredNode := ⟨by decide, by rintro ms ⟨⟩; decide⟩
  have hsuspicious : Producible suspiciousNode := ⟨by decide, by rintro ms ⟨⟩; decide⟩
  have h : MeasuredAgainst [suspiciousNode, measuredNode] 0 measuredNode suspiciousNode :=
    { left_mem := by simp
      right_mem := by simp
      left_connectable := by decide
      right_connectable := by decide
      rank := rfl
      measured := ⟨100000, rfl, le_rfl⟩
      trusted := rfl
      untrusted := .inr rfl }
  exact ⟨h, (measured_first_iff hmeasured hsuspicious h).mpr (by decide)⟩

/-- Two rows, the second one with the largest ping. -/
def hugePingHeader : List GoString :=
  [lit "HostName", lit "IP", lit "Ping", lit "OpenVPN_ConfigData_Base64"]

def hugePingRows : List (List GoString) :=
  [[lit "a", lit "1.1.1.1", lit "20", lit "cHJvdG8gdGNwCnJlbW90ZSAxLjEuMS4xIDQ0Mwo="],
    [lit "b", lit "8.8.8.8", lit "9223372036854775807",
      lit "cHJvdG8gdGNwCnJlbW90ZSA4LjguOC44IDQ0Mwo="]]

def hugePingText : GoString :=
  join (lit "\n") ((hugePingHeader :: hugePingRows).map (join (lit ",")))

def hugePingNodes : List VpnNode :=
  Source.collectNodes (Source.columnIndex hugePingHeader) [] hugePingRows

/-- The first node answers in 40 ms, the second one implausibly fast. -/
def hugePingLogs (i : Nat) : Probe.DialLog :=
  { now := 0, outcome := fun _ => .ok (if i = 0 then 40000000 else 2000000) }

theorem parseVPNGateCSV_hugePingText :
    Source.parseVPNGateCSV hugePingText = .ok hugePingNodes := by
  have hread : Source.readRecords hugePingText = .ok (hugePingHeader :: hugePingRows) := by
    decide +kernel
  exact Source.parseVPNGateCSV_collected hread (by decide +kernel) (by decide +kernel)
    (by decide +kernel)

/-- The node with the largest ping is tried before the one that was measured. -/
theorem overflowing_ping_first :
    ¬ ∀ (text : GoString) (parsed : List VpnNode) (cfg : ProbeConfig)
      (logs : Nat → Probe.DialLog) (now : Time) (a b : VpnNode),
      Source.parseVPNGateCSV text = .ok parsed →
      MeasuredAgainst (Probe.probe cfg logs parsed) now a b → ∀ k,
      SelectedBefore (connectionCandidates (Probe.probe cfg logs parsed) [] k now) a b := by
  intro hclaim
  have hprobed : ∃ a ∈ Probe.probe {} hugePingLogs hugePingNodes,
      ∃ b ∈ Probe.probe {} hugePingLogs hugePingNodes,
        connectable a 0 = true ∧ connectable b 0 = true ∧ nodeRank a = nodeRank b ∧
        a.latencyMS = some 40 ∧ a.latencySuspicious = false ∧ b.latencySuspicious = true ∧
        connectionCandidates (Probe.probe {} hugePingLogs hugePingNodes) [] 0 0 = [b, a] := by
    decide +kernel
  obtain ⟨a, ha, b, hb, hca, hcb, hrank, hms, htrusted, huntrusted, horder⟩ := hprobed
  have hagainst : MeasuredAgainst (Probe.probe {} hugePingLogs hugePingNodes) 0 a b :=
    ⟨ha, hb, hca, hcb, hrank, ⟨40, hms, by decide⟩, htrusted, .inr huntrusted⟩
  have hbefore := hclaim _ _ _ _ _ a b parseVPNGateCSV_hugePingText hagainst 0
  rw [horder] at hbefore
  exact Nat.not_lt_zero 1 (hbefore.earlier 1 0 rfl rfl)

end Selection

end ResidentialIPManager.Web
