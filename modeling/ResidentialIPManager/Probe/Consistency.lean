import ResidentialIPManager.Probe.Workers
import ResidentialIPManager.Sorting.Median

/-! # What a probe reports

The fields that a probe writes agree with each other and with the dials, and the others stay
as they are. The batch pass rewrites the flag of whole lists; it keeps all of this.
-/
namespace ResidentialIPManager.Probe
open Text Domain Transition Sorting

def KeepsRest (before after : VpnNode) : Prop :=
  after = { before with
    lastCheckedAt := after.lastCheckedAt
    probeAttempts := after.probeAttempts
    probeSuccesses := after.probeSuccesses
    latencyMS := after.latencyMS
    latencySuspicious := after.latencySuspicious
    status := after.status
    lastError := after.lastError }

/-- One of the samples, with at least half of them on either side. -/
structure Middle (latencies : List Int) (ms : Int) : Prop where
  sampled : ms ∈ latencies
  notAbove : latencies.length ≤ 2 * latencies.countP (fun latency => decide (latency ≤ ms))
  notBelow : latencies.length ≤ 2 * latencies.countP (fun latency => decide (ms ≤ latency))

structure SelfConsistent (latencies : List Int) (before after : VpnNode) : Prop where
  rest : KeepsRest before after
  counts : after.probeSuccesses ≤ after.probeAttempts
  available : after.status = .available ↔ 0 < after.probeSuccesses
  measured : 0 < after.probeSuccesses ↔ after.latencyMS.isSome = true
  latency : ∀ ms, after.latencyMS = some ms → 1 ≤ ms ∧ Middle latencies ms
  suspicious : after.latencySuspicious = true → after.latencyMS.isSome = true
  fast : ∀ ms, isPublicIP after.remoteHost = true → after.latencyMS = some ms → ms < 5 →
    after.latencySuspicious = true

structure ConsistentBatch (cfg : ProbeConfig) (logs : Nat → DialLog)
    (nodes result : List VpnNode) : Prop where
  length : result.length = nodes.length
  entries : ∀ i before after, nodes[i]? = some before → result[i]? = some after →
    SelfConsistent ((logs i).latencies (effectiveSamples cfg)) before after

/-- What `Probe` returns, once it has waited for the goroutines. -/
def returned (crew : Crew Place VpnNode) : Option (List VpnNode) :=
  if crew.joined then some (markBatchLatencyAnomaly crew.cells) else none

section Samples

variable {log : DialLog} {samples : Int}

/-- Below `2^62` nanoseconds the rounding does not overflow. -/
theorem one_le_ceilMilliseconds {d : Int} (h : d < 2 ^ 62) : 1 ≤ ceilMilliseconds d := by
  unfold ceilMilliseconds millisecond
  split_ifs with hd
  · exact le_rfl
  · have hpos : (0 : Int) < d := not_le.mp hd
    have hwrap : wrap64 (d + 1000000 - 1) = d + 1000000 - 1 := by
      unfold wrap64
      omega
    rw [hwrap, Int.tdiv_eq_ediv_of_nonneg (by omega)]
    omega

theorem DialLog.length_latencies_le (log : DialLog) (samples : Int) :
    (log.latencies samples).length ≤ samples.toNat :=
  calc (log.latencies samples).length ≤ (log.taken samples).length := List.length_filterMap_le _ _
    _ = samples.toNat := by rw [taken, List.length_map, List.length_range]

theorem DialLog.mem_latencies {ms : Int} (h : ms ∈ log.latencies samples) :
    ∃ k d, log.outcome k = .ok d ∧ ceilMilliseconds d = ms := by
  obtain ⟨outcome, houtcome, hms⟩ := List.mem_filterMap.mp h
  obtain ⟨k, -, rfl⟩ := List.mem_map.mp houtcome
  cases hk : log.outcome k with
  | error err => simp [hk] at hms
  | ok d => exact ⟨k, d, hk, by simpa [hk] using hms⟩

theorem DialLog.one_le_of_mem_latencies (htimes : ∀ k d, log.outcome k = .ok d → d < 2 ^ 62)
    {ms : Int} (h : ms ∈ log.latencies samples) : 1 ≤ ms := by
  obtain ⟨k, d, hk, rfl⟩ := DialLog.mem_latencies h
  exact one_le_ceilMilliseconds (htimes k d hk)

theorem DialLog.middle_of_median {ms : Int} (h : log.median samples = some ms) :
    Middle (log.latencies samples) ms :=
  have hmedian := median_of_insertionSort h
  ⟨hmedian.1, hmedian.2.1, hmedian.2.2⟩

end Samples

section Entries

variable {samples : Int} {log : DialLog} {latencies : List Int} {before after : VpnNode}

theorem selfConsistent_of_none (hrest : KeepsRest before after) (hattempts : 0 ≤ after.probeAttempts)
    (hsuccesses : after.probeSuccesses = 0) (hstatus : after.status ≠ .available)
    (hlatency : after.latencyMS = none) (hflag : after.latencySuspicious = false) :
    SelfConsistent latencies before after where
  rest := hrest
  counts := by rw [hsuccesses]; exact hattempts
  available := by simp [hsuccesses, hstatus]
  measured := by simp [hsuccesses, hlatency]
  latency ms hms := by simp [hlatency] at hms
  suspicious h := by simp [hflag] at h
  fast ms _ hms _ := by simp [hlatency] at hms

theorem probeNode_selfConsistent (hsamples : 0 ≤ samples)
    (htimes : ∀ k d, log.outcome k = .ok d → d < 2 ^ 62) :
    SelfConsistent (log.latencies samples) before (probeNode samples log before) := by
  have hrest : KeepsRest before (probeNode samples log before) := probeNode_eq samples log before
  cases htcp : isTCP before.protocol with
  | false =>
    simp only [probeNode, htcp, Bool.not_false, if_true] at hrest ⊢
    exact selfConsistent_of_none hrest le_rfl rfl (by simp) rfl rfl
  | true =>
    simp only [probeNode, htcp, Bool.not_true, Bool.false_eq_true, if_false] at hrest ⊢
    cases hmedian : log.median samples with
    | none =>
      rw [hmedian] at hrest
      exact selfConsistent_of_none hrest hsamples rfl (by simp) rfl rfl
    | some median =>
      rw [hmedian] at hrest
      have hmiddle := DialLog.middle_of_median hmedian
      have hpos : 0 < ((log.latencies samples).length : Int) :=
        Int.natCast_pos.mpr (List.length_pos_of_mem hmiddle.sampled)
      have hle := log.length_latencies_le samples
      exact
        { rest := hrest
          counts := show ((log.latencies samples).length : Int) ≤ samples by omega
          available := ⟨fun _ => hpos, fun _ => rfl⟩
          measured := ⟨fun _ => rfl, fun _ => hpos⟩
          latency := by
            rintro ms ⟨⟩
            exact ⟨DialLog.one_le_of_mem_latencies htimes hmiddle.sampled, hmiddle⟩
          suspicious := fun _ => rfl
          fast := by
            rintro ms hpublic ⟨⟩ hfast
            exact Bool.and_eq_true_iff.mpr ⟨hpublic, decide_eq_true hfast⟩ }

theorem KeepsRest.trans {first second third : VpnNode} (h : KeepsRest first second)
    (h' : KeepsRest second third) : KeepsRest first third := by
  rw [KeepsRest, h', h]

theorem keepsRest_markSuspicious (node : VpnNode) : KeepsRest node (markSuspicious node) := by
  unfold markSuspicious
  split_ifs <;> rfl

/-- The mark is put on measured entries only. -/
theorem SelfConsistent.marked (h : SelfConsistent latencies before after) :
    SelfConsistent latencies before (markSuspicious after) := by
  have hrest := h.rest.trans (keepsRest_markSuspicious after)
  unfold markSuspicious at hrest ⊢
  split_ifs at hrest ⊢ with hmeasured
  · have hsome : after.latencyMS.isSome = true := (Bool.and_eq_true_iff.mp hmeasured).1
    exact
      { rest := hrest
        counts := h.counts
        available := h.available
        measured := h.measured
        latency := h.latency
        suspicious := fun _ => hsome
        fast := fun _ _ _ _ => rfl }
  · exact h

end Entries

theorem consistentBatch_probe (cfg : ProbeConfig) {logs : Nat → DialLog} (nodes : List VpnNode)
    (htimes : ∀ i k d, (logs i).outcome k = .ok d → d < 2 ^ 62) :
    ConsistentBatch cfg logs nodes (probe cfg logs nodes) := by
  have hsamples : 0 ≤ effectiveSamples cfg := by
    unfold effectiveSamples
    split_ifs <;> omega
  unfold probe markBatchLatencyAnomaly
  split_ifs
  · refine ⟨by simp, fun i before after hbefore hafter => ?_⟩
    simp only [List.getElem?_map, List.getElem?_mapIdx, hbefore, Option.map_some,
      Option.some.injEq] at hafter
    rw [← hafter]
    exact (probeNode_selfConsistent hsamples (htimes i)).marked
  · refine ⟨by simp, fun i before after hbefore hafter => ?_⟩
    simp only [List.getElem?_mapIdx, hbefore, Option.map_some, Option.some.injEq] at hafter
    rw [← hafter]
    exact probeNode_selfConsistent hsamples (htimes i)

/-- Whatever the order of the goroutines, `Probe` returns, and what it returns is consistent. -/
theorem probeRun_consistent (cfg : ProbeConfig) (logs : Nat → DialLog) (nodes : List VpnNode)
    (htimes : ∀ i k d, (logs i).outcome k = .ok d → d < 2 ^ 62)
    (actions : List CrewAction) (crew : Crew Place VpnNode)
    (h : probeRun cfg logs nodes actions = some crew) :
    actions.length ≤ longestRun cfg logs nodes ∧
      (returned crew = none → ∃ action after,
        Crew.step (worker (effectiveSamples cfg) logs) (effectiveConcurrency cfg) crew action =
          some after) ∧
      ∀ result, returned crew = some result → ConsistentBatch cfg logs nodes result := by
  refine ⟨probeRun_length h, fun hwait => ?_, fun result hresult => ?_⟩
  · apply probeRun_progress h
    cases hjoined : crew.joined with
    | false => rfl
    | true => simp [returned, hjoined] at hwait
  · cases hjoined : crew.joined with
    | false => simp [returned, hjoined] at hresult
    | true =>
      have hcells := probeRun_cells h hjoined
      simp only [returned, hjoined, if_true, Option.some.injEq] at hresult
      rw [← hresult, hcells]
      exact consistentBatch_probe cfg nodes htimes

/-- Two samples of one TCP node, one after the other. -/
theorem probeRun_consistent_solo :
    let cfg : ProbeConfig := { samples := 2, maxConcurrency := 1 }
    let node : VpnNode := { id := lit "a", remoteHost := lit "1.1.1.1", protocol := lit "tcp" }
    let logs : Nat → DialLog := fun _ => { now := 0, outcome := fun _ => .ok 7000000 }
    let actions : List CrewAction := [.spawn, .acquire 0, .act 0, .act 0, .act 0, .act 0, .act 0,
      .act 0, .leave 0, .done 0, .join]
    ∃ crew result, probeRun cfg logs [node] actions = some crew ∧ returned crew = some result ∧
      ConsistentBatch cfg logs [node] result := by
  intro cfg node logs actions
  have htimes : ∀ i k d, (logs i).outcome k = .ok d → d < 2 ^ 62 := by
    rintro i k d ⟨⟩
    decide
  obtain ⟨crew, hrun, hjoined⟩ :
      ∃ crew, probeRun cfg logs [node] actions = some crew ∧ crew.joined = true := ⟨_, rfl, rfl⟩
  have hreturned : returned crew = some (markBatchLatencyAnomaly crew.cells) := by
    rw [returned, if_pos hjoined]
  exact ⟨crew, _, hrun, hreturned,
    (probeRun_consistent cfg logs [node] htimes actions crew hrun).2.2 _ hreturned⟩

end ResidentialIPManager.Probe
