import ResidentialIPManager.Domain.Config
import ResidentialIPManager.Text.Address

/-! # TCP probing

`TCPProbe.Probe` with the outcome of every dial given. Each worker writes only
its own entry, so the order of the workers does not show; the batch pass over
the finished list follows.
-/
namespace ResidentialIPManager.Probe
open Text Domain

def minimumTrustedPublicLatencyMS : Int := 5
def batchAnomalyLatencyMS : Int := 15

def millisecond : Duration := 1000000

def ceilMilliseconds (duration : Duration) : Int :=
  if duration ≤ 0 then 1 else (wrap64 (duration + millisecond - 1)).tdiv millisecond

def isPublicIP (host : GoString) : Bool :=
  match parseIP host with
  | some ip => ip.isGlobalUnicast && !ip.isPrivate && !ip.isLoopback
  | none => false

def suspiciousPublicLatency (host : GoString) (latencyMS : Int) : Bool :=
  isPublicIP host && decide (latencyMS < minimumTrustedPublicLatencyMS)

/-- What the network did to one node's probe: the time of the check and, for each
sample, the dial error or the elapsed time. -/
structure DialLog where
  now : Time
  outcome : Nat → Except GoString Duration

namespace DialLog

def taken (log : DialLog) (samples : Int) : List (Except GoString Duration) :=
  (List.range samples.toNat).map log.outcome

def latencies (log : DialLog) (samples : Int) : List Int :=
  (log.taken samples).filterMap fun s => match s with
    | .ok d => some (ceilMilliseconds d)
    | .error _ => none

def lastErr (log : DialLog) (samples : Int) : Option GoString :=
  (log.taken samples).reverse.findSome? fun s => match s with
    | .ok _ => none
    | .error e => some e

/-- `latencies[len(latencies)/2]` after sorting. -/
def median (log : DialLog) (samples : Int) : Option Int :=
  ((log.latencies samples).insertionSort (· ≤ ·))[(log.latencies samples).length / 2]?

end DialLog

/-- `strings.EqualFold(protocol, "tcp")`; the three letters have no other case folds. -/
def isTCP (protocol : GoString) : Bool := toLower protocol = lit "tcp"

/-- The entry the worker of one node leaves behind. -/
def probeNode (samples : Int) (log : DialLog) (node : VpnNode) : VpnNode :=
  let n := { node with
    lastCheckedAt := some log.now
    probeAttempts := samples
    probeSuccesses := 0
    latencyMS := none
    latencySuspicious := false }
  if !isTCP node.protocol then
    { n with
      status := .unknown
      probeAttempts := 0
      lastError := lit "UDP 节点不适用 TCP 建连探测" }
  else match log.median samples with
    | none =>
      { n with
        status := .unavailable
        lastError := (log.lastErr samples).getD (lit "TCP 建连探测失败") }
    | some median =>
      { n with
        probeSuccesses := (log.latencies samples).length
        latencyMS := some median
        status := .available
        latencySuspicious := suspiciousPublicLatency node.remoteHost median
        lastError := if suspiciousPublicLatency node.remoteHost median then
          lit "TCP 建连耗时异常低，疑似被本机代理或网络扩展接管" else [] }

/-- A measured node at a public address counts in the batch check. -/
def measured (n : VpnNode) : Bool := n.latencyMS.isSome && isPublicIP n.remoteHost

/-- Enough public nodes of two countries answered implausibly fast. -/
def batchAnomaly (nodes : List VpnNode) : Bool :=
  let ms := nodes.filter measured
  let fast := ms.filter (fun n => decide (n.latencyMS.getD 0 < batchAnomalyLatencyMS))
  let countries := ((ms.map (·.countryCode)).filter (fun c => !c.isEmpty)).dedup
  !(ms.length < 10 || countries.length < 2 || fast.length * 100 < ms.length * 60)

def markSuspicious (n : VpnNode) : VpnNode :=
  if measured n then
    { n with
      latencySuspicious := true
      lastError := lit "多个国家的公网节点同时出现异常低耗时，探测疑似被本机代理或网络扩展接管" }
  else n

def markBatchLatencyAnomaly (nodes : List VpnNode) : List VpnNode :=
  if batchAnomaly nodes then nodes.map markSuspicious else nodes

def effectiveSamples (cfg : ProbeConfig) : Int := if cfg.samples ≤ 0 then 3 else cfg.samples

/-- `Probe`: entry `i` is probed with the `i`-th dial log. -/
def probe (cfg : ProbeConfig) (logs : Nat → DialLog) (nodes : List VpnNode) : List VpnNode :=
  markBatchLatencyAnomaly
    (nodes.mapIdx (fun i n => probeNode (effectiveSamples cfg) (logs i) n))

theorem latencyMS_probeNode (samples : Int) (log : DialLog) (n : VpnNode) :
    (probeNode samples log n).latencyMS = if isTCP n.protocol then log.median samples else none := by
  unfold probeNode
  cases isTCP n.protocol with
  | false => rfl
  | true => cases log.median samples <;> rfl

theorem probeNode_eq (samples : Int) (log : DialLog) (n : VpnNode) :
    let m := probeNode samples log n
    m = { n with
      latencyMS := m.latencyMS
      latencySuspicious := m.latencySuspicious
      probeAttempts := m.probeAttempts
      probeSuccesses := m.probeSuccesses
      status := m.status
      lastCheckedAt := m.lastCheckedAt
      lastError := m.lastError } := by
  unfold probeNode
  dsimp only
  split
  · rfl
  · split <;> rfl

theorem probeNode_frame (samples : Int) (log : DialLog) (n : VpnNode) :
    (probeNode samples log n).id = n.id ∧
      (probeNode samples log n).cooldownUntil = n.cooldownUntil :=
  ⟨congrArg (·.id) (probeNode_eq samples log n),
    congrArg (·.cooldownUntil) (probeNode_eq samples log n)⟩

theorem markSuspicious_eq (n : VpnNode) :
    let m := markSuspicious n
    m = { n with latencySuspicious := m.latencySuspicious, lastError := m.lastError } := by
  unfold markSuspicious
  split <;> rfl

theorem markSuspicious_frame (n : VpnNode) :
    (markSuspicious n).id = n.id ∧ (markSuspicious n).cooldownUntil = n.cooldownUntil :=
  ⟨congrArg (·.id) (markSuspicious_eq n), congrArg (·.cooldownUntil) (markSuspicious_eq n)⟩

/-- A probed list consists of probed nodes, which the batch pass may have marked. -/
theorem mem_probe {cfg : ProbeConfig} {logs : Nat → DialLog} {nodes : List VpnNode} {n : VpnNode}
    (h : n ∈ probe cfg logs nodes) :
    ∃ m ∈ nodes, ∃ log, n = probeNode (effectiveSamples cfg) log m ∨
      n = markSuspicious (probeNode (effectiveSamples cfg) log m) := by
  unfold probe markBatchLatencyAnomaly at h
  split_ifs at h
  · obtain ⟨p, hp, rfl⟩ := List.mem_map.mp h
    obtain ⟨i, hi, rfl⟩ := List.mem_mapIdx.mp hp
    exact ⟨_, List.getElem_mem hi, logs i, .inr rfl⟩
  · obtain ⟨i, hi, rfl⟩ := List.mem_mapIdx.mp h
    exact ⟨_, List.getElem_mem hi, logs i, .inl rfl⟩

theorem cooldowns_markBatchLatencyAnomaly (nodes : List VpnNode) :
    cooldowns (markBatchLatencyAnomaly nodes) = cooldowns nodes := by
  unfold markBatchLatencyAnomaly
  split
  · simp only [cooldowns, List.map_map]
    apply List.map_congr_left
    intro n _
    exact Prod.ext (markSuspicious_frame n).1 (markSuspicious_frame n).2
  · rfl

theorem cooldowns_probe (cfg : ProbeConfig) (logs : Nat → DialLog) (nodes : List VpnNode) :
    cooldowns (probe cfg logs nodes) = cooldowns nodes := by
  rw [probe, cooldowns_markBatchLatencyAnomaly]
  simp only [cooldowns]
  apply List.ext_getElem
  · simp
  · intro i h1 h2
    simp only [List.getElem_map, List.getElem_mapIdx]
    exact Prod.ext (probeNode_frame _ _ _).1 (probeNode_frame _ _ _).2

@[simp] theorem ids_probe (cfg : ProbeConfig) (logs : Nat → DialLog) (nodes : List VpnNode) :
    ids (probe cfg logs nodes) = ids nodes := by
  have h := congrArg (List.map Prod.fst) (cooldowns_probe cfg logs nodes)
  simpa [cooldowns, ids, Function.comp_def] using h

end ResidentialIPManager.Probe
