import ResidentialIPManager.Probe.Tcp
import ResidentialIPManager.Transition.Workers

/-! # The goroutines of a probe

`Probe` starts one goroutine for each node, which takes a place in the semaphore, dials and
writes its own entry of the result; the batch pass follows when all of them have returned.
For every order of their steps the result is the one of `probe`.
-/
namespace ResidentialIPManager.Probe
open Text Domain Transition

inductive Place where
  | entering
  | checking
  | sampling (sample : Nat) (latencies : List Int) (lastErr : Option GoString)
  | evaluating (latencies : List Int) (lastErr : Option GoString)
  | returning

def effectiveConcurrency (cfg : ProbeConfig) : Nat :=
  if cfg.maxConcurrency ≤ 0 then 32 else cfg.maxConcurrency.toNat

def evaluate (latencies : List Int) (lastErr : Option GoString) (node : VpnNode) : VpnNode :=
  match (latencies.insertionSort (· ≤ ·))[latencies.length / 2]? with
  | none =>
    { node with
      status := .unavailable
      lastError := lastErr.getD (lit "TCP 建连探测失败") }
  | some median =>
    { node with
      latencyMS := some median
      status := .available
      latencySuspicious := node.latencySuspicious || suspiciousPublicLatency node.remoteHost median
      lastError := if suspiciousPublicLatency node.remoteHost median then
        lit "TCP 建连耗时异常低，疑似被本机代理或网络扩展接管" else [] }

/-- The function literal of `Probe`, between taking and giving back its place. -/
def worker (samples : Int) (logs : Nat → DialLog) : Program Place VpnNode where
  start _ := .entering
  next i place node :=
    match place with
    | .entering =>
      some (.checking,
        { node with
          lastCheckedAt := some (logs i).now
          probeAttempts := samples
          probeSuccesses := 0
          latencyMS := none
          latencySuspicious := false })
    | .checking =>
      if !isTCP node.protocol then
        some (.returning,
          { node with
            status := .unknown
            probeAttempts := 0
            lastError := lit "UDP 节点不适用 TCP 建连探测" })
      else some (.sampling 0 [] none, node)
    | .sampling sample latencies lastErr =>
      if sample < samples then
        match (logs i).outcome sample with
        | .error err => some (.sampling (sample + 1) latencies (some err), node)
        | .ok elapsed =>
          some (.sampling (sample + 1) (latencies ++ [ceilMilliseconds elapsed]) lastErr, node)
      else some (.evaluating latencies lastErr, { node with probeSuccesses := latencies.length })
    | .evaluating latencies lastErr => some (.returning, evaluate latencies lastErr node)
    | .returning => none

def probeRun (cfg : ProbeConfig) (logs : Nat → DialLog) (nodes : List VpnNode)
    (actions : List CrewAction) : Option (Crew Place VpnNode) :=
  runWhile (Crew.step (worker (effectiveSamples cfg) logs) (effectiveConcurrency cfg)) anyStep
    actions (Crew.initial nodes)

section Alone

variable {samples : Int} {logs : Nat → DialLog} {i : Nat} {node : VpnNode}

theorem DialLog.latencies_succ (log : DialLog) (sample : Nat) :
    log.latencies (sample + 1 : Nat) =
      match log.outcome sample with
      | .ok elapsed => log.latencies sample ++ [ceilMilliseconds elapsed]
      | .error _ => log.latencies sample := by
  unfold latencies taken
  rw [Int.toNat_natCast, Int.toNat_natCast, List.range_succ, List.map_append, List.filterMap_append]
  cases houtcome : log.outcome sample with
  | ok elapsed => simp [houtcome]
  | error err => simp [houtcome]

theorem DialLog.lastErr_succ (log : DialLog) (sample : Nat) :
    log.lastErr (sample + 1 : Nat) =
      match log.outcome sample with
      | .ok _ => log.lastErr sample
      | .error err => some err := by
  unfold lastErr taken
  rw [Int.toNat_natCast, Int.toNat_natCast, List.range_succ, List.map_append, List.reverse_append]
  cases houtcome : log.outcome sample with
  | ok elapsed => simp [houtcome]
  | error err => simp [houtcome]

theorem sampling_run (sample : Nat) (h : sample ≤ samples.toNat) :
    Relation.ReflTransGen (AloneStep (worker samples logs) i) (.sampling 0 [] none, node)
      (.sampling sample ((logs i).latencies sample) ((logs i).lastErr sample), node) := by
  induction sample with
  | zero => exact .refl
  | succ sample ih =>
    refine (ih (by omega)).tail ?_
    have hmore : (sample : Int) < samples := by omega
    rw [AloneStep, DialLog.latencies_succ, DialLog.lastErr_succ]
    simp only [worker, if_pos hmore]
    cases (logs i).outcome sample with
    | ok elapsed => rfl
    | error err => rfl

def entered (samples : Int) (log : DialLog) (node : VpnNode) : VpnNode :=
  { node with
    lastCheckedAt := some log.now
    probeAttempts := samples
    probeSuccesses := 0
    latencyMS := none
    latencySuspicious := false }

theorem evaluate_entered (samples : Int) (log : DialLog) {node : VpnNode}
    (htcp : isTCP node.protocol = true) :
    evaluate (log.latencies samples) (log.lastErr samples)
        { entered samples log node with probeSuccesses := (log.latencies samples).length } =
      probeNode samples log node := by
  simp only [evaluate, probeNode, DialLog.median, htcp, Bool.not_true, Bool.false_eq_true, if_false]
  cases hmedian : ((log.latencies samples).insertionSort (· ≤ ·))[(log.latencies samples).length / 2]? with
  | none =>
    have hlen := List.getElem?_eq_none_iff.mp hmedian
    rw [List.length_insertionSort] at hlen
    have hzero : (log.latencies samples).length = 0 := by omega
    simp [entered, hzero]
  | some median =>
    simp only [entered, Bool.false_or]
    congr

theorem worker_completes (samples : Int) (logs : Nat → DialLog) (i : Nat) (node : VpnNode) :
    Completes (worker samples logs) i node (probeNode samples (logs i) node) := by
  have henter : Relation.ReflTransGen (AloneStep (worker samples logs) i) (.entering, node)
      (.checking, entered samples (logs i) node) := .single rfl
  refine ⟨.returning, ?_, rfl⟩
  cases htcp : isTCP node.protocol with
  | false =>
    refine henter.tail ?_
    simp [AloneStep, worker, probeNode, htcp, entered]
  | true =>
    have hentered : isTCP (entered samples (logs i) node).protocol = true := htcp
    have hcheck : AloneStep (worker samples logs) i (.checking, entered samples (logs i) node)
        (.sampling 0 [] none, entered samples (logs i) node) := by
      simp [AloneStep, worker, hentered]
    -- the loop runs `samples.toNat` times, which is all that the log shows of `samples`
    have htaken : (logs i).taken (samples.toNat : Int) = (logs i).taken samples := by
      rw [DialLog.taken, Int.toNat_natCast, DialLog.taken]
    have hlatencies : (logs i).latencies (samples.toNat : Int) = (logs i).latencies samples := by
      rw [DialLog.latencies, htaken, DialLog.latencies]
    have hlastErr : (logs i).lastErr (samples.toNat : Int) = (logs i).lastErr samples := by
      rw [DialLog.lastErr, htaken, DialLog.lastErr]
    have hsamples : Relation.ReflTransGen (AloneStep (worker samples logs) i)
        (.sampling 0 [] none, entered samples (logs i) node)
        (.sampling samples.toNat ((logs i).latencies samples) ((logs i).lastErr samples),
          entered samples (logs i) node) := by
      rw [← hlatencies, ← hlastErr]
      exact sampling_run samples.toNat le_rfl
    have hlast : AloneStep (worker samples logs) i
        (.sampling samples.toNat ((logs i).latencies samples) ((logs i).lastErr samples),
          entered samples (logs i) node)
        (.evaluating ((logs i).latencies samples) ((logs i).lastErr samples),
          { entered samples (logs i) node with
            probeSuccesses := ((logs i).latencies samples).length }) := by
      simp only [AloneStep, worker]
      rw [if_neg (by omega)]
    refine (((henter.tail hcheck).trans hsamples).tail hlast).tail ?_
    rw [AloneStep, ← evaluate_entered samples (logs i) htcp]
    rfl

def placeMeasure (samples : Int) (_ : Nat) : Place → Nat
  | .entering => samples.toNat + 4
  | .checking => samples.toNat + 3
  | .sampling sample _ _ => samples.toNat - sample + 2
  | .evaluating _ _ => 1
  | .returning => 0

theorem worker_decreases (samples : Int) (logs : Nat → DialLog) :
    Decreases (worker samples logs) (placeMeasure samples) := by
  intro i place node after hnext
  cases place with
  | entering =>
    obtain rfl := Option.some.inj hnext
    exact Nat.lt_succ_self _
  | checking =>
    simp only [worker] at hnext
    split_ifs at hnext
    · obtain rfl := Option.some.inj hnext
      exact Nat.succ_pos _
    · obtain rfl := Option.some.inj hnext
      exact Nat.lt_succ_self _
  | sampling sample latencies lastErr =>
    simp only [worker] at hnext
    split_ifs at hnext with hmore
    · have hless : samples.toNat - (sample + 1) + 2 < samples.toNat - sample + 2 := by omega
      cases houtcome : (logs i).outcome sample with
      | ok elapsed =>
        rw [houtcome] at hnext
        obtain rfl := Option.some.inj hnext
        exact hless
      | error err =>
        rw [houtcome] at hnext
        obtain rfl := Option.some.inj hnext
        exact hless
    · obtain rfl := Option.some.inj hnext
      exact Nat.lt_add_left _ Nat.one_lt_two
  | evaluating latencies lastErr =>
    obtain rfl := Option.some.inj hnext
    exact Nat.one_pos
  | returning => cases hnext

end Alone

section Together

variable {cfg : ProbeConfig} {logs : Nat → DialLog} {nodes : List VpnNode}
  {actions : List CrewAction} {crew : Crew Place VpnNode}

theorem effectiveConcurrency_pos (cfg : ProbeConfig) : 0 < effectiveConcurrency cfg := by
  unfold effectiveConcurrency
  split_ifs with h
  · decide
  · omega

def longestRun (cfg : ProbeConfig) (logs : Nat → DialLog) (nodes : List VpnNode) : Nat :=
  (Crew.initial nodes : Crew Place VpnNode).remaining (worker (effectiveSamples cfg) logs)
    (placeMeasure (effectiveSamples cfg))

theorem probeRun_length (h : probeRun cfg logs nodes actions = some crew) :
    actions.length ≤ longestRun cfg logs nodes := by
  have hrun := (Crew.run_ordered (worker_decreases _ logs) (Crew.ordered_initial _ nodes) h).2
  exact Nat.le_trans (Nat.le_add_right _ _) hrun

/-- No order of the goroutines leads into a deadlock. -/
theorem probeRun_progress (h : probeRun cfg logs nodes actions = some crew)
    (hwait : crew.joined = false) :
    ∃ action after, Crew.step (worker (effectiveSamples cfg) logs) (effectiveConcurrency cfg) crew
      action = some after :=
  (Crew.run_ordered (worker_decreases _ logs) (Crew.ordered_initial _ nodes) h).1.progress
    (effectiveConcurrency_pos cfg) hwait

/-- Every order of the goroutines gives the same result. -/
theorem probeRun_cells (h : probeRun cfg logs nodes actions = some crew)
    (hjoined : crew.joined = true) :
    markBatchLatencyAnomaly crew.cells = probe cfg logs nodes := by
  have hordered := (Crew.run_ordered (worker_decreases _ logs) (Crew.ordered_initial _ nodes) h).1
  rw [hordered.cells_eq hjoined fun i first => worker_completes _ logs i first]
  rfl

end Together

end ResidentialIPManager.Probe
