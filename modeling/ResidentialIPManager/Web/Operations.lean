import ResidentialIPManager.Source.VPNGate
import ResidentialIPManager.Web.Steps

/-! # Node operations one at a time

What `refreshNodes`, `classifyNodes`, `probeNodes`, the prepare phase of
`autoConnectExit` and `cooldownNode` do to the node list when nothing runs beside
them. `runAlone` runs the sections of one goroutine in a row; the lemmas about it say
that an uninterrupted goroutine has the effect of its operation.
-/
namespace ResidentialIPManager.Web
open Text Domain

/-- One completed operation with the answers of the network and the time it ended. -/
inductive Operation where
  | refreshNodes (maxNodes : Int) (answer : Except GoString (List (List GoString))) (now : Time)
  | classifyNodes (answer : Except GoString (List Classify.IpApiRecord)) (now : Time)
  | probeNodes (logs : Nat → Probe.DialLog) (now : Time)
  | prepare (maxNodes : Int) (answer : Except GoString (List (List GoString)))
      (graded : Except GoString (List Classify.IpApiRecord)) (gradedAt : Time)
      (logs : Nat → Probe.DialLog) (now : Time)
  | cooldownNode (nodeID message : GoString) (now : Time)

namespace Operation

def time : Operation → Time
  | refreshNodes _ _ now => now
  | classifyNodes _ now => now
  | probeNodes _ now => now
  | prepare _ _ _ _ _ now => now
  | cooldownNode _ _ now => now

def prepareNodes (cfg : Config) (graded : Except GoString (List Classify.IpApiRecord))
    (gradedAt : Time) (logs : Nat → Probe.DialLog) (fetched : List VpnNode) : List VpnNode :=
  Probe.probe cfg.probe logs
    (if cfg.classifier.enabled then Classify.classify graded gradedAt fetched else fetched)

def apply (cfg : Config) (nodes : List VpnNode) : Operation → List VpnNode
  | refreshNodes maxNodes answer now =>
    match Source.fetch maxNodes answer with
    | .error _ => nodes
    | .ok fetched => preserveNodeCooldowns fetched nodes now
  | classifyNodes answer now => Classify.classify answer now nodes
  | probeNodes logs _ => Probe.probe cfg.probe logs nodes
  | prepare maxNodes answer graded gradedAt logs now =>
    match Source.fetch maxNodes answer with
    | .error _ => nodes
    | .ok fetched =>
      preserveNodeCooldowns (prepareNodes cfg graded gradedAt logs fetched) nodes now
  | cooldownNode nodeID message now =>
    markNodeFailure nodes nodeID message (Shared.cooldownOf cfg) now

def applyAll (cfg : Config) (nodes : List VpnNode) (ops : List Operation) : List VpnNode :=
  ops.foldl (apply cfg) nodes

theorem apply_cache (cfg : Config) (c : NodeCache) (op : Operation) :
    ∃ d : NodeCache, d.nodes = op.apply cfg c.nodes := by
  cases op with
  | refreshNodes maxNodes answer now =>
    cases hf : Source.fetch maxNodes answer with
    | error err => exact ⟨c, by simp only [apply, hf]⟩
    | ok fetched =>
      obtain ⟨d, rfl⟩ := Source.fetch_cache hf
      simp only [apply, hf]
      exact ⟨d.withNodes _ (ids_preserveNodeCooldowns _ _ _), rfl⟩
  | classifyNodes answer now => exact ⟨c.withNodes _ (Classify.ids_classify _ _ _), rfl⟩
  | probeNodes logs now => exact ⟨c.withNodes _ (Probe.ids_probe _ _ _), rfl⟩
  | prepare maxNodes answer graded gradedAt logs now =>
    cases hf : Source.fetch maxNodes answer with
    | error err => exact ⟨c, by simp only [apply, hf]⟩
    | ok fetched =>
      obtain ⟨d, rfl⟩ := Source.fetch_cache hf
      have hids : ids (prepareNodes cfg graded gradedAt logs d.nodes) = ids d.nodes := by
        unfold prepareNodes
        split_ifs
        · rw [Probe.ids_probe, Classify.ids_classify]
        · rw [Probe.ids_probe]
      simp only [apply, hf]
      exact ⟨d.withNodes _ ((ids_preserveNodeCooldowns _ _ _).trans hids), rfl⟩
  | cooldownNode nodeID message now => exact ⟨c.withNodes _ (ids_markNodeFailure _ _ _ _ _), rfl⟩

theorem applyAll_cache (cfg : Config) (c : NodeCache) (ops : List Operation) :
    ∃ d : NodeCache, d.nodes = applyAll cfg c.nodes ops := by
  induction ops generalizing c with
  | nil => exact ⟨c, rfl⟩
  | cons op rest ih =>
    obtain ⟨d, hd⟩ := apply_cache cfg c op
    obtain ⟨e, he⟩ := ih d
    refine ⟨e, ?_⟩
    rw [he, hd]
    rfl

end Operation

/-- The records of a list with one row, whose profile is `proto tcp` and
`remote 1.1.1.1 443`. -/
def oneRow : List (List GoString) :=
  [[lit "IP", lit "OpenVPN_ConfigData_Base64"],
    [lit "1.1.1.1", lit "cHJvdG8gdGNwCnJlbW90ZSAxLjEuMS4xIDQ0Mwo="]]

def oneRowID : GoString := lit "XX_1.1.1.1_443_tcp"

section Alone

variable {cfg : Config} {s : Shared} {tid : Nat} {fetched : NodeCache} {maxNodes : Int}
  {answer : Except GoString (List (List GoString))} {now : Time}

def runAlone (cfg : Config) (tid : Nat) (s : Shared) (t : Thread) : List Input → Option Shared
  | [] => some s
  | input :: rest =>
    match stepThread cfg s tid t input with
    | some r => runAlone cfg tid r.shared r.thread rest
    | none => none

theorem refreshNodes_alone (hf : Source.fetch maxNodes answer = .ok fetched.nodes)
    (hnow : now ≤ s.clock) :
    (runAlone cfg tid s (.maintenance .refresh .start)
      [.go, .go, .go, .fetched (.ok fetched) now]).map (·.nodes.nodes) =
      some ((Operation.refreshNodes maxNodes answer now).apply cfg s.nodes.nodes) := by
  simp [runAlone, stepThread, maintenanceStep, next, fetchError, maintained, hnow,
    Operation.apply, hf]

theorem refreshNodes_alone_failed {err : GoString}
    (hf : Source.fetch maxNodes answer = .error err) :
    (runAlone cfg tid s (.maintenance .refresh .start)
      [.go, .go, .go, .fetched (.error err) now, .go]).map (·.nodes.nodes) =
      some ((Operation.refreshNodes maxNodes answer now).apply cfg s.nodes.nodes) := by
  simp [runAlone, stepThread, maintenanceStep, next, fetchError, Operation.apply, hf]

theorem classifyNodes_alone {graded : Except GoString (List Classify.IpApiRecord)}
    (hne : s.nodes.nodes ≠ []) :
    (runAlone cfg tid s (.maintenance .classify .start)
      [.go, .go, .go, .classified graded now]).map (·.nodes.nodes) =
      some ((Operation.classifyNodes graded now).apply cfg s.nodes.nodes) := by
  simp [runAlone, stepThread, maintenanceStep, next, fetchError, maintained, hne, Operation.apply]

theorem probeNodes_alone {logs : Nat → Probe.DialLog} {later : Time} (hne : s.nodes.nodes ≠ []) :
    (runAlone cfg tid s (.maintenance .probe .start)
      [.go, .go, .go, .probed logs now later]).map (·.nodes.nodes) =
      some ((Operation.probeNodes logs now).apply cfg s.nodes.nodes) := by
  simp [runAlone, stepThread, maintenanceStep, next, fetchError, maintained, hne, Operation.apply]

theorem prepare_alone {graded : Except GoString (List Classify.IpApiRecord)} {gradedAt later : Time}
    {logs : Nat → Probe.DialLog} (hf : Source.fetch maxNodes answer = .ok fetched.nodes)
    (hnow : now ≤ s.clock) (hlater : s.clock ≤ later) :
    (runAlone cfg tid s (.autoConnectExit .start)
      ([.go, .go, .fetched (.ok fetched) now] ++
        (if cfg.classifier.enabled then [.classified graded gradedAt] else []) ++
        [.probed logs now later])).map (·.nodes.nodes) =
      some ((Operation.prepare maxNodes answer graded gradedAt logs now).apply cfg
        s.nodes.nodes) := by
  cases henabled : cfg.classifier.enabled <;>
    simp [runAlone, stepThread, autoConnectExitStep, next, henabled, hnow, hlater, prepared,
      Operation.apply, Operation.prepareNodes, hf]

theorem prepare_alone_failed {graded : Except GoString (List Classify.IpApiRecord)}
    {gradedAt : Time} {logs : Nat → Probe.DialLog} {err : GoString}
    (hf : Source.fetch maxNodes answer = .error err) :
    (runAlone cfg tid s (.autoConnectExit .start)
      [.go, .go, .fetched (.error err) now]).map (·.nodes.nodes) =
      some ((Operation.prepare maxNodes answer graded gradedAt logs now).apply cfg
        s.nodes.nodes) := by
  simp [runAlone, stepThread, autoConnectExitStep, next, Operation.apply, hf]

theorem cooldownNode_alone {l : Loop} {err : GoString} (hnow : now ≤ s.clock) :
    (runAlone cfg tid s (.loop l (.cool err)) [.time now]).map (·.nodes.nodes) =
      some ((Operation.cooldownNode l.node.id err now).apply cfg s.nodes.nodes) := by
  simp [runAlone, stepThread, connectCandidateStep, next, hnow, Operation.apply]

end Alone

end ResidentialIPManager.Web
