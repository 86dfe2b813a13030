import ResidentialIPManager.Web.Sections

/-! # Everything a monitor section can do

The sections of `monitorExit` with `recoverExit` and `checkExitHealth`, and the
union of the sections of all goroutines.
-/
namespace ResidentialIPManager.Web
open Text Domain Tunnel

variable {cfg : Config} {s : Shared} {tid : Nat}

inductive MonitorSection (cfg : Config) (s : Shared) (tid : Nat) :
    MonitorPc → Input → Result → Prop
  | stopped {hf} (hs : s.stopped = true) : MonitorSection cfg s tid (.idle hf) .go (goTo s .done [])
  | transportTick {hf} : MonitorSection cfg s tid (.idle hf) .transportTick
      (goTo s (.monitor (.transport hf (decide (s.snapshot.state = .connected)))) [])
  | transportLost {hf connected} (hc : connected = true) (hs : s.tunnel.session = none)
      (hn : s.tunnel.connecting = false) :
      MonitorSection cfg s tid (.transport hf connected) .go (goTo s (.monitor (.recover [])) [])
  | transport {hf connected} :
      MonitorSection cfg s tid (.transport hf connected) .go (goTo s (.monitor (.idle hf)) [])
  | recover {reason} : MonitorSection cfg s tid (.recover reason) .go
      (goTo s (.monitor (.recoverCheck reason (decide (s.snapshot.state = .connected)))) [])
  | recoverNeeded {reason connected} (hc : connected = true) (hs : s.tunnel.session = none)
      (hn : s.tunnel.connecting = false) (hx : s.stopped = false) :
      MonitorSection cfg s tid (.recoverCheck reason connected) .go
        (goTo s (.monitor (.recoverNode reason)) [])
  | recoverSkipped {reason connected} (h : ¬(connected = true ∧ s.tunnel.session = none ∧
      s.tunnel.connecting = false ∧ s.stopped = false)) :
      MonitorSection cfg s tid (.recoverCheck reason connected) .go
        (goTo s (.monitor (.idle 0)) [])
  | recoverNode {reason} : MonitorSection cfg s tid (.recoverNode reason) .go
      (goTo s (.monitor (.recoverReason reason s.snapshot.activeNodeID))
        [.recovering tid s.snapshot.activeNodeID])
  | recoverReason {reason failedNodeID} :
      MonitorSection cfg s tid (.recoverReason reason failedNodeID) .go
        (goTo s (.monitor (.recoverCool (recoveryReason s reason) failedNodeID)) [])
  | recoverCool {reason failedNodeID now} (ht : now ≤ s.clock) (hf : failedNodeID ≠ []) :
      MonitorSection cfg s tid (.recoverCool reason failedNodeID) (.time now)
        (goTo (s.cooldownNode cfg failedNodeID reason now) (.monitor .recoverSelect)
          [.cooldownNode tid failedNodeID (s.deadline cfg failedNodeID now)])
  | recoverNoNode {reason failedNodeID now} (hf : failedNodeID = []) :
      MonitorSection cfg s tid (.recoverCool reason failedNodeID) (.time now)
        (goTo s (.monitor .recoverSelect) [])
  | recoverSelect {now} (ht : s.clock ≤ now) : MonitorSection cfg s tid .recoverSelect (.time now)
      (goTo s (enterLoop .recover (connectionCandidates s.nodes.nodes []
        cfg.failover.maxAttempts now) (.exhausted .recover 0 none)) [.passBegan tid])
  | healthTick {hf} (hv : cfg.verify.enabled = true) (hc : s.snapshot.state = .connected) :
      MonitorSection cfg s tid (.idle hf) .healthTick (goTo s (.monitor (.health hf)) [])
  | healthTickIdle {hf} :
      MonitorSection cfg s tid (.idle hf) .healthTick (goTo s (.monitor (.idle 0)) [])
  | healthRunning {hf} (hr : s.tunnel.session.isSome) :
      MonitorSection cfg s tid (.health hf) .go (goTo s (.monitor (.healthNode hf)) [])
  | healthStopped {hf} (hr : s.tunnel.session = none) :
      MonitorSection cfg s tid (.health hf) .go (goTo s (.monitor (.idle 0)) [])
  | healthMissing {hf} (hn : s.activeNode = none) : MonitorSection cfg s tid (.healthNode hf) .go
      (goTo s (healthFailed cfg hf (lit "活动节点状态缺失")) [.healthCheck none false])
  | healthNode {hf node} (hn : s.activeNode = some node) :
      MonitorSection cfg s tid (.healthNode hf) .go (goTo s (.monitor (.healthDial hf node)) [])
  | healthDialFailed {hf node} (hs : s.tunnel.session = none) :
      MonitorSection cfg s tid (.healthDial hf node) .go
        (goTo s (.monitor (.healthReach hf none (Verify.notConnected
          (Verify.requestURL cfg.verify.apiURL)))) [])
  | healthDial {hf node session} (hs : s.tunnel.session = some session) :
      MonitorSection cfg s tid (.healthDial hf node) .go
        (goTo s (.monitor (.healthAwait hf node session.id)) [])
  | healthNoAnswer {hf node via err} :
      MonitorSection cfg s tid (.healthAwait hf node via) (.verified (.error err))
        (goTo s (.monitor (.healthReach hf (some via) err)) [])
  | healthPassed {hf node via result} (hp : result.passed = true) (hv : via ∉ s.closed) :
      MonitorSection cfg s tid (.healthAwait hf node via) (.verified (.ok result))
        (goTo s (.monitor (.healthRecord node via result)) [.verified via node.id true])
  | healthNotPassed {hf node via result} (hp : result.passed = false) (hv : via ∉ s.closed) :
      MonitorSection cfg s tid (.healthAwait hf node via) (.verified (.ok result))
        (goTo s (healthFailed cfg hf result.message)
          [.healthCheck (some via) false, .verified via node.id false])
  | healthRecord {node via result now} (ht : now ≤ s.clock) :
      MonitorSection cfg s tid (.healthRecord node via result) (.time now)
        (goTo (s.setSnapshot (recordVerification s.snapshot result now)) (.monitor (.idle 0))
          [.healthCheck (some via) true,
            .recorded node.id via (s.tunnel.session.map (·.id)) s.snapshot.activeNodeID])
  | healthReachFailed {hf via err} (hs : s.tunnel.session = none) :
      MonitorSection cfg s tid (.healthReach hf via err) .go
        (goTo s (healthFailed cfg hf (reachFailure err
            (Verify.notConnected (lit "https://api.ipify.org"))))
          [.healthCheck none false])
  | healthReach {hf via err session} (hs : s.tunnel.session = some session) :
      MonitorSection cfg s tid (.healthReach hf via err) .go
        (goTo s (.monitor (.healthReachAwait hf via session.id err)) [])
  | healthReached {hf via reach err} (hv : reach ∉ s.closed) :
      MonitorSection cfg s tid (.healthReachAwait hf via reach err) (.reached (.ok ()))
        (goTo s (.monitor (.idle 0)) [.healthCheck (sameSession via reach) true])
  | healthNotReached {hf via reach err reachErr} :
      MonitorSection cfg s tid (.healthReachAwait hf via reach err) (.reached (.error reachErr))
        (goTo s (healthFailed cfg hf (reachFailure err reachErr))
          [.healthCheck (sameSession via reach) false])
  | healthDrop {reason} : MonitorSection cfg s tid (.healthDrop reason) .go
      (goTo (s.setTunnel s.tunnel.disconnect)
        (.monitor (.healthClose (s.tunnel.session.map (·.id)) reason)) (s.removal .health))
  | healthClose {session reason} : MonitorSection cfg s tid (.healthClose session reason) .go
      (goTo (s.closeSession session) (.monitor (.recover reason)) [])

theorem monitorSection_of_step {pc : MonitorPc} {input : Input} {o : Result}
    (h : monitorExitStep cfg s tid pc input = some o) : MonitorSection cfg s tid pc input o := by
  revert h
  fun_cases monitorExitStep cfg s tid pc input <;> intro h <;>
    simp only [next, Option.some.injEq, reduceCtorEq] at h <;> subst h
  · exact .stopped ‹_›
  · exact .transportTick
  · rename_i hc
    exact .transportLost hc.1 hc.2.1 hc.2.2
  · exact .transport
  · exact .recover
  · rename_i hc
    exact .recoverNeeded hc.1 hc.2.1 hc.2.2.1 hc.2.2.2
  · exact .recoverSkipped ‹_›
  · exact .recoverNode
  · exact .recoverReason
  · exact .recoverCool ‹_› ‹_›
  · exact .recoverNoNode (by simp_all)
  · exact .recoverSelect ‹_›
  · rename_i hc
    exact .healthTick hc.1 hc.2
  · exact .healthTickIdle
  · exact .healthRunning ‹_›
  · exact .healthStopped (by simp_all)
  · exact .healthMissing ‹_›
  · exact .healthNode ‹_›
  · exact .healthDialFailed ‹_›
  · exact .healthDial ‹_›
  · exact .healthNoAnswer
  · exact .healthPassed ‹_› ‹_›
  · exact .healthNotPassed (by simp_all) ‹_›
  · exact .healthRecord ‹_›
  · exact .healthReachFailed ‹_›
  · exact .healthReach ‹_›
  · exact .healthReached ‹_›
  · exact .healthNotReached
  · exact .healthDrop
  · exact .healthClose

inductive Section (cfg : Config) (s : Shared) (tid : Nat) : Thread → Input → Result → Prop
  | maintenance {kind pc input o} (h : MaintenanceSection cfg kind s tid pc input o) :
      Section cfg s tid (.maintenance kind pc) input o
  | verifyExit {pc input o} (h : VerifyExitSection s tid pc input o) :
      Section cfg s tid (.verifyExit pc) input o
  | connect {pc input o} (h : ConnectSection cfg s tid pc input o) :
      Section cfg s tid (.connect pc) input o
  | disconnect {pc input o} (h : DisconnectSection s tid pc input o) :
      Section cfg s tid (.disconnect pc) input o
  | auto {pc input o} (h : AutoSection cfg s tid pc input o) :
      Section cfg s tid (.autoConnectExit pc) input o
  | loop {l phase input o} (h : LoopSection cfg s tid l phase input o) :
      Section cfg s tid (.loop l phase) input o
  | exhausted {origin total lastErr} : Section cfg s tid (.exhausted origin total lastErr) .go
      (goTo (s.setSnapshot (exhaustedSnapshot origin total lastErr)) (loopReturn origin)
        [.wrote tid .exhausted])
  | monitor {pc input o} (h : MonitorSection cfg s tid pc input o) :
      Section cfg s tid (.monitor pc) input o
  | watchCurrent {session err} (hs : s.tunnel.session.map (·.id) = some session) :
      Section cfg s tid (.watch session) (.dataPath err)
        (goTo (s.setTunnel { s.tunnel with
            session := none, lastError := lit "tunnel data path stopped: " ++ err })
          (.closing session) (s.removal .dataPath))
  | watchOther {session err} (hs : s.tunnel.session.map (·.id) ≠ some session) :
      Section cfg s tid (.watch session) (.dataPath err) (goTo s (.closing session) [])
  | watchClosed {session} (hs : session ∈ s.closed) :
      Section cfg s tid (.watch session) .go (goTo s .done [])
  | closing {session} : Section cfg s tid (.closing session) .go
      (goTo (s.closeSession (some session)) .done [])

theorem section_of_step {t : Thread} {input : Input} {o : Result}
    (h : stepThread cfg s tid t input = some o) : Section cfg s tid t input o := by
  cases t with
  | maintenance kind pc => exact .maintenance (maintenanceSection_of_step h)
  | verifyExit pc => exact .verifyExit (verifyExitSection_of_step h)
  | connect pc => exact .connect (connectSection_of_step h)
  | disconnect pc => exact .disconnect (disconnectSection_of_step h)
  | autoConnectExit pc => exact .auto (autoSection_of_step h)
  | loop l phase => exact .loop (loopSection_of_step h)
  | monitor pc => exact .monitor (monitorSection_of_step h)
  | exhausted origin total lastErr =>
    change exhaustedStep s tid origin total lastErr input = some o at h
    cases input <;> simp only [exhaustedStep, next, Option.some.injEq, reduceCtorEq] at h
    subst h
    exact .exhausted
  | watch session =>
    change watchStep s session input = some o at h
    cases input with
    | go =>
      simp only [watchStep, next, Option.ite_none_right_eq_some, Option.some.injEq] at h
      obtain ⟨hs, rfl⟩ := h
      exact .watchClosed hs
    | dataPath err =>
      simp only [watchStep, next, Option.some.injEq] at h
      subst h
      unfold OpenVPNController.watch
      split_ifs with hs
      · exact .watchCurrent hs
      · exact .watchOther hs
    | _ => cases h
  | closing session =>
    change closingStep s session input = some o at h
    cases input <;> simp only [closingStep, next, Option.some.injEq, reduceCtorEq] at h
    subst h
    exact .closing
  | done => simp [stepThread] at h

end ResidentialIPManager.Web
