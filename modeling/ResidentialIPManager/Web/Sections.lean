import ResidentialIPManager.Web.Steps

/-! # Everything a section can do

`Section cfg s tid t input o` lists the sections case by case, guards included.
`section_of_step` derives it from the step functions once; every invariant of the
server is a case analysis on it.
-/
namespace ResidentialIPManager.Web
open Text Domain Tunnel

variable {cfg : Config} {s : Shared} {tid : Nat}

inductive MaintenanceSection (cfg : Config) (kind : Maintenance) (s : Shared) (tid : Nat) :
    MaintenancePc → Input → Result → Prop
  | start : MaintenanceSection cfg kind s tid .start .go
      (goTo s (.maintenance kind (.copy s.snapshot)) [])
  | copyEmpty {previous} (hk : kind ≠ .refresh) (hn : s.nodes.nodes = []) :
      MaintenanceSection cfg kind s tid (.copy previous) .go (goTo s .done [])
  | copy {previous} : MaintenanceSection cfg kind s tid (.copy previous) .go
      (goTo s (.maintenance kind (.announce previous s.nodes)) [])
  | announce {previous copied} : MaintenanceSection cfg kind s tid (.announce previous copied) .go
      (goTo (s.setSnapshot (maintenanceProgress kind))
        (.maintenance kind (.work previous copied)) [.wrote tid .progress])
  | fetchFailed {previous copied input err} (he : fetchError kind input = some err) :
      MaintenanceSection cfg kind s tid (.work previous copied) input
        (goTo s (.maintenance kind (.fail previous s.tunnel.checkEnvironment err)) [])
  | commit {previous copied input nodes} (hm : maintained cfg kind copied s input = some nodes) :
      MaintenanceSection cfg kind s tid (.work previous copied) input
        (goTo (s.commit nodes (nodeMaintenanceSnapshot previous s.tunnel.checkEnvironment
            (maintenanceMessage kind nodes.nodes.length))) .done
          [.wrote tid .maintained, .installed (ids nodes.nodes)])
  | fail {previous environment err} :
      MaintenanceSection cfg kind s tid (.fail previous environment err) .go
        (goTo (s.setSnapshot (nodeMaintenanceSnapshot previous environment
            (lit "节点刷新失败: " ++ err))) .done [.wrote tid .maintained])

theorem maintenanceSection_of_step {kind : Maintenance} {pc : MaintenancePc} {input : Input}
    {o : Result} (h : maintenanceStep cfg kind s tid pc input = some o) :
    MaintenanceSection cfg kind s tid pc input o := by
  revert h
  fun_cases maintenanceStep cfg kind s tid pc input <;> intro h <;>
    simp only [next, Option.some.injEq, reduceCtorEq] at h <;> subst h
  · exact .start
  · exact .copyEmpty (by tauto) (by tauto)
  · exact .copy
  · exact .announce
  · exact .fetchFailed ‹_›
  · exact .commit ‹_›
  · exact .fail

inductive VerifyExitSection (s : Shared) (tid : Nat) : VerifyExitPc → Input → Result → Prop
  | inactive (hn : s.activeNode = none) :
      VerifyExitSection s tid .start .go (goTo s .done [])
  | start {node} (hn : s.activeNode = some node) :
      VerifyExitSection s tid .start .go (goTo s (.verifyExit (.dial node)) [])
  | dialFailed {node} (hs : s.tunnel.session = none) :
      VerifyExitSection s tid (.dial node) .go (goTo s .done [])
  | dial {node session} (hs : s.tunnel.session = some session) :
      VerifyExitSection s tid (.dial node) .go
        (goTo s (.verifyExit (.await node session.id)) [])
  | answer {node via result} (hv : via ∉ s.closed) :
      VerifyExitSection s tid (.await node via) (.verified (.ok result))
        (goTo s (.verifyExit (.apply node via result)) [.verified via node.id result.passed])
  | noAnswer {node via err} :
      VerifyExitSection s tid (.await node via) (.verified (.error err)) (goTo s .done [])
  | apply {node via result} : VerifyExitSection s tid (.apply node via result) .go
      (goTo (s.setSnapshot (applyVerifyResult s.snapshot node result s.clock)) .done
        [.wrote tid (.applied via result.passed),
          .recorded node.id via (s.tunnel.session.map (·.id)) s.snapshot.activeNodeID])

theorem verifyExitSection_of_step {pc : VerifyExitPc} {input : Input} {o : Result}
    (h : verifyExitStep s tid pc input = some o) : VerifyExitSection s tid pc input o := by
  revert h
  fun_cases verifyExitStep s tid pc input <;> intro h <;>
    simp only [next, Option.some.injEq, reduceCtorEq] at h <;> subst h
  · exact .inactive ‹_›
  · exact .start ‹_›
  · exact .dialFailed ‹_›
  · exact .dial ‹_›
  · exact .answer ‹_›
  · exact .noAnswer
  · exact .apply

inductive ConnectSection (cfg : Config) (s : Shared) (tid : Nat) :
    ConnectPc → Input → Result → Prop
  | startRunning {requestedID} (hr : s.tunnel.session.isSome) :
      ConnectSection cfg s tid (.start requestedID) .go
        (goTo s (.connect (.running s.tunnel.checkEnvironment)) [])
  | start {requestedID} (hr : s.tunnel.session = none) :
      ConnectSection cfg s tid (.start requestedID) .go (goTo s (.connect (.select requestedID)) [])
  | running {environment} : ConnectSection cfg s tid (.running environment) .go
      (goTo s (.connect (.keep environment s.snapshot)) [])
  | keep {environment snapshot} : ConnectSection cfg s tid (.keep environment snapshot) .go
      (goTo (s.setSnapshot (nodeMaintenanceSnapshot snapshot environment
          (lit "VPNGate 出口已保持连接"))) .done [.wrote tid .maintained])
  | select {requestedID now} (ht : s.clock ≤ now) :
      ConnectSection cfg s tid (.select requestedID) (.time now)
        (goTo s (enterLoop .connect (connectionCandidates s.nodes.nodes requestedID
          (connectAttempts cfg requestedID) now) .done) [.passBegan tid])

theorem connectSection_of_step {pc : ConnectPc} {input : Input} {o : Result}
    (h : connectStep cfg s tid pc input = some o) : ConnectSection cfg s tid pc input o := by
  revert h
  fun_cases connectStep cfg s tid pc input <;> intro h <;>
    simp only [next, Option.some.injEq, reduceCtorEq] at h <;> subst h
  · exact .startRunning ‹_›
  · exact .start (by simp_all)
  · exact .running
  · exact .keep
  · exact .select ‹_›

inductive DisconnectSection (s : Shared) (tid : Nat) : DisconnectPc → Input → Result → Prop
  | start : DisconnectSection s tid .start .go
      (goTo (s.setTunnel s.tunnel.disconnect)
        (.disconnect (.close (s.tunnel.session.map (·.id)))) (s.removal .user))
  | close {session} : DisconnectSection s tid (.close session) .go
      (goTo (s.closeSession session) (.disconnect .reset) [])
  | reset : DisconnectSection s tid .reset .go
      (goTo (s.setSnapshot initialSnapshot) (.disconnect .finish) [.wrote tid .reset])
  | finish : DisconnectSection s tid .finish .go (goTo s .done [.disconnectReturned tid])

theorem disconnectSection_of_step {pc : DisconnectPc} {input : Input} {o : Result}
    (h : disconnectStep s tid pc input = some o) : DisconnectSection s tid pc input o := by
  revert h
  fun_cases disconnectStep s tid pc input <;> intro h <;>
    simp only [next, Option.some.injEq, reduceCtorEq] at h <;> subst h
  · exact .start
  · exact .close
  · exact .reset
  · exact .finish

inductive AutoSection (cfg : Config) (s : Shared) (tid : Nat) : AutoPc → Input → Result → Prop
  | start : AutoSection cfg s tid .start .go (goTo s (.autoConnectExit (.announce s.nodes)) [])
  | announce {previousNodes} : AutoSection cfg s tid (.announce previousNodes) .go
      (goTo (s.setSnapshot autoFetchingSnapshot) (.autoConnectExit (.fetch previousNodes))
        [.wrote tid .progress])
  | fetchFailed {previousNodes err now} :
      AutoSection cfg s tid (.fetch previousNodes) (.fetched (.error err) now)
        (goTo (s.setSnapshot (autoFetchFailedSnapshot err)) .done [.wrote tid .fetchFailed])
  | fetchedClassify {previousNodes nodes now} (hc : cfg.classifier.enabled = true) :
      AutoSection cfg s tid (.fetch previousNodes) (.fetched (.ok nodes) now)
        (goTo (s.setSnapshot autoClassifyingSnapshot)
          (.autoConnectExit (.classify previousNodes nodes)) [.wrote tid .progress])
  | fetchedProbe {previousNodes nodes now} (hc : cfg.classifier.enabled = false) :
      AutoSection cfg s tid (.fetch previousNodes) (.fetched (.ok nodes) now)
        (goTo (s.setSnapshot autoProbingSnapshot)
          (.autoConnectExit (.probe previousNodes nodes)) [.wrote tid .progress])
  | classified {previousNodes nodes answer now} :
      AutoSection cfg s tid (.classify previousNodes nodes) (.classified answer now)
        (goTo (s.setSnapshot autoProbingSnapshot)
          (.autoConnectExit (.probe previousNodes
            (nodes.withNodes (Classify.classify answer now nodes.nodes)
              (Classify.ids_classify _ _ _)))) [.wrote tid .progress])
  | commit {previousNodes nodes logs now later installed}
      (hi : installed = prepared cfg previousNodes nodes logs now)
      (hn : now ≤ s.clock) (hl : s.clock ≤ later) :
      AutoSection cfg s tid (.probe previousNodes nodes) (.probed logs now later)
        (goTo (s.commit installed (autoPreparedSnapshot installed.nodes.length))
          (enterLoop .auto (connectionCandidates installed.nodes []
            (if cfg.failover.maxAttempts ≤ 0 then 1 else cfg.failover.maxAttempts) later) .done)
          [.passBegan tid, .wrote tid .prepared, .installed (ids installed.nodes)])

theorem autoSection_of_step {pc : AutoPc} {input : Input} {o : Result}
    (h : autoConnectExitStep cfg s tid pc input = some o) : AutoSection cfg s tid pc input o := by
  revert h
  fun_cases autoConnectExitStep cfg s tid pc input <;> intro h <;>
    simp only [next, Option.some.injEq, reduceCtorEq] at h <;> subst h
  · exact .start
  · exact .announce
  · exact .fetchFailed
  · exact .fetchedClassify ‹_›
  · exact .fetchedProbe (Bool.eq_false_of_not_eq_true ‹_›)
  · exact .classified
  · exact .commit rfl (by tauto) (by tauto)

inductive LoopSection (cfg : Config) (s : Shared) (tid : Nat) (l : Loop) :
    Phase → Input → Result → Prop
  | announce : LoopSection cfg s tid l .announce .go
      (goTo (s.setSnapshot (attemptSnapshot l.origin l.attempt l.total l.node)) (.loop l .connect)
        [.wrote tid .progress])
  | refused {err} (hc : s.tunnel.session.isSome ∨ s.tunnel.connecting = true) :
      LoopSection cfg s tid l .connect .go
        (goTo s (.loop l (.cool (lit "OpenVPN 连接失败: " ++ err))) [.refused tid l.node.id])
  | accepted (hs : s.tunnel.session = none) (hc : s.tunnel.connecting = false) :
      LoopSection cfg s tid l .connect .go
        (goTo (s.setTunnel { s.tunnel with connecting := true, lastError := [] })
          (.loop l .handshake) [.accepted tid l.node.id])
  | handshakeFailed {err} : LoopSection cfg s tid l .handshake (.handshake (.error err))
      (goTo (s.setTunnel (s.tunnel.failConnect err))
        (.loop l (.cool (lit "OpenVPN 连接失败: " ++ err)))
        [.attemptFailed tid l.node.id (s.ctxCancelled tid l.origin)])
  | established (hp : reachesHandshake l.node = true) :
      LoopSection cfg s tid l .handshake (.handshake (.ok ())) (established s l)
  | verifying {session now} (ht : now ≤ s.clock) (hv : cfg.verify.enabled = true) :
      LoopSection cfg s tid l (.verify session) (.time now)
        (goTo (s.setSnapshot (verifyingSnapshot l.node now)) (.loop l (.dial session now))
          [.wrote tid .progress])
  | unverified {session now} (ht : now ≤ s.clock) (hv : cfg.verify.enabled = false) :
      LoopSection cfg s tid l (.verify session) (.time now)
        (goTo (s.setSnapshot (connectedSnapshot l.node now none)) (loopReturn l.origin)
          [.wrote tid (.published session)])
  | dialFailed {session since} (hs : s.tunnel.session = none) :
      LoopSection cfg s tid l (.dial session since) .go
        (goTo s (.loop l (.reject session (lit "出口复核失败: " ++ Verify.notConnected
            (Verify.requestURL cfg.verify.apiURL))))
          [.attemptFailed tid l.node.id (s.ctxCancelled tid l.origin)])
  | dial {session since current} (hs : s.tunnel.session = some current) :
      LoopSection cfg s tid l (.dial session since) .go
        (goTo s (.loop l (.await session since current.id)) [])
  | noAnswer {session since via err} :
      LoopSection cfg s tid l (.await session since via) (.verified (.error err))
        (goTo s (.loop l (.reject session (lit "出口复核失败: " ++ err)))
          [.attemptFailed tid l.node.id (s.ctxCancelled tid l.origin)])
  | passed {session since via result} (hp : result.passed = true) (hv : via ∉ s.closed) :
      LoopSection cfg s tid l (.await session since via) (.verified (.ok result))
        (goTo s (.loop l (.publish session since via result)) [.verified via l.node.id true])
  | notPassed {session since via result} (hp : result.passed = false) (hv : via ∉ s.closed) :
      LoopSection cfg s tid l (.await session since via) (.verified (.ok result))
        (goTo s (.loop l (.reject session (lit "出口复核未通过: " ++ result.message)))
          [.attemptFailed tid l.node.id (s.ctxCancelled tid l.origin),
            .verified via l.node.id false])
  | reject {session err} : LoopSection cfg s tid l (.reject session err) .go
      (goTo (s.setTunnel s.tunnel.disconnect) (.loop l (.close (s.tunnel.session.map (·.id)) err))
        (s.removal .rejection))
  | close {session err} : LoopSection cfg s tid l (.close session err) .go
      (goTo (s.closeSession session) (.loop l (.cool err)) [])
  | publish {session since via result now} (ht : now ≤ s.clock) :
      LoopSection cfg s tid l (.publish session since via result) (.time now)
        (goTo (s.setSnapshot (connectedSnapshot l.node since (some (result, now))))
          (loopReturn l.origin) [.wrote tid (.published session)])
  | cool {err now} (ht : now ≤ s.clock) : LoopSection cfg s tid l (.cool err) (.time now)
      (goTo (s.cooldownNode cfg l.node.id err now) (nextAttempt l err)
        [.cooldownNode tid l.node.id (s.deadline cfg l.node.id now)])

theorem loopSection_of_step {l : Loop} {phase : Phase} {input : Input} {o : Result}
    (h : connectCandidateStep cfg s tid l phase input = some o) :
    LoopSection cfg s tid l phase input o := by
  revert h
  fun_cases connectCandidateStep cfg s tid l phase input <;> intro h <;>
    simp only [next, Option.some.injEq, reduceCtorEq] at h <;> subst h
  · exact .announce
  · rename_i hb
    exact .refused (OpenVPNController.beginConnect_error hb)
  · rename_i hb
    obtain ⟨hs, hc, rfl⟩ := OpenVPNController.beginConnect_ok hb
    exact .accepted hs hc
  · exact .handshakeFailed
  · exact .established ‹_›
  · exact .verifying ‹_› ‹_›
  · exact .unverified ‹_› (by simpa using ‹¬cfg.verify.enabled = true›)
  · exact .dialFailed ‹_›
  · exact .dial ‹_›
  · exact .noAnswer
  · exact .passed ‹_› ‹_›
  · exact .notPassed (by simp_all) ‹_›
  · exact .reject
  · exact .close
  · exact .publish ‹_›
  · exact .cool ‹_›

end ResidentialIPManager.Web
