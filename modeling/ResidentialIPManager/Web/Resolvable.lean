import ResidentialIPManager.Web.Closing

/-! # The active node stays resolvable

A refresh installs whatever list was fetched, also when the tunnel runs on a node
that the list no longer has. The active node can be looked up in the runs in which
every installed list keeps the node of the session and the nodes that other
goroutines still work with.
-/
namespace ResidentialIPManager.Web
open Text Domain Tunnel Transition

/-- The snapshot's node is in the list, and `activeNode` finds it. -/
def Resolvable (s : Shared) : Prop :=
  s.snapshot.activeNodeID ∈ ids s.nodes.nodes ∧ s.activeNode.isSome = true

def reportedIDs (env : EnvironmentReport) : List GoString :=
  if env.running then [env.nodeID] else []

/-- The node IDs that a goroutine may still write into the snapshot. -/
def Thread.carries : Thread → List GoString
  | .maintenance _ (.fail _ environment _) => reportedIDs environment
  | .connect (.running environment) => reportedIDs environment
  | .connect (.keep environment _) => reportedIDs environment
  | .verifyExit (.dial node) => [node.id]
  | .verifyExit (.await node _) => [node.id]
  | .verifyExit (.apply node _ _) => [node.id]
  | .loop l _ => l.node.id :: ids l.rest
  | _ => []

def Thread.installs : Thread → Input → Option (List GoString)
  | .maintenance _ (.work _ _), .fetched (.ok fetched) _ => some (ids fetched.nodes)
  | .maintenance _ (.work _ copied), _ => some (ids copied.nodes)
  | .autoConnectExit (.probe _ nodes), _ => some (ids nodes.nodes)
  | _, _ => none

namespace World

/-- The node of the session and the nodes that goroutines still carry. -/
def neededIDs (w : World) : List GoString :=
  w.shared.tunnel.session.toList.map (·.nodeID) ++ w.threads.flatMap Thread.carries

def listsKeepNeeded : Guard := fun w a =>
  match a with
  | .run tid input =>
    match (w.threads[tid]?).bind (·.installs input) with
    | some installed => (neededIDs w).all (· ∈ installed)
    | none => true
  | _ => true

end World

variable {cfg : Config} {s : Shared} {tid : Nat} {t : Thread} {input : Input} {o : Result}

theorem resolvable_of_mem (h : s.snapshot.activeNodeID ∈ ids s.nodes.nodes) : Resolvable s := by
  refine ⟨h, ?_⟩
  have hne : s.snapshot.activeNodeID ≠ [] := fun he => s.nodes.named (he ▸ h)
  obtain ⟨n, hn, hid⟩ := mem_ids.mp h
  simp only [Shared.activeNode, hne, if_false, List.find?_isSome, decide_eq_true_eq]
  exact ⟨n, hn, hid⟩

theorem maintained_ids {kind : Maintenance} {copied nodes : NodeCache}
    (previous : ConnectionSnapshot) (h : maintained cfg kind copied s input = some nodes) :
    (Thread.maintenance kind (.work previous copied)).installs input = some (ids nodes.nodes) := by
  unfold maintained at h
  split at h
  · split_ifs at h
    obtain rfl := Option.some.inj h
    simp [Thread.installs]
  · obtain rfl := Option.some.inj h
    simp [Thread.installs]
  · obtain rfl := Option.some.inj h
    simp [Thread.installs]
  · simp at h

/-- A section keeps the IDs of the list, or installs the list it is about to. -/
theorem Section.ids_cases (h : Section cfg s tid t input o) :
    ids o.shared.nodes.nodes = ids s.nodes.nodes ∨
      t.installs input = some (ids o.shared.nodes.nodes) := by
  cases h with
  | maintenance h =>
    cases h with
    | commit hm => exact .inr (maintained_ids _ hm)
    | _ => exact .inl rfl
  | verifyExit h => cases h <;> exact .inl rfl
  | connect h => cases h <;> exact .inl rfl
  | disconnect h => cases h <;> exact .inl rfl
  | auto h =>
    cases h with
    | commit hi => exact .inr (by simp [Thread.installs, hi, prepared])
    | _ => exact .inl rfl
  | loop h =>
    cases h with
    | cool => exact .inl (ids_markNodeFailure _ _ _ _ _)
    | _ => exact .inl rfl
  | exhausted => exact .inl rfl
  | monitor h =>
    cases h with
    | recoverCool => exact .inl (ids_markNodeFailure _ _ _ _ _)
    | _ => exact .inl rfl
  | watchCurrent => exact .inl rfl
  | watchOther => exact .inl rfl
  | watchClosed => exact .inl rfl
  | closing => exact .inl rfl

theorem mem_reportedIDs {c : OpenVPNController} {id : GoString}
    (h : id ∈ reportedIDs c.checkEnvironment) :
    ∃ S, c.session = some S ∧ S.nodeID = id := by
  cases hs : c.session with
  | none => simp [reportedIDs, OpenVPNController.checkEnvironment, hs] at h
  | some S =>
    simp only [reportedIDs, OpenVPNController.checkEnvironment, hs,
      Option.isSome_some, if_true, Option.map_some, Option.getD_some, List.mem_singleton] at h
    exact ⟨S, rfl, h.symm⟩

theorem carries_enterLoop {origin : Origin} {candidates : List VpnNode} {empty : Thread}
    {id : GoString} (he : empty.carries = []) (h : id ∈ (enterLoop origin candidates empty).carries) :
    id ∈ ids candidates := by
  cases candidates with
  | nil => simp [enterLoop, he] at h
  | cons node rest => exact h

theorem carries_nextAttempt {l : Loop} {err id : GoString} (h : id ∈ (nextAttempt l err).carries) :
    id ∈ ids l.rest := by
  unfold nextAttempt at h
  split at h
  · simp [Thread.carries] at h
  · rename_i node rest hrest
    rw [hrest]
    exact h

theorem carries_loopReturn (origin : Origin) : (loopReturn origin).carries = [] := by
  cases origin <;> rfl

theorem carries_healthFailed (hf : Nat) (reason : GoString) :
    (healthFailed cfg hf reason).carries = [] := by
  unfold healthFailed
  split_ifs <;> rfl

theorem ids_connectionCandidates {nodes : List VpnNode} {requestedID id : GoString} {k : Int}
    {now : Time} (h : id ∈ ids (connectionCandidates nodes requestedID k now)) : id ∈ ids nodes := by
  obtain ⟨n, hn, hid⟩ := mem_ids.mp h
  exact mem_ids.mpr ⟨n, (mem_connectionCandidates hn).1, hid⟩

structure NeededListed (w : World) : Prop where
  session : ∀ S, w.shared.tunnel.session = some S → S.nodeID ∈ ids w.shared.nodes.nodes
  threads : Pool.Each (fun _ u => ∀ id ∈ u.carries, id ∈ ids w.shared.nodes.nodes) w.threads
  active : w.shared.snapshot.state = .connected →
    w.shared.snapshot.activeNodeID ∈ ids w.shared.nodes.nodes

theorem LoopSection.carries_subset {l : Loop} {phase : Phase}
    (h : LoopSection cfg s tid l phase input o) {id : GoString} (hid : id ∈ o.thread.carries) :
    id ∈ l.node.id :: ids l.rest := by
  cases h with
  | unverified => simp [carries_loopReturn] at hid
  | publish => simp [carries_loopReturn] at hid
  | cool => exact List.mem_cons_of_mem _ (carries_nextAttempt hid)
  | _ => exact hid

/-- A goroutine carries what it carried, the session's node, or nodes of the list. -/
theorem Section.carries_cases (h : Section cfg s tid t input o) {id : GoString}
    (hid : id ∈ o.thread.carries) :
    id ∈ t.carries ∨ (∃ S, s.tunnel.session = some S ∧ S.nodeID = id) ∨
      id ∈ ids o.shared.nodes.nodes := by
  cases h with
  | maintenance h =>
    cases h with
    | fetchFailed => exact .inr (.inl (mem_reportedIDs hid))
    | _ => simp [Thread.carries] at hid
  | verifyExit h =>
    cases h with
    | start hn =>
      obtain ⟨hmem, -, -⟩ := Shared.activeNode_some hn
      exact .inr (.inr (mem_ids.mpr ⟨_, hmem, (List.mem_singleton.mp hid).symm⟩))
    | dial => exact .inl hid
    | answer => exact .inl hid
    | _ => simp [Thread.carries] at hid
  | connect h =>
    cases h with
    | startRunning => exact .inr (.inl (mem_reportedIDs hid))
    | start => simp [Thread.carries] at hid
    | running => exact .inl hid
    | keep => simp [Thread.carries] at hid
    | select => exact .inr (.inr (ids_connectionCandidates (carries_enterLoop rfl hid)))
  | disconnect h => cases h <;> simp [Thread.carries] at hid
  | auto h =>
    cases h with
    | commit => exact .inr (.inr (ids_connectionCandidates (carries_enterLoop rfl hid)))
    | _ => simp [Thread.carries] at hid
  | loop h => exact .inl (h.carries_subset hid)
  | exhausted => simp [carries_loopReturn] at hid
  | monitor h =>
    cases h with
    | recoverSelect => exact .inr (.inr (ids_connectionCandidates (carries_enterLoop rfl hid)))
    | healthMissing => simp [carries_healthFailed] at hid
    | healthNotPassed => simp [carries_healthFailed] at hid
    | healthReachFailed => simp [carries_healthFailed] at hid
    | healthNotReached => simp [carries_healthFailed] at hid
    | _ => simp [Thread.carries] at hid
  | watchCurrent => simp [Thread.carries] at hid
  | watchOther => simp [Thread.carries] at hid
  | watchClosed => simp [Thread.carries] at hid
  | closing => simp [Thread.carries] at hid

theorem nodeMaintenanceSnapshot_active {previous : ConnectionSnapshot} {env : EnvironmentReport}
    {message : GoString} {nodes : NodeCache} (hrun : env.running = true)
    (hr : ∀ id ∈ reportedIDs env, id ∈ ids nodes.nodes) :
    (nodeMaintenanceSnapshot previous env message).activeNodeID ∈ ids nodes.nodes := by
  have hid : env.nodeID ∈ ids nodes.nodes := hr _ (by simp [reportedIDs, hrun])
  have hne : env.nodeID ≠ [] := fun he => nodes.named (he ▸ hid)
  simpa [nodeMaintenanceSnapshot, hrun, hne] using hid

/-- A section that writes Connected names a node that its goroutine carries, or the
node of the session. -/
theorem Connects.active_mem {x : ConnectionSnapshot} {nodes : NodeCache}
    (h : Connects cfg s t input x) (hcarries : ∀ id ∈ t.carries, id ∈ ids nodes.nodes)
    (hsession : ∀ S, s.tunnel.session = some S → S.nodeID ∈ ids nodes.nodes) :
    x.activeNodeID ∈ ids nodes.nodes := by
  cases h with
  | commit hS =>
    refine nodeMaintenanceSnapshot_active (by simp [hS]) fun id hid => ?_
    obtain ⟨S, hS, rfl⟩ := mem_reportedIDs hid
    exact hsession S hS
  | fail hr => exact nodeMaintenanceSnapshot_active hr hcarries
  | keep hr => exact nodeMaintenanceSnapshot_active hr hcarries
  | _ => exact hcarries _ List.mem_cons_self

namespace NeededListed

variable {w : World}

theorem mem_of_needed (hw : NeededListed w) {id : GoString} (h : id ∈ World.neededIDs w) :
    id ∈ ids w.shared.nodes.nodes := by
  rcases List.mem_append.mp h with hs | ht
  · obtain ⟨S, hS, rfl⟩ := List.mem_map.mp hs
    exact hw.session S (Option.mem_toList.mp hS)
  · obtain ⟨u, hu, hid⟩ := List.mem_flatMap.mp ht
    obtain ⟨j, hj⟩ := List.mem_iff_getElem?.mp hu
    exact hw.threads j u hj id hid

theorem needed_move (hw : NeededListed w) (hg : World.listsKeepNeeded w (.run tid input) = true)
    (ht : w.threads[tid]? = some t) (h : Section cfg w.shared tid t input o) {id : GoString}
    (hid : id ∈ World.neededIDs w) : id ∈ ids o.shared.nodes.nodes := by
  rcases h.ids_cases with hsame | hinst
  · exact hsame ▸ hw.mem_of_needed hid
  · simp only [World.listsKeepNeeded, ht, Option.bind_some, hinst, List.all_eq_true,
      decide_eq_true_eq] at hg
    exact hg id hid

theorem mem_needed_session {S : VpnSession} (hS : w.shared.tunnel.session = some S) :
    S.nodeID ∈ World.neededIDs w :=
  List.mem_append_left _ (by simp [hS])

theorem mem_needed_thread {j : Nat} {u : Thread} (hu : w.threads[j]? = some u) {id : GoString}
    (hid : id ∈ u.carries) : id ∈ World.neededIDs w :=
  List.mem_append_right _ (List.mem_flatMap.mpr ⟨u, List.mem_of_getElem? hu, hid⟩)

theorem move (hw : NeededListed w) (hg : World.listsKeepNeeded w (.run tid input) = true)
    (ht : w.threads[tid]? = some t) (h : Section cfg w.shared tid t input o) :
    NeededListed (w.move tid o) where
  session S hS := by
    rcases h.session_cases with ⟨hs, -⟩ | ⟨hs, -⟩ | ⟨l, rfl, rfl, rfl⟩
    · exact hw.needed_move hg ht h (mem_needed_session (hs ▸ hS))
    · change o.shared.tunnel.session = some S at hS
      simp [hs] at hS
    · obtain rfl := Option.some.inj hS
      exact hw.needed_move hg ht h (mem_needed_thread ht List.mem_cons_self)
  threads := by
    refine hw.threads.move ?_ ?_ ?_
    · intro id hid
      rcases h.carries_cases hid with hold | ⟨S, hS, rfl⟩ | hnew
      · exact hw.needed_move hg ht h (mem_needed_thread ht hold)
      · exact hw.needed_move hg ht h (mem_needed_session hS)
      · exact hnew
    · exact fun j u _ hu _ id hid => hw.needed_move hg ht h (mem_needed_thread hu hid)
    · intro j u _ hu id hid
      simp [h.spawned_cases hu, Thread.carries] at hid
  active hc := by
    change o.shared.snapshot.activeNodeID ∈ ids o.shared.nodes.nodes
    rcases h.connected_cases hc with ⟨hprev, hactive, hids⟩ | ⟨hwrites, -⟩
    · rw [hactive, hids]
      exact hw.active hprev
    refine hwrites.active_mem ?_ ?_
    · exact fun id hid => hw.needed_move hg ht h (mem_needed_thread ht hid)
    · exact fun S hS => hw.needed_move hg ht h (mem_needed_session hS)

theorem receive (hw : NeededListed w) (r : Request) : NeededListed (w.receive r) where
  session := hw.session
  threads := hw.threads.push fun id hid => by cases r <;> simp [Request.thread, Thread.carries] at hid
  active := hw.active

theorem withShared (hw : NeededListed w) (hp : World.Passive w.shared s) :
    NeededListed (w.withShared s) where
  session S hS := by
    change S.nodeID ∈ ids s.nodes.nodes
    rw [hp.nodes]
    exact hw.session S (hp.tunnel ▸ hS)
  threads := by
    refine hw.threads.imp fun j u hu id hid => ?_
    change id ∈ ids s.nodes.nodes
    rw [hp.nodes]
    exact hu id hid
  active hc := by
    change s.snapshot.activeNodeID ∈ ids s.nodes.nodes
    rw [hp.nodes, hp.snapshot]
    exact hw.active (hp.snapshot ▸ hc)

end NeededListed

/-- In every run whose installed lists keep the needed nodes, a Connected snapshot
names a node of the list. -/
theorem active_node_resolvable {file : Option Storage.State} {w : World}
    (hr : World.Reachable cfg file World.listsKeepNeeded w)
    (hc : w.shared.snapshot.state = .connected) : Resolvable w.shared := by
  have hinv : NeededListed w := by
    refine World.invariant hr ⟨?_, ?_, ?_⟩ ?_ ?_ ?_
    · exact fun S hS => by simp [World.boot] at hS
    · intro j u hu id hid
      rcases World.mem_automation (List.mem_of_getElem? hu) with rfl | rfl <;>
        simp [Thread.carries] at hid
    · intro hc
      simp [World.boot, Storage.load_idle] at hc
    · exact fun w r hw _ => hw.receive r
    · exact fun w tid t input o hw hg ht hsec => hw.move hg ht hsec
    · exact fun w s hw hp => hw.withShared hp
  exact resolvable_of_mem (hinv.active hc)

/-- A connected exit survives a refresh that keeps its node. -/
theorem active_node_resolvable_run : ∃ w : World,
    World.Reachable manual none World.listsKeepNeeded w ∧
      w.shared.snapshot.state = .connected ∧ Resolvable w.shared := by
  obtain ⟨w, hr, hc⟩ := World.exists_reachable manual none World.listsKeepNeeded
    (fun w => w.shared.snapshot.state = .connected)
    (refreshRun 0 twoNodes ++ connectRun 1 idA ++ successRun 1 ++ refreshRun 3 twoNodes)
    (by decide +kernel)
  exact ⟨w, hr, hc, active_node_resolvable hr hc⟩

/-- A refresh fetches a list without the node of the running tunnel. -/
theorem active_node_unresolvable :
    ¬ ∀ (cfg : Config) (file : Option Storage.State) (w : World),
      World.Reachable cfg file World.unrestricted w → w.shared.snapshot.state = .connected →
      Resolvable w.shared := by
  intro hall
  obtain ⟨w, hr, hc, hn⟩ := World.exists_reachable manual none World.unrestricted
    (fun w => w.shared.snapshot.state = .connected ∧ w.shared.activeNode = none)
    (refreshRun 0 twoNodes ++ connectRun 1 idA ++ successRun 1 ++ refreshRun 3 onlyB)
    (by decide +kernel)
  have hsome := (hall manual none w hr hc).2
  simp [hn] at hsome

end ResidentialIPManager.Web
