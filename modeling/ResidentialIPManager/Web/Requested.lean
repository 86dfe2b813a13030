import ResidentialIPManager.Web.World

/-! # The node that a connect request asks for

`serveConnect` runs the sections of one `connect` handler with nothing in between but the
passing of time, and gives the response it writes. A handler that finds a tunnel running
answers at once with the node of that tunnel, whatever node was requested; a handler that
finds none tries the requested node and no other.
-/
namespace ResidentialIPManager.Web
open Text Domain Tunnel

/-- A response: a snapshot with status 200, or an error. -/
inductive ConnectReply where
  | snapshot (snapshot : ConnectionSnapshot)
  | error (status : Nat) (message : GoString)

def ConnectReply.status : ConnectReply → Nat
  | .snapshot _ => 200
  | .error status _ => status

/-- The response that the handler `connect` writes in a section, if it is its last one. -/
def connectResponse (cfg : Config) (s : Shared) (t : Thread) (input : Input) : Option ConnectReply :=
  match t, input with
  | .connect (.keep environment snapshot), .go =>
    some (.snapshot (nodeMaintenanceSnapshot snapshot environment (lit "VPNGate 出口已保持连接")))
  | .connect (.select requestedID), .time now =>
    if s.nodes.nodes = [] then some (.error 409 (lit "请先刷新节点"))
    else if connectionCandidates s.nodes.nodes requestedID (connectAttempts cfg requestedID) now = []
    then some (.error 404 (lit "没有可连接的节点"))
    else none
  | .loop l (.verify _), .time now =>
    if cfg.verify.enabled then none else some (.snapshot (connectedSnapshot l.node now none))
  | .loop l (.publish _ since _ result), .time now =>
    some (.snapshot (connectedSnapshot l.node since (some (result, now))))
  | .exhausted origin total lastErr, .go =>
    some (.error 502 (exhaustedSnapshot origin total lastErr).message)
  | _, _ => none

inductive Beat where
  | wait (elapsed : Nat)
  | run (input : Input)

/-- The sections of one handler up to its response, without interference. -/
def serveConnect (cfg : Config) (tid : Nat) (s : Shared) (t : Thread) :
    List Beat → Option (ConnectReply × Shared)
  | [] => none
  | .wait elapsed :: rest => serveConnect cfg tid { s with clock := s.clock + elapsed } t rest
  | .run input :: rest =>
    match stepThread cfg s tid t input with
    | none => none
    | some o =>
      match connectResponse cfg s t input with
      | some response => some (response, o.shared)
      | none => serveConnect cfg tid o.shared o.thread rest

def HasSession (s : Shared) (id : GoString) : Prop :=
  ∃ session, s.tunnel.session = some session ∧ session.nodeID = id

/-- The response shows a connection to the node, and the controller has it. -/
def ConnectedTo (id : GoString) (response : ConnectReply) (s : Shared) : Prop :=
  (∃ snapshot, response = .snapshot snapshot ∧ snapshot.state = .connected ∧
    snapshot.activeNodeID = id) ∧ HasSession s id

section Connecting

variable {cfg : Config} {tid : Nat} {id : GoString}

/-- The phases between the handshake and the end of an attempt that has not failed. -/
def Phase.established : Phase → Bool
  | .verify _ => true
  | .dial _ _ => true
  | .await _ _ _ => true
  | .publish _ _ _ _ => true
  | _ => false

/-- A handler that found no tunnel works for the requested node only. -/
def Serving (id : GoString) (s : Shared) : Thread → Prop
  | .connect (.start requestedID) => requestedID = id ∧ s.tunnel.session = none
  | .connect (.select requestedID) => requestedID = id
  | .loop l phase => l.origin = .connect ∧ l.node.id = id ∧ l.rest = [] ∧
      (phase.established = true → HasSession s id)
  | .exhausted _ _ _ => True
  | .done => True
  | _ => False

theorem candidates_requested {nodes : List VpnNode} (hid : id ≠ []) {k : Int} {now : Time}
    {node : VpnNode} {rest : List VpnNode}
    (h : connectionCandidates nodes id k now = node :: rest) : node.id = id ∧ rest = [] := by
  unfold connectionCandidates at h
  rw [if_pos hid] at h
  split at h
  · rename_i found hfind
    obtain ⟨rfl, rfl⟩ := List.cons.inj h
    have hfound := List.find?_some hfind
    simp only [decide_eq_true_eq] at hfound
    exact ⟨hfound.1, rfl⟩
  · cases h

theorem Serving.select (hid : id ≠ []) {s : Shared} {input : Input} {o : Result}
    (ho : connectStep cfg s tid (.select id) input = some o) :
    connectResponse cfg s (.connect (.select id)) input = none →
      Serving id o.shared o.thread := by
  cases connectSection_of_step ho with
  | @select _ now ht =>
    intro hnone
    cases hc : connectionCandidates s.nodes.nodes id (connectAttempts cfg id) now with
    | nil => simp [enterLoop, Serving]
    | cons node rest =>
      obtain ⟨hnode, hrest⟩ := candidates_requested hid hc
      simp [enterLoop, Serving, Phase.established, hnode, hrest]

theorem Serving.loop {s : Shared} {l : Loop} {phase : Phase} {input : Input} {o : Result}
    (h : Serving id s (.loop l phase)) (ho : connectCandidateStep cfg s tid l phase input = some o) :
    (∀ response, connectResponse cfg s (.loop l phase) input = some response →
      ConnectedTo id response o.shared) ∧
      (connectResponse cfg s (.loop l phase) input = none → Serving id o.shared o.thread) := by
  obtain ⟨horigin, hnode, hrest, hsession⟩ := h
  cases loopSection_of_step ho with
  | established =>
    refine ⟨by simp [connectResponse], fun _ => ⟨horigin, hnode, hrest, fun _ => ?_⟩⟩
    exact ⟨⟨s.tunnel.created, l.node.id⟩, rfl, hnode⟩
  | unverified ht hv =>
    refine ⟨?_, by simp [connectResponse, hv]⟩
    intro response hresponse
    simp only [connectResponse, hv, Bool.false_eq_true, if_false, Option.some.injEq] at hresponse
    exact ⟨⟨_, hresponse.symm, rfl, hnode⟩, hsession rfl⟩
  | publish ht =>
    refine ⟨?_, by simp [connectResponse]⟩
    intro response hresponse
    exact ⟨⟨_, (Option.some.inj hresponse).symm, rfl, hnode⟩, hsession rfl⟩
  | cool ht =>
    refine ⟨by simp [connectResponse], fun _ => ?_⟩
    simp [nextAttempt, hrest, Serving]
  | verifying ht hv =>
    exact ⟨by simp [connectResponse, hv], fun _ => ⟨horigin, hnode, hrest, fun _ => hsession rfl⟩⟩
  | dial hs =>
    exact ⟨by simp [connectResponse], fun _ => ⟨horigin, hnode, hrest, fun _ => hsession rfl⟩⟩
  | passed hp =>
    exact ⟨by simp [connectResponse], fun _ => ⟨horigin, hnode, hrest, fun _ => hsession rfl⟩⟩
  | _ =>
    exact ⟨by simp [connectResponse], fun _ => ⟨horigin, hnode, hrest, by simp [Phase.established]⟩⟩

theorem Serving.step (hid : id ≠ []) {s : Shared} {t : Thread} {input : Input} {o : Result}
    (h : Serving id s t) (ho : stepThread cfg s tid t input = some o) :
    (∀ response, connectResponse cfg s t input = some response → response.status = 200 →
      ConnectedTo id response o.shared) ∧
      (connectResponse cfg s t input = none → Serving id o.shared o.thread) := by
  cases t with
  | connect pc =>
    cases pc with
    | start requestedID =>
      obtain ⟨rfl, hnone⟩ := h
      cases connectSection_of_step ho with
      | startRunning hr => simp [hnone] at hr
      | start _ => exact ⟨by simp [connectResponse], fun _ => rfl⟩
    | select requestedID =>
      obtain rfl : requestedID = id := h
      refine ⟨?_, Serving.select hid ho⟩
      intro response hresponse hstatus
      cases connectSection_of_step ho with
      | @select _ now ht =>
        simp only [connectResponse] at hresponse
        split_ifs at hresponse <;> cases hresponse <;> cases hstatus
    | _ => cases h
  | loop l phase =>
    exact ⟨fun response hresponse _ => (Serving.loop h ho).1 response hresponse,
      (Serving.loop h ho).2⟩
  | exhausted origin total lastErr =>
    cases input with
    | go =>
      refine ⟨?_, by simp [connectResponse]⟩
      intro response hresponse hstatus
      cases hresponse
      cases hstatus
    | _ => cases ho
  | done => cases ho
  | _ => cases h

theorem Serving.run (hid : id ≠ []) {s s' : Shared} {t : Thread} {response : ConnectReply}
    {beats : List Beat} (h : Serving id s t)
    (hserve : serveConnect cfg tid s t beats = some (response, s')) (hstatus : response.status = 200) :
    ConnectedTo id response s' := by
  induction beats generalizing s t with
  | nil => cases hserve
  | cons beat rest ih =>
    cases beat with
    | wait elapsed =>
      apply ih _ hserve
      cases t <;> exact h
    | run input =>
      simp only [serveConnect] at hserve
      cases ho : stepThread cfg s tid t input with
      | none => simp [ho] at hserve
      | some o =>
        obtain ⟨hreply, hnext⟩ := Serving.step hid h ho
        cases hr : connectResponse cfg s t input with
        | none =>
          simp only [ho, hr] at hserve
          exact ih (hnext hr) hserve
        | some answer =>
          simp only [ho, hr, Option.some.injEq, Prod.mk.injEq] at hserve
          obtain ⟨rfl, rfl⟩ := hserve
          exact hreply _ hr hstatus

/-- A handler that found a tunnel carries the report on it to its response. -/
def Keeping (session : VpnSession) : Thread → Prop
  | .connect (.start _) => True
  | .connect (.running environment) =>
    environment.running = true ∧ environment.nodeID = session.nodeID
  | .connect (.keep environment _) =>
    environment.running = true ∧ environment.nodeID = session.nodeID
  | _ => False

theorem keepingSnapshot {session : VpnSession} {environment : EnvironmentReport}
    (hrunning : environment.running = true) (hnode : environment.nodeID = session.nodeID)
    (previous : ConnectionSnapshot) (message : GoString) :
    (nodeMaintenanceSnapshot previous environment message).state = .connected ∧
      (session.nodeID ≠ [] →
        (nodeMaintenanceSnapshot previous environment message).activeNodeID = session.nodeID) := by
  constructor
  · rw [nodeMaintenanceSnapshot_state, if_pos hrunning]
  · intro hne
    simp [nodeMaintenanceSnapshot, hrunning, hnode, hne]

theorem Keeping.run {session : VpnSession} {s s' : Shared} {t : Thread} {response : ConnectReply}
    {beats : List Beat} (hs : s.tunnel.session = some session) (h : Keeping session t)
    (hserve : serveConnect cfg tid s t beats = some (response, s')) :
    (∃ snapshot, response = .snapshot snapshot ∧ snapshot.state = .connected ∧
      (session.nodeID ≠ [] → snapshot.activeNodeID = session.nodeID)) ∧
      s'.tunnel.session = some session := by
  induction beats generalizing s t with
  | nil => cases hserve
  | cons beat rest ih =>
    cases beat with
    | wait elapsed => exact ih (by exact hs) h hserve
    | run input =>
      simp only [serveConnect] at hserve
      cases ho : stepThread cfg s tid t input with
      | none => simp [ho] at hserve
      | some o =>
        cases t with
        | connect pc =>
          have hsection : ConnectSection cfg s tid pc input o := connectSection_of_step ho
          cases hsection with
          | startRunning hr =>
            have hnode : s.tunnel.checkEnvironment.nodeID = session.nodeID := by
              simp [OpenVPNController.checkEnvironment, hs]
            simp only [ho, connectResponse, goTo_shared, goTo_thread] at hserve
            refine ih hs ?_ hserve
            exact ⟨hr, hnode⟩
          | start hnone => simp [hnone] at hs
          | running =>
            simp only [ho, connectResponse, goTo_shared, goTo_thread] at hserve
            refine ih hs ?_ hserve
            exact h
          | @keep environment snapshot =>
            simp only [ho, connectResponse, Option.some.injEq, Prod.mk.injEq] at hserve
            obtain ⟨rfl, rfl⟩ := hserve
            exact ⟨⟨_, rfl, keepingSnapshot h.1 h.2 _ _⟩, hs⟩
          | select ht => cases h
        | _ => cases h

/-- A request for a node, handled without interference, connects that node whenever it
answers 200 exactly if the controller has no session on another node. -/
theorem requested_connected_iff {s s' : Shared} {response : ConnectReply} {beats : List Beat}
    (hid : id ≠ [])
    (hserve : serveConnect cfg tid s (.connect (.start id)) beats = some (response, s')) :
    (response.status = 200 → ConnectedTo id response s') ↔
      ∀ session, s.tunnel.session = some session → session.nodeID = id := by
  cases hs : s.tunnel.session with
  | none =>
    have hserving : Serving id s (.connect (.start id)) := ⟨rfl, hs⟩
    simpa using Serving.run hid hserving hserve
  | some session =>
    obtain ⟨⟨snapshot, rfl, hstate, hactive⟩, hs'⟩ :=
      Keeping.run hs (show Keeping session (.connect (.start id)) from trivial) hserve
    simp only [Option.some.injEq, forall_eq']
    constructor
    · intro h
      obtain ⟨-, current, hcurrent, hnode⟩ := h rfl
      rw [hs'] at hcurrent
      obtain rfl := Option.some.inj hcurrent
      exact hnode
    · rintro rfl -
      exact ⟨⟨snapshot, rfl, hstate, hactive hid⟩, session, hs', rfl⟩

end Connecting

def successBeats : List Beat :=
  [.run .go, .run (.time 0), .run .go, .run .go, .run (.handshake (.ok ())), .wait 1000,
    .run (.time 0), .run .go, .run (.verified (.ok { passed := true })), .run (.time 1000)]

theorem requested_connected_idle :
    ∃ response s', serveConnect manual 0 { nodes := twoNodes, snapshot := initialSnapshot }
        (.connect (.start idA)) successBeats = some (response, s') ∧
      response.status = 200 ∧ ConnectedTo idA response s' := by
  have hserved : (serveConnect manual 0 { nodes := twoNodes, snapshot := initialSnapshot }
      (.connect (.start idA)) successBeats).any (fun r => r.1.status = 200) = true := by
    decide +kernel
  obtain ⟨⟨response, s'⟩, hserve, hstatus⟩ := (Option.any_eq_true _ _).mp hserved
  have hstatus' : response.status = 200 := of_decide_eq_true hstatus
  exact ⟨response, s', hserve, hstatus',
    (requested_connected_iff (by decide) hserve).mpr (by simp) hstatus'⟩

/-- A tunnel to the second node runs, and the first is requested. -/
theorem other_node_kept :
    ¬ ∀ (cfg : Config) (tid : Nat) (s s' : Shared) (id : GoString) (response : ConnectReply)
      (beats : List Beat), id ≠ [] →
      serveConnect cfg tid s (.connect (.start id)) beats = some (response, s') →
      response.status = 200 → ConnectedTo id response s' := by
  intro hclaim
  let s : Shared :=
    { nodes := twoNodes
      snapshot := initialSnapshot
      tunnel := { session := some ⟨0, idB⟩, created := 1 } }
  have hserved : (serveConnect manual 0 s (.connect (.start idA))
      [.run .go, .run .go, .run .go]).any
        (fun r => r.1.status = 200 ∧ r.2.tunnel.session.any (fun S => S.nodeID = idB)) = true := by
    decide +kernel
  obtain ⟨⟨response, s'⟩, hserve, hfound⟩ := (Option.any_eq_true _ _).mp hserved
  obtain ⟨hstatus, hsession⟩ := of_decide_eq_true hfound
  obtain ⟨-, session, hs', hnode⟩ := hclaim manual 0 s s' idA response _ (by decide) hserve hstatus
  simp only [hs', Option.any_some, decide_eq_true_eq] at hsession
  exact absurd (hsession.symm.trans hnode) (by decide)

end ResidentialIPManager.Web
