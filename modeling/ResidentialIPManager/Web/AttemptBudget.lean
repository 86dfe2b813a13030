import ResidentialIPManager.ProxyCore.Xray
import ResidentialIPManager.Web.Ranking
import ResidentialIPManager.Web.World

/-! # How many nodes one pass tries

A pass selects its candidates once and calls `Connect` on one after the other until an
attempt succeeds. `connect` and `recoverExit` hand the attempt limit of the configuration to
the selection, where zero means no limit; `autoConnectExit` replaces zero by one, and does
not look at whether failover is enabled. `attempted` is the loop of one pass; `pass_entered`,
`loopCalls_follow` and `exists_loopCalls` connect it with the candidate loops of the
goroutines.
-/
namespace ResidentialIPManager.Web
open Text Domain Tunnel
open ProxyCore (initialized)

inductive Pass where
  | connect (requestedID : GoString)
  | autoConnectExit
  | recoverExit

/-- The server makes the pass: the automatic ones are started by the configuration. -/
def Pass.started (cfg : Config) : Pass → Prop
  | .connect _ => True
  | .autoConnectExit => cfg.deployment.autoConnectExit = true
  | .recoverExit => cfg.deployment.autoConnectExit = true ∧ cfg.failover.enabled = true

def Pass.origin : Pass → Origin
  | .connect _ => .connect
  | .autoConnectExit => .auto
  | .recoverExit => .recover

/-- The node that a pass is for; the empty ID stands for none. -/
def Pass.requestedID : Pass → GoString
  | .connect requestedID => requestedID
  | .autoConnectExit => []
  | .recoverExit => []

def Pass.limit (cfg : Config) : Pass → Int
  | .connect requestedID => connectAttempts cfg requestedID
  | .autoConnectExit => if cfg.failover.maxAttempts ≤ 0 then 1 else cfg.failover.maxAttempts
  | .recoverExit => cfg.failover.maxAttempts

def Pass.candidates (cfg : Config) (nodes : List VpnNode) (now : Time) (pass : Pass) :
    List VpnNode :=
  connectionCandidates nodes pass.requestedID (pass.limit cfg) now

/-- The nodes on which a pass calls `Connect`, given which attempts fail. -/
def attempted (fails : Nat → Bool) (attempt : Nat) : List VpnNode → List VpnNode
  | [] => []
  | node :: rest => node :: if fails attempt then attempted fails (attempt + 1) rest else []

def Pass.budget (cfg : Config) (pass : Pass) : Nat :=
  if cfg.failover.enabled = false ∨ pass.requestedID ≠ [] then 1
  else max 1 cfg.failover.maxAttempts.toNat

def Pass.limited (cfg : Config) : Pass → Prop
  | .connect requestedID =>
    requestedID ≠ [] ∨ cfg.failover.enabled = false ∨ 0 < cfg.failover.maxAttempts
  | .autoConnectExit => cfg.failover.enabled = true ∨ cfg.failover.maxAttempts ≤ 1
  | .recoverExit => 0 < cfg.failover.maxAttempts

section Lengths

variable {cfg : Config} {fails : Nat → Bool}

theorem length_attempted_le (fails : Nat → Bool) (attempt : Nat) (candidates : List VpnNode) :
    (attempted fails attempt candidates).length ≤ candidates.length := by
  induction candidates generalizing attempt with
  | nil => simp [attempted]
  | cons node rest ih =>
    rw [attempted]
    split_ifs
    · simpa using ih (attempt + 1)
    · simp

theorem length_attempted_of_success {attempt : Nat} (h : fails attempt = false)
    (candidates : List VpnNode) : (attempted fails attempt candidates).length ≤ 1 := by
  cases candidates with
  | nil => simp [attempted]
  | cons node rest => simp [attempted, h]

theorem one_lt_length_attempted {attempt : Nat} (h : fails attempt = true)
    {candidates : List VpnNode} (hlen : 1 < candidates.length) :
    1 < (attempted fails attempt candidates).length := by
  match candidates, hlen with
  | a :: b :: rest, _ => simp [attempted, h]

theorem length_rankedCandidates (nodes : List VpnNode) (now : Time) :
    (rankedCandidates nodes now).length = (nodes.filter (connectable · now)).length :=
  (rankedCandidates_perm nodes now).length_eq

theorem length_connectionCandidates (nodes : List VpnNode) (k : Int) (now : Time) :
    (connectionCandidates nodes [] k now).length =
      selectedCount k (nodes.filter (connectable · now)).length := by
  have hle : selectedCount k (rankedCandidates nodes now).length ≤
      (rankedCandidates nodes now).length := by
    unfold selectedCount
    split_ifs <;> omega
  rw [connectionCandidates_take, List.length_take, min_eq_left hle, length_rankedCandidates]

theorem length_requested_le (nodes : List VpnNode) {id : GoString} (hid : id ≠ []) (k : Int)
    (now : Time) :
    (connectionCandidates nodes id k now).length ≤ 1 := by
  unfold connectionCandidates
  rw [if_pos hid]
  split <;> simp

theorem one_le_budget (cfg : Config) (pass : Pass) : 1 ≤ pass.budget cfg := by
  unfold Pass.budget
  split_ifs <;> omega

/-- A limited pass without a requested node has a limit within its budget. -/
theorem limit_le_budget {pass : Pass} (hstarted : pass.started cfg) (h : pass.limited cfg)
    (hid : pass.requestedID = []) :
    0 < pass.limit cfg ∧ (pass.limit cfg).toNat ≤ pass.budget cfg := by
  cases pass with
  | connect requestedID =>
    simp only [Pass.requestedID] at hid
    simp only [Pass.limited, Pass.limit, Pass.budget, Pass.requestedID, connectAttempts, hid,
      ne_eq, not_true_eq_false, false_or, or_false, true_and] at h ⊢
    cases henabled : cfg.failover.enabled with
    | false => simp
    | true =>
      simp only [henabled, Bool.true_eq_false, false_or, if_true, if_false] at h ⊢
      omega
  | autoConnectExit =>
    simp only [Pass.limited, Pass.limit, Pass.budget, Pass.requestedID, ne_eq,
      not_true_eq_false, or_false] at h ⊢
    cases henabled : cfg.failover.enabled with
    | false =>
      simp only [henabled, Bool.false_eq_true, false_or, if_true] at h ⊢
      split_ifs <;> omega
    | true =>
      simp only [Bool.true_eq_false, if_false]
      split_ifs <;> omega
  | recoverExit =>
    obtain ⟨-, henabled⟩ := hstarted
    simp only [Pass.limited, Pass.limit, Pass.budget, Pass.requestedID, henabled, ne_eq,
      not_true_eq_false, or_false, Bool.true_eq_false, if_false] at h ⊢
    omega

/-- A pass that is not limited may try a second node, and its budget is one. -/
theorem limit_of_not_limited {pass : Pass} (hstarted : pass.started cfg)
    (h : ¬pass.limited cfg) :
    pass.requestedID = [] ∧ pass.budget cfg = 1 ∧ (pass.limit cfg ≤ 0 ∨ 2 ≤ pass.limit cfg) := by
  cases pass with
  | connect requestedID =>
    simp only [Pass.limited, not_or, not_not, Bool.not_eq_false, ne_eq] at h
    obtain ⟨rfl, henabled, hzero⟩ := h
    simp only [Pass.limit, Pass.budget, Pass.requestedID, connectAttempts, henabled, ne_eq,
      not_true_eq_false, or_false, and_self, Bool.true_eq_false, if_true, if_false, true_and]
    omega
  | autoConnectExit =>
    simp only [Pass.limited, not_or, Bool.not_eq_true] at h
    simp only [Pass.limit, Pass.budget, Pass.requestedID, h.1, true_or, if_true, true_and]
    rw [if_neg (by omega)]
    omega
  | recoverExit =>
    obtain ⟨-, henabled⟩ := hstarted
    simp only [Pass.limited] at h
    simp only [Pass.limit, Pass.budget, Pass.requestedID, henabled, ne_eq, not_true_eq_false,
      or_false, Bool.true_eq_false, if_false, true_and]
    omega

theorem length_candidates_le {pass : Pass} (hstarted : pass.started cfg)
    (h : pass.limited cfg) (nodes : List VpnNode) (now : Time) :
    (pass.candidates cfg nodes now).length ≤ pass.budget cfg := by
  by_cases hid : pass.requestedID = []
  · obtain ⟨hpos, hwithin⟩ := limit_le_budget hstarted h hid
    rw [Pass.candidates, hid, length_connectionCandidates, selectedCount, if_neg (by omega)]
    exact (min_le_left _ _).trans hwithin
  · exact (length_requested_le nodes hid _ now).trans (one_le_budget cfg pass)

theorem length_candidates_le_one {pass : Pass} {nodes : List VpnNode} {now : Time}
    (h : (nodes.filter (connectable · now)).length ≤ 1) :
    (pass.candidates cfg nodes now).length ≤ 1 := by
  by_cases hid : pass.requestedID = []
  · rw [Pass.candidates, hid, length_connectionCandidates, selectedCount]
    split_ifs <;> omega
  · exact length_requested_le nodes hid _ now

end Lengths

/-! ### The candidate loops of the goroutines -/

/-- The node of a call of `Connect`, whether the controller accepts or refuses it. -/
def Event.call? : Event → Option GoString
  | .accepted _ node => some node
  | .refused _ node => some node
  | _ => none

/-- The calls of `Connect` in a candidate loop. Each section runs in a state of its own,
since other goroutines run in between. -/
def loopCalls (cfg : Config) (tid : Nat) : Thread → List (Shared × Input) → List GoString
  | .loop l phase, (s, input) :: sections =>
    match connectCandidateStep cfg s tid l phase input with
    | some o => o.events.filterMap Event.call? ++ loopCalls cfg tid o.thread sections
    | none => []
  | _, _ => []

/-- The nodes on which a loop may still call `Connect`. -/
def Thread.uncalled : Thread → List VpnNode
  | .loop l .announce => l.node :: l.rest
  | .loop l .connect => l.node :: l.rest
  | .loop l _ => l.rest
  | _ => []

section Calls

variable {cfg : Config} {tid : Nat}

theorem uncalled_enterLoop {origin : Origin} {candidates : List VpnNode} {empty : Thread}
    (h : empty.uncalled = []) : (enterLoop origin candidates empty).uncalled = candidates := by
  cases candidates with
  | nil => exact h
  | cons node rest => rfl

theorem uncalled_nextAttempt (l : Loop) (err : GoString) :
    (nextAttempt l err).uncalled = l.rest := by
  unfold nextAttempt
  split
  · simp [Thread.uncalled, *]
  · simp [Thread.uncalled, *]

theorem uncalled_loopReturn (origin : Origin) : (loopReturn origin).uncalled = [] := by
  cases origin <;> rfl

theorem calls_removal (s : Shared) (cause : Removal) :
    (s.removal cause).filterMap Event.call? = [] := by
  unfold Shared.removal
  split <;> rfl

theorem LoopSection.calls {s : Shared} {l : Loop} {phase : Phase} {input : Input} {o : Result}
    (h : LoopSection cfg s tid l phase input o) :
    o.events.filterMap Event.call? ++ ids o.thread.uncalled <+: ids (Thread.loop l phase).uncalled := by
  cases h with
  | unverified => simp [uncalled_loopReturn, List.filterMap_cons, Event.call?]
  | publish => simp [uncalled_loopReturn, List.filterMap_cons, Event.call?]
  | reject => simp [calls_removal, Thread.uncalled]
  | cool =>
    simp only [goTo_events, goTo_thread, uncalled_nextAttempt]
    simp [List.filterMap_cons, Event.call?, Thread.uncalled]
  | _ => simp [List.filterMap_cons, Event.call?, Thread.uncalled]

/-- However the sections of a loop are interleaved, its calls follow the candidates. -/
theorem loopCalls_follow (cfg : Config) (tid : Nat) (t : Thread) (sections : List (Shared × Input)) :
    loopCalls cfg tid t sections <+: ids t.uncalled := by
  induction sections generalizing t with
  | nil => simp [loopCalls]
  | cons first sections ih =>
    cases t with
    | loop l phase =>
      rw [loopCalls]
      cases ho : connectCandidateStep cfg first.1 tid l phase first.2 with
      | none => simp
      | some o =>
        have hmore := (List.prefix_append_right_inj (o.events.filterMap Event.call?)).mpr
          (ih o.thread)
        exact hmore.trans (loopSection_of_step ho).calls
    | _ => simp [loopCalls]

theorem loopCalls_loopReturn (origin : Origin) (sections : List (Shared × Input)) :
    loopCalls cfg tid (loopReturn origin) sections = [] := by
  cases origin <;> simp [loopReturn, loopCalls]

def failingSections (s : Shared) : List (Shared × Input) :=
  [(s, .go), (s, .go), (s, .handshake (.error [])), (s, .time s.clock)]

/-- The sections of an attempt that succeeds, with the tunnel up from the handshake on. -/
def succeedingSections (s : Shared) : List (Shared × Input) :=
  let up := s.setTunnel { s.tunnel with session := some ⟨0, []⟩ }
  [(s, .go), (s, .go), (s, .handshake (.ok ())), (up, .time s.clock), (up, .go),
    (up, .verified (.ok { passed := true })), (up, .time s.clock)]

theorem loopCalls_failing {s : Shared} (hs : s.tunnel.session = none)
    (hc : s.tunnel.connecting = false) (l : Loop) (sections : List (Shared × Input)) :
    ∃ err, loopCalls cfg tid (.loop l .announce) (failingSections s ++ sections) =
      l.node.id :: loopCalls cfg tid (nextAttempt l err) sections := by
  refine ⟨lit "OpenVPN 连接失败: " ++ [], ?_⟩
  simp [failingSections, loopCalls, connectCandidateStep, next, OpenVPNController.beginConnect, hs,
    hc, List.filterMap_cons, Event.call?]

theorem loopCalls_succeeding {s : Shared} (hs : s.tunnel.session = none)
    (hc : s.tunnel.connecting = false) (ho : s.closed = []) {l : Loop}
    (hp : reachesHandshake l.node = true) :
    loopCalls cfg tid (.loop l .announce) (succeedingSections s) = [l.node.id] := by
  cases hv : cfg.verify.enabled <;>
    simp [succeedingSections, loopCalls, connectCandidateStep, next, hp,
      OpenVPNController.beginConnect, hs, hc, ho, hv, List.filterMap_cons, Event.call?,
      loopCalls_loopReturn]

/-- Every pattern of failures is the pattern of some run of the loop, if every profile reaches
the handshake. -/
theorem exists_loopCalls (fails : Nat → Bool) {s : Shared} (hs : s.tunnel.session = none)
    (hc : s.tunnel.connecting = false) (ho : s.closed = []) (l : Loop)
    (hp : ∀ n ∈ l.node :: l.rest, reachesHandshake n = true) (attempt : Nat) :
    ∃ sections, loopCalls cfg tid (.loop l .announce) sections =
      ids (attempted fails attempt (l.node :: l.rest)) := by
  obtain ⟨origin, total, k, node, rest⟩ := l
  have hfirst : reachesHandshake node = true := hp node (List.mem_cons_self ..)
  induction rest generalizing k node attempt with
  | nil =>
    refine ⟨succeedingSections s, ?_⟩
    rw [loopCalls_succeeding hs hc ho hfirst]
    simp [attempted, ids]
  | cons second rest ih =>
    cases hfails : fails attempt with
    | false =>
      refine ⟨succeedingSections s, ?_⟩
      rw [loopCalls_succeeding hs hc ho hfirst]
      simp [attempted, hfails, ids]
    | true =>
      have hrest : ∀ n ∈ second :: rest, reachesHandshake n = true :=
        fun n hn => hp n (List.mem_cons_of_mem node hn)
      obtain ⟨sections, hsections⟩ :=
        ih (attempt + 1) (k + 1) second hrest (hrest second (List.mem_cons_self ..))
      obtain ⟨err, herr⟩ := loopCalls_failing hs hc ⟨origin, total, k, node, second :: rest⟩ sections
      refine ⟨failingSections s ++ sections, ?_⟩
      rw [herr, nextAttempt, hsections]
      simp [attempted, hfails, ids]

theorem passBegan_notMem_removal (s : Shared) (cause : Removal) :
    .passBegan tid ∉ s.removal cause := by
  intro h
  obtain ⟨S, -, hS⟩ := Shared.mem_removal h
  cases hS

/-- Every goroutine that enters a candidate loop makes one of the passes. -/
theorem pass_entered {s : Shared} {t : Thread} {input : Input} {o : Result}
    (h : Section cfg s tid t input o) (hbegan : .passBegan tid ∈ o.events) :
    ∃ (pass : Pass) (now : Time) (empty : Thread), empty.uncalled = [] ∧
      o.thread = enterLoop pass.origin (pass.candidates cfg o.shared.nodes.nodes now) empty := by
  cases h with
  | connect h =>
    cases h with
    | @select requestedID now ht => exact ⟨.connect requestedID, now, .done, rfl, rfl⟩
    | _ => simp at hbegan
  | auto h =>
    cases h with
    | @commit previousNodes nodes logs now later installed hi hn hl =>
      exact ⟨.autoConnectExit, later, .done, rfl, rfl⟩
    | _ => simp at hbegan
  | monitor h =>
    cases h with
    | @recoverSelect now ht => exact ⟨.recoverExit, now, .exhausted .recover 0 none, rfl, rfl⟩
    | healthDrop => exact absurd hbegan (passBegan_notMem_removal _ _)
    | _ => simp at hbegan
  | loop h =>
    cases h with
    | reject => exact absurd hbegan (passBegan_notMem_removal _ _)
    | _ => simp at hbegan
  | disconnect h =>
    cases h with
    | start => exact absurd hbegan (passBegan_notMem_removal _ _)
    | _ => simp at hbegan
  | maintenance h => cases h <;> simp at hbegan
  | verifyExit h => cases h <;> simp at hbegan
  | exhausted => simp at hbegan
  | watchCurrent hs => exact absurd hbegan (passBegan_notMem_removal _ _)
  | watchOther hs => simp at hbegan
  | watchClosed hs => simp at hbegan
  | closing => simp at hbegan

end Calls

/-- The calls of a limited pass, however its sections are interleaved with others. -/
theorem calls_within_budget {cfg : Config} {pass : Pass} (hstarted : pass.started cfg)
    (hlimited : pass.limited cfg) {nodes : List VpnNode} {now : Time} {empty : Thread}
    (hempty : empty.uncalled = []) (tid : Nat) (sections : List (Shared × Input)) :
    (loopCalls cfg tid (enterLoop pass.origin (pass.candidates cfg nodes now) empty)
      sections).length ≤ pass.budget cfg := by
  have hcalls := (loopCalls_follow cfg tid
    (enterLoop pass.origin (pass.candidates cfg nodes now) empty) sections).length_le
  rw [uncalled_enterLoop hempty, ids, List.length_map] at hcalls
  exact hcalls.trans (length_candidates_le hstarted hlimited nodes now)

/-- One pass stays within its budget exactly if the configuration limits it, or at most one
node is connectable, or the first attempt succeeds. -/
theorem attempts_within_budget_iff {cfg : Config} {pass : Pass} (hstarted : pass.started cfg)
    (nodes : List VpnNode) (now : Time) (fails : Nat → Bool) :
    (attempted fails 0 (pass.candidates cfg nodes now)).length ≤ pass.budget cfg ↔
      pass.limited cfg ∨ (nodes.filter (connectable · now)).length ≤ 1 ∨ fails 0 = false := by
  have hbudget := one_le_budget cfg pass
  have hall := length_attempted_le fails 0 (pass.candidates cfg nodes now)
  constructor
  · intro hle
    by_contra hnot
    obtain ⟨hlimited, hmany, hfails⟩ := not_or.mp hnot |>.imp_right not_or.mp
    obtain ⟨hid, hone, hlimit⟩ := limit_of_not_limited hstarted hlimited
    have hlen : 1 < (pass.candidates cfg nodes now).length := by
      rw [Pass.candidates, hid, length_connectionCandidates, selectedCount]
      split_ifs <;> omega
    have hmore := one_lt_length_attempted (by simpa using hfails) hlen
    omega
  · rintro (hlimited | hfew | hfirst)
    · exact hall.trans (length_candidates_le hstarted hlimited nodes now)
    · exact (hall.trans (length_candidates_le_one hfew)).trans hbudget
    · exact (length_attempted_of_success hfirst _).trans hbudget

theorem attempts_within_budget_default :
    initialized.validate id = .ok () ∧
      (attempted (fun _ => true) 0 (Pass.recoverExit.candidates initialized.toConfig tiedNodes
        0)).length ≤ Pass.recoverExit.budget initialized.toConfig := by
  have h : initialized.validate id = .ok () := by decide +kernel
  have hstarted : Pass.recoverExit.started initialized.toConfig := ⟨rfl, rfl⟩
  exact ⟨h, (attempts_within_budget_iff hstarted tiedNodes 0 _).mpr (.inl (by decide : (0 : Int) < 5))⟩

/-- With a limit of zero a connect request tries every connectable node. -/
theorem zero_limit_exceeds_budget :
    ¬ ∀ (quote : GoString → GoString) (cfg : Settings) (pass : Pass) (nodes : List VpnNode)
      (now : Time) (fails : Nat → Bool), cfg.validate quote = .ok () →
      pass.started cfg.toConfig →
      (attempted fails 0 (pass.candidates cfg.toConfig nodes now)).length ≤
        pass.budget cfg.toConfig := by
  intro hclaim
  let cfg : Settings := { initialized with failover := { maxAttempts := 0 } }
  have h : cfg.validate id = .ok () := by decide +kernel
  have hle := hclaim id cfg (.connect []) tiedNodes 0 (fun _ => true) h trivial
  revert hle
  decide +kernel

/-- With failover disabled the startup connection still tries a second node. -/
example : (attempted (fun _ => true) 0 (Pass.autoConnectExit.candidates
    { failover := { enabled := false } } tiedNodes 0)).length = 2 := by
  decide +kernel

end ResidentialIPManager.Web
