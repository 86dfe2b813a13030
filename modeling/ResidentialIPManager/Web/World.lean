import ResidentialIPManager.Storage.State
import ResidentialIPManager.Web.Monitor

/-! # The server as a transition system

Requests arrive, goroutines run their sections, time passes and contexts are
cancelled. `World.invariant` is the induction rule for the runs of the server.
-/
namespace ResidentialIPManager.Web
open Text Domain Tunnel Transition

/-- The function that a goroutine was started with. -/
inductive Family where
  | maintenance
  | verifyExit
  | connect
  | disconnect
  | auto
  | monitor
  | watch
  | done
  deriving DecidableEq

def Origin.family : Origin → Family
  | .connect => .connect
  | .auto => .auto
  | .recover => .monitor

def Thread.family : Thread → Family
  | .maintenance _ _ => .maintenance
  | .verifyExit _ => .verifyExit
  | .connect _ => .connect
  | .disconnect _ => .disconnect
  | .autoConnectExit _ => .auto
  | .loop l _ => l.origin.family
  | .exhausted origin _ _ => origin.family
  | .monitor _ => .monitor
  | .watch _ => .watch
  | .closing _ => .watch
  | .done => .done

theorem enterLoop_family {origin : Origin} {candidates : List VpnNode} {empty : Thread}
    (h : empty.family = origin.family ∨ empty = .done) :
    (enterLoop origin candidates empty).family = origin.family ∨
      enterLoop origin candidates empty = .done := by
  cases candidates with
  | nil => exact h
  | cons node rest => exact .inl rfl

theorem loopReturn_family (origin : Origin) :
    (loopReturn origin).family = origin.family ∨ loopReturn origin = .done := by
  cases origin with
  | connect => exact .inr rfl
  | auto => exact .inr rfl
  | recover => exact .inl rfl

theorem nextAttempt_family (l : Loop) (err : GoString) :
    (nextAttempt l err).family = l.origin.family := by
  unfold nextAttempt
  split <;> rfl

theorem healthFailed_family (cfg : Config) (hf : Nat) (reason : GoString) :
    (healthFailed cfg hf reason).family = .monitor := by
  unfold healthFailed
  split_ifs <;> rfl

/-- A position that remembers nothing of the sections before it but the loop it heads or
the failures it has counted. -/
def Thread.between : Thread → Bool
  | .done => true
  | .loop _ .announce => true
  | .exhausted _ _ _ => true
  | .monitor (.idle _) => true
  | .monitor (.healthDrop _) => true
  | _ => false

theorem between_enterLoop {origin : Origin} {candidates : List VpnNode} {empty : Thread}
    (h : empty.between = true) : (enterLoop origin candidates empty).between = true := by
  cases candidates with
  | nil => exact h
  | cons node rest => rfl

theorem between_loopReturn (origin : Origin) : (loopReturn origin).between = true := by
  cases origin <;> rfl

theorem between_nextAttempt (l : Loop) (err : GoString) : (nextAttempt l err).between = true := by
  unfold nextAttempt
  split <;> rfl

theorem between_healthFailed (cfg : Config) (hf : Nat) (reason : GoString) :
    (healthFailed cfg hf reason).between = true := by
  unfold healthFailed
  split_ifs <;> rfl

/-- A property of all these positions, read off the constructors. -/
theorem Thread.between_cases {t : Thread} (h : t.between = true) :
    t = .done ∨ (∃ l, t = .loop l .announce) ∨ (∃ origin total err, t = .exhausted origin total err) ∨
      (∃ hf, t = .monitor (.idle hf)) ∨ ∃ reason, t = .monitor (.healthDrop reason) := by
  unfold Thread.between at h
  split at h
  · exact .inl rfl
  · exact .inr (.inl ⟨_, rfl⟩)
  · exact .inr (.inr (.inl ⟨_, _, _, rfl⟩))
  · exact .inr (.inr (.inr (.inl ⟨_, rfl⟩)))
  · exact .inr (.inr (.inr (.inr ⟨_, rfl⟩)))
  · cases h

/-- A goroutine stays in its function until it returns. -/
theorem Section.family {cfg : Config} {s : Shared} {tid : Nat} {t : Thread} {input : Input}
    {o : Result} (h : Section cfg s tid t input o) :
    o.thread.family = t.family ∨ o.thread = .done := by
  cases h with
  | maintenance h => cases h <;> first | exact .inl rfl | exact .inr rfl
  | verifyExit h => cases h <;> first | exact .inl rfl | exact .inr rfl
  | connect h =>
    cases h with
    | keep => exact .inr rfl
    | select => exact enterLoop_family (.inr rfl)
    | _ => exact .inl rfl
  | disconnect h => cases h <;> first | exact .inl rfl | exact .inr rfl
  | auto h =>
    cases h with
    | fetchFailed => exact .inr rfl
    | commit => exact enterLoop_family (.inr rfl)
    | _ => exact .inl rfl
  | loop h =>
    cases h with
    | unverified => exact loopReturn_family _
    | publish => exact loopReturn_family _
    | cool => exact .inl (nextAttempt_family _ _)
    | _ => exact .inl rfl
  | exhausted => exact loopReturn_family _
  | monitor h =>
    cases h with
    | stopped => exact .inr rfl
    | recoverSelect => exact enterLoop_family (.inl rfl)
    | healthMissing => exact .inl (healthFailed_family _ _ _)
    | healthNotPassed => exact .inl (healthFailed_family _ _ _)
    | healthReachFailed => exact .inl (healthFailed_family _ _ _)
    | healthNotReached => exact .inl (healthFailed_family _ _ _)
    | _ => exact .inl rfl
  | watchCurrent => exact .inl rfl
  | watchOther => exact .inl rfl
  | watchClosed => exact .inr rfl
  | closing => exact .inr rfl

theorem Section.verifyExit_inv {cfg : Config} {s : Shared} {tid : Nat} {t : Thread}
    {input : Input} {o : Result} {pc : VerifyExitPc} (h : Section cfg s tid t input o)
    (ho : o.thread = .verifyExit pc) :
    ∃ pc', t = .verifyExit pc' ∧ VerifyExitSection s tid pc' input o := by
  have hf : t.family = .verifyExit := by
    rcases h.family with hf | hd
    · rw [← hf, ho]
      rfl
    · simp [hd] at ho
  cases h with
  | verifyExit h => exact ⟨_, rfl, h⟩
  | @loop l phase _ _ h =>
    rcases l with ⟨origin, total, attempt, node, rest⟩
    cases origin <;> cases hf
  | @exhausted origin => cases origin <;> cases hf
  | _ => cases hf

def Request.thread : Request → Thread
  | .maintenance kind => .maintenance kind .start
  | .verifyExit => .verifyExit .start
  | .connect requestedID => .connect (.start requestedID)
  | .disconnect => .disconnect .start

def Request.events (tid : Nat) : Request → List Event
  | .connect _ => [.connectRequested tid]
  | .disconnect => [.disconnectRequested tid]
  | _ => []

namespace World

def receive (w : World) (r : Request) : World :=
  ⟨w.shared, w.threads ++ [r.thread], r.events w.threads.length ++ w.history⟩

def withShared (w : World) (s : Shared) : World := ⟨s, w.threads, w.history⟩

def step (cfg : Config) (w : World) : Action → Option World
  | .request r => some (receive w r)
  | .run tid input =>
    match w.threads[tid]? with
    | some t => (stepThread cfg w.shared tid t input).map (w.move tid)
    | none => none
  | .advance elapsed =>
    some (withShared w { w.shared with clock := w.shared.clock + elapsed })
  | .cancel tid =>
    some (withShared w { w.shared with cancelled := tid :: w.shared.cancelled })
  | .stop => some (withShared w { w.shared with stopped := true })

/-- The goroutines of `startGatewayAutomation`. -/
def automation (cfg : Config) : List Thread :=
  (if cfg.deployment.autoConnectExit ∧ cfg.failover.enabled then [.monitor (.idle 0)] else []) ++
    (if cfg.deployment.autoConnectExit then [.autoConnectExit .start] else [])

/-- The server after start, with the state file it found. -/
def boot (cfg : Config) (file : Option Storage.State) : World :=
  ⟨{ nodes := (Storage.load file).nodes, snapshot := (Storage.load file).snapshot },
    automation cfg, []⟩

abbrev Guard := World → Action → Bool

def unrestricted : Guard := fun _ _ => true

/-- The server reaches `w` from its start, along steps that meet `guard`. -/
def Reachable (cfg : Config) (file : Option Storage.State) (guard : Guard) (w : World) : Prop :=
  Reaches (step cfg) (fun w a => guard w a = true) (boot cfg file) w

structure Passive (s s' : Shared) : Prop where
  nodes : s'.nodes = s.nodes
  snapshot : s'.snapshot = s.snapshot
  tunnel : s'.tunnel = s.tunnel
  clock : s.clock ≤ s'.clock

theorem mem_automation {cfg : Config} {t : Thread} (h : t ∈ automation cfg) :
    t = .monitor (.idle 0) ∨ t = .autoConnectExit .start := by
  unfold automation at h
  rcases List.mem_append.mp h with h | h
  · split_ifs at h
    · exact .inl (List.mem_singleton.mp h)
    · simp at h
  · split_ifs at h
    · exact .inr (List.mem_singleton.mp h)
    · simp at h

variable {cfg : Config} {file : Option Storage.State} {guard : Guard}

theorem step_run {w v : World} {tid : Nat} {input : Input}
    (h : step cfg w (.run tid input) = some v) :
    ∃ t o, w.threads[tid]? = some t ∧ Section cfg w.shared tid t input o ∧ v = w.move tid o := by
  change (match w.threads[tid]? with
    | some t => (stepThread cfg w.shared tid t input).map (w.move tid)
    | none => none) = some v at h
  cases ht : w.threads[tid]? with
  | none => simp [ht] at h
  | some t =>
    simp only [ht] at h
    obtain ⟨o, ho, rfl⟩ := Option.map_eq_some_iff.mp h
    exact ⟨t, o, rfl, section_of_step ho, rfl⟩

theorem step_cases {w v : World} {a : Action} (h : step cfg w a = some v) :
    (∃ r, a = .request r ∧ v = receive w r) ∨
    (∃ tid t input o, a = .run tid input ∧ w.threads[tid]? = some t ∧
      Section cfg w.shared tid t input o ∧ v = w.move tid o) ∨
    (∃ s, Passive w.shared s ∧ v = withShared w s) := by
  cases a with
  | request r => exact .inl ⟨r, rfl, (Option.some.inj h).symm⟩
  | run tid input =>
    obtain ⟨t, o, ht, hsec, hv⟩ := step_run h
    exact .inr (.inl ⟨tid, t, input, o, rfl, ht, hsec, hv⟩)
  | advance elapsed =>
    obtain rfl := Option.some.inj h
    refine .inr (.inr ⟨_, ?_, rfl⟩)
    exact ⟨rfl, rfl, rfl, Int.le_add_of_nonneg_right (Int.natCast_nonneg elapsed)⟩
  | cancel tid =>
    obtain rfl := Option.some.inj h
    refine .inr (.inr ⟨_, ?_, rfl⟩)
    exact ⟨rfl, rfl, rfl, le_refl _⟩
  | stop =>
    obtain rfl := Option.some.inj h
    refine .inr (.inr ⟨_, ?_, rfl⟩)
    exact ⟨rfl, rfl, rfl, le_refl _⟩

/-- The induction rule: an invariant is established at start and kept by every
request, every section and every passive change. -/
theorem invariant {Inv : World → Prop} {w : World} (h : Reachable cfg file guard w)
    (hboot : Inv (boot cfg file))
    (hrequest : ∀ w r, Inv w → guard w (.request r) = true → Inv (receive w r))
    (hrun : ∀ w tid t input o, Inv w → guard w (.run tid input) = true →
      w.threads[tid]? = some t →
      Section cfg w.shared tid t input o → Inv (w.move tid o))
    (hpassive : ∀ w s, Inv w → Passive w.shared s → Inv (withShared w s)) : Inv w := by
  refine Reaches.invariant h hboot fun t u a hinv hok hs => ?_
  rcases step_cases hs with ⟨r, rfl, rfl⟩ | ⟨tid, t', input, o, rfl, ht, hsec, rfl⟩ | ⟨s, hp, rfl⟩
  · exact hrequest _ _ hinv hok
  · exact hrun _ _ _ _ _ hinv hok ht hsec
  · exact hpassive _ _ hinv hp

theorem exists_reachable (cfg : Config) (file : Option Storage.State) (guard : Guard)
    (P : World → Prop) [DecidablePred P] (l : List Action)
    (h : (runWhile (step cfg) (fun w a => guard w a = true) l (boot cfg file)).any
      (fun w => decide (P w)) = true) : ∃ w, Reachable cfg file guard w ∧ P w := by
  obtain ⟨w, hw, hp⟩ := (Option.any_eq_true _ _).mp h
  exact ⟨w, Reaches.of_runWhile hw, of_decide_eq_true hp⟩

end World

/-- The nodes of the concrete runs in the modules that follow, with a profile as a VPNGate list
has it. -/
def fetchedNode (id host : GoString) : VpnNode where
  id := id
  ip := host
  remoteHost := host
  remotePort := 443
  protocol := lit "tcp"
  countryCode := lit "JP"
  purityGrade := .candidate
  openVPNConfig := lit "proto tcp\nremote " ++ host ++ lit " 443\ncipher AES-128-CBC\nauth SHA1\n"

def idA : GoString := lit "JP_1.1.1.1_443_tcp"

def idB : GoString := lit "JP_8.8.8.8_443_tcp"

def nodeA : VpnNode := fetchedNode idA (lit "1.1.1.1")

def nodeB : VpnNode := fetchedNode idB (lit "8.8.8.8")

def twoNodes : NodeCache := ⟨[nodeA, nodeB], by decide, by decide⟩

def onlyB : NodeCache := ⟨[nodeB], by decide, by decide⟩

/-- A configuration without the automatic goroutines. -/
def manual : Config := { deployment := { autoConnectExit := false } }

def refreshRun (tid : Nat) (fetched : NodeCache) : List Action :=
  [.request (.maintenance .refresh), .run tid .go, .run tid .go, .run tid .go,
    .run tid (.fetched (.ok fetched) 0)]

def connectRun (tid : Nat) (id : GoString) : List Action :=
  [.request (.connect id), .run tid .go, .run tid (.time 0), .run tid .go, .run tid .go]

def successRun (tid : Nat) : List Action :=
  [.run tid (.handshake (.ok ())), .run tid (.time 0), .run tid .go,
    .run tid (.verified (.ok { passed := true })), .run tid (.time 0)]

def disconnectRun (tid : Nat) : List Action :=
  [.request .disconnect, .run tid .go, .run tid .go, .run tid .go, .run tid .go]

/-- The startup connection under the default configuration: it fetches both nodes, gets no
record from the classifier, measures the same latency for both and connects the first. -/
def startupRun : List Action :=
  [.run 1 .go, .run 1 .go, .run 1 (.fetched (.ok twoNodes) 0), .run 1 (.classified (.ok []) 0),
    .run 1 (.probed (fun _ => ⟨0, fun _ => .ok 0⟩) 0 0), .run 1 .go, .run 1 .go] ++ successRun 1

end ResidentialIPManager.Web
