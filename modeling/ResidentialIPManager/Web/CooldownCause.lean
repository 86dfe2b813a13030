import ResidentialIPManager.Transition.History
import ResidentialIPManager.Web.Closing
import ResidentialIPManager.Web.Handshakes

/-! # Only nodes that failed enter cooldown

A candidate loop sends every error of `connectCandidate` to `cooldownNode`, also
those that say nothing about the node. `recoverExit` cools whatever node the
snapshot names. Cooldowns have a cause in the runs in which attempts start on a free
controller and fail under a live context, Connected is written only for the session
in place, no pass gives up its session under a Connected snapshot, and recovery
reads its failed node from a Connected snapshot that no disconnect is about to
reset.
-/
namespace ResidentialIPManager.Web
open Text Domain Tunnel Transition

def Event.attemptOf (tid : Nat) : Event → Bool
  | .accepted t _ => t = tid
  | .refused t _ => t = tid
  | .attemptFailed t _ _ => t = tid
  | _ => false

def Event.sessionOf (id : GoString) : Event → Bool
  | .established _ node => node = id
  | .removed _ node _ => node = id
  | _ => false

def attempts (tid : Nat) (h : History) : History := h.filter (Event.attemptOf tid)

/-- The last attempt of the goroutine was accepted for `id` and failed while its
context was alive. -/
def AttemptFailed (tid : Nat) (id : GoString) (h : History) : Prop :=
  ∃ rest, attempts tid h = .attemptFailed tid id false :: .accepted tid id :: rest

def lost (id : GoString) (h : History) : Bool :=
  match h.find? (Event.sessionOf id) with
  | some (.removed _ _ .dataPath) => true
  | some (.removed _ _ .health) => true
  | _ => false

/-- When the goroutine last began a recovery, node `id` had lost its session. -/
def ExitLost (tid : Nat) (id : GoString) (h : History) : Prop :=
  ∃ newer older, h = newer ++ Event.recovering tid id :: older ∧
    (∀ id', Event.recovering tid id' ∉ newer) ∧ lost id older = true

def CooldownsCaused (h : History) : Prop :=
  Throughout (fun e before => ∀ tid id d, e = .cooldownNode tid id d →
    AttemptFailed tid id before ∨ ExitLost tid id before) h

def Thread.failsAttempt (held : Option VpnSession) : Thread → Input → Option Origin
  | .loop l .handshake, .handshake (.error _) => some l.origin
  | .loop l (.dial _ _), _ => if held.isNone then some l.origin else none
  | .loop l (.await _ _ _), .verified (.error _) => some l.origin
  | .loop l (.await _ _ _), .verified (.ok result) => if result.passed then none else some l.origin
  | _, _ => none

/-- If the next section writes Connected, it names the session in place. -/
def Thread.namesSession (cfg : Config) (held : Option VpnSession) : Thread → Bool
  | .maintenance _ (.fail _ environment _) =>
    !environment.running || decide (held.map (·.nodeID) = some environment.nodeID)
  | .connect (.keep environment _) =>
    !environment.running || decide (held.map (·.nodeID) = some environment.nodeID)
  | .verifyExit (.apply node _ result) =>
    !result.passed || decide (held.map (·.nodeID) = some node.id)
  | .loop _ (.publish session _ _ _) => decide (held.map (·.id) = some session)
  | .loop _ (.verify session) => cfg.verify.enabled || decide (held.map (·.id) = some session)
  | _ => true

/-- The handler has cleared the session and not yet the snapshot. -/
def Thread.resetting : Thread → Bool
  | .disconnect (.close _) => true
  | .disconnect .reset => true
  | _ => false

namespace World

def genuineSection (cfg : Config) (w : World) (tid : Nat) (t : Thread) (input : Input) : Bool :=
  t.namesSession cfg w.shared.tunnel.session &&
  (t.failsAttempt w.shared.tunnel.session input).all
    (fun origin => !w.shared.ctxCancelled tid origin) &&
  match t with
  | .loop _ .connect => w.shared.tunnel.session.isNone && !w.shared.tunnel.connecting
  | .loop _ (.reject _ _) => decide (w.shared.snapshot.state ≠ .connected)
  | .monitor (.recoverNode _) =>
    decide (w.shared.snapshot.activeNodeID = []) ||
      (decide (w.shared.snapshot.state = .connected) && w.shared.tunnel.session.isNone &&
        !w.threads.any Thread.resetting)
  | _ => true

def failuresGenuine (cfg : Config) : Guard := fun w a =>
  match a with
  | .run tid input => (w.threads[tid]?).all (fun t => genuineSection cfg w tid t input)
  | _ => true

end World

variable {cfg : Config} {s : Shared} {tid : Nat} {t : Thread} {input : Input} {o : Result}

theorem lost_append {id : GoString} {l h : History} (hl : ∀ e ∈ l, e.sessionOf id = false) :
    lost id (l ++ h) = lost id h := by
  unfold lost
  rw [List.find?_append, List.find?_eq_none.mpr (by simpa using hl), Option.none_or]

theorem lost_cons_removed {id node : GoString} {session : Nat} {cause : Removal} {h : History}
    (hc : cause = .dataPath ∨ cause = .health) (hor : node = id ∨ lost id h = true) :
    lost id (.removed session node cause :: h) = true := by
  by_cases hid : node = id
  · rcases hc with rfl | rfl <;> simp [lost, Event.sessionOf, hid]
  · have happ : lost id ([.removed session node cause] ++ h) = lost id h :=
      lost_append (by simp [Event.sessionOf, hid])
    exact happ.trans (hor.resolve_left hid)

theorem attempts_append_other {j : Nat} {l h : History} (hl : ∀ e ∈ l, e.attemptOf j = false) :
    attempts j (l ++ h) = attempts j h := by
  unfold attempts
  rw [List.filter_append, List.filter_eq_nil_iff.mpr (by simpa using hl), List.nil_append]

theorem ExitLost.append {j : Nat} {id : GoString} {l h : History} (hx : ExitLost j id h)
    (hl : ∀ id', Event.recovering j id' ∉ l) : ExitLost j id (l ++ h) := by
  obtain ⟨newer, older, rfl, hnew, hlost⟩ := hx
  refine ⟨l ++ newer, older, by simp, fun id' hmem => ?_, hlost⟩
  rcases List.mem_append.mp hmem with hm | hm
  · exact hl id' hm
  · exact hnew id' hm

/-- A section reports only the attempts and recoveries of its own goroutine. -/
theorem Section.events_own (h : Section cfg s tid t input o) {j : Nat} (hj : j ≠ tid) :
    (∀ e ∈ o.events, e.attemptOf j = false) ∧ ∀ id, Event.recovering j id ∉ o.events := by
  have hremoval (cause : Removal) : (∀ e ∈ s.removal cause, e.attemptOf j = false) ∧
      ∀ id, Event.recovering j id ∉ s.removal cause := by
    refine ⟨fun e he => ?_, fun id he => ?_⟩
    · obtain ⟨S, -, rfl⟩ := Shared.mem_removal he
      rfl
    · obtain ⟨S, -, heq⟩ := Shared.mem_removal he
      cases heq
  have htid : tid ≠ j := hj.symm
  cases h with
  | maintenance h => cases h <;> simp [Event.attemptOf]
  | verifyExit h => cases h <;> simp [Event.attemptOf]
  | connect h => cases h <;> simp [Event.attemptOf]
  | disconnect h =>
    cases h with
    | start => exact hremoval _
    | _ => simp [Event.attemptOf]
  | auto h => cases h <;> simp [Event.attemptOf]
  | loop h =>
    cases h with
    | reject => exact hremoval _
    | _ => simp [Event.attemptOf, htid]
  | exhausted => simp [Event.attemptOf]
  | monitor h =>
    cases h with
    | healthDrop => exact hremoval _
    | _ => simp [Event.attemptOf, hj]
  | watchCurrent => exact hremoval _
  | watchOther => simp
  | watchClosed => simp
  | closing => simp

theorem Event.sessionOf_of_not_session {e : Event} (h : e.isSession = false) (id : GoString) :
    e.sessionOf id = false := by
  cases e with
  | established _ _ => simp [Event.isSession] at h
  | removed _ _ _ => simp [Event.isSession] at h
  | _ => rfl

theorem nodeMaintenanceSnapshot_names {S : VpnSession} {previous : ConnectionSnapshot}
    {env : EnvironmentReport} {message : GoString} (hr : env.running = true)
    (hid : env.nodeID = S.nodeID) (hS : S.nodeID ≠ []) :
    (nodeMaintenanceSnapshot previous env message).activeNodeID = S.nodeID := by
  simp [nodeMaintenanceSnapshot, hr, hid, hS]

/-- Connected is written with the node of the session in place. -/
theorem Connects.names {x : ConnectionSnapshot} (h : Connects cfg s t input x)
    (hnamed : ∀ S, s.tunnel.session = some S → S.nodeID ≠ []) (ht : ThreadSane s t)
    (hn : t.namesSession cfg s.tunnel.session = true) :
    ∃ S, s.tunnel.session = some S ∧ x.activeNodeID = S.nodeID := by
  cases h with
  | @commit _ _ _ _ _ S hS =>
    refine ⟨S, hS, nodeMaintenanceSnapshot_names ?_ ?_ (hnamed S hS)⟩
    · simp [hS]
    · simp [OpenVPNController.checkEnvironment, hS]
  | fail hr =>
    simp only [Thread.namesSession, hr, Bool.not_true, Bool.false_or, decide_eq_true_eq] at hn
    obtain ⟨S, hS, hid⟩ := Option.map_eq_some_iff.mp hn
    exact ⟨S, hS, nodeMaintenanceSnapshot_names hr hid.symm (hnamed S hS)⟩
  | keep hr =>
    simp only [Thread.namesSession, hr, Bool.not_true, Bool.false_or, decide_eq_true_eq] at hn
    obtain ⟨S, hS, hid⟩ := Option.map_eq_some_iff.mp hn
    exact ⟨S, hS, nodeMaintenanceSnapshot_names hr hid.symm (hnamed S hS)⟩
  | apply hp =>
    simp only [Thread.namesSession, hp, Bool.not_true, Bool.false_or, decide_eq_true_eq] at hn
    obtain ⟨S, hS, hid⟩ := Option.map_eq_some_iff.mp hn
    exact ⟨S, hS, hid.symm⟩
  | publish =>
    simp only [Thread.namesSession, decide_eq_true_eq] at hn
    obtain ⟨S, hS, hid⟩ := Option.map_eq_some_iff.mp hn
    exact ⟨S, hS, ((ht _ _ rfl).owner S hS (congrArg some hid.symm)).symm⟩
  | unverified hoff =>
    simp only [Thread.namesSession, hoff, Bool.false_or, decide_eq_true_eq] at hn
    obtain ⟨S, hS, hid⟩ := Option.map_eq_some_iff.mp hn
    exact ⟨S, hS, ((ht _ _ rfl).owner S hS (congrArg some hid.symm)).symm⟩

/-- Who executes `cooldownNode`. -/
theorem Section.cooldown_events (h : Section cfg s tid t input o) {j : Nat} {id : GoString}
    {d : Option Time} (hmem : Event.cooldownNode j id d ∈ o.events) :
    j = tid ∧ o.events = [.cooldownNode j id d] ∧
      ((∃ l err, t = .loop l (.cool err) ∧ l.node.id = id) ∨
        ∃ reason, t = .monitor (.recoverCool reason id) ∧ id ≠ []) := by
  have hnone (cause : Removal) : Event.cooldownNode j id d ∉ s.removal cause := by
    intro he
    obtain ⟨S, -, heq⟩ := Shared.mem_removal he
    cases heq
  cases h with
  | loop h =>
    cases h with
    | cool =>
      obtain ⟨rfl, rfl, rfl⟩ := Event.cooldownNode.inj (List.mem_singleton.mp hmem)
      exact ⟨rfl, rfl, .inl ⟨_, _, rfl, rfl⟩⟩
    | reject => exact absurd hmem (hnone _)
    | _ => simp at hmem
  | monitor h =>
    cases h with
    | recoverCool _ hf =>
      obtain ⟨rfl, rfl, rfl⟩ := Event.cooldownNode.inj (List.mem_singleton.mp hmem)
      exact ⟨rfl, rfl, .inr ⟨_, rfl, hf⟩⟩
    | healthDrop => exact absurd hmem (hnone _)
    | _ => simp at hmem
  | disconnect h =>
    cases h with
    | start => exact absurd hmem (hnone _)
    | _ => simp at hmem
  | watchCurrent => exact absurd hmem (hnone _)
  | maintenance h => cases h <;> simp at hmem
  | verifyExit h => cases h <;> simp at hmem
  | connect h => cases h <;> simp at hmem
  | auto h => cases h <;> simp at hmem
  | exhausted => simp at hmem
  | watchOther => simp at hmem
  | watchClosed => simp at hmem
  | closing => simp at hmem

def PhaseCause (h : History) (tid : Nat) (id : GoString) : Phase → Prop
  | .announce => True
  | .connect => True
  | .reject _ _ => AttemptFailed tid id h
  | .close _ _ => AttemptFailed tid id h
  | .cool _ => AttemptFailed tid id h
  | _ => ∃ rest, attempts tid h = .accepted tid id :: rest

def Thread.failedNode : Thread → Option GoString
  | .monitor (.recoverReason _ failedNodeID) => some failedNodeID
  | .monitor (.recoverCool _ failedNodeID) => some failedNodeID
  | _ => none

structure ThreadCause (h : History) (tid : Nat) (t : Thread) : Prop where
  loop : ∀ l phase, t = .loop l phase → PhaseCause h tid l.node.id phase
  recovery : ∀ id, t.failedNode = some id → id = [] ∨ ExitLost tid id h

theorem PhaseCause.congr {h h' : History} {id : GoString} {phase : Phase}
    (hp : PhaseCause h tid id phase) (ha : attempts tid h' = attempts tid h) :
    PhaseCause h' tid id phase := by
  cases phase with
  | announce => trivial
  | connect => trivial
  | reject => exact hp.imp fun rest hr => ha.trans hr
  | close => exact hp.imp fun rest hr => ha.trans hr
  | cool => exact hp.imp fun rest hr => ha.trans hr
  | _ => exact Exists.imp (fun rest hr => ha.trans hr) hp

theorem ThreadCause.append {h l : History} (hc : ThreadCause h tid t)
    (ha : ∀ e ∈ l, e.attemptOf tid = false) (hr : ∀ id, Event.recovering tid id ∉ l) :
    ThreadCause (l ++ h) tid t where
  loop lo phase heq := (hc.loop lo phase heq).congr (attempts_append_other ha)
  recovery id hid := (hc.recovery id hid).imp (fun hn => hn) (fun hx => hx.append hr)

theorem ThreadCause.of_other {h : History} (hl : ∀ l phase, t ≠ .loop l phase)
    (hf : t.failedNode = none) : ThreadCause h tid t where
  loop l phase heq := absurd heq (hl l phase)
  recovery id hid := by simp [hf] at hid

theorem ThreadCause.of_between {h : History} (ht : t.between = true) : ThreadCause h tid t := by
  rcases Thread.between_cases ht with rfl | ⟨l, rfl⟩ | ⟨origin, total, err, rfl⟩ | ⟨hf, rfl⟩ |
    ⟨reason, rfl⟩
  case inr.inl =>
    refine ⟨?_, fun id hid => by simp [Thread.failedNode] at hid⟩
    rintro l phase ⟨⟩
    trivial
  all_goals exact .of_other (by simp) rfl

/-- The positions inside an accepted attempt share their cause. -/
theorem ThreadCause.of_loop {h : History} {l : Loop} {phase : Phase}
    (hp : PhaseCause h tid l.node.id phase) : ThreadCause h tid (.loop l phase) where
  loop l' phase' heq := by
    obtain ⟨rfl, rfl⟩ := Thread.loop.inj heq
    exact hp
  recovery id hid := by simp [Thread.failedNode] at hid

theorem attemptFailed_of_accepted {h l : History} {id : GoString}
    (hacc : ∃ rest, attempts tid h = .accepted tid id :: rest)
    (hl : attempts tid l = [.attemptFailed tid id false]) : AttemptFailed tid id (l ++ h) := by
  obtain ⟨rest, hrest⟩ := hacc
  refine ⟨rest, ?_⟩
  unfold attempts at hl hrest ⊢
  rw [List.filter_append, hl, hrest, List.singleton_append]

theorem LoopSection.threadCause {w : World} {l : Loop} {phase : Phase}
    (h : LoopSection cfg w.shared tid l phase input o)
    (hg : World.genuineSection cfg w tid (.loop l phase) input = true)
    (hc : PhaseCause w.history tid l.node.id phase) :
    ThreadCause (o.events ++ w.history) tid o.thread := by
  simp only [World.genuineSection, Bool.and_eq_true] at hg
  obtain ⟨⟨-, hfail⟩, hpc⟩ := hg
  cases h with
  | announce => exact .of_loop trivial
  | refused hbusy =>
    simp only [Bool.and_eq_true, Option.isNone_iff_eq_none, Bool.not_eq_true'] at hpc
    rcases hbusy with hs | hcon
    · simp [hpc.1] at hs
    · simp [hpc.2] at hcon
  | accepted => exact .of_loop ⟨attempts tid w.history, by simp [attempts, Event.attemptOf]⟩
  | handshakeFailed =>
    have hlive : w.shared.ctxCancelled tid l.origin = false := by
      simpa [Thread.failsAttempt] using hfail
    exact .of_loop (attemptFailed_of_accepted hc (by simp [attempts, Event.attemptOf, hlive]))
  | dialFailed hs =>
    have hlive : w.shared.ctxCancelled tid l.origin = false := by
      simpa [Thread.failsAttempt, hs] using hfail
    exact .of_loop (attemptFailed_of_accepted hc (by simp [attempts, Event.attemptOf, hlive]))
  | noAnswer =>
    have hlive : w.shared.ctxCancelled tid l.origin = false := by
      simpa [Thread.failsAttempt] using hfail
    exact .of_loop (attemptFailed_of_accepted hc (by simp [attempts, Event.attemptOf, hlive]))
  | notPassed hp =>
    have hlive : w.shared.ctxCancelled tid l.origin = false := by
      simpa [Thread.failsAttempt, hp] using hfail
    exact .of_loop (attemptFailed_of_accepted hc (by simp [attempts, Event.attemptOf, hlive]))
  | reject =>
    have hclose : PhaseCause w.history tid l.node.id (.close none []) := hc
    refine .of_loop (PhaseCause.congr hclose (attempts_append_other fun e he => ?_))
    obtain ⟨S, -, rfl⟩ := Shared.mem_removal he
    rfl
  | close =>
    have hcool : PhaseCause w.history tid l.node.id (.cool []) := hc
    exact .of_loop (PhaseCause.congr hcool (attempts_append_other (by simp)))
  | unverified => exact .of_between (between_loopReturn _)
  | publish => exact .of_between (between_loopReturn _)
  | cool => exact .of_between (between_nextAttempt _ _)
  | _ => exact .of_loop (PhaseCause.congr hc (attempts_append_other (by simp [Event.attemptOf])))

/-- A Connected snapshot names the session in place or a node that lost its session,
unless a disconnect is about to reset it. -/
def Backed (w : World) : Prop :=
  w.shared.snapshot.state = .connected →
    Pool.Some (fun u => u.resetting = true) w.threads ∨
    (∃ S, w.shared.tunnel.session = some S ∧ S.nodeID = w.shared.snapshot.activeNodeID) ∨
    lost w.shared.snapshot.activeNodeID w.history = true

theorem Section.resetting (h : Section cfg s tid t input o) (ht : t.resetting = true) :
    o.shared.snapshot.state = .idle ∨ o.thread.resetting = true := by
  cases h with
  | disconnect h =>
    cases h with
    | close => exact .inr rfl
    | reset => exact .inl rfl
    | _ => simp [Thread.resetting] at ht
  | _ => simp [Thread.resetting] at ht

structure CauseInv (w : World) : Prop where
  sane : Sane w
  handshakes : Handshakes w
  caused : CooldownsCaused w.history
  backed : Backed w
  threads : Pool.Each (fun j u => ThreadCause w.history j u) w.threads

namespace CauseInv

variable {w : World}

theorem caused_move (hw : CauseInv w) (ht : w.threads[tid]? = some t)
    (h : Section cfg w.shared tid t input o) : CooldownsCaused (o.events ++ w.history) := by
  by_cases hd : ∃ j id d, Event.cooldownNode j id d ∈ o.events
  · obtain ⟨j, id, d, hmem⟩ := hd
    obtain ⟨rfl, hev, hwho⟩ := h.cooldown_events hmem
    rw [hev]
    refine hw.caused.cons ?_
    intro j' id' d' heq
    obtain ⟨rfl, rfl, -⟩ := Event.cooldownNode.inj heq
    rcases hwho with ⟨l, err, rfl, rfl⟩ | ⟨reason, rfl, hne⟩
    · exact .inl ((hw.threads _ _ ht).loop _ _ rfl)
    · exact .inr (((hw.threads _ _ ht).recovery _ rfl).resolve_left hne)
  · refine hw.caused.append fun e he older j id d heq => ?_
    exact absurd ⟨j, id, d, heq ▸ he⟩ hd

theorem backed_removed (hw : CauseInv w)
    (hg : World.genuineSection cfg w tid t input = true)
    (hprev : w.shared.snapshot.state = .connected) {S : VpnSession} {cause : Removal}
    (hS : w.shared.tunnel.session = some S) (hby : RemovedBy t o cause) :
    o.thread.resetting = true ∨ Pool.Some (fun u => u.resetting = true) w.threads ∨
      lost w.shared.snapshot.activeNodeID (.removed S.id S.nodeID cause :: w.history) = true := by
  have hloss (hcause : cause = .dataPath ∨ cause = .health) :
      o.thread.resetting = true ∨ Pool.Some (fun u => u.resetting = true) w.threads ∨
        lost w.shared.snapshot.activeNodeID (.removed S.id S.nodeID cause :: w.history) = true := by
    refine .inr ((hw.backed hprev).imp_right fun hor => lost_cons_removed hcause ?_)
    refine hor.imp_left ?_
    rintro ⟨S', hS', hid⟩
    rw [hS, Option.some.injEq] at hS'
    exact hS' ▸ hid
  cases cause with
  | dataPath => exact hloss (.inl rfl)
  | health => exact hloss (.inr rfl)
  | user =>
    obtain ⟨-, session, hthread⟩ := hby
    rw [hthread]
    exact .inl rfl
  | rejection =>
    obtain ⟨l, session, err, rfl⟩ := hby
    simp [World.genuineSection, hprev] at hg

theorem backed_same (hw : CauseInv w) (ht : w.threads[tid]? = some t)
    (hg : World.genuineSection cfg w tid t input = true)
    (h : Section cfg w.shared tid t input o) (hnot : t.resetting = false)
    (hprev : w.shared.snapshot.state = .connected)
    (hact : o.shared.snapshot.activeNodeID = w.shared.snapshot.activeNodeID) :
    Pool.Some (fun u => u.resetting = true) (w.move tid o).threads ∨
    (∃ S, o.shared.tunnel.session = some S ∧ S.nodeID = o.shared.snapshot.activeNodeID) ∨
    lost o.shared.snapshot.activeNodeID (o.events ++ w.history) = true := by
  have hreset (hsome : Pool.Some (fun u => u.resetting = true) w.threads) :
      Pool.Some (fun u => u.resetting = true) (w.move tid o).threads :=
    hsome.move ht fun hr => by simp [hnot] at hr
  rw [hact]
  cases h.sessionEvents with
  | none hs he =>
    refine (hw.backed hprev).imp hreset (Or.imp ?_ ?_)
    · rintro ⟨S, hS, hid⟩
      exact ⟨S, hs.trans hS, hid⟩
    · intro hl
      rwa [lost_append fun e hmem => Event.sessionOf_of_not_session (he e hmem) _]
  | established l htl _ ho =>
    subst htl ho
    by_cases hid : l.node.id = w.shared.snapshot.activeNodeID
    · exact .inr (.inl ⟨_, rfl, hid⟩)
    · rcases hw.backed hprev with hr | ⟨S, hS, -⟩ | hl
      · exact .inl (hreset hr)
      · have hnone := (hw.handshakes.busy tid _ ht rfl).2
        simp [hnone] at hS
      · refine .inr (.inr ?_)
        rwa [lost_append (by simp [Event.sessionOf, hid])]
  | removed S cause hS hs he hx hby =>
    rcases hw.backed_removed hg hprev hS hby with hself | hr | hl
    · exact .inl ⟨tid, o.thread, Pool.getElem?_move_self ht, hself⟩
    · exact .inl (hreset hr)
    · rw [he]
      exact .inr (.inr hl)

theorem backed_move (hw : CauseInv w) (ht : w.threads[tid]? = some t)
    (hg : World.genuineSection cfg w tid t input = true)
    (h : Section cfg w.shared tid t input o) : Backed (w.move tid o) := by
  intro hc
  by_cases hr : t.resetting = true
  · rcases h.resetting hr with hidle | hstill
    · exact absurd (hidle.symm.trans hc) (by simp)
    · exact .inl ⟨tid, o.thread, Pool.getElem?_move_self ht, hstill⟩
  rcases h.connected_cases hc with ⟨hprev, hact, -⟩ | ⟨hwrites, hs⟩
  · exact hw.backed_same ht hg h (by simpa using hr) hprev hact
  · simp only [World.genuineSection, Bool.and_eq_true] at hg
    obtain ⟨S, hS, hact⟩ := hwrites.names hw.sane.named (hw.sane.threads tid t ht) hg.1.1
    exact .inr (.inl ⟨S, hs.trans hS, hact.symm⟩)

theorem thread_self (hw : CauseInv w) (ht : w.threads[tid]? = some t)
    (hg : World.genuineSection cfg w tid t input = true)
    (h : Section cfg w.shared tid t input o) :
    ThreadCause (o.events ++ w.history) tid o.thread := by
  cases h with
  | loop h => exact h.threadCause hg ((hw.threads tid _ ht).loop _ _ rfl)
  | monitor h =>
    cases h with
    | recoverNode =>
      refine ⟨by simp, ?_⟩
      rintro id ⟨⟩
      simp only [World.genuineSection, Bool.and_eq_true, Bool.or_eq_true, decide_eq_true_eq,
        Option.isNone_iff_eq_none, Bool.not_eq_true', List.any_eq_false] at hg
      rcases hg.2 with hnil | ⟨⟨hc, hnone⟩, hreset⟩
      · exact .inl hnil
      · refine .inr ⟨[], w.history, rfl, by simp, ?_⟩
        rcases hw.backed hc with ⟨j, u, hu, hr⟩ | ⟨S, hS, -⟩ | hl
        · exact absurd hr (hreset u (List.mem_of_getElem? hu))
        · simp [hnone] at hS
        · exact hl
    | recoverReason => exact ⟨by simp, fun id hid => (hw.threads tid _ ht).recovery id hid⟩
    | recoverSelect => exact .of_between (between_enterLoop rfl)
    | healthMissing => exact .of_between (between_healthFailed _ _ _)
    | healthNotPassed => exact .of_between (between_healthFailed _ _ _)
    | healthReachFailed => exact .of_between (between_healthFailed _ _ _)
    | healthNotReached => exact .of_between (between_healthFailed _ _ _)
    | _ => exact .of_other (by simp) rfl
  | connect h =>
    cases h with
    | select => exact .of_between (between_enterLoop rfl)
    | _ => exact .of_other (by simp) rfl
  | auto h =>
    cases h with
    | commit => exact .of_between (between_enterLoop rfl)
    | _ => exact .of_other (by simp) rfl
  | exhausted => exact .of_between (between_loopReturn _)
  | maintenance h => cases h <;> exact .of_other (by simp) rfl
  | verifyExit h => cases h <;> exact .of_other (by simp) rfl
  | disconnect h => cases h <;> exact .of_other (by simp) rfl
  | watchCurrent => exact .of_other (by simp) rfl
  | watchOther => exact .of_other (by simp) rfl
  | watchClosed => exact .of_other (by simp) rfl
  | closing => exact .of_other (by simp) rfl

theorem move (hw : CauseInv w) (hg : World.failuresGenuine cfg w (.run tid input) = true)
    (ht : w.threads[tid]? = some t) (h : Section cfg w.shared tid t input o) :
    CauseInv (w.move tid o) := by
  simp only [World.failuresGenuine, ht, Option.all_some] at hg
  refine ⟨hw.sane.move ht h, hw.handshakes.move ht h, hw.caused_move ht h,
    hw.backed_move ht hg h, hw.threads.move (hw.thread_self ht hg h) ?_ ?_⟩
  · intro j u hj _ hu
    obtain ⟨ha, hr⟩ := h.events_own hj
    exact hu.append ha hr
  · intro j u _ hu
    rw [h.spawned_cases hu]
    exact .of_other (by simp) rfl

theorem receive (hw : CauseInv w) (r : Request) : CauseInv (w.receive r) := by
  have hev : ∀ e ∈ r.events w.threads.length, (∀ j, e.attemptOf j = false) ∧
      (∀ j id, e ≠ .recovering j id) ∧ (∀ j id d, e ≠ .cooldownNode j id d) ∧
      ∀ id, e.sessionOf id = false := by
    intro e he
    cases r <;> simp [Request.events] at he <;> subst he <;>
      simp [Event.attemptOf, Event.sessionOf]
  refine ⟨hw.sane.receive r, hw.handshakes.receive r, ?_, ?_, ?_⟩
  · exact hw.caused.append fun e he older j id d heq => absurd heq ((hev e he).2.2.1 j id d)
  · intro hc
    refine (hw.backed hc).imp Pool.Some.push (Or.imp (fun hs => hs) fun hl => ?_)
    change lost _ (r.events w.threads.length ++ w.history) = true
    rwa [lost_append fun e he => (hev e he).2.2.2 _]
  · refine Pool.Each.push (hw.threads.imp fun j u hu => ?_) ?_
    · exact hu.append (fun e he => (hev e he).1 j)
        fun id he => (hev _ he).2.1 j id rfl
    · exact .of_other (r.thread_ne_loop) (by cases r <;> rfl)

end CauseInv

end ResidentialIPManager.Web
