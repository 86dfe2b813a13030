import ResidentialIPManager.Web.World

/-! # Sessions and the passes that own them

Facts that hold in every run, without any condition on its steps. A session number
is never used twice, so a pass that still sees the session it established is the
only owner of it, and whatever it dials goes through that session.
-/
namespace ResidentialIPManager.Web
open Text Domain Tunnel Transition

def Phase.session : Phase → Option Nat
  | .verify session => some session
  | .dial session _ => some session
  | .await session _ _ => some session
  | .reject session _ => some session
  | .publish session _ _ _ => some session
  | _ => none

/-- The session through which an attempt dialed its verification. -/
def Phase.via : Phase → Option Nat
  | .await _ _ via => some via
  | .publish _ _ via _ => some via
  | _ => none

inductive SessionChange (s s' : Shared) : Prop
  | same (hs : s'.tunnel.session = s.tunnel.session) (hc : s'.tunnel.created = s.tunnel.created)
  | removed (hs : s'.tunnel.session = none) (hc : s'.tunnel.created = s.tunnel.created)
  | installed (nodeID : GoString) (hs : s'.tunnel.session = some ⟨s.tunnel.created, nodeID⟩)
      (hc : s'.tunnel.created = s.tunnel.created + 1)

variable {cfg : Config} {s s' : Shared} {tid : Nat} {t : Thread} {input : Input} {o : Result}

/-- Only a completed handshake installs a session. -/
theorem Section.session_cases (h : Section cfg s tid t input o) :
    (o.shared.tunnel.session = s.tunnel.session ∧ o.shared.tunnel.created = s.tunnel.created) ∨
    (o.shared.tunnel.session = none ∧ o.shared.tunnel.created = s.tunnel.created) ∨
    (∃ l, t = .loop l .handshake ∧ input = .handshake (.ok ()) ∧ o = established s l) := by
  cases h with
  | maintenance h => cases h <;> exact .inl ⟨rfl, rfl⟩
  | verifyExit h => cases h <;> exact .inl ⟨rfl, rfl⟩
  | connect h => cases h <;> exact .inl ⟨rfl, rfl⟩
  | disconnect h =>
    cases h with
    | start => exact .inr (.inl ⟨rfl, rfl⟩)
    | close => exact .inl ⟨rfl, rfl⟩
    | reset => exact .inl ⟨rfl, rfl⟩
    | finish => exact .inl ⟨rfl, rfl⟩
  | auto h => cases h <;> exact .inl ⟨rfl, rfl⟩
  | loop h =>
    cases h with
    | established => exact .inr (.inr ⟨_, rfl, rfl, rfl⟩)
    | reject => exact .inr (.inl ⟨rfl, rfl⟩)
    | _ => exact .inl ⟨rfl, rfl⟩
  | exhausted => exact .inl ⟨rfl, rfl⟩
  | monitor h =>
    cases h with
    | healthDrop => exact .inr (.inl ⟨rfl, rfl⟩)
    | _ => exact .inl ⟨rfl, rfl⟩
  | watchCurrent => exact .inr (.inl ⟨rfl, rfl⟩)
  | watchOther => exact .inl ⟨rfl, rfl⟩
  | watchClosed => exact .inl ⟨rfl, rfl⟩
  | closing => exact .inl ⟨rfl, rfl⟩

theorem Section.sessionChange (h : Section cfg s tid t input o) : SessionChange s o.shared := by
  rcases h.session_cases with ⟨hs, hc⟩ | ⟨hs, hc⟩ | ⟨l, -, -, rfl⟩
  · exact .same hs hc
  · exact .removed hs hc
  · exact .installed l.node.id rfl rfl

theorem SessionChange.present (h : SessionChange s s') {S : VpnSession}
    (hS : s'.tunnel.session = some S) :
    s.tunnel.session = some S ∨ S.id = s.tunnel.created := by
  cases h with
  | same hs _ => exact .inl (hs ▸ hS)
  | removed hs _ => simp [hs] at hS
  | installed nodeID hs _ =>
    rw [hs, Option.some.injEq] at hS
    exact .inr (hS ▸ rfl)

theorem SessionChange.created_le (h : SessionChange s s') :
    s.tunnel.created ≤ s'.tunnel.created := by
  cases h <;> omega

def Event.isSession : Event → Bool
  | .established _ _ => true
  | .removed _ _ _ => true
  | _ => false

/-- How a section that removes a session looks, by the cause of the removal. -/
def RemovedBy (t : Thread) (o : Result) : Removal → Prop
  | .dataPath => ∃ session, t = .watch session
  | .health => ∃ reason, t = .monitor (.healthDrop reason)
  | .user => t = .disconnect .start ∧ ∃ session, o.thread = .disconnect (.close session)
  | .rejection => ∃ l session err, t = .loop l (.reject session err)

inductive SessionEvents (s : Shared) (t : Thread) (input : Input) (o : Result) : Prop
  | none (hs : o.shared.tunnel.session = s.tunnel.session)
      (he : ∀ e ∈ o.events, e.isSession = false)
  | established (l : Loop) (ht : t = .loop l .handshake) (hi : input = .handshake (.ok ()))
      (ho : o = established s l)
  | removed (S : VpnSession) (cause : Removal) (hS : s.tunnel.session = some S)
      (hs : o.shared.tunnel.session = .none) (he : o.events = [.removed S.id S.nodeID cause])
      (hx : o.shared.snapshot = s.snapshot) (hc : RemovedBy t o cause)

/-- A section that clears the session slot, whether or not it held a session. -/
theorem SessionEvents.of_removal {cause : Removal} (hs : o.shared.tunnel.session = .none)
    (he : o.events = s.removal cause) (hx : o.shared.snapshot = s.snapshot)
    (hc : RemovedBy t o cause) : SessionEvents s t input o := by
  cases hS : s.tunnel.session with
  | none => exact .none (hs.trans hS.symm) (by simp [he, Shared.removal, hS])
  | some S => exact .removed S cause hS hs (by simp [he, Shared.removal, hS]) hx hc

theorem Section.sessionEvents (h : Section cfg s tid t input o) : SessionEvents s t input o := by
  cases h with
  | maintenance h => cases h <;> exact .none rfl (by simp [Event.isSession])
  | verifyExit h => cases h <;> exact .none rfl (by simp [Event.isSession])
  | connect h => cases h <;> exact .none rfl (by simp [Event.isSession])
  | disconnect h =>
    cases h with
    | start => exact .of_removal rfl rfl rfl ⟨rfl, _, rfl⟩
    | _ => exact .none rfl (by simp [Event.isSession])
  | auto h => cases h <;> exact .none rfl (by simp [Event.isSession])
  | loop h =>
    cases h with
    | established => exact .established _ rfl rfl rfl
    | reject => exact .of_removal rfl rfl rfl ⟨_, _, _, rfl⟩
    | _ => exact .none rfl (by simp [Event.isSession])
  | exhausted => exact .none rfl (by simp [Event.isSession])
  | monitor h =>
    cases h with
    | healthDrop => exact .of_removal rfl rfl rfl ⟨_, rfl⟩
    | _ => exact .none rfl (by simp [Event.isSession])
  | watchCurrent => exact .of_removal rfl rfl rfl ⟨_, rfl⟩
  | watchOther => exact .none rfl (by simp [Event.isSession])
  | watchClosed => exact .none rfl (by simp [Event.isSession])
  | closing => exact .none rfl (by simp [Event.isSession])

theorem Section.session_of_events (h : Section cfg s tid t input o)
    (hev : ∀ e ∈ o.events, e.isSession = false) :
    o.shared.tunnel.session = s.tunnel.session := by
  cases h.sessionEvents with
  | none hs => exact hs
  | established l _ _ ho =>
    subst ho
    exact absurd (hev _ List.mem_cons_self) (by simp [Event.isSession])
  | removed S cause _ _ he =>
    exact absurd (hev _ (he ▸ List.mem_singleton_self _)) (by simp [Event.isSession])

structure LoopSane (s : Shared) (l : Loop) (phase : Phase) : Prop where
  named : l.node.id ≠ []
  restNamed : ∀ n ∈ l.rest, n.id ≠ []
  older : ∀ sid, phase.session = some sid → sid < s.tunnel.created
  owner : ∀ S, s.tunnel.session = some S → phase.session = some S.id → S.nodeID = l.node.id
  via : ∀ S v, s.tunnel.session = some S → phase.session = some S.id → phase.via = some v →
    v = S.id

theorem LoopSane.stable {l : Loop} {phase : Phase} (h : LoopSane s l phase)
    (hc : SessionChange s s') : LoopSane s' l phase where
  named := h.named
  restNamed := h.restNamed
  older sid hsid := Nat.lt_of_lt_of_le (h.older sid hsid) hc.created_le
  owner S hS hp := by
    rcases hc.present hS with hold | hnew
    · exact h.owner S hold hp
    · exact absurd (h.older _ hp) (by omega)
  via S v hS hp hv := by
    rcases hc.present hS with hold | hnew
    · exact h.via S v hold hp hv
    · exact absurd (h.older _ hp) (by omega)

theorem LoopSane.of_named {l : Loop} {phase : Phase} (hn : l.node.id ≠ [])
    (hr : ∀ n ∈ l.rest, n.id ≠ []) (hp : phase.session = none) : LoopSane s l phase where
  named := hn
  restNamed := hr
  older sid hsid := by simp [hp] at hsid
  owner S _ h := by simp [hp] at h
  via S v _ h := by simp [hp] at h

theorem LoopSane.advance {l : Loop} {phase phase' : Phase} (h : LoopSane s l phase)
    (hc : SessionChange s s') (hp : phase'.session = phase.session)
    (hv : ∀ v, phase'.via = some v → phase.via = some v ∨
      ∃ S, s.tunnel.session = some S ∧ v = S.id) : LoopSane s' l phase' where
  named := h.named
  restNamed := h.restNamed
  older sid hsid := (h.stable hc).older sid (hp ▸ hsid)
  owner S hS hown := (h.stable hc).owner S hS (hp ▸ hown)
  via S v hS hown hvia := by
    rw [hp] at hown
    rcases hc.present hS with hold | hnew
    · rcases hv v hvia with hv | ⟨T, hT, rfl⟩
      · exact h.via S v hold hown hv
      · rw [hold, Option.some.injEq] at hT
        exact hT ▸ rfl
    · exact absurd (h.older _ hown) (by omega)

theorem enterLoop_sane {origin : Origin} {candidates : List VpnNode} {empty : Thread} {l : Loop}
    {phase : Phase} (hn : ∀ n ∈ candidates, n.id ≠ []) (he : ∀ l phase, empty ≠ .loop l phase)
    (h : enterLoop origin candidates empty = .loop l phase) : LoopSane s l phase := by
  cases candidates with
  | nil => exact absurd h (he l phase)
  | cons node rest =>
    obtain ⟨rfl, rfl⟩ := Thread.loop.inj h
    exact .of_named (hn node (by simp)) (fun n hm => hn n (by simp [hm])) rfl

theorem nextAttempt_sane {l l' : Loop} {phase phase' : Phase} {err : GoString}
    (hl : LoopSane s l phase) (h : nextAttempt l err = .loop l' phase') :
    LoopSane s' l' phase' := by
  unfold nextAttempt at h
  split at h
  · simp at h
  · rename_i node rest hrest
    obtain ⟨rfl, rfl⟩ := Thread.loop.inj h
    exact .of_named (hl.restNamed node (by simp [hrest]))
      (fun n hm => hl.restNamed n (by simp [hrest, hm])) rfl

theorem loopReturn_ne_loop (origin : Origin) (l : Loop) (phase : Phase) :
    loopReturn origin ≠ .loop l phase := by
  cases origin <;> simp [loopReturn]

theorem candidates_named {nodes : NodeCache} {id : GoString} {k : Int} {now : Time} {n : VpnNode}
    (h : n ∈ connectionCandidates nodes.nodes id k now) : n.id ≠ [] :=
  nodes.id_ne_nil (mem_connectionCandidates h).1

def ThreadSane (s : Shared) (t : Thread) : Prop :=
  ∀ l phase, t = .loop l phase → LoopSane s l phase

theorem LoopSection.sane {l : Loop} {phase : Phase} (h : LoopSection cfg s tid l phase input o)
    (hl : LoopSane s l phase) : ThreadSane o.shared o.thread := by
  have hc : SessionChange s o.shared := (Section.loop h).sessionChange
  intro l' phase' heq
  cases h with
  | unverified => exact absurd heq (loopReturn_ne_loop _ _ _)
  | publish => exact absurd heq (loopReturn_ne_loop _ _ _)
  | cool => exact nextAttempt_sane hl heq
  | established =>
    obtain ⟨rfl, rfl⟩ := Thread.loop.inj heq
    refine ⟨hl.named, hl.restNamed, ?_, ?_, ?_⟩
    · rintro sid ⟨⟩
      exact Nat.lt_succ_self _
    · rintro S ⟨⟩ -
      rfl
    · rintro S v - - ⟨⟩
  | dial hs =>
    obtain ⟨rfl, rfl⟩ := Thread.loop.inj heq
    refine hl.advance hc rfl ?_
    rintro v ⟨⟩
    exact .inr ⟨_, hs, rfl⟩
  | passed =>
    obtain ⟨rfl, rfl⟩ := Thread.loop.inj heq
    refine hl.advance hc rfl ?_
    rintro v ⟨⟩
    exact .inl rfl
  | verifying =>
    obtain ⟨rfl, rfl⟩ := Thread.loop.inj heq
    exact hl.advance hc rfl (by rintro v ⟨⟩)
  | dialFailed =>
    obtain ⟨rfl, rfl⟩ := Thread.loop.inj heq
    exact hl.advance hc rfl (by rintro v ⟨⟩)
  | noAnswer =>
    obtain ⟨rfl, rfl⟩ := Thread.loop.inj heq
    exact hl.advance hc rfl (by rintro v ⟨⟩)
  | notPassed =>
    obtain ⟨rfl, rfl⟩ := Thread.loop.inj heq
    exact hl.advance hc rfl (by rintro v ⟨⟩)
  | _ =>
    obtain ⟨rfl, rfl⟩ := Thread.loop.inj heq
    exact .of_named hl.named hl.restNamed rfl

theorem healthFailed_ne_loop (hf : Nat) (reason : GoString) (l : Loop) (phase : Phase) :
    healthFailed cfg hf reason ≠ .loop l phase := by
  unfold healthFailed
  split_ifs <;> simp

theorem Section.sane (h : Section cfg s tid t input o) (ht : ThreadSane s t) :
    ThreadSane o.shared o.thread := by
  cases h with
  | loop h => exact h.sane (ht _ _ rfl)
  | connect h =>
    cases h with
    | select =>
      exact fun l phase heq => enterLoop_sane (fun n hn => candidates_named hn) (by simp) heq
    | _ => exact fun l phase heq => by simp at heq
  | auto h =>
    cases h with
    | commit =>
      exact fun l phase heq => enterLoop_sane (fun n hn => candidates_named hn) (by simp) heq
    | _ => exact fun l phase heq => by simp at heq
  | monitor h =>
    intro l phase heq
    cases h with
    | recoverSelect => exact enterLoop_sane (fun n hn => candidates_named hn) (by simp) heq
    | healthMissing => exact absurd heq (healthFailed_ne_loop _ _ _ _)
    | healthNotPassed => exact absurd heq (healthFailed_ne_loop _ _ _ _)
    | healthReachFailed => exact absurd heq (healthFailed_ne_loop _ _ _ _)
    | healthNotReached => exact absurd heq (healthFailed_ne_loop _ _ _ _)
    | _ => simp at heq
  | exhausted => exact fun l phase heq => absurd heq (loopReturn_ne_loop _ _ _)
  | maintenance h => cases h <;> exact fun l phase heq => by simp at heq
  | verifyExit h => cases h <;> exact fun l phase heq => by simp at heq
  | disconnect h => cases h <;> exact fun l phase heq => by simp at heq
  | watchCurrent => exact fun l phase heq => by simp at heq
  | watchOther => exact fun l phase heq => by simp at heq
  | watchClosed => exact fun l phase heq => by simp at heq
  | closing => exact fun l phase heq => by simp at heq

/-- Only a completed handshake starts a goroutine, the `watch` of its session. -/
theorem Section.spawned_cases (h : Section cfg s tid t input o) {u : Thread}
    (hu : u ∈ o.spawned) : u = .watch s.tunnel.created := by
  cases h with
  | loop h =>
    cases h with
    | established => exact List.mem_singleton.mp hu
    | _ => simp at hu
  | maintenance h => cases h <;> simp at hu
  | verifyExit h => cases h <;> simp at hu
  | connect h => cases h <;> simp at hu
  | disconnect h => cases h <;> simp at hu
  | auto h => cases h <;> simp at hu
  | monitor h => cases h <;> simp at hu
  | exhausted => simp at hu
  | watchCurrent => simp at hu
  | watchOther => simp at hu
  | watchClosed => simp at hu
  | closing => simp at hu

/-- What holds of the session slot and of every goroutine in every run. -/
structure Sane (w : World) : Prop where
  fresh : ∀ S, w.shared.tunnel.session = some S → S.id < w.shared.tunnel.created
  named : ∀ S, w.shared.tunnel.session = some S → S.nodeID ≠ []
  threads : Pool.Each (fun _ u => ThreadSane w.shared u) w.threads

theorem Request.thread_ne_loop (r : Request) (l : Loop) (phase : Phase) :
    r.thread ≠ .loop l phase := by
  cases r <;> simp [Request.thread]

theorem Sane.boot (cfg : Config) (file : Option Storage.State) : Sane (World.boot cfg file) where
  fresh S h := by simp [World.boot] at h
  named S h := by simp [World.boot] at h
  threads j u hu l phase heq := by
    rcases World.mem_automation (List.mem_of_getElem? hu) with rfl | rfl <;> simp at heq

theorem Sane.move {w : World} (hw : Sane w) (ht : w.threads[tid]? = some t)
    (h : Section cfg w.shared tid t input o) : Sane (w.move tid o) where
  fresh S hS := by
    rcases h.session_cases with ⟨hs, hc⟩ | ⟨hs, -⟩ | ⟨l, -, -, rfl⟩
    · change o.shared.tunnel.session = some S at hS
      change S.id < o.shared.tunnel.created
      rw [hc]
      exact hw.fresh S (hs ▸ hS)
    · change o.shared.tunnel.session = some S at hS
      simp [hs] at hS
    · obtain rfl := Option.some.inj hS
      exact Nat.lt_succ_self _
  named S hS := by
    rcases h.session_cases with ⟨hs, -⟩ | ⟨hs, -⟩ | ⟨l, rfl, -, rfl⟩
    · exact hw.named S (hs ▸ hS)
    · change o.shared.tunnel.session = some S at hS
      simp [hs] at hS
    · obtain rfl := Option.some.inj hS
      exact (hw.threads tid _ ht _ _ rfl).named
  threads := by
    refine hw.threads.move (h.sane (hw.threads tid t ht)) ?_ ?_
    · exact fun j u _ _ hu l phase heq => (hu l phase heq).stable h.sessionChange
    · intro j u _ hu l phase heq
      simp [h.spawned_cases hu] at heq

theorem Sane.receive {w : World} (hw : Sane w) (r : Request) : Sane (w.receive r) := by
  refine ⟨hw.fresh, hw.named, hw.threads.push ?_⟩
  exact fun l phase heq => absurd heq (r.thread_ne_loop l phase)

theorem Sane.withShared {w : World} (hw : Sane w) (hp : World.Passive w.shared s) :
    Sane (w.withShared s) := by
  have hc : SessionChange w.shared s := .same (by rw [hp.tunnel]) (by rw [hp.tunnel])
  refine ⟨?_, ?_, hw.threads.imp fun j u hu l phase heq => (hu l phase heq).stable hc⟩
  · intro S hS
    change S.id < s.tunnel.created
    rw [hp.tunnel]
    exact hw.fresh S (hp.tunnel ▸ hS)
  · exact fun S hS => hw.named S (hp.tunnel ▸ hS)

end ResidentialIPManager.Web
