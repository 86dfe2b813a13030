import ResidentialIPManager.Web.Closing

/-! # Verification results are recorded where they belong

`verifyExit` and the health check read the active node, verify through whatever
session is current, and write the result without looking again. The result is
current in the runs in which no other goroutine changes the session or the active
node while such a check is open.
-/
namespace ResidentialIPManager.Web
open Text Domain Tunnel Transition

/-- Every recorded result was written while its session and its node were current. -/
def RecordsCurrent (h : History) : Prop :=
  ∀ node session held active, Event.recorded node session held active ∈ h →
    held = some session ∧ active = node

def IdleClean (x : ConnectionSnapshot) : Prop :=
  x.state = .idle → x.exitIP = [] ∧ x.activeNodeID = []

/-- The node of an open check and, once dialed, its session. -/
def Thread.openCheck : Thread → Option (GoString × Option Nat)
  | .verifyExit (.dial node) => some (node.id, none)
  | .verifyExit (.await node via) => some (node.id, some via)
  | .verifyExit (.apply node via _) => some (node.id, some via)
  | .monitor (.healthDial _ node) => some (node.id, none)
  | .monitor (.healthAwait _ node via) => some (node.id, some via)
  | .monitor (.healthRecord node via _) => some (node.id, some via)
  | _ => none

def Thread.disturbs (held : Option Nat) : Thread → Bool
  | .maintenance _ (.announce _ _) => true
  | .maintenance _ (.work _ _) => true
  | .maintenance _ (.fail _ _ _) => true
  | .connect (.keep _ _) => true
  | .disconnect .start => true
  | .disconnect .reset => true
  | .autoConnectExit (.announce _) => true
  | .autoConnectExit (.fetch _) => true
  | .autoConnectExit (.classify _ _) => true
  | .autoConnectExit (.probe _ _) => true
  | .loop _ .announce => true
  | .loop _ .handshake => true
  | .loop _ (.verify _) => true
  | .loop _ (.reject _ _) => true
  | .loop _ (.publish _ _ _ _) => true
  | .exhausted _ _ _ => true
  | .monitor (.healthDrop _) => true
  | .watch session => held = some session
  | _ => false

/-- While a check is open, no section changes the session or the node. -/
def World.checksUndisturbed : World.Guard := fun w a =>
  match a with
  | .run tid _ =>
    !((w.threads[tid]?).any (Thread.disturbs (w.shared.tunnel.session.map (·.id))) &&
      w.threads.any (·.openCheck.isSome))
  | _ => true

variable {cfg : Config} {s : Shared} {tid : Nat} {t : Thread} {input : Input} {o : Result}

def CheckCurrent (s : Shared) (t : Thread) : Prop :=
  ∀ node via, t.openCheck = some (node, via) → node ≠ [] ∧ s.snapshot.activeNodeID = node ∧
    ∀ v, via = some v → s.tunnel.session.map (·.id) = some v

theorem checkCurrent_of_none (h : t.openCheck = none) : CheckCurrent s t := by
  intro node via heq
  simp [h] at heq

theorem openCheck_of_between (h : t.between = true) : t.openCheck = none := by
  rcases Thread.between_cases h with rfl | ⟨l, rfl⟩ | ⟨origin, total, err, rfl⟩ | ⟨hf, rfl⟩ |
    ⟨reason, rfl⟩ <;> rfl

theorem checkCurrent_of_between (h : t.between = true) : CheckCurrent s t :=
  checkCurrent_of_none (openCheck_of_between h)

theorem checkCurrent_opened {node : VpnNode} (hn : s.activeNode = some node)
    (ho : t.openCheck = some (node.id, none)) : CheckCurrent s t := by
  intro id via heq
  obtain ⟨rfl, rfl⟩ := Prod.mk.inj (Option.some.inj (ho.symm.trans heq))
  obtain ⟨-, hid, hne⟩ := Shared.activeNode_some hn
  exact ⟨hne, hid.symm, by simp⟩

theorem CheckCurrent.dialed {u : Thread} {id : GoString} {session : VpnSession}
    (h : CheckCurrent s t) (ht : t.openCheck = some (id, none))
    (hs : s.tunnel.session = some session) (hu : u.openCheck = some (id, some session.id)) :
    CheckCurrent s u := by
  intro node via heq
  obtain ⟨rfl, rfl⟩ := Prod.mk.inj (Option.some.inj (hu.symm.trans heq))
  obtain ⟨hne, hactive, -⟩ := h _ _ ht
  refine ⟨hne, hactive, ?_⟩
  rintro v ⟨⟩
  exact congrArg (Option.map (·.id)) hs

/-- The record that a check writes names the current session and node. -/
theorem CheckCurrent.recorded {id : GoString} {via : Nat} (h : CheckCurrent s t)
    (ht : t.openCheck = some (id, some via)) :
    s.tunnel.session.map (·.id) = some via ∧ s.snapshot.activeNodeID = id := by
  obtain ⟨-, hactive, hvia⟩ := h _ _ ht
  exact ⟨hvia _ rfl, hactive⟩

theorem Section.openCheck_none (h : Section cfg s tid t input o)
    (hv : ∀ pc, t ≠ .verifyExit pc) (hm : ∀ pc, t ≠ .monitor pc) : o.thread.openCheck = none := by
  cases h with
  | maintenance h => cases h <;> rfl
  | verifyExit h => exact absurd rfl (hv _)
  | connect h =>
    cases h with
    | select => exact openCheck_of_between (between_enterLoop rfl)
    | _ => rfl
  | disconnect h => cases h <;> rfl
  | auto h =>
    cases h with
    | commit => exact openCheck_of_between (between_enterLoop rfl)
    | _ => rfl
  | loop h =>
    cases h with
    | unverified => exact openCheck_of_between (between_loopReturn _)
    | publish => exact openCheck_of_between (between_loopReturn _)
    | cool => exact openCheck_of_between (between_nextAttempt _ _)
    | _ => rfl
  | exhausted => exact openCheck_of_between (between_loopReturn _)
  | monitor h => exact absurd rfl (hm _)
  | watchCurrent => rfl
  | watchOther => rfl
  | watchClosed => rfl
  | closing => rfl

/-- A disturbing section does not belong to a check and opens none. -/
theorem Section.openCheck_of_disturbs (h : Section cfg s tid t input o) {held : Option Nat}
    (hd : t.disturbs held = true) : o.thread.openCheck = none := by
  cases h with
  | verifyExit h => simp [Thread.disturbs] at hd
  | monitor h =>
    cases h with
    | healthDrop => rfl
    | _ => simp [Thread.disturbs] at hd
  | maintenance h => exact (Section.maintenance h).openCheck_none (by simp) (by simp)
  | connect h => exact (Section.connect h).openCheck_none (by simp) (by simp)
  | disconnect h => cases h <;> rfl
  | auto h => exact (Section.auto h).openCheck_none (by simp) (by simp)
  | loop h => exact (Section.loop h).openCheck_none (by simp) (by simp)
  | exhausted => exact openCheck_of_between (between_loopReturn _)
  | watchCurrent => rfl
  | watchOther => rfl
  | watchClosed => rfl
  | closing => rfl

/-- The other sections leave the session and the node as they are. -/
theorem Section.undisturbed (h : Section cfg s tid t input o) (ht : CheckCurrent s t)
    (hd : t.disturbs (s.tunnel.session.map (·.id)) = false) :
    o.shared.tunnel.session = s.tunnel.session ∧
      o.shared.snapshot.activeNodeID = s.snapshot.activeNodeID := by
  cases h with
  | maintenance h =>
    cases h with
    | start => exact ⟨rfl, rfl⟩
    | copyEmpty => exact ⟨rfl, rfl⟩
    | copy => exact ⟨rfl, rfl⟩
    | _ => simp [Thread.disturbs] at hd
  | verifyExit h =>
    cases h with
    | apply => exact ⟨rfl, (ht _ _ rfl).2.1.symm⟩
    | _ => exact ⟨rfl, rfl⟩
  | connect h =>
    cases h with
    | keep => simp [Thread.disturbs] at hd
    | _ => exact ⟨rfl, rfl⟩
  | disconnect h =>
    cases h with
    | finish => exact ⟨rfl, rfl⟩
    | close => exact ⟨rfl, rfl⟩
    | _ => simp [Thread.disturbs] at hd
  | auto h =>
    cases h with
    | start => exact ⟨rfl, rfl⟩
    | _ => simp [Thread.disturbs] at hd
  | loop h =>
    cases h with
    | announce => simp [Thread.disturbs] at hd
    | handshakeFailed => simp [Thread.disturbs] at hd
    | established => simp [Thread.disturbs] at hd
    | verifying => simp [Thread.disturbs] at hd
    | unverified => simp [Thread.disturbs] at hd
    | reject => simp [Thread.disturbs] at hd
    | publish => simp [Thread.disturbs] at hd
    | _ => exact ⟨rfl, rfl⟩
  | exhausted => simp [Thread.disturbs] at hd
  | monitor h =>
    cases h with
    | healthDrop => simp [Thread.disturbs] at hd
    | _ => exact ⟨rfl, rfl⟩
  | watchCurrent hs => simp [Thread.disturbs, hs] at hd
  | watchOther => exact ⟨rfl, rfl⟩
  | watchClosed => exact ⟨rfl, rfl⟩
  | closing => exact ⟨rfl, rfl⟩

theorem Section.checkCurrent (h : Section cfg s tid t input o) (ht : CheckCurrent s t)
    (hd : t.disturbs (s.tunnel.session.map (·.id)) = false) :
    CheckCurrent o.shared o.thread := by
  cases h with
  | verifyExit h =>
    cases h with
    | start hn => exact checkCurrent_opened hn rfl
    | dial hs => exact ht.dialed rfl hs rfl
    | answer => exact fun node via heq => ht node via heq
    | _ => exact checkCurrent_of_none rfl
  | monitor h =>
    cases h with
    | healthNode hn => exact checkCurrent_opened hn rfl
    | healthDial hs => exact ht.dialed rfl hs rfl
    | healthPassed => exact fun node via heq => ht node via heq
    | recoverSelect => exact checkCurrent_of_between (between_enterLoop rfl)
    | healthMissing => exact checkCurrent_of_between (between_healthFailed _ _ _)
    | healthNotPassed => exact checkCurrent_of_between (between_healthFailed _ _ _)
    | healthReachFailed => exact checkCurrent_of_between (between_healthFailed _ _ _)
    | healthNotReached => exact checkCurrent_of_between (between_healthFailed _ _ _)
    | _ => exact checkCurrent_of_none rfl
  | maintenance h =>
    exact checkCurrent_of_none ((Section.maintenance h).openCheck_none (by simp) (by simp))
  | connect h => exact checkCurrent_of_none ((Section.connect h).openCheck_none (by simp) (by simp))
  | disconnect h => cases h <;> exact checkCurrent_of_none rfl
  | auto h => exact checkCurrent_of_none ((Section.auto h).openCheck_none (by simp) (by simp))
  | loop h => exact checkCurrent_of_none ((Section.loop h).openCheck_none (by simp) (by simp))
  | exhausted => exact checkCurrent_of_between (between_loopReturn _)
  | watchCurrent => exact checkCurrent_of_none rfl
  | watchOther => exact checkCurrent_of_none rfl
  | watchClosed => exact checkCurrent_of_none rfl
  | closing => exact checkCurrent_of_none rfl

theorem idleClean_of_state {x : ConnectionSnapshot} (h : x.state ≠ .idle) : IdleClean x :=
  fun hi => absurd hi h

theorem nodeMaintenanceSnapshot_idleClean (previous : ConnectionSnapshot)
    (env : EnvironmentReport) (message : GoString) :
    IdleClean (nodeMaintenanceSnapshot previous env message) := by
  by_cases h : env.running = true
  · exact idleClean_of_state (by simp [nodeMaintenanceSnapshot_state, h])
  · rw [nodeMaintenanceSnapshot_stopped (by simpa using h)]
    exact fun _ => ⟨rfl, rfl⟩

theorem Closes.idleClean {x : ConnectionSnapshot} {write : Write}
    (h : Closes cfg s t input x write) : IdleClean x := by
  cases h with
  | commit => exact nodeMaintenanceSnapshot_idleClean _ _ _
  | fail => exact nodeMaintenanceSnapshot_idleClean _ _ _
  | keep => exact nodeMaintenanceSnapshot_idleClean _ _ _
  | @apply node via result =>
    refine idleClean_of_state ?_
    cases hp : result.passed <;> simp [applyVerifyResult, hp]
  | reset => exact fun _ => ⟨rfl, rfl⟩
  | prepared => exact fun _ => ⟨rfl, rfl⟩
  | fetchFailed => exact idleClean_of_state (by simp [autoFetchFailedSnapshot])
  | publish => exact idleClean_of_state (by simp [connectedSnapshot])
  | unverified => exact idleClean_of_state (by simp [connectedSnapshot])
  | exhausted => exact idleClean_of_state (by simp)

theorem Section.idleClean (h : Section cfg s tid t input o) (hi : IdleClean s.snapshot)
    (ht : CheckCurrent s t) : IdleClean o.shared.snapshot := by
  cases h.snapshotChange with
  | quiet hx =>
    rcases hx with hx | ⟨node, via, result, now, rfl, hx⟩
    · rwa [hx]
    · obtain ⟨hne, hactive, -⟩ := ht _ _ rfl
      rw [hx]
      exact idleClean_of_state fun hidle => hne (hactive.symm.trans (hi hidle).2)
  | progress hstate => exact idleClean_of_state hstate.2
  | closing write hclose => exact hclose.idleClean

theorem recordsCurrent_removal {cause : Removal} : RecordsCurrent (s.removal cause) := by
  intro node session held active hmem
  obtain ⟨S, -, heq⟩ := Shared.mem_removal hmem
  cases heq

/-- A result is written with the session and the node of its check. -/
theorem Section.recordsCurrent (h : Section cfg s tid t input o) (ht : CheckCurrent s t) :
    RecordsCurrent o.events := by
  intro node session held active hmem
  cases h with
  | verifyExit h =>
    cases h with
    | apply =>
      simp only [goTo_events, List.mem_cons, reduceCtorEq, Event.recorded.injEq, List.not_mem_nil,
        or_false, false_or] at hmem
      obtain ⟨rfl, rfl, rfl, rfl⟩ := hmem
      exact ht.recorded rfl
    | _ => simp at hmem
  | monitor h =>
    cases h with
    | healthRecord =>
      simp only [goTo_events, List.mem_cons, reduceCtorEq, Event.recorded.injEq, List.not_mem_nil,
        or_false, false_or] at hmem
      obtain ⟨rfl, rfl, rfl, rfl⟩ := hmem
      exact ht.recorded rfl
    | healthDrop => exact recordsCurrent_removal _ _ _ _ hmem
    | _ => simp at hmem
  | disconnect h =>
    cases h with
    | start => exact recordsCurrent_removal _ _ _ _ hmem
    | _ => simp at hmem
  | loop h =>
    cases h with
    | reject => exact recordsCurrent_removal _ _ _ _ hmem
    | _ => simp at hmem
  | watchCurrent => exact recordsCurrent_removal _ _ _ _ hmem
  | maintenance h => cases h <;> simp at hmem
  | connect h => cases h <;> simp at hmem
  | auto h => cases h <;> simp at hmem
  | exhausted => simp at hmem
  | watchOther => simp at hmem
  | watchClosed => simp at hmem
  | closing => simp at hmem

theorem load_idleClean {file : Option Storage.State}
    (hfile : ∀ state, file = some state → IdleClean state.snapshot) :
    IdleClean (Storage.load file).snapshot := by
  cases file with
  | none => exact fun _ => ⟨rfl, rfl⟩
  | some state =>
    unfold Storage.load
    by_cases hi : state.snapshot.state = .idle
    · simpa [hi] using hfile state rfl
    · simp only [ne_eq, hi, not_false_eq_true, if_true]
      exact fun _ => ⟨rfl, rfl⟩

structure ChecksInv (w : World) : Prop where
  records : RecordsCurrent w.history
  idle : IdleClean w.shared.snapshot
  checks : Pool.Each (fun _ u => CheckCurrent w.shared u) w.threads

theorem RecordsCurrent.append {l h : History} (hl : RecordsCurrent l) (hh : RecordsCurrent h) :
    RecordsCurrent (l ++ h) := by
  intro node session held active hmem
  rcases List.mem_append.mp hmem with hm | hm
  · exact hl node session held active hm
  · exact hh node session held active hm

theorem Request.recordsCurrent (r : Request) (tid : Nat) : RecordsCurrent (r.events tid) := by
  intro node session held active hmem
  cases r <;> simp [Request.events] at hmem

namespace ChecksInv

variable {w : World}

theorem checks_move (hw : ChecksInv w) (hg : World.checksUndisturbed w (.run tid input) = true)
    (ht : w.threads[tid]? = some t) (h : Section cfg w.shared tid t input o) :
    Pool.Each (fun _ u => CheckCurrent o.shared u) (w.move tid o).threads := by
  simp only [World.checksUndisturbed, ht, Option.any_some, Bool.not_eq_true',
    Bool.and_eq_false_iff] at hg
  have hnew : ∀ j u, w.threads.length ≤ j → u ∈ o.spawned → CheckCurrent o.shared u := by
    intro j u _ hu
    exact h.spawned_cases hu ▸ checkCurrent_of_none rfl
  rcases hd : t.disturbs (w.shared.tunnel.session.map (·.id)) with - | -
  · obtain ⟨hs, hid⟩ := h.undisturbed (hw.checks tid t ht) hd
    refine hw.checks.move (h.checkCurrent (hw.checks tid t ht) hd) ?_ hnew
    intro j u _ _ hu node via heq
    rw [hs, hid]
    exact hu node via heq
  · have hclosed : w.threads.any (·.openCheck.isSome) = false := hg.resolve_left (by simp [hd])
    refine hw.checks.move (checkCurrent_of_none (h.openCheck_of_disturbs hd)) ?_ hnew
    intro j u _ hu _
    refine checkCurrent_of_none ?_
    simpa using List.any_eq_false.mp hclosed u (List.mem_of_getElem? hu)

theorem move (hw : ChecksInv w) (hg : World.checksUndisturbed w (.run tid input) = true)
    (ht : w.threads[tid]? = some t) (h : Section cfg w.shared tid t input o) :
    ChecksInv (w.move tid o) where
  records := (h.recordsCurrent (hw.checks tid t ht)).append hw.records
  idle := h.idleClean hw.idle (hw.checks tid t ht)
  checks := hw.checks_move hg ht h

theorem receive (hw : ChecksInv w) (r : Request) : ChecksInv (w.receive r) where
  records := (r.recordsCurrent _).append hw.records
  idle := hw.idle
  checks := by
    refine hw.checks.push (checkCurrent_of_none ?_)
    cases r <;> rfl

theorem withShared (hw : ChecksInv w) (hp : World.Passive w.shared s) :
    ChecksInv (w.withShared s) where
  records := hw.records
  idle := by
    change IdleClean s.snapshot
    rw [hp.snapshot]
    exact hw.idle
  checks := by
    refine hw.checks.imp fun j u hu node via heq => ?_
    change node ≠ [] ∧ s.snapshot.activeNodeID = node ∧
      ∀ v, via = some v → s.tunnel.session.map (·.id) = some v
    rw [hp.snapshot, hp.tunnel]
    exact hu node via heq

end ChecksInv

/-- In every run in which no section disturbs an open check, every recorded result
belongs to the session and the node that are current when it is written, and no idle
snapshot names an exit. -/
theorem verification_results_current {file : Option Storage.State} {w : World}
    (hfile : ∀ state, file = some state → IdleClean state.snapshot)
    (hr : World.Reachable cfg file World.checksUndisturbed w) :
    RecordsCurrent w.history ∧ IdleClean w.shared.snapshot := by
  have hinv : ChecksInv w := by
    refine World.invariant hr ⟨?_, load_idleClean hfile, ?_⟩ ?_ ?_ ?_
    · intro node session held active hmem
      simp [World.boot] at hmem
    · intro j u hu
      rcases World.mem_automation (List.mem_of_getElem? hu) with rfl | rfl <;>
        exact checkCurrent_of_none rfl
    · exact fun w r hw _ => hw.receive r
    · exact fun w tid t input o hw hg ht hsec => hw.move hg ht hsec
    · exact fun w s hw hp => hw.withShared hp
  exact ⟨hinv.records, hinv.idle⟩

/-- A connected exit is verified once more by `verifyExit`, and by the monitor. -/
theorem verification_results_current_run : ∃ w : World,
    World.Reachable {} none World.checksUndisturbed w ∧
      Event.recorded idA 0 (some 0) idA ∈ w.history ∧
      RecordsCurrent w.history ∧ IdleClean w.shared.snapshot := by
  obtain ⟨w, hr, hmem⟩ := World.exists_reachable {} none World.checksUndisturbed
    (fun w => Event.recorded idA 0 (some 0) idA ∈ w.history)
    (startupRun ++
      [.request .verifyExit, .run 3 .go, .run 3 .go, .run 3 (.verified (.ok { passed := true })),
        .run 3 .go, .run 0 .healthTick, .run 0 .go, .run 0 .go, .run 0 .go,
        .run 0 (.verified (.ok { passed := true })), .run 0 (.time 0)]) (by decide +kernel)
  exact ⟨w, hr, hmem, verification_results_current (by simp) hr⟩

/-- A health check has its answer and has not recorded it when a disconnect request comes and
goes. The result is then recorded for a session that is gone, in an idle snapshot. -/
theorem verification_result_stale :
    ¬ ∀ (cfg : Config) (file : Option Storage.State) (w : World),
      (∀ state, file = some state → IdleClean state.snapshot) →
      World.Reachable cfg file World.unrestricted w →
      RecordsCurrent w.history ∧ IdleClean w.shared.snapshot := by
  intro hall
  obtain ⟨w, hr, hmem, -, -⟩ := World.exists_reachable {} none World.unrestricted
    (fun w => Event.recorded idA 0 none [] ∈ w.history ∧
      w.shared.snapshot.state = .idle ∧ w.shared.snapshot.exitIP = lit "8.8.8.8")
    (startupRun ++ [.run 0 .healthTick, .run 0 .go, .run 0 .go, .run 0 .go,
        .run 0 (.verified (.ok { passed := true, exitIP := lit "8.8.8.8" }))] ++
      disconnectRun 3 ++ [.run 0 (.time 0)]) (by decide +kernel)
  obtain ⟨hrecords, -⟩ := hall {} none w (by simp) hr
  have hheld := (hrecords _ _ _ _ hmem).1
  simp at hheld

end ResidentialIPManager.Web
