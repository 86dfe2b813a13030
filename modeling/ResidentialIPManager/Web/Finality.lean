import ResidentialIPManager.Web.Closing

/-! # A user disconnect is final

`disconnect` clears the session that is installed at that instant and then the
snapshot. A pass, a verification or a report that is already under way can undo
either. The disconnect is final in the runs in which nothing of the kind is in
flight when the handler clears the session, and in which neither a connect request
nor a recovery starts before the handler returns.
-/
namespace ResidentialIPManager.Web
open Text Domain Tunnel Transition

/-- A disconnect handler has returned and no connect request has arrived since. -/
def switchedOff : History → Bool
  | [] => false
  | .disconnectReturned _ :: _ => true
  | .connectRequested _ :: _ => false
  | _ :: h => switchedOff h

def Thread.mayReconnect : Thread → Bool
  | .connect _ => true
  | .autoConnectExit _ => true
  | .loop _ _ => true
  | .monitor (.recoverCheck _ connected) => connected
  | .monitor (.recoverNode _) => true
  | .monitor (.recoverReason _ _) => true
  | .monitor (.recoverCool _ _) => true
  | .monitor .recoverSelect => true
  | .verifyExit (.await _ _) => true
  | .verifyExit (.apply _ _ result) => result.passed
  | .maintenance _ (.fail _ environment _) => environment.running
  | _ => false

def Thread.disconnecting : Thread → Bool
  | .disconnect (.close _) => true
  | .disconnect .reset => true
  | .disconnect .finish => true
  | _ => false

def Thread.cleared : Thread → Bool
  | .disconnect .finish => true
  | _ => false

/-- A disconnect handler works alone: nothing that may reconnect is in flight when
it clears the session, and nothing of the kind starts before it returns. -/
def World.disconnectAlone : World.Guard := fun w a =>
  match a with
  | .request (.connect _) => !w.threads.any Thread.disconnecting
  | .run tid _ =>
    match w.threads[tid]? with
    | some (.disconnect .start) => !w.threads.any Thread.mayReconnect
    | some (.monitor (.recover _)) =>
      !(decide (w.shared.snapshot.state = .connected) && w.threads.any Thread.disconnecting)
    | _ => true
  | _ => true

variable {cfg : Config} {s : Shared} {tid : Nat} {t : Thread} {input : Input} {o : Result}

/-- From the moment a handler clears the session, until a connect request. -/
def Quiet (w : World) : Prop :=
  Pool.Some (fun u => u.disconnecting = true) w.threads ∨ switchedOff w.history = true

/-- From the moment a handler clears the snapshot, until a connect request. -/
def Settled (w : World) : Prop :=
  Pool.Some (fun u => u.cleared = true) w.threads ∨ switchedOff w.history = true

theorem Settled.quiet {w : World} (h : Settled w) : Quiet w := by
  refine h.imp ?_ (fun hs => hs)
  rintro ⟨j, u, hu, hc⟩
  refine ⟨j, u, hu, ?_⟩
  unfold Thread.cleared at hc
  split at hc
  · rfl
  · simp at hc

theorem switchedOff_append {l h : History}
    (hl : ∀ e ∈ l, ∀ tid, e ≠ .disconnectReturned tid ∧ e ≠ .connectRequested tid) :
    switchedOff (l ++ h) = switchedOff h := by
  induction l with
  | nil => rfl
  | cons e rest ih =>
    have hrest := ih fun a ha => hl a (List.mem_cons_of_mem _ ha)
    have he := hl e List.mem_cons_self
    cases e with
    | disconnectReturned tid => exact absurd rfl (he tid).1
    | connectRequested tid => exact absurd rfl (he tid).2
    | _ => exact hrest

/-- Only the end of a disconnect handler switches off. -/
theorem Section.switchedOff_cases (h : Section cfg s tid t input o) (history : History) :
    (t = .disconnect .finish ∧ switchedOff (o.events ++ history) = true) ∨
      switchedOff (o.events ++ history) = switchedOff history := by
  have hremoval (cause : Removal) :
      switchedOff (s.removal cause ++ history) = switchedOff history := by
    refine switchedOff_append fun e he tid => ?_
    obtain ⟨S, -, rfl⟩ := Shared.mem_removal he
    exact ⟨by simp, by simp⟩
  cases h with
  | maintenance h => cases h <;> exact .inr rfl
  | verifyExit h => cases h <;> exact .inr rfl
  | connect h => cases h <;> exact .inr rfl
  | disconnect h =>
    cases h with
    | start => exact .inr (hremoval _)
    | finish => exact .inl ⟨rfl, rfl⟩
    | _ => exact .inr rfl
  | auto h => cases h <;> exact .inr rfl
  | loop h =>
    cases h with
    | reject => exact .inr (hremoval _)
    | _ => exact .inr rfl
  | exhausted => exact .inr rfl
  | monitor h =>
    cases h with
    | healthDrop => exact .inr (hremoval _)
    | _ => exact .inr rfl
  | watchCurrent => exact .inr (hremoval _)
  | watchOther => exact .inr rfl
  | watchClosed => exact .inr rfl
  | closing => exact .inr rfl

/-- A goroutine that is clearing was a disconnect handler before. -/
theorem Section.disconnecting_cases (h : Section cfg s tid t input o)
    (ho : o.thread.disconnecting = true) :
    t = .disconnect .start ∨ t.disconnecting = true ∧
      (o.thread.cleared = true → o.shared.snapshot.state = .idle) := by
  have hf : t.family = .disconnect := by
    rcases h.family with hf | hd
    · rw [← hf]
      unfold Thread.disconnecting at ho
      split at ho
      · rename_i heq
        rw [heq]
        rfl
      · rename_i heq
        rw [heq]
        rfl
      · rename_i heq
        rw [heq]
        rfl
      · simp at ho
    · simp [hd, Thread.disconnecting] at ho
  cases h with
  | disconnect h =>
    cases h with
    | start => exact .inl rfl
    | close => exact .inr ⟨rfl, fun hc => by cases hc⟩
    | reset => exact .inr ⟨rfl, fun _ => rfl⟩
    | finish => simp [Thread.disconnecting] at ho
  | @loop l phase _ _ h =>
    rcases l with ⟨origin, total, attempt, node, rest⟩
    cases origin <;> cases hf
  | @exhausted origin => cases origin <;> cases hf
  | _ => cases hf

/-- Connected is written by goroutines that may reconnect, or over a session. -/
theorem Connects.origin {x : ConnectionSnapshot} (h : Connects cfg s t input x) :
    t.mayReconnect = true ∨ s.tunnel.session ≠ none := by
  cases h with
  | commit hS => exact .inr (by simp [hS])
  | fail hr => exact .inl hr
  | apply hp => exact .inl hp
  | _ => exact .inl rfl

theorem mayReconnect_loopReturn (origin : Origin) : (loopReturn origin).mayReconnect = false := by
  cases origin <;> rfl

theorem mayReconnect_healthFailed (hf : Nat) (reason : GoString) :
    (healthFailed cfg hf reason).mayReconnect = false := by
  unfold healthFailed
  split_ifs <;> rfl

/-- Without a session and a Connected snapshot, nothing new may reconnect. -/
theorem Section.mayReconnect_none (h : Section cfg s tid t input o)
    (ht : t.mayReconnect = false) (hs : s.tunnel.session = none)
    (hrec : ∀ reason, t = .monitor (.recover reason) → s.snapshot.state ≠ .connected) :
    o.thread.mayReconnect = false := by
  cases h with
  | maintenance h =>
    cases h with
    | fetchFailed => simp [Thread.mayReconnect, hs]
    | _ => rfl
  | verifyExit h =>
    cases h with
    | dial hsome => simp [hs] at hsome
    | answer => simp [Thread.mayReconnect] at ht
    | _ => rfl
  | connect h => simp [Thread.mayReconnect] at ht
  | disconnect h => cases h <;> rfl
  | auto h => simp [Thread.mayReconnect] at ht
  | loop h => simp [Thread.mayReconnect] at ht
  | exhausted => exact mayReconnect_loopReturn _
  | monitor h =>
    cases h with
    | recover => exact decide_eq_false (hrec _ rfl)
    | recoverNeeded hc => simp [Thread.mayReconnect, hc] at ht
    | recoverNode => simp [Thread.mayReconnect] at ht
    | recoverReason => simp [Thread.mayReconnect] at ht
    | recoverCool => simp [Thread.mayReconnect] at ht
    | recoverNoNode => simp [Thread.mayReconnect] at ht
    | recoverSelect => simp [Thread.mayReconnect] at ht
    | healthMissing => exact mayReconnect_healthFailed _ _
    | healthNotPassed => exact mayReconnect_healthFailed _ _
    | healthReachFailed => exact mayReconnect_healthFailed _ _
    | healthNotReached => exact mayReconnect_healthFailed _ _
    | _ => rfl
  | watchCurrent => rfl
  | watchOther => rfl
  | watchClosed => rfl
  | closing => rfl

/-- The invariant: while it is quiet there is no session and nothing may reconnect,
and once it is settled the snapshot claims no connection. -/
structure QuietInv (w : World) : Prop where
  session : Quiet w → w.shared.tunnel.session = none
  threads : Quiet w → Pool.Each (fun _ u => u.mayReconnect = false) w.threads
  settled : Settled w → w.shared.snapshot.state ≠ .connected

namespace QuietInv

variable {w : World}

/-- Silence begins with the first section of a disconnect handler. -/
theorem quiet_cases (ht : w.threads[tid]? = some t) (h : Section cfg w.shared tid t input o)
    (hq : Quiet (w.move tid o)) : Quiet w ∨ t = .disconnect .start := by
  rcases hq with ⟨j, u, hu, hd⟩ | hoff
  · rcases Pool.getElem?_move hu with ⟨rfl, rfl⟩ | ⟨-, hold⟩ | ⟨-, hnew⟩
    · rcases h.disconnecting_cases hd with hstart | ⟨hclearing, -⟩
      · exact .inr hstart
      · exact .inl (.inl ⟨j, t, ht, hclearing⟩)
    · exact .inl (.inl ⟨j, u, hold, hd⟩)
    · rw [h.spawned_cases hnew] at hd
      cases hd
  · rcases h.switchedOff_cases w.history with ⟨rfl, -⟩ | heq
    · exact .inl (.inl ⟨tid, _, ht, rfl⟩)
    · exact .inl (.inr (heq ▸ hoff))

/-- The snapshot is settled by the reset of a disconnect handler. -/
theorem settled_cases (ht : w.threads[tid]? = some t) (h : Section cfg w.shared tid t input o)
    (hs : Settled (w.move tid o)) : Settled w ∨ o.shared.snapshot.state = .idle := by
  rcases hs with ⟨j, u, hu, hc⟩ | hoff
  · rcases Pool.getElem?_move hu with ⟨rfl, rfl⟩ | ⟨-, hold⟩ | ⟨-, hnew⟩
    · have hd : o.thread.disconnecting = true := by
        unfold Thread.cleared at hc
        split at hc
        · rename_i heq
          rw [heq]
          rfl
        · simp at hc
      rcases h.disconnecting_cases hd with rfl | ⟨-, hidle⟩
      · cases h with
        | disconnect h =>
          cases h with
          | start => cases hc
      · exact .inr (hidle hc)
    · exact .inl (.inl ⟨j, u, hold, hc⟩)
    · rw [h.spawned_cases hnew] at hc
      cases hc
  · rcases h.switchedOff_cases w.history with ⟨rfl, -⟩ | heq
    · exact .inl (.inl ⟨tid, _, ht, rfl⟩)
    · exact .inl (.inr (heq ▸ hoff))

theorem session_move (hw : QuietInv w) (ht : w.threads[tid]? = some t)
    (h : Section cfg w.shared tid t input o) (hq : Quiet (w.move tid o)) :
    o.shared.tunnel.session = none := by
  rcases quiet_cases ht h hq with hquiet | rfl
  · rcases h.session_cases with ⟨hs, -⟩ | ⟨hs, -⟩ | ⟨l, rfl, -, -⟩
    · exact hs.trans (hw.session hquiet)
    · exact hs
    · have hno := hw.threads hquiet tid _ ht
      simp [Thread.mayReconnect] at hno
  · cases h with
    | disconnect h =>
      cases h with
      | start => rfl

theorem threads_move (hw : QuietInv w)
    (hg : World.disconnectAlone w (.run tid input) = true) (ht : w.threads[tid]? = some t)
    (h : Section cfg w.shared tid t input o) (hq : Quiet (w.move tid o)) :
    Pool.Each (fun _ u => u.mayReconnect = false) (w.move tid o).threads := by
  have hnew : ∀ (j : Nat) (u : Thread), w.threads.length ≤ j → u ∈ o.spawned →
      u.mayReconnect = false := by
    intro j u _ hu
    rw [h.spawned_cases hu]
    rfl
  rcases quiet_cases ht h hq with hquiet | rfl
  · have hall := hw.threads hquiet
    refine hall.move ?_ (fun j u _ _ hu => hu) hnew
    refine h.mayReconnect_none (hall tid t ht) (hw.session hquiet) ?_
    rintro reason rfl hc
    rcases hquiet with hsome | hoff
    · simp only [World.disconnectAlone, ht, hc, decide_true, Bool.true_and,
        Bool.not_eq_true'] at hg
      simp [hsome.any] at hg
    · exact hw.settled (.inr hoff) hc
  · simp only [World.disconnectAlone, ht, Bool.not_eq_true', List.any_eq_false] at hg
    have hall : Pool.Each (fun _ u => u.mayReconnect = false) w.threads :=
      fun j u hu => by simpa using hg u (List.mem_of_getElem? hu)
    refine hall.move ?_ (fun j u _ _ hu => hu) hnew
    cases h with
    | disconnect h =>
      cases h with
      | start => rfl

theorem settled_move (hw : QuietInv w) (ht : w.threads[tid]? = some t)
    (h : Section cfg w.shared tid t input o) (hs : Settled (w.move tid o)) :
    o.shared.snapshot.state ≠ .connected := by
  intro hc
  rcases settled_cases ht h hs with hset | hidle
  · rcases h.connected_cases hc with ⟨hprev, -⟩ | ⟨hwrites, -⟩
    · exact hw.settled hset hprev
    rcases hwrites.origin with hmay | hsome
    · simp [hw.threads hset.quiet tid t ht] at hmay
    · exact hsome (hw.session hset.quiet)
  · simp [hidle] at hc

theorem switchedOff_receive (r : Request) (n : Nat) {h : History}
    (hoff : switchedOff (r.events n ++ h) = true) : switchedOff h = true := by
  cases r with
  | connect id => cases hoff
  | _ => exact hoff

theorem quiet_of_receive {r : Request} (hg : World.disconnectAlone w (.request r) = true)
    (hq : Quiet (w.receive r)) : Quiet w ∧ r.thread.mayReconnect = false := by
  have hold : Pool.Some (fun u => u.disconnecting = true) (w.receive r).threads →
      Pool.Some (fun u => u.disconnecting = true) w.threads :=
    fun hsome => hsome.of_push (by cases r <;> simp [Request.thread, Thread.disconnecting])
  cases r with
  | connect id =>
    rcases hq with hsome | hoff
    · simp only [World.disconnectAlone, Bool.not_eq_true'] at hg
      simp [(hold hsome).any] at hg
    · cases hoff
  | _ => exact ⟨hq.imp hold (fun hoff => hoff), rfl⟩

theorem receive (hw : QuietInv w) (r : Request)
    (hg : World.disconnectAlone w (.request r) = true) : QuietInv (w.receive r) where
  session hq := hw.session (quiet_of_receive hg hq).1
  threads hq := (hw.threads (quiet_of_receive hg hq).1).push (quiet_of_receive hg hq).2
  settled hs := by
    refine hw.settled (hs.imp (fun hsome => ?_) (switchedOff_receive r _))
    exact hsome.of_push (by cases r <;> simp [Request.thread, Thread.cleared])

end QuietInv

/-- In every run in which disconnect handlers work alone, there is no session and no
Connected snapshot from the return of a disconnect to the next connect request. -/
theorem disconnect_final {file : Option Storage.State} {w : World}
    (hr : World.Reachable cfg file World.disconnectAlone w) (hoff : switchedOff w.history = true) :
    w.shared.tunnel.session = none ∧ w.shared.snapshot.state ≠ .connected := by
  have hinv : QuietInv w := by
    refine World.invariant hr ⟨fun _ => rfl, ?_, ?_⟩ ?_ ?_ ?_
    · rintro (⟨j, u, hu, hd⟩ | hoff)
      · rcases World.mem_automation (List.mem_of_getElem? hu) with rfl | rfl <;> cases hd
      · cases hoff
    · rintro -
      simp [World.boot, Storage.load_idle]
    · exact fun w r hw hg => hw.receive r hg
    · intro w tid t input o hw hg ht hsec
      exact ⟨hw.session_move ht hsec, hw.threads_move hg ht hsec, hw.settled_move ht hsec⟩
    · intro w s hw hp
      refine ⟨fun hq => ?_, hw.threads, fun hs => ?_⟩
      · change s.tunnel.session = none
        rw [hp.tunnel]
        exact hw.session hq
      · change s.snapshot.state ≠ .connected
        rw [hp.snapshot]
        exact hw.settled hs
  exact ⟨hinv.session (.inr hoff), hinv.settled (.inr hoff)⟩

/-- A connected exit is disconnected by the user, and monitor ticks follow. -/
theorem disconnect_final_run : ∃ w : World,
    World.Reachable {} none World.disconnectAlone w ∧ switchedOff w.history = true ∧
      w.shared.tunnel.session = none ∧ w.shared.snapshot.state ≠ .connected := by
  obtain ⟨w, hr, hoff⟩ := World.exists_reachable {} none World.disconnectAlone
    (fun w => switchedOff w.history = true)
    (startupRun ++ disconnectRun 3 ++ [.run 0 .transportTick, .run 0 .go, .run 0 .healthTick])
    (by decide +kernel)
  exact ⟨w, hr, hoff, disconnect_final hr hoff⟩

/-- The handshake of a connect request completes after a disconnect request has come
and gone. -/
theorem disconnect_undone :
    ¬ ∀ (cfg : Config) (file : Option Storage.State) (w : World),
      World.Reachable cfg file World.unrestricted w → switchedOff w.history = true →
      w.shared.tunnel.session = none ∧ w.shared.snapshot.state ≠ .connected := by
  intro hall
  obtain ⟨w, hr, hoff, hc⟩ := World.exists_reachable manual none World.unrestricted
    (fun w => switchedOff w.history = true ∧ w.shared.snapshot.state = .connected)
    (refreshRun 0 twoNodes ++ connectRun 1 idA ++ disconnectRun 2 ++ successRun 1)
    (by decide +kernel)
  exact (hall manual none w hr hoff).2 hc

end ResidentialIPManager.Web
