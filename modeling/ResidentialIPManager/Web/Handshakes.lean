import ResidentialIPManager.Web.Sessions

/-! # One handshake at a time

The `connecting` flag of the controller makes handshakes exclude one another, and
no session is installed while one is under way.
-/
namespace ResidentialIPManager.Web
open Text Domain Tunnel Transition

variable {cfg : Config} {s : Shared} {tid : Nat} {t : Thread} {input : Input} {o : Result}

/-- The goroutine is between the two sections of `Connect`. -/
def Thread.shakingHands : Thread → Bool
  | .loop _ .handshake => true
  | _ => false

inductive ConnectingChange (s : Shared) (t : Thread) (o : Result) : Prop
  | same (hc : o.shared.tunnel.connecting = s.tunnel.connecting)
      (hs : o.shared.tunnel.session = s.tunnel.session ∨ o.shared.tunnel.session = none)
      (ht : t.shakingHands = false) (ho : o.thread.shakingHands = false)
  | began (hc : s.tunnel.connecting = false) (ho : o.shared.tunnel.connecting = true)
      (hs : o.shared.tunnel.session = none) (ht : t.shakingHands = false)
      (hshake : o.thread.shakingHands = true)
  | ended (hc : o.shared.tunnel.connecting = false) (ht : t.shakingHands = true)
      (ho : o.thread.shakingHands = false)

theorem shakingHands_of_between (h : t.between = true) : t.shakingHands = false := by
  rcases Thread.between_cases h with rfl | ⟨l, rfl⟩ | ⟨origin, total, err, rfl⟩ | ⟨hf, rfl⟩ |
    ⟨reason, rfl⟩ <;> rfl

theorem ConnectingChange.of_between (hc : o.shared.tunnel.connecting = s.tunnel.connecting)
    (hs : o.shared.tunnel.session = s.tunnel.session ∨ o.shared.tunnel.session = none)
    (ht : t.shakingHands = false) (ho : o.thread.between = true) : ConnectingChange s t o :=
  .same hc hs ht (shakingHands_of_between ho)

theorem Section.connectingChange (h : Section cfg s tid t input o) : ConnectingChange s t o := by
  cases h with
  | maintenance h => cases h <;> exact .same rfl (.inl rfl) rfl rfl
  | verifyExit h => cases h <;> exact .same rfl (.inl rfl) rfl rfl
  | connect h =>
    cases h with
    | select => exact .of_between rfl (.inl rfl) rfl (between_enterLoop rfl)
    | _ => exact .same rfl (.inl rfl) rfl rfl
  | disconnect h =>
    cases h with
    | start => exact .same rfl (.inr rfl) rfl rfl
    | _ => exact .same rfl (.inl rfl) rfl rfl
  | auto h =>
    cases h with
    | commit => exact .of_between rfl (.inl rfl) rfl (between_enterLoop rfl)
    | _ => exact .same rfl (.inl rfl) rfl rfl
  | loop h =>
    cases h with
    | accepted hs hc => exact .began hc rfl hs rfl rfl
    | handshakeFailed => exact .ended rfl rfl rfl
    | established => exact .ended rfl rfl rfl
    | reject => exact .same rfl (.inr rfl) rfl rfl
    | unverified => exact .of_between rfl (.inl rfl) rfl (between_loopReturn _)
    | publish => exact .of_between rfl (.inl rfl) rfl (between_loopReturn _)
    | cool => exact .of_between rfl (.inl rfl) rfl (between_nextAttempt _ _)
    | _ => exact .same rfl (.inl rfl) rfl rfl
  | exhausted => exact .of_between rfl (.inl rfl) rfl (between_loopReturn _)
  | monitor h =>
    cases h with
    | recoverSelect => exact .of_between rfl (.inl rfl) rfl (between_enterLoop rfl)
    | healthMissing => exact .of_between rfl (.inl rfl) rfl (between_healthFailed _ _ _)
    | healthNotPassed => exact .of_between rfl (.inl rfl) rfl (between_healthFailed _ _ _)
    | healthReachFailed => exact .of_between rfl (.inl rfl) rfl (between_healthFailed _ _ _)
    | healthNotReached => exact .of_between rfl (.inl rfl) rfl (between_healthFailed _ _ _)
    | healthDrop => exact .same rfl (.inr rfl) rfl rfl
    | _ => exact .same rfl (.inl rfl) rfl rfl
  | watchCurrent => exact .same rfl (.inr rfl) rfl rfl
  | watchOther => exact .same rfl (.inl rfl) rfl rfl
  | watchClosed => exact .same rfl (.inl rfl) rfl rfl
  | closing => exact .same rfl (.inl rfl) rfl rfl

structure Handshakes (w : World) : Prop where
  busy : Pool.Each (fun _ u => u.shakingHands = true → w.shared.tunnel.connecting = true ∧
    w.shared.tunnel.session = none) w.threads
  unique : ∀ i j : Nat, ∀ t u, w.threads[i]? = some t → w.threads[j]? = some u →
    t.shakingHands = true → u.shakingHands = true → i = j
  running : w.shared.tunnel.connecting = true → Pool.Some (fun u => u.shakingHands = true) w.threads

namespace Handshakes

variable {w : World}

theorem boot (cfg : Config) (file : Option Storage.State) : Handshakes (World.boot cfg file) where
  busy j u hu hs := by
    rcases World.mem_automation (List.mem_of_getElem? hu) with rfl | rfl <;> cases hs
  unique i j t u ht _ hs := by
    rcases World.mem_automation (List.mem_of_getElem? ht) with rfl | rfl <;> cases hs
  running h := by simp [World.boot] at h

theorem busy_move (hw : Handshakes w) (ht : w.threads[tid]? = some t)
    (h : Section cfg w.shared tid t input o) :
    Pool.Each (fun _ u => u.shakingHands = true → o.shared.tunnel.connecting = true ∧
      o.shared.tunnel.session = none) (w.move tid o).threads := by
  have hnew : ∀ (j : Nat) (u : Thread), w.threads.length ≤ j → u ∈ o.spawned →
      u.shakingHands = true → o.shared.tunnel.connecting = true ∧
      o.shared.tunnel.session = none := by
    intro j u _ hu hs
    rw [h.spawned_cases hu] at hs
    cases hs
  cases h.connectingChange with
  | same hc hs htf hof =>
    refine hw.busy.move (fun hsh => by simp [hof] at hsh) ?_ hnew
    intro j u _ _ hu hsh
    obtain ⟨hcon, hnone⟩ := hu hsh
    exact ⟨hc.trans hcon, hs.elim (fun heq => heq.trans hnone) (fun heq => heq)⟩
  | began hc ho hs htf hshake =>
    refine hw.busy.move (fun _ => ⟨ho, hs⟩) ?_ hnew
    intro j u _ _ hu hsh
    simp [hc] at hu
    simp [hu] at hsh
  | ended hc htt hof =>
    refine hw.busy.move (fun hsh => by simp [hof] at hsh) ?_ hnew
    intro j u hj hu _ hsh
    exact absurd (hw.unique j tid u t hu ht hsh htt) hj

theorem unique_move (hw : Handshakes w) (ht : w.threads[tid]? = some t)
    (h : Section cfg w.shared tid t input o) (i j : Nat) (a b : Thread)
    (hi : (w.move tid o).threads[i]? = some a) (hj : (w.move tid o).threads[j]? = some b)
    (ha : a.shakingHands = true) (hb : b.shakingHands = true) : i = j := by
  have hother : ∀ {k : Nat} {c : Thread}, (w.move tid o).threads[k]? = some c →
      c.shakingHands = true → k ≠ tid → w.threads[k]? = some c := by
    intro k c hk hc hne
    rcases Pool.getElem?_move hk with ⟨heq, -⟩ | ⟨-, hold⟩ | ⟨-, hnew⟩
    · exact absurd heq hne
    · exact hold
    · rw [h.spawned_cases hnew] at hc
      cases hc
  have hself : ∀ {k l : Nat} {c d : Thread}, k = tid → l ≠ tid →
      (w.move tid o).threads[k]? = some c → (w.move tid o).threads[l]? = some d →
      c.shakingHands = true → d.shakingHands = true → False := by
    intro k l c d hk hl hkc hld hc hd
    subst hk
    rw [Pool.getElem?_move_self ht, Option.some.injEq] at hkc
    have hold := hother hld hd hl
    cases h.connectingChange with
    | same _ _ _ hof => simp [← hkc, hof] at hc
    | began hcon => exact absurd (hw.busy l d hold hd).1 (by simp [hcon])
    | ended _ _ hof => simp [← hkc, hof] at hc
  by_cases hia : i = tid
  · by_cases hjb : j = tid
    · exact hia.trans hjb.symm
    · exact (hself hia hjb hi hj ha hb).elim
  · by_cases hjb : j = tid
    · exact (hself hjb hia hj hi hb ha).elim
    · exact hw.unique i j a b (hother hi ha hia) (hother hj hb hjb) ha hb

theorem running_move (hw : Handshakes w) (ht : w.threads[tid]? = some t)
    (h : Section cfg w.shared tid t input o) (hcon : o.shared.tunnel.connecting = true) :
    Pool.Some (fun u => u.shakingHands = true) (w.move tid o).threads := by
  cases h.connectingChange with
  | same hc _ htf _ =>
    exact (hw.running (hc ▸ hcon)).move ht fun hsh => by simp [htf] at hsh
  | began _ _ _ _ hshake => exact ⟨tid, o.thread, Pool.getElem?_move_self ht, hshake⟩
  | ended hc _ _ => simp [hc] at hcon

theorem move (hw : Handshakes w) (ht : w.threads[tid]? = some t)
    (h : Section cfg w.shared tid t input o) : Handshakes (w.move tid o) :=
  ⟨hw.busy_move ht h, hw.unique_move ht h, hw.running_move ht h⟩

theorem receive (hw : Handshakes w) (r : Request) : Handshakes (w.receive r) := by
  have hstart : r.thread.shakingHands = false := by cases r <;> rfl
  have hold : ∀ {k : Nat} {c : Thread}, (w.receive r).threads[k]? = some c →
      c.shakingHands = true → w.threads[k]? = some c := by
    intro k c hk hc
    change (w.threads ++ [r.thread])[k]? = some c at hk
    rw [List.getElem?_append] at hk
    split_ifs at hk with hlt
    · exact hk
    · rw [List.mem_singleton.mp (List.mem_of_getElem? hk), hstart] at hc
      cases hc
  refine ⟨hw.busy.push (by simp [hstart]), ?_, fun hc => (hw.running hc).push⟩
  exact fun i j t u hi hj ht hu => hw.unique i j t u (hold hi ht) (hold hj hu) ht hu

theorem withShared (hw : Handshakes w) (hp : World.Passive w.shared s) :
    Handshakes (w.withShared s) := by
  refine ⟨hw.busy.imp fun j u hu hs => ?_, hw.unique, fun hc => hw.running (hp.tunnel ▸ hc)⟩
  change s.tunnel.connecting = true ∧ s.tunnel.session = none
  rw [hp.tunnel]
  exact hu hs

end Handshakes

end ResidentialIPManager.Web
