import ResidentialIPManager.Transition.History
import ResidentialIPManager.Web.Sessions

/-! # What the health monitor tears down

`healthFailures` counts failed checks without saying of which session. The session
that the monitor removes is the one it saw fail in the runs in which no handshake
completes while the count is positive or a check has dialed, and in which every
check finds the active node.
-/
namespace ResidentialIPManager.Web
open Text Domain Tunnel Transition

def healthChecks (h : History) : List (Option Nat × Bool) :=
  h.filterMap fun e => match e with
    | .healthCheck session passed => some (session, passed)
    | _ => none

def LastChecksFailed (n session : Nat) (h : History) : Prop :=
  (healthChecks h).take n = List.replicate n (some session, false)

def RemovalsJustified (cfg : Config) (h : History) : Prop :=
  Throughout (fun e before => ∀ session node, e = .removed session node .health →
    LastChecksFailed (failureThreshold cfg) session before) h

def Thread.failures (cfg : Config) : Thread → Nat
  | .monitor (.idle hf) => hf
  | .monitor (.transport hf _) => hf
  | .monitor (.health hf) => hf
  | .monitor (.healthNode hf) => hf
  | .monitor (.healthDial hf _) => hf
  | .monitor (.healthAwait hf _ _) => hf
  | .monitor (.healthReach hf _ _) => hf
  | .monitor (.healthReachAwait hf _ _ _) => hf
  | .monitor (.healthDrop _) => failureThreshold cfg
  | _ => 0

def Thread.dialed : Thread → List (Option Nat)
  | .monitor (.healthAwait _ _ via) => [some via]
  | .monitor (.healthReach _ via _) => [via]
  | .monitor (.healthReachAwait _ via reach _) => [via, some reach]
  | _ => []

def Thread.remembers (cfg : Config) (t : Thread) : Bool :=
  decide (t.failures cfg ≠ 0) || !t.dialed.isEmpty

/-- No handshake completes while failures are counted or a check has dialed, and
no check misses its node. -/
def World.sessionKeptWhileCounting (cfg : Config) : World.Guard := fun w a =>
  match a with
  | .run tid input =>
    !(input.handshakeDone && w.threads.any (Thread.remembers cfg)) &&
    match w.threads[tid]? with
    | some (.monitor (.healthNode _)) => w.shared.activeNode.isSome
    | _ => true
  | _ => true

variable {cfg : Config} {s s' : Shared} {tid : Nat} {t : Thread} {input : Input} {o : Result}

theorem healthChecks_append (l h : History) :
    healthChecks (l ++ h) = healthChecks l ++ healthChecks h :=
  List.filterMap_append

theorem LastChecksFailed.le {n m session : Nat} {h : History} (hl : LastChecksFailed n session h)
    (hm : m ≤ n) : LastChecksFailed m session h := by
  have htake := congrArg (List.take m) hl
  rwa [List.take_take, List.take_replicate, Nat.min_eq_left hm] at htake

theorem LastChecksFailed.failed {n session : Nat} {h l : History}
    (hl : LastChecksFailed n session h) (he : healthChecks l = [(some session, false)]) :
    LastChecksFailed (n + 1) session (l ++ h) := by
  unfold LastChecksFailed
  rw [healthChecks_append, he, List.singleton_append, List.take_succ_cons, List.replicate_succ, hl]

theorem lastChecksFailed_zero (session : Nat) (h : History) : LastChecksFailed 0 session h := rfl

def CountsCurrent (cfg : Config) (s : Shared) (h : History) (t : Thread) : Prop :=
  ∀ S, s.tunnel.session = some S →
    LastChecksFailed (t.failures cfg) S.id h ∧ ∀ v ∈ t.dialed, v = some S.id

theorem countsCurrent_of_not_remembers {h : History} (ht : t.remembers cfg = false) :
    CountsCurrent cfg s h t := by
  simp only [Thread.remembers, Bool.or_eq_false_iff, decide_eq_false_iff_not, Bool.not_eq_false',
    List.isEmpty_iff, not_not] at ht
  intro S _
  rw [ht.1, ht.2]
  exact ⟨lastChecksFailed_zero _ _, by simp⟩

theorem not_remembers_of_family (ht : t.family ≠ .monitor) : t.remembers cfg = false := by
  cases t with
  | monitor pc => exact absurd rfl ht
  | _ => rfl

/-- A failed check adds one, up to the threshold. -/
theorem healthFailed_countsCurrent {hf : Nat} {reason : GoString} {h : History}
    (hl : ∀ S, s.tunnel.session = some S → LastChecksFailed (hf + 1) S.id h) :
    CountsCurrent cfg s h (healthFailed cfg hf reason) := by
  intro S hS
  unfold healthFailed
  split_ifs with hle
  · exact ⟨(hl S hS).le hle, by simp [Thread.dialed]⟩
  · exact ⟨hl S hS, by simp [Thread.dialed]⟩

theorem enterLoop_not_remembers {origin : Origin} {candidates : List VpnNode} {empty : Thread}
    (h : empty.remembers cfg = false) : (enterLoop origin candidates empty).remembers cfg = false := by
  cases candidates with
  | nil => exact h
  | cons node rest => rfl

theorem loopReturn_not_remembers (origin : Origin) :
    (loopReturn origin).remembers cfg = false := by
  cases origin <;> rfl

theorem nextAttempt_not_remembers (l : Loop) (err : GoString) :
    (nextAttempt l err).remembers cfg = false := by
  unfold nextAttempt
  split <;> rfl

theorem MonitorSection.countsCurrent {pc : MonitorPc} {h : History}
    (hsec : MonitorSection cfg s tid pc input o) (hc : CountsCurrent cfg s h (.monitor pc))
    (hnode : ∀ hf, pc = .healthNode hf → s.activeNode.isSome = true) :
    CountsCurrent cfg o.shared (o.events ++ h) o.thread := by
  cases hsec with
  | stopped => exact countsCurrent_of_not_remembers rfl
  | transportTick => exact fun S hS => ⟨(hc S hS).1, by simp [Thread.dialed]⟩
  | transport => exact fun S hS => ⟨(hc S hS).1, by simp [Thread.dialed]⟩
  | healthTick => exact fun S hS => ⟨(hc S hS).1, by simp [Thread.dialed]⟩
  | healthRunning => exact fun S hS => ⟨(hc S hS).1, by simp [Thread.dialed]⟩
  | healthNode => exact fun S hS => ⟨(hc S hS).1, by simp [Thread.dialed]⟩
  | healthMissing hn => simp [hn] at hnode
  | healthDialFailed hs => exact fun S hS => by simp [hs] at hS
  | healthDial hs =>
    intro S hS
    have hid := Option.some.inj (hs.symm.trans hS)
    exact ⟨(hc S hS).1, by simp [Thread.dialed, hid]⟩
  | healthNoAnswer => exact fun S hS => ⟨(hc S hS).1, (hc S hS).2⟩
  | healthNotPassed =>
    refine healthFailed_countsCurrent fun S hS => (hc S hS).1.failed ?_
    have hvia := Option.some.inj ((hc S hS).2 _ (List.mem_singleton.mpr rfl))
    simp [healthChecks, hvia]
  | healthReachFailed hs => exact healthFailed_countsCurrent fun S hS => by simp [hs] at hS
  | healthReach hs =>
    intro S hS
    have hid := Option.some.inj (hs.symm.trans hS)
    have hvia := (hc S hS).2 _ (List.mem_singleton.mpr rfl)
    exact ⟨(hc S hS).1, by simp [Thread.dialed, hvia, hid]⟩
  | healthNotReached =>
    refine healthFailed_countsCurrent fun S hS => (hc S hS).1.failed ?_
    have hvia := (hc S hS).2
    simp only [Thread.dialed, List.mem_cons, List.not_mem_nil, or_false, forall_eq_or_imp,
      forall_eq, Option.some.injEq] at hvia
    simp [healthChecks, sameSession, hvia.1, hvia.2]
  | healthDrop => exact fun S hS => by simp at hS
  | recoverSelect => exact countsCurrent_of_not_remembers (enterLoop_not_remembers rfl)
  | _ => exact countsCurrent_of_not_remembers rfl

/-- Only the monitor reports health checks. -/
theorem Section.healthChecks_nil (h : Section cfg s tid t input o) (ht : t.family ≠ .monitor) :
    healthChecks o.events = [] := by
  have hremoval (cause : Removal) : healthChecks (s.removal cause) = [] := by
    unfold Shared.removal
    split <;> rfl
  cases h with
  | maintenance h => cases h <;> rfl
  | verifyExit h => cases h <;> rfl
  | connect h => cases h <;> rfl
  | disconnect h =>
    cases h with
    | start => exact hremoval _
    | _ => rfl
  | auto h => cases h <;> rfl
  | loop h =>
    cases h with
    | reject => exact hremoval _
    | _ => rfl
  | exhausted => rfl
  | monitor h => exact absurd rfl ht
  | watchCurrent => exact hremoval _
  | watchOther => rfl
  | watchClosed => rfl
  | closing => rfl

/-- Only the end of a health check removes a session for its health. -/
theorem Section.removed_health (h : Section cfg s tid t input o) {session : Nat} {node : GoString}
    (hmem : Event.removed session node .health ∈ o.events) :
    ∃ reason S, t = .monitor (.healthDrop reason) ∧ s.tunnel.session = some S ∧ S.id = session ∧
      o.events = [.removed session node .health] := by
  cases h with
  | monitor h =>
    cases h with
    | healthDrop =>
      obtain ⟨S, hS, heq⟩ := Shared.mem_removal hmem
      obtain ⟨rfl, rfl, -⟩ := Event.removed.inj heq
      exact ⟨_, S, rfl, hS, rfl, by simp [Shared.removal, hS]⟩
    | _ => simp at hmem
  | disconnect h =>
    cases h with
    | start =>
      obtain ⟨S, -, heq⟩ := Shared.mem_removal hmem
      cases heq
    | _ => simp at hmem
  | loop h =>
    cases h with
    | reject =>
      obtain ⟨S, -, heq⟩ := Shared.mem_removal hmem
      cases heq
    | _ => simp at hmem
  | watchCurrent =>
    obtain ⟨S, -, heq⟩ := Shared.mem_removal hmem
    cases heq
  | maintenance h => cases h <;> simp at hmem
  | verifyExit h => cases h <;> simp at hmem
  | connect h => cases h <;> simp at hmem
  | auto h => cases h <;> simp at hmem
  | exhausted => simp at hmem
  | watchOther => simp at hmem
  | watchClosed => simp at hmem
  | closing => simp at hmem

/-- The invariant: there is one monitor, what it remembers is about the current
session, and its removals were justified. -/
structure HealthInv (cfg : Config) (w : World) : Prop where
  monitor : Pool.Each (fun j u => u.family = .monitor → j = 0) w.threads
  counts : Pool.Each (fun _ u => CountsCurrent cfg w.shared w.history u) w.threads
  justified : RemovalsJustified cfg w.history

theorem one_monitor (cfg : Config) {j : Nat} {u : Thread}
    (hu : (World.automation cfg)[j]? = some u) (hf : u.family = .monitor) : j = 0 := by
  unfold World.automation at hu
  split_ifs at hu with h1 h2
  · rcases j with - | - | j
    · rfl
    · simp only [List.singleton_append, List.getElem?_cons_succ, List.getElem?_cons_zero,
        Option.some.injEq] at hu
      subst hu
      cases hf
    · simp at hu
  · exact absurd h1.1 h2
  · rcases j with - | j
    · rfl
    · simp at hu
  · simp at hu

namespace HealthInv

variable {w : World}

theorem monitor_move (hw : HealthInv cfg w) (ht : w.threads[tid]? = some t)
    (h : Section cfg w.shared tid t input o) :
    Pool.Each (fun j u => u.family = .monitor → j = 0) (w.move tid o).threads := by
  refine hw.monitor.move ?_ (fun j u _ _ hu => hu) ?_
  · intro hf
    rcases h.family with heq | hd
    · exact hw.monitor tid t ht (heq ▸ hf)
    · simp [hd, Thread.family] at hf
  · intro j u _ hu hf
    simp [h.spawned_cases hu, Thread.family] at hf

theorem counts_other (hw : HealthInv cfg w)
    (hg : World.sessionKeptWhileCounting cfg w (.run tid input) = true)
    (ht : w.threads[tid]? = some t) (h : Section cfg w.shared tid t input o) {j : Nat} {u : Thread}
    (hj : j ≠ tid) (hu : w.threads[j]? = some u) :
    CountsCurrent cfg o.shared (o.events ++ w.history) u := by
  by_cases hm : t.family = .monitor
  · refine countsCurrent_of_not_remembers (not_remembers_of_family fun hf => hj ?_)
    rw [hw.monitor j u hu hf, hw.monitor tid t ht hm]
  · have hchecks : healthChecks (o.events ++ w.history) = healthChecks w.history := by
      rw [healthChecks_append, h.healthChecks_nil hm, List.nil_append]
    rcases h.session_cases with ⟨hs, -⟩ | ⟨hs, -⟩ | ⟨l, rfl, rfl, rfl⟩
    · intro S hS
      obtain ⟨hlast, hdialed⟩ := hw.counts j u hu S (hs ▸ hS)
      refine ⟨?_, hdialed⟩
      unfold LastChecksFailed at hlast ⊢
      rw [hchecks, hlast]
    · exact fun S hS => by simp [hs] at hS
    · simp only [World.sessionKeptWhileCounting, Input.handshakeDone, Bool.true_and,
        Bool.and_eq_true, Bool.not_eq_true', List.any_eq_false] at hg
      refine countsCurrent_of_not_remembers ?_
      simpa using hg.1 u (List.mem_of_getElem? hu)

theorem counts_self (hw : HealthInv cfg w)
    (hg : World.sessionKeptWhileCounting cfg w (.run tid input) = true)
    (ht : w.threads[tid]? = some t) (h : Section cfg w.shared tid t input o) :
    CountsCurrent cfg o.shared (o.events ++ w.history) o.thread := by
  cases h with
  | monitor h =>
    refine h.countsCurrent (hw.counts tid _ ht) ?_
    rintro hf rfl
    simp only [World.sessionKeptWhileCounting, ht, Bool.and_eq_true] at hg
    exact hg.2
  | loop h =>
    cases h with
    | unverified => exact countsCurrent_of_not_remembers (loopReturn_not_remembers _)
    | publish => exact countsCurrent_of_not_remembers (loopReturn_not_remembers _)
    | cool => exact countsCurrent_of_not_remembers (nextAttempt_not_remembers _ _)
    | _ => exact countsCurrent_of_not_remembers rfl
  | connect h =>
    cases h with
    | select => exact countsCurrent_of_not_remembers (enterLoop_not_remembers rfl)
    | _ => exact countsCurrent_of_not_remembers rfl
  | auto h =>
    cases h with
    | commit => exact countsCurrent_of_not_remembers (enterLoop_not_remembers rfl)
    | _ => exact countsCurrent_of_not_remembers rfl
  | exhausted => exact countsCurrent_of_not_remembers (loopReturn_not_remembers _)
  | maintenance h => cases h <;> exact countsCurrent_of_not_remembers rfl
  | verifyExit h => cases h <;> exact countsCurrent_of_not_remembers rfl
  | disconnect h => cases h <;> exact countsCurrent_of_not_remembers rfl
  | watchCurrent => exact countsCurrent_of_not_remembers rfl
  | watchOther => exact countsCurrent_of_not_remembers rfl
  | watchClosed => exact countsCurrent_of_not_remembers rfl
  | closing => exact countsCurrent_of_not_remembers rfl

theorem justified_move (hw : HealthInv cfg w) (ht : w.threads[tid]? = some t)
    (h : Section cfg w.shared tid t input o) :
    RemovalsJustified cfg (o.events ++ w.history) := by
  by_cases hd : ∃ session node, Event.removed session node .health ∈ o.events
  · obtain ⟨session, node, hmem⟩ := hd
    obtain ⟨reason, S, rfl, hS, rfl, hev⟩ := h.removed_health hmem
    rw [hev]
    refine hw.justified.cons ?_
    intro session node heq
    obtain ⟨rfl, -, -⟩ := Event.removed.inj heq
    exact (hw.counts tid _ ht S hS).1
  · refine hw.justified.append fun e he older session node heq => ?_
    exact absurd ⟨session, node, heq ▸ he⟩ hd

theorem receive (hw : HealthInv cfg w) (r : Request) : HealthInv cfg (w.receive r) where
  monitor := hw.monitor.push fun hf => by cases r <;> cases hf
  counts := by
    refine Pool.Each.push (hw.counts.imp fun j u hu S hS => ⟨?_, (hu S hS).2⟩)
      (countsCurrent_of_not_remembers ?_)
    · have hchecks : healthChecks (r.events w.threads.length) = [] := by cases r <;> rfl
      have hlast := (hu S hS).1
      unfold LastChecksFailed at hlast ⊢
      change List.take _ (healthChecks (r.events w.threads.length ++ w.history)) = _
      rw [healthChecks_append, hchecks, List.nil_append, hlast]
    · cases r <;> rfl
  justified := by
    refine hw.justified.append fun e he older session node heq => ?_
    subst heq
    cases r <;> simp [Request.events] at he

end HealthInv

/-- In every run that keeps the session while failures are counted, the health
monitor removes only a session on which the last checks all failed. -/
theorem health_removals_justified {file : Option Storage.State} {w : World}
    (hr : World.Reachable cfg file (World.sessionKeptWhileCounting cfg) w) :
    RemovalsJustified cfg w.history := by
  have hinv : HealthInv cfg w := by
    refine World.invariant hr ⟨?_, ?_, throughout_nil⟩ ?_ ?_ ?_
    · exact fun j u hu hf => one_monitor cfg hu hf
    · exact fun j u _ S hS => by simp [World.boot] at hS
    · exact fun w r hw _ => hw.receive r
    · intro w tid t input o hw hg ht hsec
      refine ⟨hw.monitor_move ht hsec, ?_, hw.justified_move ht hsec⟩
      refine hw.counts.move (hw.counts_self hg ht hsec) ?_ ?_
      · exact fun j u hj hu _ => hw.counts_other hg ht hsec hj hu
      · exact fun j u _ hu =>
          countsCurrent_of_not_remembers (by rw [hsec.spawned_cases hu]; rfl)
    · intro w s hw hp
      refine ⟨hw.monitor, hw.counts.imp fun j u hu S hS => ?_, hw.justified⟩
      exact hu S (hp.tunnel ▸ hS)
  exact hinv.justified

def failedCheckRun : List Action :=
  [.run 0 .healthTick, .run 0 .go, .run 0 .go, .run 0 .go,
    .run 0 (.verified (.ok { passed := false }))]

/-- Two failed checks in a row remove the session. -/
theorem health_removals_justified_run : ∃ w : World,
    World.Reachable {} none (World.sessionKeptWhileCounting {}) w ∧
      Event.removed 0 idA .health ∈ w.history ∧ RemovalsJustified {} w.history := by
  obtain ⟨w, hr, hmem⟩ := World.exists_reachable {} none (World.sessionKeptWhileCounting {})
    (fun w => Event.removed 0 idA .health ∈ w.history)
    (startupRun ++ failedCheckRun ++ failedCheckRun ++ [.run 0 .go]) (by decide +kernel)
  exact ⟨w, hr, hmem, health_removals_justified hr⟩

/-- One check fails on the first exit. The user switches to another node, on which
one check fails as well, and the monitor removes it. -/
theorem health_removal_unjustified :
    ¬ ∀ (cfg : Config) (file : Option Storage.State) (w : World),
      World.Reachable cfg file World.unrestricted w → RemovalsJustified cfg w.history := by
  intro hall
  obtain ⟨w, hr, hhead, hchecks⟩ := World.exists_reachable {} none World.unrestricted
    (fun w => w.history.head? = some (.removed 1 idB .health) ∧
      (healthChecks w.history.tail).take 2 = [(some 1, false), (some 0, false)])
    (startupRun ++ failedCheckRun ++ disconnectRun 3 ++ connectRun 4 idB ++ successRun 4 ++
      failedCheckRun ++ [.run 0 .go]) (by decide +kernel)
  obtain ⟨older, holder⟩ := List.head?_eq_some_iff.mp hhead
  have hlast := hall {} none w hr [] _ older holder 1 idB rfl
  rw [holder, List.tail_cons] at hchecks
  have htwo : (healthChecks older).take 2 = List.replicate 2 (some 1, false) := hlast
  rw [hchecks] at htwo
  simp at htwo

end ResidentialIPManager.Web
