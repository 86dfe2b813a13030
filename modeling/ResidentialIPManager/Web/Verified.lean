import ResidentialIPManager.Web.Closing

/-! # Connected means verified

With verification enabled, a pass installs its session before it verifies it. A
snapshot that claims a connection in that window is not backed by a verification.
The claim holds in the runs in which nothing claims a connection while the pass of
the installed session is still verifying, and in which no handshake completes under
a snapshot that already claims one.
-/
namespace ResidentialIPManager.Web
open Text Domain Tunnel Transition

/-- A verification through `session` completed with `Passed`. -/
def verifiedThrough (session : Nat) (h : History) : Bool :=
  h.any fun e => match e with
    | .verified via _ true => via = session
    | _ => false

/-- The pass that installed `session` is between the handshake and its verdict. -/
def Thread.verifying (session : Nat) : Thread → Bool
  | .loop _ (.verify sid) => sid = session
  | .loop _ (.dial sid _) => sid = session
  | .loop _ (.await sid _ _) => sid = session
  | .loop _ (.reject sid _) => sid = session
  | _ => false

/-- The next section may set the snapshot to Connected without a verification
through the session that the controller holds. -/
def Thread.claimsConnected (held : Option Nat) : Thread → Bool
  | .maintenance _ (.work _ _) => true
  | .maintenance _ (.fail _ environment _) => environment.running
  | .connect (.keep _ _) => true
  | .verifyExit (.apply _ via result) => result.passed && decide (held ≠ some via)
  | .loop _ (.publish _ _ _ _) => true
  | _ => false

namespace World

def verificationPending (w : World) : Bool :=
  match w.shared.tunnel.session with
  | some S => w.threads.any (Thread.verifying S.id)
  | none => false

/-- No section claims a connection while a verification is pending, and no
handshake completes while the snapshot claims one. -/
def verdictRespected : Guard := fun w a =>
  match a with
  | .run tid input =>
    !((w.threads[tid]?).any (Thread.claimsConnected (w.shared.tunnel.session.map (·.id))) &&
      verificationPending w) &&
    !(input.handshakeDone && decide (w.shared.snapshot.state = .connected))
  | _ => true

end World

variable {cfg : Config} {s : Shared} {tid : Nat} {t : Thread} {input : Input} {o : Result}

theorem verifiedThrough_append {session : Nat} {h : History} (l : History)
    (hv : verifiedThrough session h = true) : verifiedThrough session (l ++ h) = true := by
  unfold verifiedThrough at hv ⊢
  rw [List.any_append, hv, Bool.or_true]

theorem LoopSection.verifying_cases {l : Loop} {phase : Phase} {S : VpnSession} {h : History}
    (hon : cfg.verify.enabled = true) (hsec : LoopSection cfg s tid l phase input o)
    (hl : LoopSane s l phase) (hs : s.tunnel.session = some S) (hv : (Thread.loop l phase).verifying S.id = true)
    (ho : o.shared.tunnel.session = some S) :
    o.thread.verifying S.id = true ∨ verifiedThrough S.id (o.events ++ h) = true := by
  cases hsec with
  | verifying => exact .inl hv
  | dialFailed => exact .inl hv
  | dial => exact .inl hv
  | noAnswer => exact .inl hv
  | notPassed => exact .inl hv
  | passed =>
    have hsid := of_decide_eq_true hv
    have hvia := hl.via S _ hs (congrArg some hsid) rfl
    exact .inr (by simp [verifiedThrough, hvia])
  | reject => simp at ho
  | unverified _ hoff => simp [hon] at hoff
  | _ => simp [Thread.verifying] at hv

/-- How a snapshot comes to claim a connection. -/
theorem Connects.claims {x : ConnectionSnapshot} (hv : cfg.verify.enabled = true)
    (h : Connects cfg s t input x) :
    t.claimsConnected (s.tunnel.session.map (·.id)) = true ∨
    ∃ node via result, t = .verifyExit (.apply node via result) ∧ result.passed = true ∧
      s.tunnel.session.map (·.id) = some via := by
  cases h with
  | @apply node via result _ hp =>
    by_cases hheld : s.tunnel.session.map (·.id) = some via
    · exact .inr ⟨node, via, result, rfl, hp, hheld⟩
    · exact .inl (by simp [Thread.claimsConnected, hp, hheld])
  | unverified hoff => simp [hv] at hoff
  | fail hr => exact .inl hr
  | _ => exact .inl rfl

/-- A pass leaves its verification window with a passed verification, or it removes
the session. -/
theorem Section.verifying_cases {S : VpnSession} {h : History} (hon : cfg.verify.enabled = true)
    (hsec : Section cfg s tid t input o) (ht : ThreadSane s t)
    (hs : s.tunnel.session = some S) (hv : t.verifying S.id = true)
    (ho : o.shared.tunnel.session = some S) :
    o.thread.verifying S.id = true ∨ verifiedThrough S.id (o.events ++ h) = true := by
  cases hsec with
  | loop hsec => exact hsec.verifying_cases hon (ht _ _ rfl) hs hv ho
  | _ => simp [Thread.verifying] at hv

/-- The invariant: an installed session is verified or still in its window, and a
snapshot that claims a connection is backed by a verification. -/
structure VerdictInv (w : World) : Prop where
  sane : Sane w
  window : ∀ S, w.shared.tunnel.session = some S → verifiedThrough S.id w.history = true ∨
    Pool.Some (fun u => u.verifying S.id = true) w.threads
  honest : ∀ S, w.shared.tunnel.session = some S → w.shared.snapshot.state = .connected →
    verifiedThrough S.id w.history = true
  applies : Pool.Each (fun _ u => ∀ node via result, u = .verifyExit (.apply node via result) →
    result.passed = true → verifiedThrough via w.history = true) w.threads

namespace VerdictInv

variable {w : World}

theorem boot (cfg : Config) (file : Option Storage.State) : VerdictInv (World.boot cfg file) where
  sane := Sane.boot cfg file
  window S h := by simp [World.boot] at h
  honest S h := by simp [World.boot] at h
  applies j u hu node via result heq := by
    rcases World.mem_automation (List.mem_of_getElem? hu) with rfl | rfl <;> simp at heq

theorem receive (hw : VerdictInv w) (r : Request) : VerdictInv (w.receive r) where
  sane := hw.sane.receive r
  window S hS := (hw.window S hS).imp (verifiedThrough_append _) Pool.Some.push
  honest S hS hc := verifiedThrough_append _ (hw.honest S hS hc)
  applies := by
    refine Pool.Each.push (hw.applies.imp fun j u hu node via result heq hp =>
      verifiedThrough_append _ (hu node via result heq hp)) ?_
    intro node via result heq
    cases r <;> simp [Request.thread] at heq

theorem window_move (hon : cfg.verify.enabled = true) (hw : VerdictInv w)
    (ht : w.threads[tid]? = some t) (h : Section cfg w.shared tid t input o) {S : VpnSession}
    (hS : o.shared.tunnel.session = some S) :
    verifiedThrough S.id (o.events ++ w.history) = true ∨
      Pool.Some (fun u => u.verifying S.id = true) (w.move tid o).threads := by
  rcases h.session_cases with ⟨hs, -⟩ | ⟨hs, -⟩ | ⟨l, rfl, rfl, rfl⟩
  · have hold : w.shared.tunnel.session = some S := hs ▸ hS
    rcases hw.window S hold with hv | hsome
    · exact .inl (verifiedThrough_append _ hv)
    · by_cases hv : verifiedThrough S.id (o.events ++ w.history) = true
      · exact .inl hv
      · refine .inr (hsome.move ht fun hvt => ?_)
        exact (h.verifying_cases hon (hw.sane.threads _ _ ht) hold hvt hS).resolve_right hv
  · simp [hs] at hS
  · obtain rfl := Option.some.inj hS
    exact .inr ⟨tid, _, Pool.getElem?_move_self ht, by simp [Thread.verifying]⟩

theorem honest_move (hon : cfg.verify.enabled = true) (hw : VerdictInv w)
    (hg : World.verdictRespected w (.run tid input) = true) (ht : w.threads[tid]? = some t)
    (h : Section cfg w.shared tid t input o) {S : VpnSession}
    (hS : o.shared.tunnel.session = some S) (hc : o.shared.snapshot.state = .connected) :
    verifiedThrough S.id (o.events ++ w.history) = true := by
  simp only [World.verdictRespected, ht, Option.any_some, Bool.and_eq_true, Bool.not_eq_true',
    Bool.and_eq_false_iff, decide_eq_false_iff_not] at hg
  obtain ⟨hclaim, hshake⟩ := hg
  rcases h.session_cases with ⟨hs, -⟩ | ⟨hs, -⟩ | ⟨l, rfl, rfl, rfl⟩
  · have hold : w.shared.tunnel.session = some S := hs ▸ hS
    refine verifiedThrough_append _ ?_
    rcases h.connected_cases hc with ⟨hprev, -⟩ | ⟨hwrites, -⟩
    · exact hw.honest S hold hprev
    rcases hwrites.claims hon with hcl | ⟨node, via, result, rfl, hp, hvia⟩
    · have hpending : World.verificationPending w = false :=
        hclaim.resolve_left (by simp [hcl])
      refine (hw.window S hold).resolve_right fun hsome => ?_
      simp only [World.verificationPending, hold] at hpending
      exact absurd hsome.any (by simp [hpending])
    · have hid : via = S.id := by simpa [hold] using hvia.symm
      exact hid ▸ hw.applies tid _ ht node via result rfl hp
  · simp [hs] at hS
  · exact absurd hc (hshake.resolve_left (by simp [Input.handshakeDone]))

theorem applies_move (hw : VerdictInv w) (h : Section cfg w.shared tid t input o) :
    Pool.Each (fun _ u => ∀ node via result, u = .verifyExit (.apply node via result) →
      result.passed = true → verifiedThrough via (o.events ++ w.history) = true)
      (w.move tid o).threads := by
  refine hw.applies.move ?_ ?_ ?_
  · intro node via result heq hp
    obtain ⟨pc, rfl, hsec⟩ := h.verifyExit_inv heq
    cases hsec with
    | answer =>
      obtain ⟨rfl, rfl, rfl⟩ := VerifyExitPc.apply.inj (Thread.verifyExit.inj heq)
      simp [verifiedThrough, hp]
    | _ => simp at heq
  · exact fun j u _ _ hu node via result heq hp =>
      verifiedThrough_append _ (hu node via result heq hp)
  · intro j u _ hu node via result heq
    simp [h.spawned_cases hu] at heq

end VerdictInv

/-- With verification enabled, in every run whose steps respect pending verdicts, a
Connected snapshot over a session means that the session passed a verification. -/
theorem connected_verified {file : Option Storage.State} {w : World} {S : VpnSession}
    (hon : cfg.verify.enabled = true) (hr : World.Reachable cfg file World.verdictRespected w)
    (hc : w.shared.snapshot.state = .connected) (hs : w.shared.tunnel.session = some S) :
    verifiedThrough S.id w.history = true := by
  have hinv : VerdictInv w := by
    refine World.invariant hr (VerdictInv.boot cfg file) ?_ ?_ ?_
    · exact fun w r hw _ => hw.receive r
    · intro w tid t input o hw hg ht hsec
      exact ⟨hw.sane.move ht hsec, fun S => hw.window_move hon ht hsec,
        fun S => hw.honest_move hon hg ht hsec, hw.applies_move hsec⟩
    · intro w s hw hp
      exact ⟨hw.sane.withShared hp, fun S hS => hw.window S (hp.tunnel ▸ hS),
        fun S hS hc => hw.honest S (hp.tunnel ▸ hS) (hp.snapshot ▸ hc), hw.applies⟩
  exact hinv.honest S hs hc

/-- A connect request that verifies its session. -/
theorem connected_verified_run : ∃ w : World,
    World.Reachable manual none World.verdictRespected w ∧
      w.shared.snapshot.state = .connected ∧ w.shared.tunnel.session = some ⟨0, idA⟩ ∧
      verifiedThrough 0 w.history = true := by
  obtain ⟨w, hr, hc, hs⟩ := World.exists_reachable manual none World.verdictRespected
    (fun w => w.shared.snapshot.state = .connected ∧
      w.shared.tunnel.session = some ⟨0, idA⟩)
    (refreshRun 0 twoNodes ++ connectRun 1 idA ++ successRun 1) (by decide +kernel)
  exact ⟨w, hr, hc, hs, connected_verified rfl hr hc hs⟩

/-- While the first attempt of a connect request is being verified, a probe of the
nodes completes and publishes Connected. -/
theorem connected_unverified :
    ¬ ∀ (cfg : Config) (file : Option Storage.State) (w : World) (S : VpnSession),
      cfg.verify.enabled = true → World.Reachable cfg file World.unrestricted w →
      w.shared.snapshot.state = .connected → w.shared.tunnel.session = some S →
      verifiedThrough S.id w.history = true := by
  intro hall
  obtain ⟨w, hr, hc, hs, hv⟩ := World.exists_reachable manual none World.unrestricted
    (fun w => w.shared.snapshot.state = .connected ∧
      w.shared.tunnel.session = some ⟨0, idA⟩ ∧ verifiedThrough 0 w.history = false)
    (refreshRun 0 twoNodes ++ connectRun 1 idA ++ [.run 1 (.handshake (.ok ())),
      .run 1 (.time 0), .request (.maintenance .probe), .run 3 .go, .run 3 .go, .run 3 .go,
      .run 3 (.probed (fun _ => ⟨0, fun _ => .ok 0⟩) 0 0)]) (by decide +kernel)
  have := hall manual none w _ rfl hr hc hs
  simp [hv] at this

end ResidentialIPManager.Web
