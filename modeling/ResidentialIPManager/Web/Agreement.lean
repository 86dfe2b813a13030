import ResidentialIPManager.Web.Closing

/-! # Snapshot and tunnel at rest

Several operations may run at once, and each ends with a snapshot of its own. At rest
the snapshot reports the session the controller holds, in the runs in which the last of
the overlapping closing writes is about that session.
-/
namespace ResidentialIPManager.Web
open Text Domain Tunnel Transition

/-- The snapshot reports the session: Connected through its node, or Error as a failed
`verifyExit` of the same session left it. -/
def Agrees (S : VpnSession) (x : ConnectionSnapshot) (h : History) : Prop :=
  x.activeNodeID = S.nodeID ∧
    (x.state = .connected ∨ (x.state = .error ∧ lastWrite h = some (.applied S.id false)))

instance (S : VpnSession) (x : ConnectionSnapshot) (h : History) : Decidable (Agrees S x h) :=
  inferInstanceAs (Decidable (_ ∧ _))

/-- What the goroutine is about to close with was learned from the session `S`. -/
def Thread.closesFor (cfg : Config) (S : VpnSession) : Thread → Input → Bool
  | .maintenance _ (.fail _ environment _), _ =>
    environment.running && decide (environment.nodeID = S.nodeID)
  | .connect (.keep environment _), _ =>
    environment.running && decide (environment.nodeID = S.nodeID)
  | .verifyExit (.apply node via result), _ =>
    decide (node.id = S.nodeID) && (result.passed || decide (via = S.id))
  | .disconnect .reset, _ => false
  | .autoConnectExit (.fetch _), .fetched (.error _) _ => false
  | .autoConnectExit (.probe _ _), _ => false
  | .loop _ (.publish session _ _ _), _ => decide (session = S.id)
  | .loop _ (.verify session), _ => cfg.verify.enabled || decide (session = S.id)
  | .exhausted _ _ _, _ => false
  | _, _ => true

/-- While a session is held, an operation closes with what it learned from that session,
or another operation still has its own closing write to make. -/
def World.closesWithCurrent (cfg : Config) : World.Guard := fun w a =>
  match a with
  | .run tid input =>
    w.othersOwe tid || w.shared.tunnel.session.all fun S =>
      (w.threads[tid]?).all fun t => t.closesFor cfg S input
  | _ => true

variable {cfg : Config} {s : Shared} {tid : Nat} {t : Thread} {input : Input} {o : Result}
  {S : VpnSession}

theorem agrees_maintenance {previous : ConnectionSnapshot} {environment : EnvironmentReport}
    {message : GoString} {h : History} (hn : S.nodeID ≠ []) (hr : environment.running = true)
    (hid : environment.nodeID = S.nodeID) :
    Agrees S (nodeMaintenanceSnapshot previous environment message) h := by
  refine ⟨?_, .inl ?_⟩
  · simp [nodeMaintenanceSnapshot, hr, hid, hn]
  · simp [nodeMaintenanceSnapshot_state, hr]

/-- A closing write about the session in place makes the snapshot report it. -/
theorem Closes.agrees {x : ConnectionSnapshot} {write : Write} {h : History}
    (hc : Closes cfg s t input x write) (hS : s.tunnel.session = some S) (hn : S.nodeID ≠ [])
    (ht : ThreadSane s t) (hfor : t.closesFor cfg S input = true)
    (hw : lastWrite h = some write) : Agrees S x h := by
  cases hc with
  | commit =>
    exact agrees_maintenance hn (by simp [hS]) (by simp [OpenVPNController.checkEnvironment, hS])
  | fail =>
    simp only [Thread.closesFor, Bool.and_eq_true, decide_eq_true_eq] at hfor
    exact agrees_maintenance hn hfor.1 hfor.2
  | keep =>
    simp only [Thread.closesFor, Bool.and_eq_true, decide_eq_true_eq] at hfor
    exact agrees_maintenance hn hfor.1 hfor.2
  | @apply node via result now =>
    simp only [Thread.closesFor, Bool.and_eq_true, Bool.or_eq_true, decide_eq_true_eq] at hfor
    refine ⟨hfor.1, ?_⟩
    cases hp : result.passed with
    | true => exact .inl (by simp [applyVerifyResult, hp])
    | false =>
      have hvia : via = S.id := hfor.2.resolve_left (by simp [hp])
      exact .inr ⟨by simp [applyVerifyResult, hp], by rw [hw, hp, hvia]⟩
  | publish =>
    have hsid := of_decide_eq_true hfor
    exact ⟨((ht _ _ rfl).owner S hS (by rw [Phase.session, hsid])).symm, .inl rfl⟩
  | unverified hv =>
    simp only [Thread.closesFor, hv, Bool.false_or, decide_eq_true_eq] at hfor
    exact ⟨((ht _ _ rfl).owner S hS (by rw [Phase.session, hfor])).symm, .inl rfl⟩
  | reset => cases hfor
  | fetchFailed => cases hfor
  | prepared => cases hfor
  | exhausted => cases hfor

/-- The invariant: a held session is reported, or some operation still owes a
closing write. -/
structure Reported (w : World) : Prop where
  sane : Sane w
  reported : ∀ S, w.shared.tunnel.session = some S →
    Agrees S w.shared.snapshot w.history ∨ Pool.Some (fun u => u.owes = true) w.threads

namespace Reported

variable {w : World}

theorem reported_same (hw : Reported w)
    (hg : World.closesWithCurrent cfg w (.run tid input) = true)
    (ht : w.threads[tid]? = some t) (h : Section cfg w.shared tid t input o)
    (hS : w.shared.tunnel.session = some S) :
    Agrees S o.shared.snapshot (o.events ++ w.history) ∨
      Pool.Some (fun u => u.owes = true) (w.move tid o).threads := by
  cases h.snapshotChange with
  | quiet hx _ hev howes =>
    obtain ⟨hstate, hactive⟩ := state_of_quiet hx
    refine (hw.reported S hS).imp ?_ fun hsome => hsome.move ht howes
    rintro ⟨hid, hcase⟩
    refine ⟨hactive.trans hid, ?_⟩
    rw [hstate, lastWrite_append hev]
    exact hcase
  | progress _ ho => exact .inr ⟨tid, o.thread, Pool.getElem?_move_self ht, ho⟩
  | closing write hc hev =>
    simp only [World.closesWithCurrent, hS, ht, Option.all_some, Bool.or_eq_true] at hg
    rcases hg with hothers | hfor
    · exact .inr (World.othersOwe_move hothers)
    · exact .inl (hc.agrees hS (hw.sane.named S hS) (hw.sane.threads tid t ht) hfor
        hev.lastWrite)

theorem move (hw : Reported w) (hg : World.closesWithCurrent cfg w (.run tid input) = true)
    (ht : w.threads[tid]? = some t) (h : Section cfg w.shared tid t input o) :
    Reported (w.move tid o) where
  sane := hw.sane.move ht h
  reported S hS := by
    rcases h.session_cases with ⟨hs, -⟩ | ⟨hs, -⟩ | ⟨l, rfl, rfl, rfl⟩
    · exact hw.reported_same hg ht h (hs.symm.trans hS)
    · exact absurd (hs.symm.trans hS) (by simp)
    · exact .inr ⟨tid, _, Pool.getElem?_move_self ht, rfl⟩

theorem receive (hw : Reported w) (r : Request) : Reported (w.receive r) where
  sane := hw.sane.receive r
  reported S hS := by
    refine (hw.reported S hS).imp ?_ Pool.Some.push
    rintro ⟨hid, hcase⟩
    refine ⟨hid, hcase.imp_right (And.imp_right fun hlast => ?_)⟩
    change lastWrite (r.events _ ++ w.history) = _
    rw [lastWrite_append (by cases r <;> simp [Request.events, Event.write?]), hlast]

theorem withShared (hw : Reported w) (hp : World.Passive w.shared s) :
    Reported (w.withShared s) where
  sane := hw.sane.withShared hp
  reported S hS := by
    change Agrees S s.snapshot w.history ∨ _
    rw [hp.snapshot]
    exact hw.reported S (hp.tunnel ▸ hS)

end Reported

/-- In every run whose closing writes are about the session in place, the snapshot at
rest reports the session the controller holds. -/
theorem rest_snapshot_agrees {file : Option Storage.State} {w : World}
    (hr : World.Reachable cfg file (World.closesWithCurrent cfg) w) (hrest : w.AtRest)
    (hS : w.shared.tunnel.session = some S) : Agrees S w.shared.snapshot w.history := by
  have hinv : Reported w := by
    refine World.invariant hr ⟨Sane.boot _ _, ?_⟩ ?_ ?_ ?_
    · intro S hS
      simp [World.boot] at hS
    · exact fun w r hw _ => hw.receive r
    · exact fun w tid t input o hw hg ht hsec => hw.move hg ht hsec
    · exact fun w s hw hp => hw.withShared hp
  exact (hinv.reported S hS).resolve_right hrest.no_owes

/-- A node is connected, the list is refreshed, and nothing is in flight any more. -/
theorem rest_snapshot_agrees_run : ∃ w : World,
    World.Reachable manual none (World.closesWithCurrent manual) w ∧ w.AtRest ∧
      w.shared.tunnel.session = some ⟨0, idA⟩ ∧ Agrees ⟨0, idA⟩ w.shared.snapshot w.history := by
  obtain ⟨w, hr, hrest, hS⟩ := World.exists_reachable manual none
    (World.closesWithCurrent manual)
    (fun w => w.threads.all (·.resting) = true ∧ w.shared.tunnel.session = some ⟨0, idA⟩)
    (refreshRun 0 twoNodes ++ connectRun 1 idA ++ successRun 1 ++ refreshRun 3 twoNodes)
    (by decide +kernel)
  have hatRest := World.atRest_of_all hrest
  exact ⟨w, hr, hatRest, hS, rest_snapshot_agrees hr hatRest hS⟩

/-- Two connect requests overlap. The second is refused by the controller and writes
its Error over the Connected snapshot of the first. -/
theorem rest_snapshot_disagrees :
    ¬ ∀ (cfg : Config) (file : Option Storage.State) (w : World),
      World.Reachable cfg file World.unrestricted w → w.AtRest →
      ∀ S, w.shared.tunnel.session = some S → Agrees S w.shared.snapshot w.history := by
  intro hall
  obtain ⟨w, hr, hrest, hS, hno⟩ := World.exists_reachable manual none World.unrestricted
    (fun w => w.threads.all (·.resting) = true ∧ w.shared.tunnel.session = some ⟨0, idA⟩ ∧
      ¬Agrees ⟨0, idA⟩ w.shared.snapshot w.history)
    (refreshRun 0 twoNodes ++ connectRun 1 idA ++ connectRun 2 idB ++ successRun 1 ++
      [.run 2 (.time 0), .run 2 .go]) (by decide +kernel)
  exact hno (hall manual none w hr (World.atRest_of_all hrest) ⟨0, idA⟩ hS)

end ResidentialIPManager.Web
