import ResidentialIPManager.Web.Closing
import ResidentialIPManager.Web.Handshakes

/-! # Failover stays armed

The transport tick recovers a lost exit only while the snapshot is still Connected. The
operations that end while the exit is lost write snapshots of their own, and a session
may be lost under a snapshot that is not Connected. Failover stays armed in the runs in
which neither happens.
-/
namespace ResidentialIPManager.Web
open Text Domain Tunnel Transition

/-- The session was lost: by the data path or by the health monitor. -/
def Event.isLoss : Event → Bool
  | .removed _ _ .dataPath => true
  | .removed _ _ .health => true
  | _ => false

def Event.isEstablished : Event → Bool
  | .established _ _ => true
  | _ => false

def Event.isDisconnectRequest : Event → Bool
  | .disconnectRequested _ => true
  | _ => false

/-- The last session was lost, and no disconnect was requested since it was established. -/
def lostExit (h : History) : Bool :=
  (h.find? Event.isSession).any Event.isLoss &&
    (h.takeWhile (!·.isEstablished)).all (!·.isDisconnectRequest)

def sinceSession (h : History) : History := h.takeWhile (!·.isSession)

/-- The last snapshot was written by a pass that began after the last change of the
session and exhausted its candidates. -/
def ExhaustedSince (h : History) : Prop :=
  ∃ newer tid older, sinceSession h = newer ++ .wrote tid .exhausted :: older ∧
    (∀ e ∈ newer, e.write? = none) ∧ .passBegan tid ∈ older

def Thread.loses (held : Option Nat) : Thread → Bool
  | .watch session => decide (held = some session)
  | .monitor (.healthDrop _) => held.isSome
  | _ => false

/-- The goroutine does not end over a lost exit: it is not about to close, it closes with
Connected, or it is a pass that began after the loss. -/
def Thread.sparesLost (tid : Nat) (since : History) : Thread → Input → Bool
  | .maintenance _ (.work _ _), _ => false
  | .maintenance _ (.fail _ environment _), _ => environment.running
  | .connect (.keep environment _), _ => environment.running
  | .verifyExit (.apply _ _ result), _ => result.passed
  | .disconnect .reset, _ => false
  | .autoConnectExit (.fetch _), .fetched (.error _) _ => false
  | .autoConnectExit (.probe _ _), _ => false
  | .exhausted _ _ _, _ => decide (.passBegan tid ∈ since)
  | _, _ => true

/-- Unless another operation still has its closing write to make, a session is lost under
a Connected snapshot only, and no operation ends over a lost exit. -/
def World.lossesNoticed : World.Guard := fun w a =>
  match a with
  | .run tid input =>
    w.othersOwe tid || (w.threads[tid]?).all fun t =>
      (!t.loses (w.shared.tunnel.session.map (·.id)) ||
        decide (w.shared.snapshot.state = .connected)) &&
      (!lostExit w.history || t.sparesLost tid (sinceSession w.history) input)
  | _ => true

variable {cfg : Config} {s : Shared} {tid : Nat} {t : Thread} {input : Input} {o : Result}

/-- Without a session event, an exit that is lost was lost before. -/
theorem lostExit_of_append {l h : History} (hl : ∀ e ∈ l, e.isSession = false)
    (hlost : lostExit (l ++ h) = true) : lostExit h = true := by
  have hfind : l.find? Event.isSession = none := by
    simpa [List.find?_eq_none] using hl
  have hest : ∀ e ∈ l, (!e.isEstablished) = true := by
    intro e he
    have := hl e he
    cases e <;> first | rfl | cases this
  unfold lostExit at hlost ⊢
  rw [List.find?_append, hfind, Option.none_or, List.takeWhile_append_of_pos hest,
    List.all_append, Bool.and_eq_true, Bool.and_eq_true] at hlost
  rw [Bool.and_eq_true]
  exact ⟨hlost.1, hlost.2.2⟩

theorem sinceSession_append {l h : History} (hl : ∀ e ∈ l, e.isSession = false) :
    sinceSession (l ++ h) = l ++ sinceSession h :=
  List.takeWhile_append_of_pos fun e he => by simp [hl e he]

theorem ExhaustedSince.append {l h : History} (hx : ExhaustedSince h)
    (hl : ∀ e ∈ l, e.isSession = false) (hw : ∀ e ∈ l, e.write? = none) :
    ExhaustedSince (l ++ h) := by
  obtain ⟨newer, tid, older, heq, hnewer, hbegan⟩ := hx
  refine ⟨l ++ newer, tid, older, ?_, ?_, hbegan⟩
  · rw [sinceSession_append hl, heq, List.append_assoc]
  · intro e he
    rcases List.mem_append.mp he with hm | hm
    · exact hw e hm
    · exact hnewer e hm

theorem ExhaustedSince.of_closing {h : History} (hb : .passBegan tid ∈ sinceSession h)
    (hw : WroteLast tid .exhausted o.events) : ExhaustedSince (o.events ++ h) := by
  obtain ⟨newer, older, he, hnewer, hses⟩ := hw
  refine ⟨newer, tid, older ++ sinceSession h, ?_, hnewer, List.mem_append_right _ hb⟩
  rw [sinceSession_append hses, he, List.append_assoc, List.cons_append]

def Noticed (x : ConnectionSnapshot) (h : History) : Prop :=
  x.state = .connected ∨ (x.state = .error ∧ ExhaustedSince h)

/-- A closing write that spares the lost exit. -/
theorem Closes.noticed {x : ConnectionSnapshot} {write : Write} {h : History}
    (hc : Closes cfg s t input x write)
    (hspare : t.sparesLost tid (sinceSession h) input = true)
    (hw : WroteLast tid write o.events) : Noticed x (o.events ++ h) := by
  cases hc with
  | commit => cases hspare
  | fail => exact .inl ((nodeMaintenanceSnapshot_state _ _ _).trans (if_pos hspare))
  | keep => exact .inl ((nodeMaintenanceSnapshot_state _ _ _).trans (if_pos hspare))
  | @apply node via result =>
    have hpassed : result.passed = true := hspare
    exact .inl (by simp [applyVerifyResult, hpassed])
  | reset => cases hspare
  | fetchFailed => cases hspare
  | prepared => cases hspare
  | publish => exact .inl rfl
  | unverified => exact .inl rfl
  | exhausted => exact .inr ⟨by simp, .of_closing (of_decide_eq_true hspare) hw⟩

structure LossNoticed (w : World) : Prop where
  shakes : Handshakes w
  held : w.shared.tunnel.session.isSome = true → lostExit w.history = false
  noticed : lostExit w.history = true → Noticed w.shared.snapshot w.history ∨
    Pool.Some (fun u => u.owes = true) w.threads

namespace LossNoticed

variable {w : World}

theorem held_move (hw : LossNoticed w) (h : Section cfg w.shared tid t input o)
    (hsome : o.shared.tunnel.session.isSome = true) :
    lostExit (o.events ++ w.history) = false := by
  cases h.sessionEvents with
  | none hs he =>
    refine Bool.eq_false_iff.mpr fun hlost => ?_
    exact Bool.eq_false_iff.mp (hw.held (hs ▸ hsome)) (lostExit_of_append he hlost)
  | established l _ _ ho =>
    subst ho
    rfl
  | removed S cause hS hs he => simp [hs] at hsome

/-- A session is lost under a Connected snapshot, or while something is in flight. -/
theorem noticed_removed (hg : World.lossesNoticed w (.run tid input) = true)
    (ht : w.threads[tid]? = some t) (hloses : t.loses (w.shared.tunnel.session.map (·.id)) = true)
    (hx : o.shared.snapshot = w.shared.snapshot) :
    Noticed o.shared.snapshot (o.events ++ w.history) ∨
      Pool.Some (fun u => u.owes = true) (w.move tid o).threads := by
  simp only [World.lossesNoticed, ht, Option.all_some, hloses, Bool.or_eq_true,
    Bool.and_eq_true, Bool.not_true, Bool.false_eq_true, false_or, decide_eq_true_eq] at hg
  rcases hg with hothers | ⟨hc, -⟩
  · exact .inr (World.othersOwe_move hothers)
  · exact .inl (.inl (hx ▸ hc))

theorem noticed_same (hw : LossNoticed w) (hg : World.lossesNoticed w (.run tid input) = true)
    (ht : w.threads[tid]? = some t) (h : Section cfg w.shared tid t input o)
    (he : ∀ e ∈ o.events, e.isSession = false) (hlost : lostExit w.history = true) :
    Noticed o.shared.snapshot (o.events ++ w.history) ∨
      Pool.Some (fun u => u.owes = true) (w.move tid o).threads := by
  cases h.snapshotChange with
  | quiet hx _ hev howes =>
    refine (hw.noticed hlost).imp ?_ fun hsome => hsome.move ht howes
    intro hn
    unfold Noticed
    rw [(state_of_quiet hx).1]
    exact hn.imp_right (And.imp_right fun hx => hx.append he hev)
  | progress _ ho => exact .inr ⟨tid, o.thread, Pool.getElem?_move_self ht, ho⟩
  | closing write hc hev =>
    simp only [World.lossesNoticed, ht, Option.all_some, hlost, Bool.or_eq_true, Bool.and_eq_true,
      Bool.not_true, Bool.false_eq_true, false_or] at hg
    rcases hg with hothers | ⟨-, hspare⟩
    · exact .inr (World.othersOwe_move hothers)
    · exact .inl (hc.noticed hspare hev)

theorem noticed_move (hw : LossNoticed w) (hg : World.lossesNoticed w (.run tid input) = true)
    (ht : w.threads[tid]? = some t) (h : Section cfg w.shared tid t input o)
    (hlost : lostExit (o.events ++ w.history) = true) :
    Noticed o.shared.snapshot (o.events ++ w.history) ∨
      Pool.Some (fun u => u.owes = true) (w.move tid o).threads := by
  cases h.sessionEvents with
  | none _ he => exact hw.noticed_same hg ht h he (lostExit_of_append he hlost)
  | established l _ _ ho =>
    subst ho
    cases hlost
  | removed S cause hS hs he hx hc =>
    refine noticed_removed hg ht ?_ hx
    cases cause with
    | dataPath =>
      obtain ⟨session, rfl⟩ := hc
      cases h with
      | watchCurrent hheld => exact decide_eq_true hheld
      | watchOther => simp at he
      | watchClosed => simp at he
    | health =>
      obtain ⟨reason, rfl⟩ := hc
      simp [Thread.loses, hS]
    | user =>
      rw [he] at hlost
      cases hlost
    | rejection =>
      rw [he] at hlost
      cases hlost

theorem move (hw : LossNoticed w) (hg : World.lossesNoticed w (.run tid input) = true)
    (ht : w.threads[tid]? = some t) (h : Section cfg w.shared tid t input o) :
    LossNoticed (w.move tid o) :=
  ⟨hw.shakes.move ht h, hw.held_move h, hw.noticed_move hg ht h⟩

theorem receive (hw : LossNoticed w) (r : Request) : LossNoticed (w.receive r) where
  shakes := hw.shakes.receive r
  held hsome := by
    refine Bool.eq_false_iff.mpr fun hlost => Bool.eq_false_iff.mp (hw.held hsome) ?_
    exact lostExit_of_append (by cases r <;> simp [Request.events, Event.isSession]) hlost
  noticed hlost := by
    have hses : ∀ e ∈ r.events w.threads.length, e.isSession = false := by
      cases r <;> simp [Request.events, Event.isSession]
    have hev : ∀ e ∈ r.events w.threads.length, e.write? = none := by
      cases r <;> simp [Request.events, Event.write?]
    refine (hw.noticed (lostExit_of_append hses hlost)).imp ?_ Pool.Some.push
    exact Or.imp_right (And.imp_right fun hx => hx.append hses hev)

theorem withShared (hw : LossNoticed w) (hp : World.Passive w.shared s) :
    LossNoticed (w.withShared s) where
  shakes := hw.shakes.withShared hp
  held hsome := hw.held (hp.tunnel ▸ hsome)
  noticed hlost := by
    change Noticed s.snapshot w.history ∨ _
    rw [hp.snapshot]
    exact hw.noticed hlost

end LossNoticed

end ResidentialIPManager.Web
