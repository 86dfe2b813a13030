import ResidentialIPManager.Tunnel.Connections

/-! # The bridge of a session

The three goroutines of `startBridge` on one `vpnSession`, with the `Connect` that stores the
session and starts `watch`, calls of `Disconnect` and calls of `close`. A read or a write
fails at any time and with any error, except that the TUN and the device report that they are
closed only after their own `Close`. The channel `done` holds one error, and
`reportBridgeError` does not wait for room in it.
-/
namespace ResidentialIPManager.Tunnel.Bridge
open Text Transition
open Connections (Err)

/-- `errors.Is` with `net.ErrClosed` or `os.ErrClosed`. -/
def isClosed : Err → Bool
  | .netClosed => true
  | .osClosed => true
  | .other _ => false

/-- What the goroutines share: whether the controller has this session, the error queued in
`done`, the context of the bridge, on what `Close` was called, the `WaitGroup`, and
`closeOnce`, which has returned once `closed` is closed. -/
structure Shared where
  current : Bool := false
  done : Option Err := none
  cancelled : Bool := false
  vpnClosed : Bool := false
  deviceClosed : Bool := false
  running : Nat := 3
  closeOnce : OnceState := .uncalled

/-- A goroutine or call, by what it is about to do; `deviceRead`, `vpnRead` and `ping` are
the heads of the three loops of the bridge. -/
inductive Call where
  | deviceRead
  | outbound (packets : Nat)
  | vpnWrite (packets : Nat)
  | writeFailed (packets : Nat) (err : Err)
  | vpnRead
  | deviceWrite
  | ping
  | pingWrite
  | reporting (err : Err)
  | leaving
  | left
  | holding
  | stored
  | watch
  | received (err : Err)
  | disconnect
  | close
  | closeConnections
  | vpnClose
  | waitConnections (closeErr : Option Err)
  | deviceClose (closeErr : Option Err)
  | waitBridge (closeErr : Option Err)
  | awaitClose
  | returned (err : Option Err)
  deriving DecidableEq, Repr

/-- The outcome of a call into the TUN or the device, what a `Close` returned, and which
case of a `select` is taken. -/
inductive Input where
  | go
  | packets (n : Nat)
  | written
  | failed (err : Err)
  | answer (err : Option Err)
  | ctxDone
  | tick
  | send
  | otherwise
  | receive
  | closed

inductive Event where
  | received (err : Err)
  deriving DecidableEq, Repr

abbrev Session := Pool Shared Call Event
abbrev Result := Outcome Shared Call Event

/-- `reportBridgeError`: the `select` takes its default only if no other case is ready. -/
def reportBridgeError (s : Shared) (err : Err) (input : Input) : Option Shared :=
  if isClosed err then
    match input with
    | .go => some s
    | _ => none
  else
    match input with
    | .ctxDone => if s.cancelled then some s else none
    | .send => if s.done = none then some { s with done := some err } else none
    | .otherwise => if s.cancelled = false ∧ s.done ≠ none then some s else none
    | _ => none

def sectionStep (s : Shared) (t : Call) (input : Input) : Option Result :=
  match t, input with
  | .deviceRead, .packets n =>
    -- there is one buffer
    if n ≤ 1 then some { shared := s, thread := .outbound n } else none
  | .deviceRead, .failed err => some { shared := s, thread := .reporting err }
  | .outbound 0, .go => some { shared := s, thread := .deviceRead }
  | .outbound (n + 1), .go =>
    some { shared := s, thread := if s.cancelled then .outbound n else .vpnWrite n }
  | .vpnWrite n, .written => some { shared := s, thread := .outbound n }
  | .vpnWrite n, .failed err => some { shared := s, thread := .writeFailed n err }
  | .writeFailed n err, .go =>
    some { shared := s, thread := if s.cancelled then .outbound n else .reporting err }
  | .vpnRead, .packets _ => some { shared := s, thread := .deviceWrite }
  | .vpnRead, .failed err => some { shared := s, thread := .reporting err }
  | .deviceWrite, .written => some { shared := s, thread := .vpnRead }
  | .deviceWrite, .failed err => some { shared := s, thread := .reporting err }
  | .ping, .ctxDone => if s.cancelled then some { shared := s, thread := .leaving } else none
  | .ping, .tick => some { shared := s, thread := .pingWrite }
  | .pingWrite, .written => some { shared := s, thread := .ping }
  | .pingWrite, .failed err => some { shared := s, thread := .reporting err }
  | .reporting err, input =>
    (reportBridgeError s err input).map fun s' => { shared := s', thread := .leaving }
  | .leaving, .go => some { shared := { s with running := s.running - 1 }, thread := .left }
  | .holding, .go => some { shared := { s with current := true }, thread := .stored }
  | .stored, .go => some { shared := s, thread := .returned none, spawned := [.watch] }
  | .watch, .receive =>
    s.done.map fun err =>
      { shared := { s with done := none }, thread := .received err, events := [.received err] }
  | .watch, .closed =>
    if s.closeOnce = .returned then some { shared := s, thread := .returned none } else none
  | .received _, .go => some { shared := { s with current := false }, thread := .close }
  | .disconnect, .go =>
    some { shared := { s with current := false },
           thread := if s.current then .close else .returned none }
  | .close, .go =>
    match s.closeOnce with
    | .uncalled => some { shared := { s with closeOnce := .running }, thread := .closeConnections }
    | .running => some { shared := s, thread := .awaitClose }
    | .returned => some { shared := s, thread := .returned none }
  | .closeConnections, .go =>
    some { shared := { s with cancelled := true }, thread := .vpnClose }
  | .vpnClose, .answer err =>
    some { shared := { s with vpnClosed := true },
           thread := .waitConnections (if err = some .netClosed then none else err) }
  | .waitConnections closeErr, .go =>
    -- the connections of the session may take any time
    some { shared := s, thread := .deviceClose closeErr }
  | .deviceClose closeErr, .answer err =>
    some { shared := { s with deviceClosed := true },
           thread := .waitBridge
             (if closeErr = none ∧ err ≠ some .osClosed then err else closeErr) }
  | .waitBridge closeErr, .go =>
    if s.running = 0 then
      some { shared := { s with closeOnce := .returned }, thread := .returned closeErr }
    else none
  | .awaitClose, .go =>
    if s.closeOnce = .returned then some { shared := s, thread := .returned none } else none
  | _, _ => none

def Call.entry : Call → Bool
  | .disconnect => true
  | .close => true
  | _ => false

def step : Session → CallAction Call Input → Option Session :=
  Pool.callStep Call.entry sectionStep

/-- `connect` has returned the session, and its bridge runs. -/
def start : Session := ⟨{}, [.deviceRead, .vpnRead, .ping, .holding], []⟩

/-- `Close` was called on the TUN or the device that the goroutine reads or writes. -/
def Call.onClosed (s : Shared) : Call → Bool
  | .deviceRead => s.deviceClosed
  | .deviceWrite => s.deviceClosed
  | .vpnRead => s.vpnClosed
  | .vpnWrite _ => s.vpnClosed
  | .pingWrite => s.vpnClosed
  | _ => false

/-- Only what is closed answers that it is closed. -/
def closedAfterClose (w : Session) : CallAction Call Input → Bool
  | .run tid (.failed err) => !isClosed err || (w.threads[tid]?).any (Call.onClosed w.shared)
  | _ => true

def Shared.started (s : Shared) : Prop := s.closeOnce ≠ .uncalled

def Call.carries : Call → Option Err
  | .writeFailed _ err => some err
  | .reporting err => some err
  | _ => none

def Call.hasReturned : Call → Bool
  | .leaving => true
  | .left => true
  | _ => false

def Call.inBody : Call → Bool
  | .closeConnections => true
  | .vpnClose => true
  | .waitConnections _ => true
  | .deviceClose _ => true
  | .waitBridge _ => true
  | _ => false

/-- The call carries no error, has not left the bridge, and is outside the body. -/
def Call.calm (t : Call) : Bool := t.carries.isNone && !t.hasReturned && !t.inBody

inductive Moves (s : Shared) : Call → Input → Result → Prop
  | calm {t : Call} {input : Input} (current : Bool) {u : Call} {spawned : List Call}
      (hu : u.calm = true) (hs : ∀ v ∈ spawned, v.calm = true) :
      Moves s t input
        { shared := { s with current := current }, thread := u, spawned := spawned }
  | failed {t u : Call} {err : Err} (hu : u.carries = some err) :
      Moves s t (.failed err) { shared := s, thread := u }
  | kept {n : Nat} {err : Err} :
      Moves s (.writeFailed n err) .go { shared := s, thread := .reporting err }
  | ignored {err : Err} (h : isClosed err = true) :
      Moves s (.reporting err) .go { shared := s, thread := .leaving }
  | cancelled {t : Call} (h : s.cancelled = true) :
      Moves s t .ctxDone { shared := s, thread := .leaving }
  | queued {err : Err} :
      Moves s (.reporting err) .send
        { shared := { s with done := some err }, thread := .leaving }
  | dropped {err : Err} (h : s.done ≠ none) :
      Moves s (.reporting err) .otherwise { shared := s, thread := .leaving }
  | left :
      Moves s .leaving .go { shared := { s with running := s.running - 1 }, thread := .left }
  | received {err : Err} :
      Moves s .watch .receive
        { shared := { s with done := none }, thread := .received err,
          events := [.received err] }
  | entered : Moves s .close .go
      { shared := { s with closeOnce := .running }, thread := .closeConnections }
  | inBody {t u : Call} {input : Input} (cancelled vpnClosed deviceClosed : Bool)
      (ht : t.inBody = true) (hu : u.inBody = true) :
      Moves s t input
        { shared := { s with cancelled := cancelled, vpnClosed := vpnClosed,
                             deviceClosed := deviceClosed },
          thread := u }
  | closed (closeErr : Option Err) :
      Moves s (.waitBridge closeErr) .go
        { shared := { s with closeOnce := .returned }, thread := .returned closeErr }

theorem moves_of_report {s s' : Shared} {err : Err} {input : Input}
    (h : reportBridgeError s err input = some s') :
    Moves s (.reporting err) input { shared := s', thread := .leaving } := by
  unfold reportBridgeError at h
  by_cases hclosed : isClosed err = true
  · rw [if_pos hclosed] at h
    cases input with
    | go =>
      obtain rfl := Option.some.inj h
      exact .ignored hclosed
    | _ => cases h
  · rw [if_neg hclosed] at h
    cases input with
    | ctxDone =>
      simp only at h
      split_ifs at h with hcancelled
      obtain rfl := Option.some.inj h
      exact .cancelled hcancelled
    | send =>
      simp only at h
      split_ifs at h
      obtain rfl := Option.some.inj h
      exact .queued
    | otherwise =>
      simp only at h
      split_ifs at h with hfull
      obtain rfl := Option.some.inj h
      exact .dropped hfull.2
    | _ => cases h

theorem moves_of_sectionStep {s : Shared} {t : Call} {input : Input} {o : Result}
    (h : sectionStep s t input = some o) : Moves s t input o := by
  have hnone : ∀ v ∈ ([] : List Call), v.calm = true := by simp
  revert h
  fun_cases sectionStep s t input <;> intro h <;>
    simp only [Option.some.injEq, Option.map_eq_some_iff, reduceCtorEq] at h
  case case18 =>
    obtain ⟨s', hreport, rfl⟩ := h
    exact moves_of_report hreport
  case case22 =>
    obtain ⟨err, -, rfl⟩ := h
    exact .received
  all_goals subst h
  · exact .calm s.current rfl hnone
  · exact .failed rfl
  · exact .calm s.current rfl hnone
  · exact .calm s.current (by split_ifs <;> rfl) hnone
  · exact .calm s.current rfl hnone
  · exact .failed rfl
  · by_cases hcancelled : s.cancelled = true
    · rw [if_pos hcancelled]
      exact .calm s.current rfl hnone
    · rw [if_neg hcancelled]
      exact .kept
  · exact .calm s.current rfl hnone
  · exact .failed rfl
  · exact .calm s.current rfl hnone
  · exact .failed rfl
  · exact .cancelled ‹_›
  · exact .calm s.current rfl hnone
  · exact .calm s.current rfl hnone
  · exact .failed rfl
  · exact .left
  · exact .calm true rfl hnone
  · exact .calm s.current rfl (by simp [Call.calm, Call.carries, Call.hasReturned, Call.inBody])
  · exact .calm s.current rfl hnone
  · exact .calm false rfl hnone
  · exact .calm false (by split_ifs <;> rfl) hnone
  · exact .entered
  · exact .calm s.current rfl hnone
  · exact .calm s.current rfl hnone
  · exact .inBody true s.vpnClosed s.deviceClosed rfl rfl
  · exact .inBody s.cancelled true s.deviceClosed rfl rfl
  · exact .inBody s.cancelled s.vpnClosed s.deviceClosed rfl rfl
  · exact .inBody s.cancelled s.vpnClosed true rfl rfl
  · exact .closed _
  · exact .calm s.current rfl hnone

/-- An error is queued in `done`, or `watch` received one. -/
def Noticed (s : Shared) (history : List Event) : Prop :=
  s.done ≠ none ∨ ∃ err, .received err ∈ history

/-- Nothing tells the bridge to stop before `close` has begun. -/
structure Quiet (s : Shared) : Prop where
  cancelled : s.cancelled = true → s.started
  vpnClosed : s.vpnClosed = true → s.started
  deviceClosed : s.deviceClosed = true → s.started

structure Accounted (s : Shared) (history : List Event) (t : Call) : Prop where
  carries : ∀ err, t.carries = some err → isClosed err = true → s.started
  inBody : t.inBody = true → s.started
  returned : t.hasReturned = true → s.started ∨ Noticed s history

section Sections

variable {s : Shared} {history : List Event} {t : Call} {input : Input} {o : Result}

theorem Accounted.of_calm (h : t.calm = true) : Accounted s history t := by
  simp only [Call.calm, Bool.and_eq_true, Option.isNone_iff_eq_none, Bool.not_eq_true'] at h
  obtain ⟨⟨hcarries, hreturned⟩, hbody⟩ := h
  constructor
  · simp [hcarries]
  · simp [hbody]
  · simp [hreturned]

theorem Accounted.of_started (h : s.started) : Accounted s history t :=
  ⟨fun _ _ _ => h, fun _ => h, fun _ => .inl h⟩

/-- A goroutine that leaves has to have been told to, or noticed. -/
theorem Accounted.of_returned (hreturned : t.hasReturned = true) (h : s.started ∨ Noticed s history) :
    Accounted s history t := by
  cases t with
  | leaving => exact ⟨by simp [Call.carries], by simp [Call.inBody], fun _ => h⟩
  | left => exact ⟨by simp [Call.carries], by simp [Call.inBody], fun _ => h⟩
  | _ => cases hreturned

theorem Accounted.of_carries {err : Err} (hcarries : t.carries = some err)
    (h : isClosed err = true → s.started) : Accounted s history t := by
  have honly : ∀ err', t.carries = some err' → isClosed err' = true → s.started := by
    intro err' herr'
    obtain rfl := Option.some.inj (hcarries.symm.trans herr')
    exact h
  cases t with
  | writeFailed n err => exact ⟨honly, by simp [Call.inBody], by simp [Call.hasReturned]⟩
  | reporting err => exact ⟨honly, by simp [Call.inBody], by simp [Call.hasReturned]⟩
  | _ => cases hcarries

/-- The goroutine of a failed call on something closed finds `close` begun. -/
theorem Quiet.started (h : Quiet s) (hclosed : t.onClosed s = true) : s.started := by
  cases t with
  | deviceRead => exact h.deviceClosed hclosed
  | deviceWrite => exact h.deviceClosed hclosed
  | vpnRead => exact h.vpnClosed hclosed
  | vpnWrite => exact h.vpnClosed hclosed
  | pingWrite => exact h.vpnClosed hclosed
  | _ => cases hclosed

theorem Moves.started (h : Moves s t input o) (hs : s.started) : o.shared.started := by
  cases h with
  | entered => simp [Shared.started]
  | closed => simp [Shared.started]
  | _ => exact hs

/-- The only section that empties `done` is the one that receives. -/
theorem Moves.noticed (h : Moves s t input o) (hn : Noticed s history) :
    Noticed o.shared (o.events ++ history) := by
  cases h with
  | queued => exact .inl (by simp)
  | received => exact .inr ⟨_, List.mem_append_left _ (List.mem_singleton_self _)⟩
  | _ => exact hn

theorem Moves.quiet (h : Moves s t input o) (ht : Accounted s history t) (hq : Quiet s) :
    Quiet o.shared := by
  cases h with
  | entered => constructor <;> simp [Shared.started]
  | closed => constructor <;> simp [Shared.started]
  | inBody cancelled vpnClosed deviceClosed hbody =>
    have hs : s.started := ht.inBody hbody
    exact ⟨fun _ => hs, fun _ => hs, fun _ => hs⟩
  | _ => exact ⟨hq.cancelled, hq.vpnClosed, hq.deviceClosed⟩

theorem Moves.accounted_other (h : Moves s t input o) {u : Call} (hu : Accounted s history u) :
    Accounted o.shared (o.events ++ history) u := by
  constructor
  · intro err hcarries hclosed
    exact h.started (hu.carries err hcarries hclosed)
  · intro hbody
    exact h.started (hu.inBody hbody)
  · intro hreturned
    exact (hu.returned hreturned).imp h.started h.noticed

theorem Moves.accounted_spawned (h : Moves s t input o) {u : Call} (hu : u ∈ o.spawned) :
    Accounted o.shared (o.events ++ history) u := by
  cases h with
  | calm current hcalm hspawned => exact .of_calm (hspawned u hu)
  | _ => cases hu

/-- The moving call, given that a closed error comes from something closed. -/
theorem Moves.accounted (h : Moves s t input o) (hq : Quiet s) (ht : Accounted s history t)
    (hok : ∀ err, input = .failed err → isClosed err = true → t.onClosed s = true) :
    Accounted o.shared (o.events ++ history) o.thread := by
  cases h with
  | calm current hcalm hspawned => exact .of_calm hcalm
  | @failed _ u err hu => exact .of_carries hu fun hclosed => hq.started (hok err rfl hclosed)
  | kept => exact .of_carries rfl (ht.carries _ rfl)
  | ignored hclosed => exact .of_started (ht.carries _ rfl hclosed)
  | cancelled hcancelled => exact .of_started (hq.cancelled hcancelled)
  | queued => exact .of_returned rfl (.inr (.inl (by simp)))
  | dropped hfull => exact .of_returned rfl (.inr (.inl hfull))
  | left => exact .of_returned rfl (ht.returned rfl)
  | received => exact .of_calm rfl
  | entered => exact .of_started (by simp [Shared.started])
  | inBody cancelled vpnClosed deviceClosed hbody hu => exact .of_started (ht.inBody hbody)
  | closed closeErr => exact .of_calm rfl

end Sections

structure Watched (w : Session) : Prop where
  quiet : Quiet w.shared
  accounted : Pool.Each (fun _ t => Accounted w.shared w.history t) w.threads

theorem watched_start : Watched start := by
  refine ⟨⟨by simp [start], by simp [start], by simp [start]⟩, ?_⟩
  intro j t ht
  have hcalm : ∀ u ∈ start.threads, u.calm = true := by decide
  exact .of_calm (hcalm t (List.mem_of_getElem? ht))

theorem Watched.run {w : Session} {tid : Nat} {t : Call} {input : Input} {o : Result}
    (h : Watched w) (hok : closedAfterClose w (.run tid input) = true)
    (ht : w.threads[tid]? = some t) (ho : sectionStep w.shared t input = some o) :
    Watched (w.move tid o) := by
  have hmoves := moves_of_sectionStep ho
  have hself := h.accounted tid t ht
  have honly : ∀ err, input = .failed err → isClosed err = true →
      t.onClosed w.shared = true := by
    rintro err rfl hclosed
    simpa [closedAfterClose, hclosed, ht] using hok
  refine ⟨hmoves.quiet hself h.quiet, ?_⟩
  refine Pool.Each.move h.accounted ?_ ?_ ?_
  · exact hmoves.accounted h.quiet hself honly
  · intro j u _ _ hu
    exact hmoves.accounted_other hu
  · intro j u _ hu
    exact hmoves.accounted_spawned hu

theorem watched {w : Session}
    (h : Reaches step (fun w a => closedAfterClose w a = true) start w) : Watched w := by
  refine Pool.callStep_invariant h watched_start ?_ ?_
  · intro w t hw _ hentry
    refine ⟨hw.quiet, hw.accounted.push (.of_calm ?_)⟩
    cases t <;> first | rfl | cases hentry
  · intro w tid t input o hw hok ht ho
    exact hw.run hok ht ho

/-- If a goroutine of the bridge has returned and `close` has not begun, then an error is
queued or `watch` has received one. -/
theorem data_path_noticed {w : Session}
    (h : Reaches step (fun w a => closedAfterClose w a = true) start w) {tid : Nat} {t : Call}
    (ht : w.threads[tid]? = some t) (hreturned : t.hasReturned = true)
    (hclose : w.shared.closeOnce = .uncalled) : Noticed w.shared w.history := by
  rcases ((watched h).accounted tid t ht).returned hreturned with hstarted | hnoticed
  · exact absurd hclose hstarted
  · exact hnoticed

/-- Both directions fail before `watch` runs, so that the second error is dropped; `watch`
then takes the first one out. -/
theorem data_path_noticed_late : ∃ w : Session, ∃ t : Call,
    Reaches step (fun w a => closedAfterClose w a = true) start w ∧
      w.threads[0]? = some t ∧ t.hasReturned = true ∧ w.shared.closeOnce = .uncalled ∧
      w.shared.done = none ∧ Noticed w.shared w.history := by
  let late : List (CallAction Call Input) :=
    [.run 1 (.failed (.other (lit "connection reset"))), .run 1 .send,
      .run 0 (.packets 1), .run 0 .go, .run 0 (.failed (.other (lit "broken pipe"))), .run 0 .go,
      .run 0 .otherwise, .run 0 .go, .run 3 .go, .run 3 .go, .run 4 .receive]
  have hlate : ∃ w : Session, Reaches step (fun w a => closedAfterClose w a = true) start w ∧
      w.threads[0]? = some .left ∧ w.shared.closeOnce = .uncalled ∧ w.shared.done = none :=
    exists_reaches start _ late (by decide +kernel)
  obtain ⟨w, hw, hleft, hclose, hdone⟩ := hlate
  exact ⟨w, .left, hw, hleft, rfl, hclose, hdone, data_path_noticed hw hleft rfl hclose⟩

end ResidentialIPManager.Tunnel.Bridge
