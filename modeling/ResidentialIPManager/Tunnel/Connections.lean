import ResidentialIPManager.Text.Strings
import ResidentialIPManager.Transition.Calls
import ResidentialIPManager.Transition.History

/-! # The connections of a session

Concurrent calls of `dialContext`, `trackedConn.Close` and `close` on one `vpnSession`. The
network dial is outside the lock and may succeed after `closing` was set; `activeDials`
counts the calls that are between their first and last section. A connection is named by
the number of connections returned before it.
-/
namespace ResidentialIPManager.Tunnel.Connections
open Text Transition

/-- Errors as `errors.Is` tells them apart. -/
inductive Err where
  | netClosed
  | osClosed
  | other (text : GoString)
  deriving DecidableEq, Repr

/-- The fields under `connMu`, the connections returned by the network and those on which
`Close` was called, the `once` of each `trackedConn`, and `closeOnce`. -/
structure Shared where
  closing : Bool := false
  activeDials : Int := 0
  connections : Finset Nat := ∅
  returned : Nat := 0
  closed : Finset Nat := ∅
  tracked : Nat → Option OnceState := fun _ => none
  closeOnce : OnceState := .uncalled

inductive Call where
  | dialContext
  | counted
  | dialing
  | dialed (conn : Option Nat) (err : Option Err)
  | returning (conn : Nat)
  | dropping (conn : Option Nat) (closing : Bool) (err : Option Err)
  | dropped (closing : Bool) (err : Option Err)
  | trackedClose (conn : Nat)
  | closingConn (conn : Nat)
  | untracking (conn : Nat) (err : Option Err)
  | awaitConn (conn : Nat)
  | close
  | closeConnections
  | closingAll (rest : List Nat)
  | untrackingAll (conn : Nat) (rest : List Nat)
  | waitConnections (closeErr : Option Err)
  | deviceClose (closeErr : Option Err)
  | waitBridge (closeErr : Option Err)
  | awaitClose
  | returned (err : Option Err)
  deriving DecidableEq, Repr

/-- The outcome of `s.network.DialContext`; a failed dial may return a connection too. -/
inductive DialAnswer where
  | ok
  | failed (withConn : Bool) (err : Err)

/-- What the outside decides: the outcome of a dial, what a `Close` returned, and the order
in which `closeConnections` ranges over the map. -/
inductive Input where
  | go
  | dialed (answer : DialAnswer)
  | answer (err : Option Err)
  | order (conns : List Nat)

inductive Event where
  | networkDial
  | dialReturned (conn : Nat) (isOpen : Bool)
  | deviceReached
  deriving DecidableEq, Repr

abbrev Session := Pool Shared Call Event
abbrev Result := Outcome Shared Call Event

def untrackConnection (s : Shared) (conn : Nat) : Shared :=
  { s with connections := s.connections.erase conn }

def closeConn (s : Shared) (conn : Nat) : Shared :=
  { s with closed := insert conn s.closed }

def sectionStep (s : Shared) (t : Call) (input : Input) : Option Result :=
  match t, input with
  | .dialContext, .go =>
    if s.closing then some { shared := s, thread := .returned (some .netClosed) }
    else some { shared := { s with activeDials := s.activeDials + 1 }, thread := .counted }
  | .counted, .go => some { shared := s, thread := .dialing, events := [.networkDial] }
  | .dialing, .dialed .ok =>
    some { shared := { s with returned := s.returned + 1 },
           thread := .dialed (some s.returned) none }
  | .dialing, .dialed (.failed true err) =>
    some { shared := { s with returned := s.returned + 1 },
           thread := .dialed (some s.returned) (some err) }
  | .dialing, .dialed (.failed false err) =>
    some { shared := s, thread := .dialed none (some err) }
  | .dialed (some conn) none, .go =>
    if s.closing then some { shared := s, thread := .dropping (some conn) true none }
    else some { shared := { s with connections := insert conn s.connections,
                                   activeDials := s.activeDials - 1 },
                thread := .returning conn }
  | .dialed conn err, .go => some { shared := s, thread := .dropping conn s.closing err }
  | .returning conn, .go =>
    some { shared := { s with tracked := Function.update s.tracked conn (some .uncalled) },
           thread := .returned none,
           events := [.dialReturned conn (decide (conn ∉ s.closed))] }
  | .dropping none closing err, .go => some { shared := s, thread := .dropped closing err }
  | .dropping (some conn) closing err, .go =>
    some { shared := closeConn s conn, thread := .dropped closing err }
  | .dropped closing err, .go =>
    some { shared := { s with activeDials := s.activeDials - 1 },
           thread := .returned (if closing && err.isNone then some .netClosed else err) }
  | .trackedClose conn, .go =>
    -- the caller has the `trackedConn` only once `dialContext` returned it
    match s.tracked conn with
    | none => none
    | some .uncalled =>
      some { shared := { s with tracked := Function.update s.tracked conn (some .running) },
             thread := .closingConn conn }
    | some .running => some { shared := s, thread := .awaitConn conn }
    | some .returned => some { shared := s, thread := .returned none }
  | .closingConn conn, .answer err =>
    some { shared := closeConn s conn, thread := .untracking conn err }
  | .untracking conn err, .go =>
    some { shared := { untrackConnection s conn with
                       tracked := Function.update s.tracked conn (some .returned) },
           thread := .returned err }
  | .awaitConn conn, .go =>
    if s.tracked conn = some .returned then some { shared := s, thread := .returned none }
    else none
  | .close, .go =>
    match s.closeOnce with
    | .uncalled => some { shared := { s with closeOnce := .running }, thread := .closeConnections }
    | .running => some { shared := s, thread := .awaitClose }
    | .returned => some { shared := s, thread := .returned none }
  | .closeConnections, .order conns =>
    if conns.Nodup ∧ conns.toFinset = s.connections then
      some { shared := { s with closing := true }, thread := .closingAll conns }
    else none
  | .closingAll (conn :: rest), .go =>
    some { shared := closeConn s conn, thread := .untrackingAll conn rest }
  | .untrackingAll conn rest, .go =>
    some { shared := untrackConnection s conn, thread := .closingAll rest }
  | .closingAll [], .answer err =>
    -- `s.vpn.Close()`
    some { shared := s,
           thread := .waitConnections (if err = some .netClosed then none else err) }
  | .waitConnections closeErr, .go =>
    if s.connections = ∅ ∧ s.activeDials ≤ 0 then
      some { shared := s, thread := .deviceClose closeErr, events := [.deviceReached] }
    else none
  | .deviceClose closeErr, .answer err =>
    some { shared := s,
           thread := .waitBridge
             (if closeErr = none ∧ err ≠ some .osClosed then err else closeErr) }
  | .waitBridge closeErr, .go =>
    some { shared := { s with closeOnce := .returned }, thread := .returned closeErr }
  | .awaitClose, .go =>
    if s.closeOnce = .returned then some { shared := s, thread := .returned none } else none
  | _, _ => none

def Call.entry : Call → Bool
  | .dialContext => true
  | .trackedClose _ => true
  | .close => true
  | _ => false

def step : Session → CallAction Call Input → Option Session :=
  Pool.callStep Call.entry sectionStep

def start : Session := ⟨{}, [], []⟩

def Call.isCounted : Call → Bool
  | .counted => true
  | .dialing => true
  | .dialed _ _ => true
  | .dropping _ _ _ => true
  | .dropped _ _ => true
  | _ => false

/-- The connection that a call has to track or to close. -/
def Call.holds : Call → Option Nat
  | .dialed conn _ => conn
  | .dropping conn _ _ => conn
  | _ => none

/-- The call is in no section that the connections depend on. -/
def Call.plain : Call → Bool
  | .dialContext => true
  | .trackedClose _ => true
  | .closingConn _ => true
  | .awaitConn _ => true
  | .close => true
  | .closeConnections => true
  | .waitBridge _ => true
  | .awaitClose => true
  | .returned _ => true
  | _ => false

inductive Moves (s : Shared) : Call → Result → Prop
  | other {t u : Call} (tracked : Nat → Option OnceState) (closeOnce : OnceState)
      (ht : t.plain = true) (hu : u.plain = true) :
      Moves s t { shared := { s with tracked := tracked, closeOnce := closeOnce }, thread := u }
  | begun (h : s.closing = false) :
      Moves s .dialContext
        { shared := { s with activeDials := s.activeDials + 1 }, thread := .counted }
  | called : Moves s .counted { shared := s, thread := .dialing, events := [.networkDial] }
  | connected (err : Option Err) :
      Moves s .dialing
        { shared := { s with returned := s.returned + 1 },
          thread := .dialed (some s.returned) err }
  | failed (err : Err) : Moves s .dialing { shared := s, thread := .dialed none (some err) }
  | stored (conn : Nat) (h : s.closing = false) :
      Moves s (.dialed (some conn) none)
        { shared := { s with connections := insert conn s.connections,
                             activeDials := s.activeDials - 1 },
          thread := .returning conn }
  | refused (conn : Option Nat) (closing : Bool) (err : Option Err) :
      Moves s (.dialed conn err) { shared := s, thread := .dropping conn closing err }
  | handed (conn : Nat) :
      Moves s (.returning conn)
        { shared := { s with tracked := Function.update s.tracked conn (some .uncalled) },
          thread := .returned none,
          events := [.dialReturned conn (decide (conn ∉ s.closed))] }
  | nothing (closing : Bool) (err : Option Err) :
      Moves s (.dropping none closing err) { shared := s, thread := .dropped closing err }
  | dropped (conn : Nat) (closing : Bool) (err : Option Err) :
      Moves s (.dropping (some conn) closing err)
        { shared := closeConn s conn, thread := .dropped closing err }
  | uncounted (closing : Bool) (err result : Option Err) :
      Moves s (.dropped closing err)
        { shared := { s with activeDials := s.activeDials - 1 }, thread := .returned result }
  | closedConn (conn : Nat) (err : Option Err) :
      Moves s (.closingConn conn) { shared := closeConn s conn, thread := .untracking conn err }
  | untracked (conn : Nat) (err : Option Err) :
      Moves s (.untracking conn err)
        { shared := { untrackConnection s conn with
                      tracked := Function.update s.tracked conn (some .returned) },
          thread := .returned err }
  | closing (conns : List Nat) :
      Moves s .closeConnections
        { shared := { s with closing := true }, thread := .closingAll conns }
  | closedNext (conn : Nat) (rest : List Nat) :
      Moves s (.closingAll (conn :: rest))
        { shared := closeConn s conn, thread := .untrackingAll conn rest }
  | untrackedNext (conn : Nat) (rest : List Nat) :
      Moves s (.untrackingAll conn rest)
        { shared := untrackConnection s conn, thread := .closingAll rest }
  | vpnClosed (closeErr : Option Err) :
      Moves s (.closingAll []) { shared := s, thread := .waitConnections closeErr }
  | reached (closeErr : Option Err) (hnone : s.connections = ∅) (hidle : s.activeDials ≤ 0) :
      Moves s (.waitConnections closeErr)
        { shared := s, thread := .deviceClose closeErr, events := [.deviceReached] }
  | deviceClosed (closeErr result : Option Err) :
      Moves s (.deviceClose closeErr) { shared := s, thread := .waitBridge result }

theorem moves_of_sectionStep {s : Shared} {t : Call} {input : Input} {o : Result}
    (h : sectionStep s t input = some o) : Moves s t o := by
  unfold sectionStep at h
  split at h
  · split_ifs at h with hclosing
    · obtain rfl := Option.some.inj h
      exact .other s.tracked s.closeOnce rfl rfl
    · obtain rfl := Option.some.inj h
      exact .begun (Bool.eq_false_of_not_eq_true hclosing)
  · obtain rfl := Option.some.inj h
    exact .called
  · obtain rfl := Option.some.inj h
    exact .connected none
  · obtain rfl := Option.some.inj h
    exact .connected (some _)
  · obtain rfl := Option.some.inj h
    exact .failed _
  · split_ifs at h with hclosing
    · obtain rfl := Option.some.inj h
      exact .refused _ _ _
    · obtain rfl := Option.some.inj h
      exact .stored _ (Bool.eq_false_of_not_eq_true hclosing)
  · obtain rfl := Option.some.inj h
    exact .refused _ _ _
  · obtain rfl := Option.some.inj h
    exact .handed _
  · obtain rfl := Option.some.inj h
    exact .nothing _ _
  · obtain rfl := Option.some.inj h
    exact .dropped _ _ _
  · obtain rfl := Option.some.inj h
    exact .uncounted _ _ _
  · split at h
    · cases h
    · obtain rfl := Option.some.inj h
      exact .other _ s.closeOnce rfl rfl
    · obtain rfl := Option.some.inj h
      exact .other s.tracked s.closeOnce rfl rfl
    · obtain rfl := Option.some.inj h
      exact .other s.tracked s.closeOnce rfl rfl
  · obtain rfl := Option.some.inj h
    exact .closedConn _ _
  · obtain rfl := Option.some.inj h
    exact .untracked _ _
  · split_ifs at h
    obtain rfl := Option.some.inj h
    exact .other s.tracked s.closeOnce rfl rfl
  · split at h
    · obtain rfl := Option.some.inj h
      exact .other s.tracked _ rfl rfl
    · obtain rfl := Option.some.inj h
      exact .other s.tracked s.closeOnce rfl rfl
    · obtain rfl := Option.some.inj h
      exact .other s.tracked s.closeOnce rfl rfl
  · split_ifs at h
    obtain rfl := Option.some.inj h
    exact .closing _
  · obtain rfl := Option.some.inj h
    exact .closedNext _ _
  · obtain rfl := Option.some.inj h
    exact .untrackedNext _ _
  · obtain rfl := Option.some.inj h
    exact .vpnClosed _
  · split_ifs at h with hidle
    obtain rfl := Option.some.inj h
    exact .reached _ hidle.1 hidle.2
  · obtain rfl := Option.some.inj h
    exact .deviceClosed _ _
  · obtain rfl := Option.some.inj h
    exact .other s.tracked _ rfl rfl
  · split_ifs at h
    obtain rfl := Option.some.inj h
    exact .other s.tracked s.closeOnce rfl rfl
  · cases h

def Call.Sound (s : Shared) : Call → Prop
  | .dialed (some conn) _ => conn < s.returned
  | .returning conn => conn < s.returned
  | .untracking conn _ => conn ∈ s.closed
  | .closingAll _ => s.closing = true
  | .untrackingAll conn _ => conn ∈ s.closed ∧ s.closing = true
  | .waitConnections _ => s.closing = true
  | _ => True

structure Grows (s s' : Shared) : Prop where
  returned : s.returned ≤ s'.returned
  closed : s.closed ⊆ s'.closed
  closing : s.closing = true → s'.closing = true

section Frame

variable {s s' : Shared} {t : Call} {o : Result}

theorem Call.Sound.grows (h : t.Sound s) (hs : Grows s s') : t.Sound s' := by
  cases t with
  | dialed conn err =>
    cases conn with
    | none => trivial
    | some conn => exact lt_of_lt_of_le h hs.returned
  | returning conn => exact lt_of_lt_of_le h hs.returned
  | untracking conn err => exact hs.closed h
  | closingAll rest => exact hs.closing h
  | untrackingAll conn rest => exact ⟨hs.closed h.1, hs.closing h.2⟩
  | waitConnections closeErr => exact hs.closing h
  | _ => trivial

theorem Call.Sound.of_plain (h : t.plain = true) : t.Sound s := by
  cases t <;> trivial

theorem Call.not_counted_of_plain (h : t.plain = true) : t.isCounted = false ∧ t.holds = none := by
  cases t <;> first | exact ⟨rfl, rfl⟩ | cases h

theorem Moves.grows (hm : Moves s t o) : Grows s o.shared := by
  cases hm with
  | connected err => exact ⟨Nat.le_succ _, Finset.Subset.rfl, fun h => h⟩
  | dropped conn closing err => exact ⟨le_rfl, Finset.subset_insert _ _, fun h => h⟩
  | closedConn conn err => exact ⟨le_rfl, Finset.subset_insert _ _, fun h => h⟩
  | closing conns => exact ⟨le_rfl, Finset.Subset.rfl, fun _ => rfl⟩
  | closedNext conn rest => exact ⟨le_rfl, Finset.subset_insert _ _, fun h => h⟩
  | _ => exact ⟨le_rfl, Finset.Subset.rfl, fun h => h⟩

theorem Moves.sound (hm : Moves s t o) (ht : t.Sound s) : o.thread.Sound o.shared := by
  cases hm with
  | other tracked closeOnce ht hu => exact .of_plain hu
  | connected err => exact Nat.lt_succ_self _
  | stored conn h => exact ht
  | closedConn conn err => exact Finset.mem_insert_self _ _
  | closing conns => rfl
  | closedNext conn rest => exact ⟨Finset.mem_insert_self _ _, ht⟩
  | untrackedNext conn rest => exact ht.2
  | vpnClosed closeErr => exact ht
  | _ => trivial

theorem Moves.spawned (hm : Moves s t o) : o.spawned = [] := by
  cases hm <;> rfl

/-- `activeDials` goes up and down with the moving call. -/
theorem Moves.activeDials (hm : Moves s t o) :
    o.shared.activeDials + (t.isCounted).toNat = s.activeDials + (o.thread.isCounted).toNat := by
  cases hm with
  | other tracked closeOnce ht hu =>
    rw [(Call.not_counted_of_plain ht).1, (Call.not_counted_of_plain hu).1]
  | begun h => simp [Call.isCounted]
  | stored conn h => simp [Call.isCounted]
  | uncounted closing err result => simp [Call.isCounted]
  | _ => rfl

end Frame

/-- Nothing uses the stack: every connection was closed, none is tracked and no dial is
under way. -/
structure Idle (s : Shared) : Prop where
  closed : ∀ conn < s.returned, conn ∈ s.closed
  connections : s.connections = ∅
  activeDials : s.activeDials = 0

/-- Once `device.Close` is reached, no dial is made and no open connection is returned. -/
def NoUse (e : Event) (older : List Event) : Prop :=
  .deviceReached ∈ older → e ≠ .networkDial ∧ ∀ conn, e ≠ .dialReturned conn true

structure Inv (w : Session) : Prop where
  sound : Pool.Each (fun _ t => t.Sound w.shared) w.threads
  count : w.shared.activeDials = w.threads.countP Call.isCounted
  /-- A connection is closed, tracked, or held by the call that dialed it. -/
  kept : ∀ conn < w.shared.returned, conn ∈ w.shared.closed ∨ conn ∈ w.shared.connections ∨
    Pool.Some (fun t => t.holds = some conn) w.threads
  reached : Pool.Each (fun _ t => ∀ closeErr, t = .deviceClose closeErr →
    .deviceReached ∈ w.history) w.threads
  drained : .deviceReached ∈ w.history → w.shared.closing = true ∧ w.shared.connections = ∅ ∧
    w.shared.activeDials = 0
  noUse : Throughout NoUse w.history

section Step

variable {w : Session} {tid : Nat} {t : Call} {o : Result}

theorem Call.isCounted_of_holds {conn : Nat} (h : t.holds = some conn) : t.isCounted = true := by
  cases t with
  | dialed c err => rfl
  | dropping c closing err => rfl
  | _ => cases h

/-- With `activeDials` at zero no call is counted. -/
theorem Inv.not_counted (h : Inv w) (hzero : w.shared.activeDials = 0) :
    ∀ u ∈ w.threads, u.isCounted = false := by
  have hcount := h.count
  rw [hzero] at hcount
  have hnone := List.countP_eq_zero.mp (Int.ofNat_eq_zero.mp hcount.symm)
  exact fun u hu => Bool.eq_false_of_not_eq_true (hnone u hu)

theorem Inv.idle (h : Inv w) (hreached : .deviceReached ∈ w.history) : Idle w.shared := by
  obtain ⟨-, hconnections, hzero⟩ := h.drained hreached
  refine ⟨fun conn hconn => ?_, hconnections, hzero⟩
  rcases h.kept conn hconn with hclosed | htracked | ⟨j, u, hu, hholds⟩
  · exact hclosed
  · rw [hconnections] at htracked
    cases htracked
  · have hcounted := h.not_counted hzero u (List.mem_of_getElem? hu)
    rw [Call.isCounted_of_holds hholds] at hcounted
    cases hcounted

theorem Inv.count_after (h : Inv w) (htid : w.threads[tid]? = some t) (hm : Moves w.shared t o) :
    o.shared.activeDials = (w.move tid o).threads.countP Call.isCounted := by
  have hcount := h.count
  have hdials := hm.activeDials
  have hmove := Pool.countP_move Call.isCounted htid (o := o) (by simp [hm.spawned])
  omega

/-- A connection is still kept after a section that leaves it in the map or has closed it,
and whose call holds on to it, tracks it or closes it. -/
theorem Inv.still_kept (h : Inv w) (htid : w.threads[tid]? = some t) (hm : Moves w.shared t o)
    {conn : Nat} (hconn : conn < w.shared.returned)
    (hself : t.holds = some conn → conn ∈ o.shared.closed ∨ conn ∈ o.shared.connections ∨
      o.thread.holds = some conn)
    (htracked : conn ∈ w.shared.connections →
      conn ∈ o.shared.closed ∨ conn ∈ o.shared.connections) :
    conn ∈ o.shared.closed ∨ conn ∈ o.shared.connections ∨
      Pool.Some (fun t => t.holds = some conn) (w.move tid o).threads := by
  rcases h.kept conn hconn with hclosed | hmem | hsome
  · exact .inl (hm.grows.closed hclosed)
  · rcases htracked hmem with hclosed | hmem'
    · exact .inl hclosed
    · exact .inr (.inl hmem')
  · by_cases hholds : t.holds = some conn
    · rcases hself hholds with hclosed | hmem | hthread
      · exact .inl hclosed
      · exact .inr (.inl hmem)
      · exact .inr (.inr (.of_thread htid hthread))
    · exact .inr (.inr (hsome.move_of_ne htid hholds))

/-- A connection leaves the map only after it was closed, and its call lets go of it when it
is tracked or closed. -/
theorem Inv.kept_after (h : Inv w) (htid : w.threads[tid]? = some t) (hm : Moves w.shared t o)
    (ht : t.Sound w.shared) :
    ∀ conn < o.shared.returned, conn ∈ o.shared.closed ∨ conn ∈ o.shared.connections ∨
      Pool.Some (fun t => t.holds = some conn) (w.move tid o).threads := by
  intro conn hconn
  have hkeep := @Inv.still_kept w tid t o h htid hm conn
  cases hm with
  | other tracked closeOnce hplain hu =>
    refine hkeep hconn (fun hholds => ?_) .inr
    rw [(Call.not_counted_of_plain hplain).2] at hholds
    cases hholds
  | connected err =>
    rcases Nat.lt_succ_iff_lt_or_eq.mp hconn with hlt | heq
    · exact hkeep hlt nofun .inr
    · exact .inr (.inr (.of_thread htid (congrArg some heq.symm)))
  | stored c hopen =>
    refine hkeep hconn (fun hholds => .inr (.inl ?_)) fun hmem =>
      .inr (Finset.mem_insert_of_mem hmem)
    obtain rfl : c = conn := Option.some.inj hholds
    exact Finset.mem_insert_self _ _
  | refused c closing err => exact hkeep hconn (fun hholds => .inr (.inr hholds)) .inr
  | dropped c closing err =>
    refine hkeep hconn (fun hholds => .inl ?_) .inr
    obtain rfl : c = conn := Option.some.inj hholds
    exact Finset.mem_insert_self _ _
  | untracked c err =>
    refine hkeep hconn nofun fun hmem => ?_
    by_cases heq : conn = c
    · exact .inl (heq ▸ ht)
    · exact .inr (Finset.mem_erase.mpr ⟨heq, hmem⟩)
  | untrackedNext c rest =>
    refine hkeep hconn nofun fun hmem => ?_
    by_cases heq : conn = c
    · exact .inl (heq ▸ ht.1)
    · exact .inr (Finset.mem_erase.mpr ⟨heq, hmem⟩)
  | _ => exact hkeep hconn nofun .inr

/-- Once `device.Close` is reached, the sections left do not touch the connections. -/
theorem Inv.drained_kept (h : Inv w) (htid : w.threads[tid]? = some t) (hm : Moves w.shared t o)
    (hreached : .deviceReached ∈ w.history) :
    o.shared.closing = true ∧ o.shared.connections = ∅ ∧ o.shared.activeDials = 0 := by
  obtain ⟨hclosing, hnone, hzero⟩ := h.drained hreached
  have hcounted := h.not_counted hzero t (List.mem_of_getElem? htid)
  cases hm with
  | begun hopen => cases hclosing.symm.trans hopen
  | stored conn hopen => cases hcounted
  | uncounted closing err result => cases hcounted
  | untracked conn err => exact ⟨hclosing, by simp [untrackConnection, hnone], hzero⟩
  | closing conns => exact ⟨rfl, hnone, hzero⟩
  | untrackedNext conn rest => exact ⟨hclosing, by simp [untrackConnection, hnone], hzero⟩
  | _ => exact ⟨hclosing, hnone, hzero⟩

theorem Inv.drained_after (h : Inv w) (htid : w.threads[tid]? = some t) (hm : Moves w.shared t o)
    (ht : t.Sound w.shared) (hreached : .deviceReached ∈ o.events ++ w.history) :
    o.shared.closing = true ∧ o.shared.connections = ∅ ∧ o.shared.activeDials = 0 := by
  rcases List.mem_append.mp hreached with hnew | hold
  · cases hm with
    | called => cases List.mem_singleton.mp hnew
    | handed conn => cases List.mem_singleton.mp hnew
    | reached closeErr hnone hidle =>
      have hnonneg : 0 ≤ w.shared.activeDials := h.count ▸ Int.natCast_nonneg _
      exact ⟨ht, hnone, le_antisymm hidle hnonneg⟩
    | _ => cases hnew
  · exact h.drained_kept htid hm hold

theorem Inv.noUse_after (h : Inv w) (htid : w.threads[tid]? = some t) (hm : Moves w.shared t o)
    (ht : t.Sound w.shared) : Throughout NoUse (o.events ++ w.history) := by
  cases hm with
  | called =>
    refine h.noUse.cons fun hreached => ?_
    -- the call is counted, so `device.Close` is not reached
    have hcounted := h.not_counted (h.drained hreached).2.2 _ (List.mem_of_getElem? htid)
    cases hcounted
  | handed conn =>
    refine h.noUse.cons fun hreached => ⟨nofun, fun c heq => ?_⟩
    have hclosed := (h.idle hreached).closed conn ht
    simp [hclosed] at heq
  | reached closeErr hnone hidle => exact h.noUse.cons fun _ => ⟨nofun, nofun⟩
  | _ => exact h.noUse

theorem Inv.move (h : Inv w) (htid : w.threads[tid]? = some t) (hm : Moves w.shared t o) :
    Inv (w.move tid o) := by
  have ht := h.sound tid t htid
  exact {
    sound := h.sound.move (hm.sound ht) (fun _ _ _ _ hu => hu.grows hm.grows)
      (by simp [hm.spawned])
    count := h.count_after htid hm
    kept := h.kept_after htid hm ht
    reached := by
      refine h.reached.move (fun closeErr hself => ?_)
        (fun _ _ _ _ hu closeErr heq => List.mem_append_right _ (hu closeErr heq))
        (by simp [hm.spawned])
      cases hm with
      | other tracked closeOnce hplain hu =>
        change _ = _ at hself
        subst hself
        cases hu
      | reached e hnone hidle => exact List.mem_append_left _ List.mem_cons_self
      | _ => cases hself
    drained := h.drained_after htid hm ht
    noUse := h.noUse_after htid hm ht }

theorem Inv.call (h : Inv w) (hentry : t.entry = true) :
    Inv { w with threads := w.threads ++ [t] } := by
  have hplain : t.plain = true := by
    cases t with
    | dialContext => rfl
    | trackedClose conn => rfl
    | close => rfl
    | _ => cases hentry
  exact {
    sound := h.sound.push (.of_plain hplain)
    count := by simp [h.count, (Call.not_counted_of_plain hplain).1]
    kept := fun conn hconn => (h.kept conn hconn).imp_right fun hrest => hrest.imp_right (·.push)
    reached := h.reached.push fun closeErr heq => by
      subst heq
      cases hplain
    drained := h.drained
    noUse := h.noUse }

theorem Inv.start : Inv start where
  sound := .nil
  count := rfl
  kept := nofun
  reached := .nil
  drained := nofun
  noUse := throughout_nil

theorem inv_of_reaches (h : Reaches step anyStep start w) : Inv w :=
  Pool.callStep_invariant h .start (fun _ _ hinv _ hentry => hinv.call hentry)
    fun _ _ _ _ _ hinv _ htid ho => hinv.move htid (moves_of_sectionStep ho)

end Step

/-- The stack is closed only when nothing uses it, and nothing uses it afterwards. -/
structure ClosedUnused (w : Session) : Prop where
  nonneg : 0 ≤ w.shared.activeDials
  reached : ∀ (tid : Nat) (closeErr : Option Err),
    w.threads[tid]? = some (.deviceClose closeErr) → .deviceReached ∈ w.history
  idle : .deviceReached ∈ w.history → Idle w.shared
  noUse : Throughout NoUse w.history

/-- In every interleaving of `dialContext`, `trackedConn.Close` and `close`. -/
theorem device_closed_unused {w : Session} (h : Reaches step anyStep start w) :
    ClosedUnused w := by
  have hinv := inv_of_reaches h
  refine ⟨?_, ?_, hinv.idle, hinv.noUse⟩
  · rw [hinv.count]
    exact Int.natCast_nonneg _
  · intro tid closeErr htid
    exact hinv.reached tid _ htid closeErr rfl

/-- A dial that succeeds after `closing` was set, beside a connection that is still
tracked. -/
theorem device_closed_unused_late_dial : ∃ w, Reaches step anyStep start w ∧
    (w.threads[2]? = some (.deviceClose none) ∧ w.shared.returned = 2 ∧
      w.threads[1]? = some (.returned (some .netClosed)) ∧
      .dialReturned 0 true ∈ w.history) ∧ ClosedUnused w := by
  have hrun : ∃ w, Reaches step anyStep start w ∧
      (w.threads[2]? = some (.deviceClose none) ∧ w.shared.returned = 2 ∧
        w.threads[1]? = some (.returned (some .netClosed)) ∧ .dialReturned 0 true ∈ w.history) :=
    exists_reaches start _
      [.call .dialContext, .run 0 .go, .run 0 .go, .run 0 (.dialed .ok), .run 0 .go, .run 0 .go,
        .call .dialContext, .run 1 .go, .run 1 .go, .call .close, .run 2 .go,
        .run 2 (.order [0]), .run 1 (.dialed .ok), .run 2 .go, .run 2 .go,
        .run 2 (.answer none), .run 1 .go, .run 1 .go, .run 1 .go, .run 2 .go]
      (by decide +kernel)
  obtain ⟨w, hw, hfacts⟩ := hrun
  exact ⟨w, hw, hfacts, device_closed_unused hw⟩

end ResidentialIPManager.Tunnel.Connections
