import ResidentialIPManager.Web.Sessions

/-! # Closing writes

An operation that shows a progress snapshot, or is bound to show one, owes a closing
write: the snapshot with which it ends. Between its sections everything else leaves
state and node of the snapshot alone.
-/
namespace ResidentialIPManager.Web
open Text Domain Tunnel Transition

/-- The goroutine still owes a closing write. -/
def Thread.owes : Thread → Bool
  | .maintenance _ (.announce _ _) => true
  | .maintenance _ (.work _ _) => true
  | .maintenance _ (.fail _ _ _) => true
  | .verifyExit (.apply _ _ _) => true
  | .connect (.running _) => true
  | .connect (.keep _ _) => true
  | .disconnect (.close _) => true
  | .disconnect .reset => true
  | .autoConnectExit _ => true
  | .loop _ _ => true
  | .exhausted _ _ _ => true
  | .monitor (.recoverNode _) => true
  | .monitor (.recoverReason _ _) => true
  | .monitor (.recoverCool _ _) => true
  | .monitor .recoverSelect => true
  | _ => false

/-- No handler, no startup connection and no recovery runs in the goroutine. A health
check may be open. -/
def Thread.resting : Thread → Bool
  | .monitor (.recover _) => false
  | .monitor (.recoverCheck _ _) => false
  | .monitor (.recoverNode _) => false
  | .monitor (.recoverReason _ _) => false
  | .monitor (.recoverCool _ _) => false
  | .monitor .recoverSelect => false
  | .monitor _ => true
  | .watch _ => true
  | .closing _ => true
  | .done => true
  | _ => false

theorem Thread.not_owes_of_resting {t : Thread} (h : t.resting = true) : t.owes = false := by
  cases t with
  | monitor pc => cases pc <;> first | rfl | cases h
  | watch => rfl
  | closing => rfl
  | done => rfl
  | _ => cases h

namespace World

def AtRest (w : World) : Prop := Pool.Each (fun _ u => u.resting = true) w.threads

theorem atRest_of_all {w : World} (h : w.threads.all (·.resting) = true) : AtRest w :=
  fun _ u hu => List.all_eq_true.mp h u (List.mem_of_getElem? hu)

def othersOwe (w : World) (tid : Nat) : Bool :=
  w.threads.zipIdx.any fun p => decide (p.2 ≠ tid) && p.1.owes

theorem othersOwe_iff {w : World} {tid : Nat} : othersOwe w tid = true ↔
    ∃ (j : Nat) (u : Thread), j ≠ tid ∧ w.threads[j]? = some u ∧ u.owes = true := by
  unfold othersOwe
  rw [List.any_eq_true]
  constructor
  · rintro ⟨⟨u, j⟩, hmem, hp⟩
    simp only [Bool.and_eq_true, decide_eq_true_eq] at hp
    exact ⟨j, u, hp.1, List.mem_zipIdx_iff_getElem?.mp hmem, hp.2⟩
  · rintro ⟨j, u, hj, hu, ho⟩
    exact ⟨(u, j), List.mem_zipIdx_iff_getElem?.mpr hu, by simp [hj, ho]⟩

theorem AtRest.no_owes {w : World} (h : AtRest w) :
    ¬Pool.Some (fun u => u.owes = true) w.threads := by
  rintro ⟨j, u, hu, ho⟩
  simp [Thread.not_owes_of_resting (h j u hu)] at ho

end World

def Event.write? : Event → Option Write
  | .wrote _ write => some write
  | _ => none

def lastWrite (h : History) : Option Write := h.findSome? Event.write?

theorem lastWrite_append {l h : History} (hl : ∀ e ∈ l, e.write? = none) :
    lastWrite (l ++ h) = lastWrite h := by
  unfold lastWrite
  rw [List.findSome?_append, List.findSome?_eq_none_iff.mpr hl, Option.none_or]

/-- The sections that end an operation, with the snapshot they write. -/
inductive Closes (cfg : Config) (s : Shared) :
    Thread → Input → ConnectionSnapshot → Write → Prop
  | commit {kind previous copied input message} :
      Closes cfg s (.maintenance kind (.work previous copied)) input
        (nodeMaintenanceSnapshot previous s.tunnel.checkEnvironment message) .maintained
  | fail {kind previous environment err message} :
      Closes cfg s (.maintenance kind (.fail previous environment err)) .go
        (nodeMaintenanceSnapshot previous environment message) .maintained
  | keep {environment snapshot message} : Closes cfg s (.connect (.keep environment snapshot)) .go
      (nodeMaintenanceSnapshot snapshot environment message) .maintained
  | apply {node via result now} : Closes cfg s (.verifyExit (.apply node via result)) .go
      (applyVerifyResult s.snapshot node result now) (.applied via result.passed)
  | reset : Closes cfg s (.disconnect .reset) .go initialSnapshot .reset
  | fetchFailed {previousNodes err now} :
      Closes cfg s (.autoConnectExit (.fetch previousNodes)) (.fetched (.error err) now)
        (autoFetchFailedSnapshot err) .fetchFailed
  | prepared {previousNodes nodes logs now later n} :
      Closes cfg s (.autoConnectExit (.probe previousNodes nodes)) (.probed logs now later)
        (autoPreparedSnapshot n) .prepared
  | publish {l session since via result now} :
      Closes cfg s (.loop l (.publish session since via result)) (.time now)
        (connectedSnapshot l.node since (some (result, now))) (.published session)
  | unverified {l session now} (hv : cfg.verify.enabled = false) :
      Closes cfg s (.loop l (.verify session)) (.time now) (connectedSnapshot l.node now none)
        (.published session)
  | exhausted {origin total lastErr} : Closes cfg s (.exhausted origin total lastErr) .go
      (exhaustedSnapshot origin total lastErr) .exhausted

def WroteLast (tid : Nat) (write : Write) (events : History) : Prop :=
  ∃ newer older, events = newer ++ .wrote tid write :: older ∧
    (∀ e ∈ newer, e.write? = none) ∧ ∀ e ∈ events, e.isSession = false

def Recorded (s : Shared) (t : Thread) (x : ConnectionSnapshot) : Prop :=
  ∃ node via result now, t = .monitor (.healthRecord node via result) ∧
    x = recordVerification s.snapshot result now

inductive SnapshotChange (cfg : Config) (s : Shared) (tid : Nat) (t : Thread) (input : Input)
    (o : Result) : Prop
  | quiet (hx : o.shared.snapshot = s.snapshot ∨ Recorded s t o.shared.snapshot)
      (hids : ids o.shared.nodes.nodes = ids s.nodes.nodes)
      (hev : ∀ e ∈ o.events, e.write? = none) (howes : t.owes = true → o.thread.owes = true)
  | progress (hstate : o.shared.snapshot.state ≠ .connected ∧ o.shared.snapshot.state ≠ .idle)
      (ho : o.thread.owes = true)
  | closing (write : Write) (hc : Closes cfg s t input o.shared.snapshot write)
      (hw : WroteLast tid write o.events)

variable {cfg : Config} {s : Shared} {tid : Nat} {t : Thread} {input : Input} {o : Result}

theorem WroteLast.lastWrite {write : Write} {l h : History} (hw : WroteLast tid write l) :
    lastWrite (l ++ h) = some write := by
  obtain ⟨newer, older, rfl, hnewer, -⟩ := hw
  rw [List.append_assoc, lastWrite_append hnewer]
  rfl

theorem owes_nextAttempt (l : Loop) (err : GoString) : (nextAttempt l err).owes = true := by
  unfold nextAttempt
  split <;> rfl

theorem owes_enterLoop {origin : Origin} {candidates : List VpnNode} {empty : Thread}
    (h : empty.owes = true) : (enterLoop origin candidates empty).owes = true := by
  cases candidates with
  | nil => exact h
  | cons node rest => rfl

theorem state_of_quiet (hx : o.shared.snapshot = s.snapshot ∨ Recorded s t o.shared.snapshot) :
    o.shared.snapshot.state = s.snapshot.state ∧
      o.shared.snapshot.activeNodeID = s.snapshot.activeNodeID := by
  rcases hx with hx | ⟨node, via, result, now, -, hx⟩
  · rw [hx]
    exact ⟨rfl, rfl⟩
  · rw [hx]
    exact ⟨rfl, rfl⟩

/-- A section that changes neither the snapshot nor the debts of its goroutine. -/
theorem SnapshotChange.of_same (hx : o.shared.snapshot = s.snapshot)
    (hids : ids o.shared.nodes.nodes = ids s.nodes.nodes)
    (hev : ∀ e ∈ o.events, e.write? = none) (howes : t.owes = true → o.thread.owes = true) :
    SnapshotChange cfg s tid t input o :=
  .quiet (.inl hx) hids hev howes

theorem SnapshotChange.of_closing {write : Write} {older : List Event}
    (hc : Closes cfg s t input o.shared.snapshot write)
    (he : o.events = .wrote tid write :: older) (hold : ∀ e ∈ older, e.isSession = false) :
    SnapshotChange cfg s tid t input o := by
  refine .closing write hc ⟨[], older, he, by simp, ?_⟩
  rw [he]
  intro e hmem
  rcases List.mem_cons.mp hmem with rfl | hm
  · rfl
  · exact hold e hm

theorem write?_of_removal {cause : Removal} : ∀ e ∈ s.removal cause, e.write? = none := by
  intro e he
  obtain ⟨S, -, rfl⟩ := Shared.mem_removal he
  rfl

theorem MaintenanceSection.snapshotChange {kind : Maintenance} {pc : MaintenancePc}
    (h : MaintenanceSection cfg kind s tid pc input o) :
    SnapshotChange cfg s tid (.maintenance kind pc) input o := by
  cases h with
  | start => exact .of_same rfl rfl (by simp) (by simp [Thread.owes])
  | copyEmpty => exact .of_same rfl rfl (by simp) (by simp [Thread.owes])
  | copy => exact .of_same rfl rfl (by simp) (by simp [Thread.owes])
  | announce => exact .progress (maintenanceProgress_state _) rfl
  | fetchFailed => exact .of_same rfl rfl (by simp) (fun _ => rfl)
  | commit => exact .of_closing .commit rfl (by simp [Event.isSession])
  | fail => exact .of_closing .fail rfl (by simp)

theorem AutoSection.snapshotChange {pc : AutoPc} (h : AutoSection cfg s tid pc input o) :
    SnapshotChange cfg s tid (.autoConnectExit pc) input o := by
  cases h with
  | start => exact .of_same rfl rfl (by simp) (fun _ => rfl)
  | fetchFailed => exact .of_closing .fetchFailed rfl (by simp)
  | commit =>
    exact .closing _ .prepared ⟨[.passBegan tid], _, rfl, by simp [Event.write?],
      by simp [Event.isSession]⟩
  | _ => exact .progress (by simp [autoFetchingSnapshot, autoClassifyingSnapshot,
      autoProbingSnapshot]) rfl

theorem LoopSection.snapshotChange {l : Loop} {phase : Phase}
    (h : LoopSection cfg s tid l phase input o) :
    SnapshotChange cfg s tid (.loop l phase) input o := by
  cases h with
  | announce => exact .progress (attemptSnapshot_state_ne _ _ _ _) rfl
  | verifying => exact .progress (by simp [verifyingSnapshot]) rfl
  | unverified _ hv => exact .of_closing (.unverified hv) rfl (by simp)
  | publish => exact .of_closing .publish rfl (by simp)
  | reject => exact .of_same rfl rfl write?_of_removal (fun _ => rfl)
  | cool =>
    exact .of_same rfl (ids_markNodeFailure _ _ _ _ _) (by simp [Event.write?])
      (fun _ => owes_nextAttempt _ _)
  | _ => exact .of_same rfl rfl (by simp [Event.write?]) (fun _ => rfl)

theorem MonitorSection.snapshotChange {pc : MonitorPc} (h : MonitorSection cfg s tid pc input o) :
    SnapshotChange cfg s tid (.monitor pc) input o := by
  cases h with
  | recoverNode => exact .of_same rfl rfl (by simp [Event.write?]) (fun _ => rfl)
  | recoverReason => exact .of_same rfl rfl (by simp) (fun _ => rfl)
  | recoverCool =>
    exact .of_same rfl (ids_markNodeFailure _ _ _ _ _) (by simp [Event.write?]) (fun _ => rfl)
  | recoverNoNode => exact .of_same rfl rfl (by simp) (fun _ => rfl)
  | recoverSelect => exact .of_same rfl rfl (by simp [Event.write?]) (fun _ => owes_enterLoop rfl)
  | healthRecord =>
    exact .quiet (.inr ⟨_, _, _, _, rfl, rfl⟩) rfl (by simp [Event.write?]) (by simp [Thread.owes])
  | healthDrop => exact .of_same rfl rfl write?_of_removal (by simp [Thread.owes])
  | _ => exact .of_same rfl rfl (by simp [Event.write?]) (by simp [Thread.owes])

theorem Section.snapshotChange (h : Section cfg s tid t input o) :
    SnapshotChange cfg s tid t input o := by
  cases h with
  | maintenance h => exact h.snapshotChange
  | verifyExit h =>
    cases h with
    | apply => exact .of_closing .apply rfl (by simp [Event.isSession])
    | _ => exact .of_same rfl rfl (by simp [Event.write?]) (by simp [Thread.owes])
  | connect h =>
    cases h with
    | running => exact .of_same rfl rfl (by simp) (fun _ => rfl)
    | keep => exact .of_closing .keep rfl (by simp)
    | _ => exact .of_same rfl rfl (by simp [Event.write?]) (by simp [Thread.owes])
  | disconnect h =>
    cases h with
    | start => exact .of_same rfl rfl write?_of_removal (by simp [Thread.owes])
    | close => exact .of_same rfl rfl (by simp) (fun _ => rfl)
    | reset => exact .of_closing .reset rfl (by simp)
    | finish => exact .of_same rfl rfl (by simp [Event.write?]) (by simp [Thread.owes])
  | auto h => exact h.snapshotChange
  | loop h => exact h.snapshotChange
  | exhausted => exact .of_closing .exhausted rfl (by simp)
  | monitor h => exact h.snapshotChange
  | watchCurrent => exact .of_same rfl rfl write?_of_removal (by simp [Thread.owes])
  | watchOther => exact .of_same rfl rfl (by simp) (by simp [Thread.owes])
  | watchClosed => exact .of_same rfl rfl (by simp) (by simp [Thread.owes])
  | closing => exact .of_same rfl rfl (by simp) (by simp [Thread.owes])

/-- The sections that write a Connected snapshot, with what they found. -/
inductive Connects (cfg : Config) (s : Shared) : Thread → Input → ConnectionSnapshot → Prop
  | commit {kind previous copied input message S} (hS : s.tunnel.session = some S) :
      Connects cfg s (.maintenance kind (.work previous copied)) input
        (nodeMaintenanceSnapshot previous s.tunnel.checkEnvironment message)
  | fail {kind previous environment err message} (hr : environment.running = true) :
      Connects cfg s (.maintenance kind (.fail previous environment err)) .go
        (nodeMaintenanceSnapshot previous environment message)
  | keep {environment snapshot message} (hr : environment.running = true) :
      Connects cfg s (.connect (.keep environment snapshot)) .go
        (nodeMaintenanceSnapshot snapshot environment message)
  | apply {node via result now} (hp : result.passed = true) :
      Connects cfg s (.verifyExit (.apply node via result)) .go
        (applyVerifyResult s.snapshot node result now)
  | publish {l session since via result now} :
      Connects cfg s (.loop l (.publish session since via result)) (.time now)
        (connectedSnapshot l.node since (some (result, now)))
  | unverified {l session now} (hv : cfg.verify.enabled = false) :
      Connects cfg s (.loop l (.verify session)) (.time now) (connectedSnapshot l.node now none)

theorem Closes.connects {x : ConnectionSnapshot} {write : Write}
    (h : Closes cfg s t input x write) (hc : x.state = .connected) : Connects cfg s t input x := by
  cases h with
  | commit =>
    have hr := running_of_connected hc
    cases hS : s.tunnel.session with
    | none => simp [hS] at hr
    | some S => exact .commit hS
  | fail => exact .fail (running_of_connected hc)
  | keep => exact .keep (running_of_connected hc)
  | apply =>
    refine .apply ?_
    by_contra hp
    simp [applyVerifyResult, hp] at hc
  | publish => exact .publish
  | unverified hv => exact .unverified hv
  | reset => simp at hc
  | fetchFailed => simp [autoFetchFailedSnapshot] at hc
  | prepared => simp [autoPreparedSnapshot] at hc
  | exhausted => simp at hc

/-- A Connected snapshot after a section was there before, over the same list, or the
section wrote it and left the session alone. -/
theorem Section.connected_cases (h : Section cfg s tid t input o)
    (hc : o.shared.snapshot.state = .connected) :
    (s.snapshot.state = .connected ∧
      o.shared.snapshot.activeNodeID = s.snapshot.activeNodeID ∧
      ids o.shared.nodes.nodes = ids s.nodes.nodes) ∨
    Connects cfg s t input o.shared.snapshot ∧
      o.shared.tunnel.session = s.tunnel.session := by
  cases h.snapshotChange with
  | quiet hx hids =>
    obtain ⟨hstate, hactive⟩ := state_of_quiet hx
    exact .inl ⟨hstate ▸ hc, hactive, hids⟩
  | progress hstate => exact absurd hc hstate.1
  | closing write hclose hw =>
    obtain ⟨-, -, -, -, hev⟩ := hw
    exact .inr ⟨hclose.connects hc, h.session_of_events hev⟩

/-- A debt of another goroutine survives a section. -/
theorem World.othersOwe_move {w : World} (h : w.othersOwe tid = true) :
    Pool.Some (fun u => u.owes = true) (w.move tid o).threads := by
  obtain ⟨j, u, hj, hu, ho⟩ := World.othersOwe_iff.mp h
  exact ⟨j, u, Pool.getElem?_move_other hj hu, ho⟩

end ResidentialIPManager.Web
