import ResidentialIPManager.MiniVPN.Session
import ResidentialIPManager.Sorting.Sorter

/-! # The receiver of the reliable transport

`receiver.go`. The worker drops packets of other sessions, tells the sender of every packet
that it has seen, and puts the packets of the control channel into a buffer of twelve. After
each insertion it takes from the buffer the packets that continue the sequence of those
already passed to the layer above.
-/
namespace ResidentialIPManager.MiniVPN
open Sorting

def recvBufferSize : Nat := 12

def incomingSeenCapacity : Nat := 100

/-- The order of `incomingSequence`: `PacketID` compared as a number. -/
def byID (p : Packet) : Nat := p.id.toNat

structure Receiver where
  incomingPackets : List Packet := []
  lastConsumed : PacketID := 0

structure IncomingPacketSeen where
  id : Option PacketID
  acks : Option (List PacketID)
  deriving DecidableEq

/-- `incomingSanityChecks`. The remote session is `nil` as long as it is not set, and then
equals no packet's. -/
def incomingSanityChecks (session : Manager) (p : Packet) : Bool :=
  if session.remoteSessionID ≠ some p.localSessionID then false
  else if p.acks.length = 0 then true
  else decide (p.remoteSessionID = session.localSessionID)

structure Sequenced where
  ready : List Packet
  last : PacketID
  keep : List Packet

/-- The loop of `NextIncomingSequence` over the sorted buffer. The difference of two IDs
wraps around. -/
def takeReady (last : PacketID) : List Packet → Sequenced
  | [] => ⟨[], last, []⟩
  | p :: rest =>
    if p.id - last = 1 then
      let taken := takeReady (last + 1) rest
      { taken with ready := p :: taken.ready }
    else if last < p.id then ⟨[], last, p :: rest⟩
    else takeReady last rest

namespace Receiver

def maybeInsertIncoming (r : Receiver) (p : Packet) : Bool × Receiver :=
  if recvBufferSize ≤ r.incomingPackets.length then (false, r)
  else (true, { r with incomingPackets := r.incomingPackets ++ [p] })

def nextIncomingSequence (sorter : Sorter byID) (r : Receiver) : List Packet × Receiver :=
  let taken := takeReady r.lastConsumed (sorter.sort r.incomingPackets)
  (taken.ready, { incomingPackets := taken.keep, lastConsumed := taken.last })

def newIncomingPacketSeen (p : Packet) : IncomingPacketSeen :=
  if p.opcode = .ackV1 then ⟨none, some p.acks⟩ else ⟨some p.id, some p.acks⟩

end Receiver

structure Moved where
  receiver : Receiver
  seen : List IncomingPacketSeen := []
  dropped : List Packet := []
  delivered : List Packet := []

/-- The body of the loop of `moveUpWorker`. -/
def moveUpPacket (sorter : Sorter byID) (session : Manager) (r : Receiver) (p : Packet) :
    Moved :=
  if incomingSanityChecks session p = false then { receiver := r }
  else
    let seen := [Receiver.newIncomingPacketSeen p]
    if p.opcode ≠ .controlV1 then { receiver := r, seen }
    else match r.maybeInsertIncoming p with
      | (false, r) => { receiver := r, seen, dropped := [p] }
      | (true, r) =>
        let (ready, r) := r.nextIncomingSequence sorter
        { receiver := r, seen, delivered := ready }

/-- The loop of `moveUpWorker` over the packets that come from the muxer. -/
def moveUpPackets (sorter : Sorter byID) (session : Manager) (r : Receiver) :
    List Packet → Moved
  | [] => { receiver := r }
  | p :: rest =>
    let first := moveUpPacket sorter session r p
    let later := moveUpPackets sorter session first.receiver rest
    { receiver := later.receiver, seen := first.seen ++ later.seen,
      dropped := first.dropped ++ later.dropped,
      delivered := first.delivered ++ later.delivered }

def idsAfter (last : PacketID) : Nat → List PacketID
  | 0 => []
  | n + 1 => (last + 1) :: idsAfter (last + 1) n

@[simp] theorem length_idsAfter (last : PacketID) (n : Nat) : (idsAfter last n).length = n := by
  induction n generalizing last with
  | zero => rfl
  | succ n ih => simp [idsAfter, ih]

theorem idsAfter_add (last : PacketID) (m n : Nat) :
    idsAfter last (m + n) = idsAfter last m ++ idsAfter (last + UInt32.ofNat m) n := by
  induction m generalizing last with
  | zero => simp [idsAfter]
  | succ m ih =>
    have hsum : last + 1 + UInt32.ofNat m = last + UInt32.ofNat (m + 1) := by
      rw [UInt32.ofNat_add, UInt32.add_assoc, UInt32.add_comm (UInt32.ofNat m)]
      rfl
    rw [Nat.succ_add, idsAfter, ih, hsum, idsAfter, List.cons_append]

theorem mem_idsAfter {last id : PacketID} {n : Nat} (hlt : last.toNat < id.toNat)
    (hle : id.toNat ≤ last.toNat + n) : id ∈ idsAfter last n := by
  induction n generalizing last with
  | zero => omega
  | succ n ih =>
    have hmax : last ≠ Manager.maxPacketID := by
      rintro rfl
      have hbound := id.toNat_lt
      have hnum : Manager.maxPacketID.toNat = 4294967295 := rfl
      omega
    have hnext := Manager.toNat_succ_packetID hmax
    rw [idsAfter, List.mem_cons]
    by_cases heq : id.toNat = last.toNat + 1
    · exact .inl (UInt32.toNat_inj.mp (heq.trans hnext.symm))
    · exact .inr (ih (by omega) (by omega))

section TakeReady
variable (last : PacketID) (l : List Packet)

theorem eq_succ_of_sub_eq_one {id last : PacketID} (h : id - last = 1) : id = last + 1 := by
  rw [← h, UInt32.add_comm, UInt32.sub_add_cancel]

theorem takeReady_ready : (takeReady last l).ready.map Packet.id =
    idsAfter last (takeReady last l).ready.length := by
  fun_induction takeReady last l with
  | case1 last => rfl
  | case2 last p rest hnext taken ih =>
    simp only [List.map_cons, List.length_cons, idsAfter, eq_succ_of_sub_eq_one hnext]
    rw [ih]
  | case3 last p rest hnext hlt => rfl
  | case4 last p rest hnext hle ih => exact ih

theorem takeReady_last :
    (takeReady last l).last = last + UInt32.ofNat (takeReady last l).ready.length := by
  fun_induction takeReady last l with
  | case1 last => simp
  | case2 last p rest hnext taken ih =>
    rw [ih, List.length_cons, UInt32.ofNat_add, UInt32.add_assoc, UInt32.add_comm 1]
    rfl
  | case3 last p rest hnext hlt => simp
  | case4 last p rest hnext hle ih => exact ih

theorem takeReady_sublist :
    ((takeReady last l).ready ++ (takeReady last l).keep).Sublist l := by
  fun_induction takeReady last l with
  | case1 last => exact .slnil
  | case2 last p rest hnext taken ih => exact ih.cons_cons p
  | case3 last p rest hnext hlt => exact List.Sublist.refl _
  | case4 last p rest hnext hle ih => exact ih.cons p

variable {last l}

theorem toNat_of_sub_eq_one {id : PacketID} (hnext : id - last = 1) (hid : id ≠ 0) :
    id.toNat = last.toNat + 1 := by
  have heq := eq_succ_of_sub_eq_one hnext
  have hmax : last ≠ Manager.maxPacketID := by
    rintro rfl
    exact hid heq
  rw [heq, Manager.toNat_succ_packetID hmax]

/-- As long as the sequence does not wrap, the last ID counts what was taken. -/
theorem toNat_takeReady_last (hroom : last.toNat + (takeReady last l).ready.length < 2 ^ 32) :
    (takeReady last l).last.toNat = last.toNat + (takeReady last l).ready.length := by
  rw [takeReady_last, UInt32.toNat_add, UInt32.toNat_ofNat']
  omega

/-- What leaves the buffer has its ID among those consumed. -/
theorem takeReady_covers (hroom : last.toNat + (takeReady last l).ready.length < 2 ^ 32)
    {p : Packet} (hp : p ∈ l) :
    p ∈ (takeReady last l).keep ∨ p.id.toNat ≤ (takeReady last l).last.toNat := by
  fun_induction takeReady last l with
  | case1 last => cases hp
  | case2 last q rest hnext taken ih =>
    rw [List.length_cons] at hroom
    have hsucc : (last + 1).toNat = last.toNat + 1 := by
      rw [UInt32.toNat_add]
      have hone : (1 : UInt32).toNat = 1 := rfl
      omega
    have hrest : (last + 1).toNat + taken.ready.length < 2 ^ 32 := by omega
    rcases List.mem_cons.mp hp with rfl | hp
    · right
      change p.id.toNat ≤ taken.last.toNat
      rw [eq_succ_of_sub_eq_one hnext, toNat_takeReady_last hrest]
      omega
    · exact ih hrest hp
  | case3 last q rest hnext hlt => exact .inl hp
  | case4 last q rest hnext hle ih =>
    rcases List.mem_cons.mp hp with rfl | hp
    · right
      rw [UInt32.lt_iff_toNat_lt] at hle
      rw [toNat_takeReady_last hroom]
      omega
    · exact ih hroom hp

/-- The packet that comes next is not left in a sorted buffer. -/
theorem takeReady_keep (hsorted : l.Pairwise fun a b => byID a ≤ byID b) {p : Packet}
    (hp : p ∈ (takeReady last l).keep) :
    (takeReady last l).last.toNat + 1 < p.id.toNat := by
  fun_induction takeReady last l with
  | case1 last => cases hp
  | case2 last q rest hnext taken ih => exact ih (List.pairwise_cons.mp hsorted).2 hp
  | case3 last q rest hnext hlt =>
    have hq : last.toNat + 1 < q.id.toNat := by
      have hne : q.id.toNat ≠ last.toNat + 1 := by
        intro heq
        refine hnext (UInt32.toNat_inj.mp ?_)
        have hbound := q.id.toNat_lt
        rw [UInt32.toNat_sub_of_le _ _ (UInt32.le_iff_toNat_le.mpr (by omega)), heq]
        simp
      rw [UInt32.lt_iff_toNat_lt] at hlt
      omega
    rcases List.mem_cons.mp hp with rfl | hp
    · exact hq
    · have hle : byID q ≤ byID p := (List.pairwise_cons.mp hsorted).1 p hp
      exact hq.trans_le hle
  | case4 last q rest hnext hle ih => exact ih (List.pairwise_cons.mp hsorted).2 hp

/-- Nothing is taken while the packet that comes next is missing. -/
theorem takeReady_of_ahead (hahead : ∀ p ∈ l, last.toNat + 1 < p.id.toNat) :
    takeReady last l = ⟨[], last, l⟩ := by
  cases l with
  | nil => rfl
  | cons p rest =>
    have hp := hahead p List.mem_cons_self
    have hne : p.id - last ≠ 1 := by
      intro hnext
      have hid : p.id ≠ 0 := by
        intro hzero
        simp [hzero] at hp
      have := toNat_of_sub_eq_one hnext hid
      omega
    have hlt : last < p.id := UInt32.lt_iff_toNat_lt.mpr (by omega)
    rw [takeReady, if_neg hne, if_pos hlt]

end TakeReady

def forControl (session : Manager) (p : Packet) : Bool :=
  incomingSanityChecks session p && decide (p.opcode = .controlV1)

theorem forControl_iff {session : Manager} {p : Packet} :
    forControl session p = true ↔
      incomingSanityChecks session p = true ∧ p.opcode = .controlV1 := by
  simp [forControl]

/-- What the worker does with a packet, apart from what it tells the sender. -/
inductive Handles (sorter : Sorter byID) (session : Manager) (r : Receiver) (p : Packet) :
    Moved → Prop
  | passedOver {m : Moved} (hfor : forControl session p = false) (hreceiver : m.receiver = r)
      (hdropped : m.dropped = []) (hdelivered : m.delivered = []) : Handles sorter session r p m
  | full {m : Moved} (hfor : forControl session p = true)
      (hlen : recvBufferSize ≤ r.incomingPackets.length) (hreceiver : m.receiver = r)
      (hdropped : m.dropped = [p]) (hdelivered : m.delivered = []) : Handles sorter session r p m
  | inserted {m : Moved} {taken : Sequenced} (hfor : forControl session p = true)
      (hlen : r.incomingPackets.length < recvBufferSize)
      (htaken : takeReady r.lastConsumed (sorter.sort (r.incomingPackets ++ [p])) = taken)
      (hreceiver : m.receiver = ⟨taken.keep, taken.last⟩) (hdropped : m.dropped = [])
      (hdelivered : m.delivered = taken.ready) : Handles sorter session r p m

section Run
variable (sorter : Sorter byID) (session : Manager)

theorem moveUpPacket_handles (r : Receiver) (p : Packet) :
    Handles sorter session r p (moveUpPacket sorter session r p) := by
  unfold moveUpPacket
  by_cases hcheck : incomingSanityChecks session p = false
  · rw [if_pos hcheck]
    exact .passedOver (by simp [forControl, hcheck]) rfl rfl rfl
  rw [if_neg hcheck]
  by_cases hop : p.opcode ≠ .controlV1
  · simp only [if_pos hop]
    exact .passedOver (by simp [forControl, hop]) rfl rfl rfl
  simp only [if_neg hop]
  have hfor : forControl session p = true :=
    forControl_iff.mpr ⟨by simpa using hcheck, not_not.mp hop⟩
  unfold Receiver.maybeInsertIncoming
  by_cases hlen : recvBufferSize ≤ r.incomingPackets.length
  · rw [if_pos hlen]
    exact .full hfor hlen rfl rfl rfl
  · rw [if_neg hlen]
    exact .inserted hfor (not_le.mp hlen) rfl rfl rfl rfl

theorem moveUpPacket_seen (r : Receiver) (p : Packet) :
    (moveUpPacket sorter session r p).seen =
      ([p].filter (incomingSanityChecks session)).map Receiver.newIncomingPacketSeen := by
  unfold moveUpPacket
  by_cases hcheck : incomingSanityChecks session p = false
  · simp [hcheck]
  · have hcheck' : incomingSanityChecks session p = true := by simpa using hcheck
    rw [if_neg hcheck, List.filter_cons_of_pos hcheck']
    by_cases hop : p.opcode ≠ .controlV1
    · simp [hop]
    · simp only [if_neg hop]
      unfold Receiver.maybeInsertIncoming
      split_ifs <;> rfl

/-- Every packet of the session is reported to the sender, the dropped ones included. -/
theorem moveUpPackets_seen (r : Receiver) (ps : List Packet) :
    (moveUpPackets sorter session r ps).seen =
      (ps.filter (incomingSanityChecks session)).map Receiver.newIncomingPacketSeen := by
  induction ps generalizing r with
  | nil => rfl
  | cons p rest ih =>
    rw [moveUpPackets, ih, moveUpPacket_seen, ← List.map_append, ← List.filter_append,
      List.singleton_append]

theorem moveUpPacket_ids (r : Receiver) (p : Packet) :
    (moveUpPacket sorter session r p).delivered.map Packet.id =
        idsAfter r.lastConsumed (moveUpPacket sorter session r p).delivered.length ∧
      (moveUpPacket sorter session r p).receiver.lastConsumed =
        r.lastConsumed + UInt32.ofNat (moveUpPacket sorter session r p).delivered.length := by
  cases moveUpPacket_handles sorter session r p with
  | passedOver _ hreceiver _ hdelivered => simp [hreceiver, hdelivered, idsAfter]
  | full _ _ hreceiver _ hdelivered => simp [hreceiver, hdelivered, idsAfter]
  | inserted _ _ htaken hreceiver _ hdelivered =>
    rw [hreceiver, hdelivered, ← htaken]
    exact ⟨takeReady_ready _ _, takeReady_last _ _⟩

/-- The sequence goes on where it was, whatever comes. -/
theorem moveUpPackets_ids (r : Receiver) (ps : List Packet) :
    (moveUpPackets sorter session r ps).delivered.map Packet.id =
        idsAfter r.lastConsumed (moveUpPackets sorter session r ps).delivered.length ∧
      (moveUpPackets sorter session r ps).receiver.lastConsumed =
        r.lastConsumed + UInt32.ofNat (moveUpPackets sorter session r ps).delivered.length := by
  induction ps generalizing r with
  | nil => simp [moveUpPackets, idsAfter]
  | cons p rest ih =>
    obtain ⟨hfirst, hfirstLast⟩ := moveUpPacket_ids sorter session r p
    obtain ⟨hids, hlast⟩ := ih (moveUpPacket sorter session r p).receiver
    simp only [moveUpPackets, List.map_append, List.length_append, idsAfter_add]
    rw [hids, hfirst, hlast, hfirstLast, UInt32.ofNat_add, UInt32.add_assoc]
    exact ⟨rfl, rfl⟩

/-- What one packet lets through, and what is buffered then, was there or is the packet. -/
theorem moveUpPacket_subperm (r : Receiver) (p : Packet) :
    ((moveUpPacket sorter session r p).delivered ++
        (moveUpPacket sorter session r p).receiver.incomingPackets).Subperm
      (r.incomingPackets ++ [p].filter (forControl session)) := by
  cases moveUpPacket_handles sorter session r p with
  | passedOver _ hreceiver _ hdelivered =>
    rw [hreceiver, hdelivered]
    exact (List.sublist_append_left _ _).subperm
  | full _ _ hreceiver _ hdelivered =>
    rw [hreceiver, hdelivered]
    exact (List.sublist_append_left _ _).subperm
  | inserted hfor _ htaken hreceiver _ hdelivered =>
    rw [hreceiver, hdelivered, ← htaken, List.filter_cons_of_pos hfor]
    exact (takeReady_sublist _ _).subperm.trans (sorter.perm _).subperm

/-- What was delivered and what is buffered came in, each arrival at most once. -/
theorem moveUpPackets_subperm (r : Receiver) (ps : List Packet) :
    ((moveUpPackets sorter session r ps).delivered ++
        (moveUpPackets sorter session r ps).receiver.incomingPackets).Subperm
      (r.incomingPackets ++ ps.filter (forControl session)) := by
  induction ps generalizing r with
  | nil => simpa [moveUpPackets] using List.Subperm.refl _
  | cons p rest ih =>
    have hrest := ih (moveUpPacket sorter session r p).receiver
    have hsplit : (p :: rest).filter (forControl session) =
        [p].filter (forControl session) ++ rest.filter (forControl session) :=
      List.filter_append [p] rest
    rw [hsplit]
    simp only [moveUpPackets, List.append_assoc]
    refine ((List.subperm_append_left _).mpr hrest).trans ?_
    rw [← List.append_assoc, ← List.append_assoc]
    exact (List.subperm_append_right _).mpr (moveUpPacket_subperm sorter session r p)

/-- Whatever packets come, in whatever order and however often, what the layer above gets has
the IDs 1, 2, 3 and so on, and consists of packets that came. -/
theorem moveUpPackets_in_sequence (ps : List Packet) :
    (moveUpPackets sorter session {} ps).delivered.map Packet.id =
        idsAfter 0 (moveUpPackets sorter session {} ps).delivered.length ∧
      (moveUpPackets sorter session {} ps).delivered.Subperm
        (ps.filter (forControl session)) :=
  ⟨(moveUpPackets_ids sorter session {} ps).1,
    (List.sublist_append_left _ _).subperm.trans (moveUpPackets_subperm sorter session {} ps)⟩

end Run

/-- The packet that comes next is not in the buffer. -/
def Receiver.Settled (r : Receiver) : Prop :=
  ∀ p ∈ r.incomingPackets, r.lastConsumed.toNat + 1 < p.id.toNat

section Complete
variable (sorter : Sorter byID) (session : Manager) {r : Receiver}

theorem moveUpPacket_settled (p : Packet) (h : r.Settled) :
    (moveUpPacket sorter session r p).receiver.Settled := by
  cases moveUpPacket_handles sorter session r p with
  | passedOver _ hreceiver _ _ =>
    rw [hreceiver]
    exact h
  | full _ _ hreceiver _ _ =>
    rw [hreceiver]
    exact h
  | inserted _ _ htaken hreceiver _ _ =>
    rw [hreceiver, ← htaken]
    exact fun q hq => takeReady_keep (sorter.ordered _) hq

/-- A packet is waiting, or its ID has been passed. -/
def Receiver.Has (r : Receiver) (p : Packet) : Prop :=
  p ∈ r.incomingPackets ∨ p.id.toNat ≤ r.lastConsumed.toNat

theorem toNat_moveUpPacket_last (p : Packet)
    (hroom : r.lastConsumed.toNat + (moveUpPacket sorter session r p).delivered.length < 2 ^ 32) :
    (moveUpPacket sorter session r p).receiver.lastConsumed.toNat =
      r.lastConsumed.toNat + (moveUpPacket sorter session r p).delivered.length := by
  rw [(moveUpPacket_ids sorter session r p).2, UInt32.toNat_add, UInt32.toNat_ofNat']
  omega

/-- A packet that is not dropped is there afterwards, with those that were. -/
theorem moveUpPacket_has {p : Packet}
    (hroom : r.lastConsumed.toNat + (moveUpPacket sorter session r p).delivered.length < 2 ^ 32) :
    (forControl session p = true →
        p ∈ (moveUpPacket sorter session r p).dropped ∨
          (moveUpPacket sorter session r p).receiver.Has p) ∧
      ∀ q, r.Has q → (moveUpPacket sorter session r p).receiver.Has q := by
  have hlast := toNat_moveUpPacket_last sorter session p hroom
  cases moveUpPacket_handles sorter session r p with
  | passedOver hfor hreceiver _ _ =>
    rw [hreceiver, hfor]
    exact ⟨fun htrue => (Bool.false_ne_true htrue).elim, fun q hq => hq⟩
  | full _ _ hreceiver hdropped _ =>
    rw [hreceiver, hdropped]
    exact ⟨fun _ => .inl (List.mem_singleton_self p), fun q hq => hq⟩
  | inserted hfor _ htaken hreceiver _ hdelivered =>
    rw [hdelivered, ← htaken] at hroom
    rw [hreceiver, ← htaken] at hlast ⊢
    refine ⟨fun _ => .inr (takeReady_covers hroom (by simp)), fun q hq => ?_⟩
    rcases hq with hq | hq
    · exact takeReady_covers hroom (by simp [hq])
    · refine .inr (hq.trans ?_)
      change r.lastConsumed.toNat ≤ (takeReady _ _).last.toNat
      rw [toNat_takeReady_last hroom]
      omega

/-- The same for many packets, as long as fewer than `2 ^ 32` are delivered. A packet with the
ID 0 is then passed over like any packet of the past. -/
theorem moveUpPackets_has {ps : List Packet} (h : r.Settled)
    (hroom : r.lastConsumed.toNat + (moveUpPackets sorter session r ps).delivered.length < 2 ^ 32) :
    (moveUpPackets sorter session r ps).receiver.Settled ∧
      (∀ q ∈ ps, forControl session q = true →
        q ∈ (moveUpPackets sorter session r ps).dropped ∨
          (moveUpPackets sorter session r ps).receiver.Has q) ∧
      ∀ q, r.Has q → (moveUpPackets sorter session r ps).receiver.Has q := by
  induction ps generalizing r with
  | nil => exact ⟨h, by simp, fun q hq => hq⟩
  | cons p rest ih =>
    simp only [moveUpPackets, List.length_append] at hroom
    have hfirst : r.lastConsumed.toNat + (moveUpPacket sorter session r p).delivered.length <
        2 ^ 32 := by omega
    have hlast := toNat_moveUpPacket_last sorter session p hfirst
    obtain ⟨hnew, hold⟩ := moveUpPacket_has sorter session hfirst
    obtain ⟨hsettled, hrest, hkept⟩ := ih (moveUpPacket_settled sorter session p h) (by omega)
    refine ⟨hsettled, fun q hq hfor => ?_, fun q hq => hkept q (hold q hq)⟩
    simp only [moveUpPackets, List.mem_append]
    rcases List.mem_cons.mp hq with rfl | hq
    · exact (hnew hfor).imp .inl (hkept q)
    · exact (hrest q hq hfor).imp_left .inr

/-- If the packets 1 to `n` have come, in any order and among any others, and none was dropped
because the buffer was full, then the layer above has got these `n` in order. -/
theorem moveUpPackets_complete {ps : List Packet} {n : Nat}
    (hcame : ∀ k, 1 ≤ k → k ≤ n → ∃ p ∈ ps, forControl session p = true ∧ p.id.toNat = k)
    (hdropped : (moveUpPackets sorter session {} ps).dropped = []) :
    idsAfter 0 n <+: (moveUpPackets sorter session {} ps).delivered.map Packet.id := by
  obtain ⟨hids, hlast⟩ := moveUpPackets_ids sorter session {} ps
  have hlength : n ≤ (moveUpPackets sorter session {} ps).delivered.length := by
    by_contra hlt
    obtain ⟨largest, -, -, hn⟩ := hcame n (by omega) le_rfl
    have hbound := largest.id.toNat_lt
    have hzero : (0 : PacketID).toNat = 0 := rfl
    -- fewer than `n` deliveries do not wrap, so the next packet came and is not past
    have hroom : (0 : PacketID).toNat +
        (moveUpPackets sorter session {} ps).delivered.length < 2 ^ 32 := by omega
    have hempty : Receiver.Settled {} := by simp [Receiver.Settled]
    obtain ⟨hsettled, hhas, -⟩ := moveUpPackets_has sorter session hempty hroom
    have hconsumed : (moveUpPackets sorter session {} ps).receiver.lastConsumed.toNat =
        (moveUpPackets sorter session {} ps).delivered.length := by
      rw [hlast, UInt32.zero_add, UInt32.toNat_ofNat']
      omega
    obtain ⟨p, hp, hfor, hid⟩ := hcame
      ((moveUpPackets sorter session {} ps).delivered.length + 1) (by omega) (by omega)
    rcases hhas p hp hfor with hdrop | hbuffer | hle
    · rw [hdropped] at hdrop
      cases hdrop
    · have := hsettled p hbuffer
      omega
    · omega
  obtain ⟨m, hm⟩ := Nat.exists_eq_add_of_le hlength
  rw [hids, hm, idsAfter_add]
  exact List.prefix_append _ _

end Complete

def fromOnes (id : PacketID) : Packet :=
  { opcode := .controlV1, keyID := 0, localSessionID := List.Vector.replicate 8 1, id,
    payload := [] }

def withOnes : Manager :=
  { localSessionID := List.Vector.replicate 8 2,
    remoteSessionID := some (List.Vector.replicate 8 1) }

theorem moveUpPackets_complete_reordered :
    idsAfter 0 3 <+: (moveUpPackets (.insertion byID) withOnes {}
      [fromOnes 2, fromOnes 0, fromOnes 3, fromOnes 2, fromOnes 1]).delivered.map Packet.id := by
  refine moveUpPackets_complete (.insertion byID) withOnes ?_ (by decide)
  intro k h1 h3
  have hk : k = 1 ∨ k = 2 ∨ k = 3 := by omega
  rcases hk with rfl | rfl | rfl
  · exact ⟨fromOnes 1, by decide⟩
  · exact ⟨fromOnes 2, by decide⟩
  · exact ⟨fromOnes 3, by decide⟩

section Full
variable (sorter : Sorter byID) (session : Manager)

/-- Whatever comes to a full buffer is dropped. -/
theorem moveUpPackets_full {r : Receiver} (hfull : recvBufferSize ≤ r.incomingPackets.length)
    (ps : List Packet) :
    (moveUpPackets sorter session r ps).delivered = [] ∧
      (moveUpPackets sorter session r ps).dropped = ps.filter (forControl session) := by
  induction ps with
  | nil => exact ⟨rfl, rfl⟩
  | cons p rest ih =>
    cases moveUpPacket_handles sorter session r p with
    | passedOver hfor hreceiver hdropped hdelivered =>
      simpa [moveUpPackets, hreceiver, hdropped, hdelivered, hfor] using ih
    | full hfor _ hreceiver hdropped hdelivered =>
      simpa [moveUpPackets, hreceiver, hdropped, hdelivered, hfor] using ih
    | inserted _ hlen _ _ _ _ => omega

/-- Packets that are ahead of the sequence only fill the buffer. -/
theorem moveUpPackets_ahead {r : Receiver} {ps : List Packet}
    (hahead : ∀ p ∈ r.incomingPackets ++ ps, r.lastConsumed.toNat + 1 < p.id.toNat)
    (hfor : ∀ p ∈ ps, forControl session p = true)
    (hlen : r.incomingPackets.length + ps.length ≤ recvBufferSize) :
    (moveUpPackets sorter session r ps).delivered = [] ∧
      (moveUpPackets sorter session r ps).receiver.incomingPackets.length =
        r.incomingPackets.length + ps.length := by
  induction ps generalizing r with
  | nil => exact ⟨rfl, rfl⟩
  | cons p rest ih =>
    have hmem : ∀ q ∈ sorter.sort (r.incomingPackets ++ [p]),
        r.lastConsumed.toNat + 1 < q.id.toNat := by
      intro q hq
      apply hahead
      rcases List.mem_append.mp (sorter.mem_sort.mp hq) with hq | hq
      · exact List.mem_append_left _ hq
      · exact List.mem_append_right _ (List.mem_singleton.mp hq ▸ List.mem_cons_self)
    rw [List.length_cons] at hlen
    cases moveUpPacket_handles sorter session r p with
    | passedOver hnot _ _ _ => simp [hfor p List.mem_cons_self] at hnot
    | full _ hfull _ _ _ => omega
    | inserted _ _ htaken hreceiver _ hdelivered =>
      rw [takeReady_of_ahead hmem] at htaken
      subst htaken
      simp only [moveUpPackets, hdelivered, hreceiver, List.nil_append]
      have hlength : (sorter.sort (r.incomingPackets ++ [p])).length =
          r.incomingPackets.length + 1 := by simp
      have hrest := ih (r := ⟨sorter.sort (r.incomingPackets ++ [p]), r.lastConsumed⟩)
        (fun q hq => ?_) (fun q hq => hfor q (List.mem_cons_of_mem p hq))
        (by simp only [hlength]; omega)
      · simp only [hlength] at hrest
        exact ⟨hrest.1, hrest.2.trans (by rw [List.length_cons]; omega)⟩
      · rcases List.mem_append.mp hq with hq | hq
        · exact hmem q hq
        · exact hahead q (List.mem_append_right _ (List.mem_cons_of_mem p hq))

theorem moveUpPackets_append (r : Receiver) (ps qs : List Packet) :
    (moveUpPackets sorter session r (ps ++ qs)).delivered =
      (moveUpPackets sorter session r ps).delivered ++
        (moveUpPackets sorter session (moveUpPackets sorter session r ps).receiver qs).delivered ∧
    (moveUpPackets sorter session r (ps ++ qs)).dropped =
      (moveUpPackets sorter session r ps).dropped ++
        (moveUpPackets sorter session (moveUpPackets sorter session r ps).receiver qs).dropped := by
  induction ps generalizing r with
  | nil => exact ⟨rfl, rfl⟩
  | cons p rest ih =>
    obtain ⟨hdelivered, hdropped⟩ := ih (moveUpPacket sorter session r p).receiver
    simp only [List.cons_append, moveUpPackets, List.append_assoc, hdelivered, hdropped, and_self]

/-- Twelve packets that overtake the first one, copies of one packet among them, end the
control channel: from then on every packet is dropped, the first one too, although each is
still reported to the sender. -/
theorem moveUpPackets_stalled {early : List Packet} (hlen : early.length = recvBufferSize)
    (hfor : ∀ p ∈ early, forControl session p = true) (hahead : ∀ p ∈ early, 1 < p.id.toNat)
    (later : List Packet) :
    (moveUpPackets sorter session {} (early ++ later)).delivered = [] ∧
      later.filter (forControl session) <:+
        (moveUpPackets sorter session {} (early ++ later)).dropped ∧
      (moveUpPackets sorter session {} (early ++ later)).seen =
        ((early ++ later).filter (incomingSanityChecks session)).map
          Receiver.newIncomingPacketSeen := by
  obtain ⟨hnone, hcount⟩ := moveUpPackets_ahead sorter session (r := {})
    (by simpa using hahead) hfor (by simp [hlen])
  have hfull : recvBufferSize ≤
      (moveUpPackets sorter session {} early).receiver.incomingPackets.length := by
    simp [hcount, hlen]
  obtain ⟨hdelivered, hdropped⟩ := moveUpPackets_full sorter session hfull later
  obtain ⟨hall, hallDropped⟩ := moveUpPackets_append sorter session {} early later
  refine ⟨?_, ?_, moveUpPackets_seen sorter session {} _⟩
  · rw [hall, hnone, hdelivered, List.append_nil]
  · rw [hallDropped, hdropped]
    exact List.suffix_append _ _

end Full

theorem moveUpPackets_stalled_copies :
    (moveUpPackets (.insertion byID) withOnes {}
      (List.replicate 12 (fromOnes 2) ++ [fromOnes 1])).delivered = [] :=
  (moveUpPackets_stalled (.insertion byID) withOnes (by decide) (by decide) (by decide)
    [fromOnes 1]).1

end ResidentialIPManager.MiniVPN
