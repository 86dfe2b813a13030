import ResidentialIPManager.Domain.Config
import ResidentialIPManager.MiniVPN.Receiver
import ResidentialIPManager.Sequences.SwapRemove

/-! # The sender of the reliable transport

`sender.go` and `packets.go`. Up to six packets are in flight, each with the time of its next
transmission. An acknowledgement takes a packet out of the queue and counts against those
with smaller IDs; three such counts make a packet due at once. When the ticker fires, what is
due is sent and the IDs that are still to be acknowledged ride along, four to a packet.
-/
namespace ResidentialIPManager.MiniVPN
open Domain Sorting Sequences Text

def sendBufferSize : Nat := 6

def maxACKsPerOutgoingPacket : Nat := 4

def ackSetCapacity : Nat := 8

/-- `MAX_BACKOFF_SECONDS * time.Second`. -/
def maxBackoff : Duration := 60 * second

def senderTicker : Duration := 60 * second

def gracePeriodForOutgoingACKs : Duration := 20000000

/-- `inFlightPacket`. A new one has the zero time, which is before every reading of the
clock. -/
structure InFlightPacket where
  deadline : Time := 0
  higherACKs : Nat := 0
  packet : Packet
  retries : Nat := 0
  deriving DecidableEq

namespace InFlightPacket

def ackForHigherPacket (p : InFlightPacket) : InFlightPacket :=
  { p with higherACKs := p.higherACKs + 1 }

/-- `backoff`. Shift and product are those of `int64`. -/
def backoff (p : InFlightPacket) : Duration :=
  let backoff := wrap64 (wrap64 (2 ^ p.retries) * second)
  if maxBackoff < backoff then maxBackoff else backoff

def scheduleForRetransmission (p : InFlightPacket) (t : Time) : InFlightPacket :=
  let p := { p with retries := p.retries + 1 }
  { p with deadline := t + p.backoff }

def isReady (p : InFlightPacket) (t : Time) : Bool :=
  decide (3 ≤ p.higherACKs) || decide (p.deadline < t)

def byPacketID (p : InFlightPacket) : Nat := p.packet.id.toNat

end InFlightPacket

open InFlightPacket

def nearestDeadlineTo (seq : List InFlightPacket) (t : Time) : Time :=
  let timeout := smallestKey InFlightPacket.deadline (t + senderTicker) seq
  if timeout < t then t + 1 else timeout

def insertID (id : PacketID) : List PacketID → List PacketID
  | [] => [id]
  | x :: rest =>
    if id < x then id :: x :: rest else if id = x then x :: rest else x :: insertID id rest

@[simp] theorem mem_insertID {id x : PacketID} {ids : List PacketID} :
    x ∈ insertID id ids ↔ x = id ∨ x ∈ ids := by
  induction ids with
  | nil => simp [insertID]
  | cons y rest ih =>
    unfold insertID
    split_ifs with hlt heq
    · simp
    · simp [heq]
    · simp only [List.mem_cons, ih]
      tauto

theorem insertID_increasing {id : PacketID} {ids : List PacketID}
    (h : ids.Pairwise fun a b => a < b) : (insertID id ids).Pairwise fun a b => a < b := by
  induction ids with
  | nil => simp [insertID]
  | cons y rest ih =>
    obtain ⟨hhead, htail⟩ := List.pairwise_cons.mp h
    unfold insertID
    split_ifs with hlt heq
    · refine List.pairwise_cons.mpr ⟨fun b hb => ?_, h⟩
      rcases List.mem_cons.mp hb with rfl | hb
      · exact hlt
      · exact UInt32.lt_trans hlt (hhead b hb)
    · exact h
    · refine List.pairwise_cons.mpr ⟨fun b hb => ?_, ih htail⟩
      rcases mem_insertID.mp hb with rfl | hb
      · exact UInt32.lt_of_le_of_ne (UInt32.not_lt.mp hlt) fun hyb => heq hyb.symm
      · exact hhead b hb

/-- `ackSet`: a set of IDs, kept as the increasing list of them. -/
structure ACKSet where
  ids : List PacketID
  increasing : ids.Pairwise fun a b => a < b

namespace ACKSet

def empty : ACKSet := ⟨[], .nil⟩

def maybeAdd (s : ACKSet) (id : Option PacketID) : ACKSet :=
  if ackSetCapacity ≤ s.ids.length then s
  else match id with
    | none => s
    | some id => ⟨insertID id s.ids, insertID_increasing s.increasing⟩

def nextToACK (s : ACKSet) : List PacketID × ACKSet :=
  (s.ids.take maxACKsPerOutgoingPacket,
    ⟨s.ids.drop maxACKsPerOutgoingPacket, s.increasing.sublist (List.drop_sublist _ _)⟩)

theorem mem_maybeAdd {s : ACKSet} {id : Option PacketID} {x : PacketID}
    (h : x ∈ (s.maybeAdd id).ids) : x ∈ s.ids ∨ id = some x := by
  unfold maybeAdd at h
  split_ifs at h with hfull
  · exact .inl h
  · cases id with
    | none => exact .inl h
    | some id =>
      rcases mem_insertID.mp h with rfl | hx
      · exact .inr rfl
      · exact .inl hx

end ACKSet

structure Sender where
  inFlight : List InFlightPacket := []
  pendingACKsToSend : ACKSet := .empty

/-- The three branches of the loop of `maybeEvictOrMarkWithHigherACK`. -/
def ackSide (acked : PacketID) (p : InFlightPacket) : Ordering :=
  if p.packet.id < acked then .lt else if acked = p.packet.id then .eq else .gt

namespace Sender

def tryInsertOutgoingPacket (s : Sender) (p : Packet) : Bool × Sender :=
  if sendBufferSize ≤ s.inFlight.length then (false, s)
  else (true, { s with inFlight := s.inFlight ++ [{ packet := p }] })

/-- `maybeEvictOrMarkWithHigherACK`: the loop goes over the slice that it swaps elements of. -/
def maybeEvictOrMarkWithHigherACK (sorter : Sorter byPacketID) (s : Sender) (acked : PacketID) :
    Sender :=
  { s with inFlight := sorter.sort (swapRemove (ackSide acked) ackForHigherPacket s.inFlight) }

def onIncomingPacketSeen (sorter : Sorter byPacketID) (s : Sender) (seen : IncomingPacketSeen) :
    Sender :=
  let s := { s with pendingACKsToSend := s.pendingACKsToSend.maybeAdd seen.id }
  match seen.acks with
  | none => s
  | some acks => acks.foldl (maybeEvictOrMarkWithHigherACK sorter) s

def shouldWakeupAfterACK (s : Sender) (t : Time) : Option Duration :=
  if s.pendingACKsToSend.ids.length = 0 then none
  else if 2 ≤ s.pendingACKsToSend.ids.length then some 1
  else
    let timeout := nearestDeadlineTo s.inFlight t
    some (if gracePeriodForOutgoingACKs < timeout - t then gracePeriodForOutgoingACKs
      else timeout - t)

/-- The loop of `blockOnTryingToSend` over the packets that are due: what is left to
acknowledge, the queue, and what is sent. -/
def flush (now : Time) : ACKSet → List InFlightPacket → ACKSet × List InFlightPacket × List Packet
  | pending, [] => (pending, [], [])
  | pending, p :: rest =>
    if p.isReady now then
      let p := p.scheduleForRetransmission now
      let (acks, pending) := pending.nextToACK
      let packet := { p.packet with acks }
      let (pending, rest, sent) := flush now pending rest
      (pending, { p with packet } :: rest, packet :: sent)
    else
      let (pending, rest, sent) := flush now pending rest
      (pending, p :: rest, sent)

/-- `Ticker.Reset` panics on a duration that is not positive. -/
def tickerReset (d : Duration) : Option Unit := if d ≤ 0 then none else some ()

/-- `blockOnTryingToSend`: the sender afterwards and the packets for the muxer, or the panic of
the ticker. -/
def blockOnTryingToSend (session : Manager) (s : Sender) (now : Time) :
    Option (Sender × List Packet) :=
  match tickerReset (nearestDeadlineTo s.inFlight now - now) with
  | none => none
  | some () =>
    if s.inFlight.any (·.isReady now) then
      let (pendingACKsToSend, inFlight, sent) := flush now s.pendingACKsToSend s.inFlight
      some ({ inFlight, pendingACKsToSend }, sent)
    else if s.pendingACKsToSend.ids.length = 0 then some (s, [])
    else
      let (ids, pendingACKsToSend) := s.pendingACKsToSend.nextToACK
      match session.newACKForPacketIDs ids with
      | .error _ => some ({ s with pendingACKsToSend }, [])
      | .ok ack => some ({ s with pendingACKsToSend }, [ack])

/-- A notification from the receiver, with the wakeup that follows it. -/
def handleSeen (sorter : Sorter byPacketID) (s : Sender) (seen : IncomingPacketSeen)
    (now : Time) : Option Sender :=
  let s := s.onIncomingPacketSeen sorter seen
  match s.shouldWakeupAfterACK now with
  | none => some s
  | some wakeup => (tickerReset wakeup).map fun _ => s

end Sender

/-! ## The queue of packets in flight -/

def Sender.Queued (s : Sender) : Prop :=
  s.inFlight.Pairwise fun a b => byPacketID a < byPacketID b

instance (s : Sender) : Decidable s.Queued :=
  inferInstanceAs (Decidable (s.inFlight.Pairwise fun a b => byPacketID a < byPacketID b))

section Evict
variable (sorter : Sorter byPacketID) {s : Sender} (acked : PacketID)

@[simp] theorem byPacketID_ackForHigherPacket (p : InFlightPacket) :
    byPacketID p.ackForHigherPacket = byPacketID p := rfl

theorem ackSide_eq_lt {p : InFlightPacket} :
    ackSide acked p = .lt ↔ byPacketID p < acked.toNat := by
  unfold ackSide byPacketID
  rw [← UInt32.lt_iff_toNat_lt]
  split_ifs with hlt heq <;> simp [hlt]

theorem ackSide_eq_eq {p : InFlightPacket} :
    ackSide acked p = .eq ↔ byPacketID p = acked.toNat := by
  unfold ackSide byPacketID
  rw [UInt32.toNat_inj]
  split_ifs with hlt heq
  · simp [UInt32.ne_of_lt hlt]
  · simp [heq]
  · simpa using fun h : p.packet.id = acked => heq h.symm

theorem ackSide_eq_gt {p : InFlightPacket} :
    ackSide acked p = .gt ↔ acked.toNat < byPacketID p := by
  have hlt := ackSide_eq_lt acked (p := p)
  have heq := ackSide_eq_eq acked (p := p)
  cases hside : ackSide acked p
  · have := hlt.mp hside
    simp only [reduceCtorEq, false_iff]
    omega
  · have := heq.mp hside
    simp only [reduceCtorEq, false_iff]
    omega
  · rw [hside] at hlt heq
    simp only [reduceCtorEq, false_iff] at hlt heq
    simp only [true_iff]
    omega

theorem markedRest_increasing (h : s.Queued) :
    (markedRest (ackSide acked) ackForHigherPacket s.inFlight).Pairwise
      fun a b => byPacketID a < byPacketID b := by
  unfold markedRest
  refine List.pairwise_map.mpr ((h.sublist List.filter_sublist).imp fun {a b} hab => ?_)
  split_ifs <;> simpa using hab

/-- The loop with its swaps, followed by the sort, takes the acknowledged packet out, counts
against the smaller ones, and leaves everything else as it was. -/
theorem maybeEvictOrMarkWithHigherACK_inFlight (h : s.Queued) :
    (s.maybeEvictOrMarkWithHigherACK sorter acked).inFlight =
      (s.inFlight.filter fun p => p.packet.id ≠ acked).map fun p =>
        if p.packet.id < acked then p.ackForHigherPacket else p := by
  obtain ⟨hsplit, honce⟩ := split_at_key h acked.toNat
  have hperm : (swapRemove (ackSide acked) ackForHigherPacket s.inFlight).Perm
      (markedRest (ackSide acked) ackForHigherPacket s.inFlight) := by
    rw [hsplit]
    refine swapRemove_perm _ ?_ ?_ ?_ honce
    · intro p hp
      exact (ackSide_eq_lt acked).mpr (by simpa using (List.mem_filter.mp hp).2)
    · intro p hp
      exact (ackSide_eq_eq acked).mpr (by simpa using (List.mem_filter.mp hp).2)
    · intro p hp
      exact (ackSide_eq_gt acked).mpr (by simpa using (List.mem_filter.mp hp).2)
  have hsort := sorter.sort_eq hperm.symm (markedRest_increasing acked h)
  rw [Sender.maybeEvictOrMarkWithHigherACK, hsort, markedRest]
  have hside : ∀ p : InFlightPacket, ackSide acked p = .eq ↔ p.packet.id = acked := fun p => by
    rw [ackSide_eq_eq, byPacketID, UInt32.toNat_inj]
  have hless : ∀ p : InFlightPacket, ackSide acked p = .lt ↔ p.packet.id < acked := fun p => by
    rw [ackSide_eq_lt, byPacketID, ← UInt32.lt_iff_toNat_lt]
  simp only [hside, hless, ne_eq]

theorem maybeEvictOrMarkWithHigherACK_queued (h : s.Queued) :
    (s.maybeEvictOrMarkWithHigherACK sorter acked).Queued := by
  rw [Sender.Queued, maybeEvictOrMarkWithHigherACK_inFlight sorter acked h]
  refine List.pairwise_map.mpr ((h.sublist List.filter_sublist).imp fun {a b} hab => ?_)
  split_ifs <;> simpa using hab

variable {acked}

def InFlightPacket.countACKs (acks : List PacketID) (p : InFlightPacket) : InFlightPacket :=
  { p with higherACKs := p.higherACKs + acks.countP fun a => decide (p.packet.id < a) }

@[simp] theorem countACKs_nil : InFlightPacket.countACKs [] = id := rfl

theorem countACKs_cons (a : PacketID) (acks : List PacketID) (p : InFlightPacket) :
    InFlightPacket.countACKs (a :: acks) p =
      InFlightPacket.countACKs acks (if p.packet.id < a then p.ackForHigherPacket else p) := by
  by_cases hlt : p.packet.id < a
  · simp only [InFlightPacket.countACKs, if_pos hlt, ackForHigherPacket, List.countP_cons,
      decide_eq_true hlt, if_true]
    congr 1
    omega
  · simp [InFlightPacket.countACKs, hlt]

theorem foldl_evict_inFlight (acks : List PacketID) (h : s.Queued) :
    (acks.foldl (Sender.maybeEvictOrMarkWithHigherACK sorter) s).inFlight =
      (s.inFlight.filter fun p => p.packet.id ∉ acks).map (InFlightPacket.countACKs acks) := by
  induction acks generalizing s with
  | nil => simp
  | cons a rest ih =>
    have hkeep : ∀ p : InFlightPacket,
        (if p.packet.id < a then p.ackForHigherPacket else p).packet = p.packet := fun p => by
      split_ifs <;> rfl
    rw [List.foldl_cons, ih (maybeEvictOrMarkWithHigherACK_queued sorter a h),
      maybeEvictOrMarkWithHigherACK_inFlight sorter a h, List.filter_map, List.filter_filter,
      List.map_map]
    have hfilter : (s.inFlight.filter fun p => p.packet.id ∉ a :: rest) = s.inFlight.filter fun p =>
        decide (p.packet.id ∉ rest) && decide (p.packet.id ≠ a) :=
      List.filter_congr fun p _ => by
        by_cases hp : p.packet.id = a <;> simp [hp]
    simp only [Function.comp_def, hkeep, hfilter]
    exact List.map_congr_left fun p _ => (countACKs_cons a rest p).symm

theorem foldl_evict_packets (acks : List PacketID) (h : s.Queued) :
    (acks.foldl (Sender.maybeEvictOrMarkWithHigherACK sorter) s).Queued ∧
      (acks.foldl (Sender.maybeEvictOrMarkWithHigherACK sorter) s).inFlight.map
          InFlightPacket.packet =
        (s.inFlight.map InFlightPacket.packet).filter (fun p => p.id ∉ acks) ∧
      (acks.foldl (Sender.maybeEvictOrMarkWithHigherACK sorter) s).pendingACKsToSend =
        s.pendingACKsToSend := by
  refine ⟨?_, ?_, ?_⟩
  · rw [Sender.Queued, foldl_evict_inFlight sorter acks h]
    exact List.pairwise_map.mpr (h.sublist List.filter_sublist)
  · rw [foldl_evict_inFlight sorter acks h, List.map_map, List.filter_map]
    rfl
  · induction acks generalizing s with
    | nil => rfl
    | cons a rest ih => exact ih (maybeEvictOrMarkWithHigherACK_queued sorter a h)

/-- What acknowledgements do to the packets in flight: those that are named leave, and each of the
others counts how many were named behind it. -/
theorem onIncomingPacketSeen_inFlight (seen : IncomingPacketSeen) (h : s.Queued) :
    (s.onIncomingPacketSeen sorter seen).inFlight =
      (s.inFlight.filter fun p => p.packet.id ∉ seen.acks.getD []).map
        (InFlightPacket.countACKs (seen.acks.getD [])) := by
  unfold Sender.onIncomingPacketSeen
  cases hacks : seen.acks with
  | none => simp
  | some acks =>
    exact foldl_evict_inFlight sorter acks
      (s := { s with pendingACKsToSend := s.pendingACKsToSend.maybeAdd seen.id }) h

theorem onIncomingPacketSeen_inFlight_three :
    let s : Sender := { inFlight := [1, 2, 3].map fun id => { packet := fromOnes id } }
    s.Queued ∧ (s.onIncomingPacketSeen (.insertion byPacketID) ⟨none, some [2, 3]⟩).inFlight =
      (s.inFlight.filter fun p => p.packet.id ∉ [2, 3]).map (InFlightPacket.countACKs [2, 3]) :=
  ⟨by decide, onIncomingPacketSeen_inFlight (.insertion byPacketID) ⟨none, some [2, 3]⟩ (by decide)⟩

theorem onIncomingPacketSeen_spec {seen : IncomingPacketSeen} {acks : List PacketID}
    (hacks : seen.acks = some acks) (h : s.Queued) :
    (s.onIncomingPacketSeen sorter seen).Queued ∧
      (s.onIncomingPacketSeen sorter seen).inFlight.map InFlightPacket.packet =
        (s.inFlight.map InFlightPacket.packet).filter (fun p => p.id ∉ acks) ∧
      (s.onIncomingPacketSeen sorter seen).pendingACKsToSend =
        s.pendingACKsToSend.maybeAdd seen.id := by
  unfold Sender.onIncomingPacketSeen
  rw [hacks]
  exact foldl_evict_packets sorter acks
    (s := { s with pendingACKsToSend := s.pendingACKsToSend.maybeAdd seen.id }) h

end Evict

theorem handleSeen_eq_some {sorter : Sorter byPacketID} {s t : Sender}
    {seen : IncomingPacketSeen} {now : Time} (h : s.handleSeen sorter seen now = some t) :
    t = s.onIncomingPacketSeen sorter seen := by
  unfold Sender.handleSeen at h
  dsimp only at h
  split at h
  · exact (Option.some.inj h).symm
  · obtain ⟨_, -, ht⟩ := Option.map_eq_some_iff.mp h
    exact ht.symm

/-! ## What is sent -/

def Packet.withoutACKs (p : Packet) : Packet := { p with acks := [] }

section Flush
variable (now : Time)

theorem flush_inFlight (pending : ACKSet) (q : List InFlightPacket) :
    (Sender.flush now pending q).2.1.map (·.packet.withoutACKs) =
      q.map (·.packet.withoutACKs) := by
  induction q generalizing pending with
  | nil => rfl
  | cons p rest ih =>
    unfold Sender.flush
    split_ifs with hready
    · exact congrArg (p.packet.withoutACKs :: ·) (ih pending.nextToACK.2)
    · exact congrArg (p.packet.withoutACKs :: ·) (ih pending)

theorem flush_pending (pending : ACKSet) (q : List InFlightPacket) :
    ∀ a ∈ (Sender.flush now pending q).1.ids, a ∈ pending.ids := by
  induction q generalizing pending with
  | nil => exact fun a ha => ha
  | cons p rest ih =>
    unfold Sender.flush
    split_ifs with hready
    · exact fun a ha => List.mem_of_mem_drop (ih _ a ha)
    · exact ih _

/-- What is sent is in flight, and acknowledges what was pending. -/
theorem flush_sent (pending : ACKSet) (q : List InFlightPacket) :
    ∀ p ∈ (Sender.flush now pending q).2.2,
      (∃ f ∈ q, p.withoutACKs = f.packet.withoutACKs) ∧
        p.acks.length ≤ maxACKsPerOutgoingPacket ∧ ∀ a ∈ p.acks, a ∈ pending.ids := by
  induction q generalizing pending with
  | nil => simp [Sender.flush]
  | cons f rest ih =>
    intro p hp
    unfold Sender.flush at hp
    split_ifs at hp with hready
    · rcases List.mem_cons.mp hp with rfl | hp
      · refine ⟨⟨f, List.mem_cons_self, rfl⟩, ?_, fun a ha => List.mem_of_mem_take ha⟩
        exact List.length_take_le _ _
      · obtain ⟨⟨g, hg, hpg⟩, hlen, hacks⟩ := ih _ p hp
        exact ⟨⟨g, List.mem_cons_of_mem f hg, hpg⟩, hlen,
          fun a ha => List.mem_of_mem_drop (hacks a ha)⟩
    · obtain ⟨⟨g, hg, hpg⟩, hlen, hacks⟩ := ih _ p hp
      exact ⟨⟨g, List.mem_cons_of_mem f hg, hpg⟩, hlen, hacks⟩

end Flush

/-- What a tick does: it sends packets in flight, or an acknowledgement alone. -/
theorem blockOnTryingToSend_spec {session : Manager} {s t : Sender} {now : Time}
    {sent : List Packet} (h : s.blockOnTryingToSend session now = some (t, sent)) :
    t.inFlight.map (·.packet.withoutACKs) = s.inFlight.map (·.packet.withoutACKs) ∧
      (∀ a ∈ t.pendingACKsToSend.ids, a ∈ s.pendingACKsToSend.ids) ∧
      ∀ p ∈ sent, p.acks.length ≤ maxACKsPerOutgoingPacket ∧
        (∀ a ∈ p.acks, a ∈ s.pendingACKsToSend.ids) ∧
        ((∃ f ∈ s.inFlight, p.withoutACKs = f.packet.withoutACKs) ∨
          session.newACKForPacketIDs p.acks = .ok p) := by
  unfold Sender.blockOnTryingToSend at h
  split at h
  · cases h
  split_ifs at h with hany hnone
  · obtain ⟨rfl, rfl⟩ := Prod.mk.inj (Option.some.inj h)
    refine ⟨flush_inFlight now _ _, flush_pending now _ _, fun p hp => ?_⟩
    obtain ⟨hf, hlen, hacks⟩ := flush_sent now _ _ p hp
    exact ⟨hlen, hacks, .inl hf⟩
  · obtain ⟨rfl, rfl⟩ := Prod.mk.inj (Option.some.inj h)
    exact ⟨rfl, fun a ha => ha, by simp⟩
  · simp only at h
    split at h
    · obtain ⟨rfl, rfl⟩ := Prod.mk.inj (Option.some.inj h)
      exact ⟨rfl, fun a ha => List.mem_of_mem_drop ha, by simp⟩
    · rename_i ack hack
      obtain ⟨rfl, rfl⟩ := Prod.mk.inj (Option.some.inj h)
      refine ⟨rfl, fun a ha => List.mem_of_mem_drop ha, fun p hp => ?_⟩
      rw [List.mem_singleton.mp hp]
      have hids : ack.acks = (s.pendingACKsToSend.nextToACK).1 := by
        unfold Manager.newACKForPacketIDs at hack
        split at hack
        · cases hack
        · exact (Except.ok.inj hack) ▸ rfl
      refine ⟨hids ▸ List.length_take_le _ _, fun a ha => ?_, .inr (hids ▸ hack)⟩
      rw [hids] at ha
      exact List.mem_of_mem_take ha

/-! ## The ticker -/

/-- The ticker is set to a positive duration unless the earliest transmission in flight is due
at this very instant. Then `Reset` panics. -/
theorem blockOnTryingToSend_eq_none_iff (session : Manager) (s : Sender) (now : Time) :
    s.blockOnTryingToSend session now = none ↔
      (∃ p ∈ s.inFlight, p.deadline = now) ∧ ∀ p ∈ s.inFlight, now ≤ p.deadline := by
  have hreset : s.blockOnTryingToSend session now = none ↔
      nearestDeadlineTo s.inFlight now ≤ now := by
    unfold Sender.blockOnTryingToSend Sender.tickerReset
    by_cases hle : nearestDeadlineTo s.inFlight now - now ≤ 0
    · simp only [if_pos hle, true_iff]
      exact sub_nonpos.mp hle
    · simp only [if_neg hle, sub_nonpos.not.mp hle, iff_false]
      split_ifs
      · simp
      · simp
      · split <;> simp
  rw [hreset]
  obtain ⟨hall, hle, hfrom⟩ :=
    smallestKey_spec InFlightPacket.deadline (now + senderTicker) s.inFlight
  have hpos : now < now + senderTicker := lt_add_of_pos_right now (by decide)
  unfold nearestDeadlineTo
  dsimp only
  generalize smallestKey _ (now + senderTicker) s.inFlight = timeout at hall hle hfrom
  by_cases hpast : timeout < now
  · -- some transmission is overdue
    rw [if_pos hpast]
    refine iff_of_false (not_le.mpr (lt_add_one now)) fun ⟨_, hnow⟩ => ?_
    rcases hfrom with heq | ⟨p, hp, heq⟩
    · exact absurd (heq ▸ hpast) (not_lt.mpr hpos.le)
    · exact absurd (heq ▸ hpast) (not_lt.mpr (hnow p hp))
  · rw [if_neg hpast]
    have hge : now ≤ timeout := not_lt.mp hpast
    constructor
    · intro htimeout
      refine ⟨?_, fun p hp => hge.trans (hall p hp)⟩
      rcases hfrom with heq | ⟨p, hp, heq⟩
      · exact absurd (heq ▸ htimeout) (not_le.mpr hpos)
      · exact ⟨p, hp, heq ▸ le_antisymm htimeout hge⟩
    · rintro ⟨⟨p, hp, heq⟩, -⟩
      exact heq ▸ hall p hp

/-! ## The pauses between transmissions -/

theorem exists_wrap64_eq (n : Int) : ∃ q : Int, wrap64 n = n + 2 ^ 64 * q := by
  refine ⟨-((n + 2 ^ 63) / 2 ^ 64), ?_⟩
  unfold wrap64
  have := Int.emod_add_mul_ediv (n + 2 ^ 63) (2 ^ 64)
  norm_num at this ⊢
  omega

theorem wrap64_eq_zero {n : Int} (h : (2 ^ 64 : Int) ∣ n) : wrap64 n = 0 := by
  unfold wrap64
  omega

/-- From the 55th transmission on there is no pause at all: the product is a multiple
of 2 ^ 64. -/
theorem backoff_eq_zero {p : InFlightPacket} (h : 55 ≤ p.retries) : p.backoff = 0 := by
  have hpow : (2 ^ p.retries : Int) = 2 ^ 55 * 2 ^ (p.retries - 55) := by
    rw [← pow_add, Nat.add_sub_cancel' h]
  obtain ⟨q, hq⟩ := exists_wrap64_eq (2 ^ p.retries)
  have hdvd : (2 ^ 64 : Int) ∣ wrap64 (2 ^ p.retries) * second := by
    refine ⟨2 ^ (p.retries - 55) * 1953125 + q * second, ?_⟩
    rw [hq, hpow]
    unfold second
    ring
  have hpos : ¬ maxBackoff < 0 := by decide
  simp only [backoff, wrap64_eq_zero hdvd, if_neg hpos]

/-- The pause after a transmission is the doubled one up to a minute for the first 33, and for
eight later numbers; otherwise the product has overflowed. -/
theorem backoff_doubles_iff (p : InFlightPacket) :
    p.backoff = min (2 ^ p.retries * second) maxBackoff ↔
      p.retries ≤ 33 ∨ p.retries ∈ [37, 41, 42, 45, 47, 50, 51, 53] := by
  rcases lt_or_ge p.retries 55 with hlt | hge
  · obtain ⟨deadline, higherACKs, packet, retries⟩ := p
    have hsmall : ∀ n < 55,
        ((if maxBackoff < wrap64 (wrap64 (2 ^ n) * second) then maxBackoff
            else wrap64 (wrap64 (2 ^ n) * second)) = min (2 ^ n * second) maxBackoff ↔
          n ≤ 33 ∨ n ∈ [37, 41, 42, 45, 47, 50, 51, 53]) := by
      decide +kernel
    exact hsmall retries hlt
  · have hmin : (0 : Int) < min (2 ^ p.retries * second) maxBackoff := by
      refine lt_min (mul_pos (by positivity) (by decide)) (by decide)
    rw [backoff_eq_zero hge]
    refine iff_of_false hmin.ne ?_
    simp only [List.mem_cons, List.not_mem_nil, or_false]
    omega

end ResidentialIPManager.MiniVPN
