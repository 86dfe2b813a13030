import ResidentialIPManager.MiniVPN.Sender

/-! # One end of the control channel

The workers of the reliable transport with the worker of the control channel above and those
of the muxer below, and what has happened to them so far. What an end writes keeps a protocol:
a packet carries the record that its ID stands for, and acknowledges what came in. A packet is
serialised when it is sent; the model has no copy of it that waits in the muxer.
-/
namespace ResidentialIPManager.MiniVPN
open Domain Sorting InFlightPacket

structure Sorts where
  incoming : Sorter byID
  outgoing : Sorter byPacketID

/-- One end. The fields from `sent` on are what an observer has noted: the datagrams written,
the records given to `NewPacket`, the IDs that found the queue full, the packets reported to
the sender, and the packets passed to the layer above. -/
structure Node where
  session : Manager
  sender : Sender := {}
  receiver : Receiver := {}
  incomingSeen : List IncomingPacketSeen := []
  sent : List (List UInt8) := []
  submitted : List (List UInt8) := []
  refused : List PacketID := []
  received : List (PacketID × List UInt8) := []
  delivered : List Packet := []

inductive Action where
  | submit (record : List UInt8)
  | tick (now : Time)
  | notice (now : Time)
  | arrive (raw : List UInt8)

namespace Node

/-- `moveDownWorker` of the control channel and the first case of `moveDownWorker` here. An
exhausted counter ends the worker. -/
def submit (n : Node) (record : List UInt8) : Option Node :=
  match n.session.newPacket .controlV1 record with
  | .error _ => none
  | .ok (p, session) =>
    let (inserted, sender) := n.sender.tryInsertOutgoingPacket p
    some { n with
      session, sender
      submitted := n.submitted ++ [record]
      refused := if inserted then n.refused else n.refused ++ [p.id] }

/-- The case of the ticker, and the muxer's `moveDownWorker`. -/
def tick (n : Node) (now : Time) : Option Node :=
  match n.sender.blockOnTryingToSend n.session now with
  | none => none
  | some (sender, packets) =>
    some { n with sender, sent := n.sent ++ packets.filterMap fun p => p.bytes.toOption }

def notice (sorts : Sorts) (n : Node) (now : Time) : Option Node :=
  match n.incomingSeen with
  | [] => none
  | seen :: rest => (n.sender.handleSeen sorts.outgoing seen now).map fun sender =>
      { n with sender, incomingSeen := rest }

/-- `handleRawPacket` of the muxer after the handshake, and `moveUpWorker`. The worker waits
while the channel to the sender is full. -/
def arrive (sorts : Sorts) (n : Node) (raw : List UInt8) : Option Node :=
  match parsePacket raw with
  | .error _ => some n
  | .ok p =>
    if p.opcode.isReliable = false then some n
    else
      let moved := moveUpPacket sorts.incoming n.session n.receiver p
      if incomingSeenCapacity < n.incomingSeen.length + moved.seen.length then none
      else some { n with
        receiver := moved.receiver
        incomingSeen := n.incomingSeen ++ moved.seen
        received := n.received ++ (moved.seen.filterMap fun s => s.id).map fun id => (id, p.payload)
        delivered := n.delivered ++ moved.delivered }

def step (sorts : Sorts) (n : Node) : Action → Option Node
  | .submit record => n.submit record
  | .tick now => n.tick now
  | .notice now => n.notice sorts now
  | .arrive raw => n.arrive sorts raw

def receivedIDs (n : Node) : List PacketID := n.received.map Prod.fst

end Node

/-! ## Records by their IDs -/

/-- The record that an ID stands for: the first packet has the ID 1. -/
def recordAt (stream : List (List UInt8)) (id : PacketID) : Option (List UInt8) :=
  if id = 0 then none else stream[id.toNat - 1]?

section RecordAt
variable {stream : List (List UInt8)} {id : PacketID} {record extra : List UInt8}

theorem toNat_pos {id : PacketID} (h : id ≠ 0) : 0 < id.toNat :=
  Nat.pos_of_ne_zero fun hzero => h (UInt32.toNat_inj.mp hzero)

theorem recordAt_bounds (h : recordAt stream id = some record) :
    0 < id.toNat ∧ id.toNat ≤ stream.length := by
  unfold recordAt at h
  split_ifs at h with hzero
  obtain ⟨hlt, -⟩ := List.getElem?_eq_some_iff.mp h
  have := toNat_pos hzero
  omega

theorem recordAt_append (h : recordAt stream id = some record) :
    recordAt (stream ++ [extra]) id = some record := by
  obtain ⟨hpos, hle⟩ := recordAt_bounds h
  unfold recordAt at h ⊢
  split_ifs at h ⊢ with hzero
  rw [List.getElem?_append_left (by omega)]
  exact h

theorem recordAt_append_cases (h : recordAt (stream ++ [extra]) id = some record) :
    recordAt stream id = some record ∨ id.toNat = stream.length + 1 ∧ record = extra := by
  obtain ⟨hpos, hle⟩ := recordAt_bounds h
  rw [List.length_append, List.length_singleton] at hle
  unfold recordAt at h ⊢
  split_ifs at h ⊢ with hzero
  rcases Nat.lt_or_ge (id.toNat - 1) stream.length with hlt | hge
  · rw [List.getElem?_append_left hlt] at h
    exact .inl h
  · have hid : id.toNat = stream.length + 1 := by omega
    rw [hid] at h
    simp only [Nat.add_sub_cancel, List.getElem?_concat_length, Option.some.injEq] at h
    exact .inr ⟨hid, h.symm⟩

theorem recordAt_new (hid : id.toNat = stream.length + 1) :
    recordAt (stream ++ [record]) id = some record := by
  have hzero : id ≠ 0 := by
    rintro rfl
    simp at hid
  rw [recordAt, if_neg hzero, hid, Nat.add_sub_cancel, List.getElem?_concat_length]

/-- Packets in sequence that carry their records carry a prefix of the stream. -/
theorem map_payload_prefix {ps : List Packet} {last : PacketID}
    (hids : ps.map Packet.id = idsAfter last ps.length)
    (hrecords : ∀ p ∈ ps, recordAt stream p.id = some p.payload) :
    ps.map Packet.payload <+: stream.drop last.toNat := by
  induction ps generalizing last with
  | nil => exact List.nil_prefix
  | cons p rest ih =>
    rw [List.map_cons, List.length_cons, idsAfter] at hids
    obtain ⟨hid, hrest⟩ := List.cons.inj hids
    have hp := hrecords p List.mem_cons_self
    have hzero : p.id ≠ 0 := by
      intro hzero
      simp [recordAt, hzero] at hp
    have hnum : p.id.toNat = last.toNat + 1 :=
      toNat_of_sub_eq_one (by rw [hid, UInt32.add_comm, UInt32.add_sub_cancel]) hzero
    have htail := ih hrest fun q hq => hrecords q (List.mem_cons_of_mem p hq)
    rw [← hid, hnum] at htail
    rw [recordAt, if_neg hzero, hnum, Nat.add_sub_cancel] at hp
    obtain ⟨hlt, hget⟩ := List.getElem?_eq_some_iff.mp hp
    rw [List.map_cons, List.drop_eq_getElem_cons hlt, hget]
    exact (List.prefix_cons_inj _).mpr htail

end RecordAt

/-! ## What an end writes -/

namespace Node

/-- A packet that was made from a submitted record; acknowledgements may ride along. -/
structure Genuine (peer : SessionID) (n : Node) (p : Packet) : Prop where
  opcode_eq : p.opcode = .controlV1
  keyID_eq : p.keyID = 0
  peerID_eq : p.peerID = zeroArray 3
  localSessionID_eq : p.localSessionID = n.session.localSessionID
  remoteSessionID_eq : p.remoteSessionID = peer
  record : recordAt n.submitted p.id = some p.payload

/-- What a peer may expect of a packet that it reads: it belongs to this session, it
acknowledges what came in, and it either carries the record that its ID stands for or only
acknowledges. -/
structure Spoken (peer : SessionID) (n : Node) (p : Packet) : Prop where
  localSessionID_eq : p.localSessionID = n.session.localSessionID
  remoteSessionID_eq : p.acks ≠ [] → p.remoteSessionID = peer
  acks_received : ∀ a ∈ p.acks, a ∈ n.receivedIDs
  record : p.opcode = .controlV1 ∧ recordAt n.submitted p.id = some p.payload ∨
    p.opcode = .ackV1 ∧ p.payload = []

structure Orderly (peer : SessionID) (n : Node) : Prop where
  remote : n.session.remoteSessionID = some peer
  key : n.session.keyID = 0
  counter : n.session.localControlPacketID.toNat = n.submitted.length + 1
  queued : n.sender.Queued
  genuine : ∀ f ∈ n.sender.inFlight, n.Genuine peer f.packet
  pending : ∀ a ∈ n.sender.pendingACKsToSend.ids, a ∈ n.receivedIDs
  sent : ∀ raw ∈ n.sent, ∃ p, parsePacket raw = .ok p ∧ n.Spoken peer p
  refused : ∀ id ∈ n.refused, 0 < id.toNat ∧ id.toNat ≤ n.submitted.length ∧
    (∀ f ∈ n.sender.inFlight, f.packet.id ≠ id) ∧
    ∀ raw ∈ n.sent, ∀ p, parsePacket raw = .ok p → p.opcode = .controlV1 → p.id ≠ id

section Grow
variable {peer : SessionID} {n m : Node} {p : Packet}

structure Grows (n m : Node) : Prop where
  localSessionID_eq : m.session.localSessionID = n.session.localSessionID
  record : ∀ id record, recordAt n.submitted id = some record →
    recordAt m.submitted id = some record
  received : ∀ id ∈ n.receivedIDs, id ∈ m.receivedIDs

theorem Genuine.grow (h : n.Genuine peer p) (hgrow : Grows n m) : m.Genuine peer p :=
  { h with
    localSessionID_eq := h.localSessionID_eq.trans hgrow.localSessionID_eq.symm
    record := hgrow.record _ _ h.record }

theorem Spoken.grow (h : n.Spoken peer p) (hgrow : Grows n m) : m.Spoken peer p where
  localSessionID_eq := h.localSessionID_eq.trans hgrow.localSessionID_eq.symm
  remoteSessionID_eq := h.remoteSessionID_eq
  acks_received a ha := hgrow.received a (h.acks_received a ha)
  record := h.record.imp_left fun ⟨hop, hrecord⟩ => ⟨hop, hgrow.record _ _ hrecord⟩

theorem Genuine.of_withoutACKs {q : Packet} (h : n.Genuine peer p)
    (heq : q.withoutACKs = p.withoutACKs) : n.Genuine peer q := by
  have hopcode := congrArg Packet.opcode heq
  have hkey := congrArg Packet.keyID heq
  have hpeer := congrArg Packet.peerID heq
  have hlocal := congrArg Packet.localSessionID heq
  have hremote := congrArg Packet.remoteSessionID heq
  have hid := congrArg Packet.id heq
  have hpayload := congrArg Packet.payload heq
  simp only [Packet.withoutACKs] at hopcode hkey hpeer hlocal hremote hid hpayload
  exact ⟨hopcode.trans h.opcode_eq, hkey.trans h.keyID_eq, hpeer.trans h.peerID_eq,
    hlocal.trans h.localSessionID_eq, hremote.trans h.remoteSessionID_eq,
    by rw [hid, hpayload]; exact h.record⟩

end Grow

/-- The end when the session of the peer has become known. -/
def start (localSessionID peer : SessionID) : Node :=
  { session := { localSessionID, remoteSessionID := some peer } }

theorem start_orderly (localSessionID peer : SessionID) :
    (start localSessionID peer).Orderly peer where
  remote := rfl
  key := rfl
  counter := rfl
  queued := .nil
  genuine _ hf := nomatch hf
  pending _ ha := nomatch ha
  sent _ hraw := nomatch hraw
  refused _ hid := nomatch hid

section Submit
variable {peer : SessionID} {n m : Node} {record : List UInt8}

def packetFor (peer : SessionID) (n : Node) (record : List UInt8) : Packet :=
  { opcode := .controlV1, keyID := n.session.keyID, localSessionID := n.session.localSessionID,
    remoteSessionID := peer, id := n.session.localControlPacketID, payload := record }

/-- A record takes the next ID, whether or not the queue has room. -/
theorem submit_cases (hremote : n.session.remoteSessionID = some peer)
    (h : n.submit record = some m) :
    n.session.localControlPacketID ≠ Manager.maxPacketID ∧
      m.session = { n.session with
        localControlPacketID := n.session.localControlPacketID + 1 } ∧
      m.submitted = n.submitted ++ [record] ∧ m.receiver = n.receiver ∧
      m.incomingSeen = n.incomingSeen ∧ m.sent = n.sent ∧ m.received = n.received ∧
      m.delivered = n.delivered ∧
      m.sender.pendingACKsToSend = n.sender.pendingACKsToSend ∧
      (m.sender.inFlight = n.sender.inFlight ++ [{ packet := n.packetFor peer record }] ∧
          m.refused = n.refused ∨
        m.sender.inFlight = n.sender.inFlight ∧
          m.refused = n.refused ++ [n.session.localControlPacketID]) := by
  unfold submit at h
  split at h
  · cases h
  rename_i p session hnew
  obtain ⟨hmax, rfl, rfl⟩ := Manager.newPacket_controlV1 hnew
  unfold Sender.tryInsertOutgoingPacket at h
  by_cases hfull : sendBufferSize ≤ n.sender.inFlight.length
  · simp only [if_pos hfull] at h
    obtain rfl := Option.some.inj h
    exact ⟨hmax, rfl, rfl, rfl, rfl, rfl, rfl, rfl, rfl, .inr ⟨rfl, rfl⟩⟩
  · simp only [if_neg hfull] at h
    obtain rfl := Option.some.inj h
    refine ⟨hmax, rfl, rfl, rfl, rfl, rfl, rfl, rfl, rfl, .inl ⟨?_, rfl⟩⟩
    simp [packetFor, hremote]

theorem grows_submit (hremote : n.session.remoteSessionID = some peer)
    (h : n.submit record = some m) : Grows n m := by
  obtain ⟨-, hsession, hsubmitted, -, -, -, hreceived, -⟩ := submit_cases hremote h
  refine ⟨by rw [hsession], fun id r hr => ?_, fun id hid => ?_⟩
  · rw [hsubmitted]
    exact recordAt_append hr
  · rw [receivedIDs, hreceived]
    exact hid

theorem submit_orderly (hn : n.Orderly peer) (h : n.submit record = some m) :
    m.Orderly peer := by
  have hgrow := grows_submit hn.remote h
  obtain ⟨hmax, hsession, hsubmitted, -, -, hsent, -, -, hpending, hqueue⟩ :=
    submit_cases hn.remote h
  have hcounter := hn.counter
  -- every ID in flight is that of an older record
  have hold : ∀ f ∈ n.sender.inFlight,
      f.packet.id.toNat < n.session.localControlPacketID.toNat := fun f hf => by
    have := (recordAt_bounds (hn.genuine f hf).record).2
    omega
  have hnew : m.Genuine peer (n.packetFor peer record) :=
    ⟨rfl, hn.key, rfl, hgrow.localSessionID_eq.symm, rfl, by
      rw [hsubmitted]
      exact recordAt_new hcounter⟩
  constructor
  case remote => rw [hsession]; exact hn.remote
  case key => rw [hsession]; exact hn.key
  case counter =>
    rw [hsession, hsubmitted, List.length_append, List.length_singleton, ← hcounter]
    exact Manager.toNat_succ_packetID hmax
  case queued =>
    rcases hqueue with ⟨hin, -⟩ | ⟨hin, -⟩
    · rw [Sender.Queued, hin, List.pairwise_append]
      refine ⟨hn.queued, List.pairwise_singleton _ _, fun f hf g hg => ?_⟩
      rw [List.mem_singleton.mp hg]
      exact hold f hf
    · rw [Sender.Queued, hin]
      exact hn.queued
  case genuine =>
    intro f hf
    rcases hqueue with ⟨hin, -⟩ | ⟨hin, -⟩
    · rw [hin] at hf
      rcases List.mem_append.mp hf with hf | hf
      · exact (hn.genuine f hf).grow hgrow
      · rw [List.mem_singleton.mp hf]
        exact hnew
    · rw [hin] at hf
      exact (hn.genuine f hf).grow hgrow
  case pending =>
    intro a ha
    rw [hpending] at ha
    exact hgrow.received a (hn.pending a ha)
  case sent =>
    intro raw hraw
    rw [hsent] at hraw
    obtain ⟨p, hp, hspoken⟩ := hn.sent raw hraw
    exact ⟨p, hp, hspoken.grow hgrow⟩
  case refused =>
    intro id hid
    rw [hsent, hsubmitted, List.length_append, List.length_singleton]
    rcases hqueue with ⟨hin, href⟩ | ⟨hin, href⟩
    · rw [href] at hid
      obtain ⟨hpos, hle, hflight, hnever⟩ := hn.refused id hid
      refine ⟨hpos, by omega, fun f hf => ?_, hnever⟩
      rw [hin] at hf
      rcases List.mem_append.mp hf with hf | hf
      · exact hflight f hf
      · rw [List.mem_singleton.mp hf]
        intro heq
        have : id.toNat = n.session.localControlPacketID.toNat := congrArg _ heq.symm
        omega
    · rw [href] at hid
      rw [hin]
      rcases List.mem_append.mp hid with hid | hid
      · obtain ⟨hpos, hle, hflight, hnever⟩ := hn.refused id hid
        exact ⟨hpos, by omega, hflight, hnever⟩
      · rw [List.mem_singleton.mp hid, hcounter]
        refine ⟨by omega, le_rfl, fun f hf heq => ?_, fun raw hraw p hp hop heq => ?_⟩
        · have := hold f hf
          rw [heq] at this
          omega
        · obtain ⟨q, hq, hspoken⟩ := hn.sent raw hraw
          obtain rfl := Except.ok.inj (hp.symm.trans hq)
          rcases hspoken.record with ⟨-, hrecord⟩ | ⟨hack, -⟩
          · have := (recordAt_bounds hrecord).2
            rw [heq] at this
            omega
          · exact absurd (hop.symm.trans hack) (by decide)

end Submit

section Tick
variable {peer : SessionID} {n m : Node} {now : Time}

/-- A genuine packet with acknowledgements is read by the peer as one that it may expect. -/
theorem spoken_of_genuine {p : Packet} (hp : n.Genuine peer p)
    (hlen : p.acks.length ≤ maxACKsPerOutgoingPacket) (hacks : ∀ a ∈ p.acks, a ∈ n.receivedIDs) :
    ∃ raw q, p.bytes = .ok raw ∧ parsePacket raw = .ok q ∧ n.Spoken peer q ∧ q.id = p.id := by
  have hop := hp.opcode_eq
  obtain ⟨raw, hraw, hparse⟩ := parsePacket_bytes (p := p) (by rw [hop]; decide)
    (by rw [hp.keyID_eq]; decide) hp.peerID_eq (hlen.trans (by decide))
    fun hack => absurd (hop.symm.trans hack) (by decide)
  refine ⟨raw, _, hraw, hparse, ⟨hp.localSessionID_eq, fun hne => ?_, hacks,
    .inl ⟨hop, hp.record⟩⟩, rfl⟩
  exact (if_neg hne).trans hp.remoteSessionID_eq

theorem spoken_of_ack {p : Packet} (hn : n.Orderly peer)
    (hp : n.session.newACKForPacketIDs p.acks = .ok p)
    (hlen : p.acks.length ≤ maxACKsPerOutgoingPacket) (hacks : ∀ a ∈ p.acks, a ∈ n.receivedIDs) :
    ∃ raw q, p.bytes = .ok raw ∧ parsePacket raw = .ok q ∧ n.Spoken peer q ∧
      q.opcode = .ackV1 := by
  unfold Manager.newACKForPacketIDs at hp
  rw [hn.remote] at hp
  have heq := (Except.ok.inj hp).symm
  have hop : p.opcode = .ackV1 := by rw [heq]
  have hkey : p.keyID = n.session.keyID := by rw [heq]
  have hid : p.id = 0 := by rw [heq]
  have hpeer : p.peerID = zeroArray 3 := by rw [heq]
  have hlocal : p.localSessionID = n.session.localSessionID := by rw [heq]
  have hremote : p.remoteSessionID = peer := by rw [heq]
  have hpayload : p.payload = [] := by rw [heq]
  obtain ⟨raw, hraw, hparse⟩ := parsePacket_bytes (p := p) (by rw [hop]; decide)
    (by rw [hkey, hn.key]; decide) hpeer (hlen.trans (by decide)) fun _ => hid
  refine ⟨raw, _, hraw, hparse, ⟨hlocal, fun hne => ?_, hacks, .inr ⟨hop, hpayload⟩⟩, hop⟩
  exact (if_neg hne).trans hremote

theorem grows_of_eq (hsession : m.session = n.session) (hsubmitted : m.submitted = n.submitted)
    (hreceived : ∀ x ∈ n.received, x ∈ m.received) : Grows n m := by
  refine ⟨by rw [hsession], fun id record h => by rw [hsubmitted]; exact h, fun id hid => ?_⟩
  obtain ⟨x, hx, rfl⟩ := List.mem_map.mp hid
  exact List.mem_map.mpr ⟨x, hreceived x hx, rfl⟩

theorem id_eq_of_withoutACKs {p q : Packet} (h : p.withoutACKs = q.withoutACKs) :
    p.id = q.id := by
  have hid := congrArg Packet.id h
  exact hid

theorem queued_iff {s : Sender} : s.Queued ↔
    (s.inFlight.map (·.packet.withoutACKs)).Pairwise fun a b => a.id.toNat < b.id.toNat := by
  rw [List.pairwise_map]
  rfl

/-- A step that submits nothing keeps the invariant if the queue gets no new packet and what is
written is an acknowledgement or comes from the queue. -/
theorem Orderly.transfer (hn : n.Orderly peer) (hgrow : Grows n m)
    (hsession : m.session = n.session) (hsubmitted : m.submitted = n.submitted)
    (hrefused : m.refused = n.refused) (hqueued : m.sender.Queued)
    (hflight : ∀ f ∈ m.sender.inFlight, ∃ g ∈ n.sender.inFlight,
      f.packet.withoutACKs = g.packet.withoutACKs)
    (hpending : ∀ a ∈ m.sender.pendingACKsToSend.ids, a ∈ m.receivedIDs)
    (hsent : ∀ raw ∈ m.sent, raw ∈ n.sent ∨ ∃ q, parsePacket raw = .ok q ∧ n.Spoken peer q ∧
      (q.opcode = .ackV1 ∨ ∃ g ∈ n.sender.inFlight, q.id = g.packet.id)) : m.Orderly peer := by
  constructor
  case remote => rw [hsession]; exact hn.remote
  case key => rw [hsession]; exact hn.key
  case counter => rw [hsession, hsubmitted]; exact hn.counter
  case queued => exact hqueued
  case genuine =>
    intro f hf
    obtain ⟨g, hg, heq⟩ := hflight f hf
    exact ((hn.genuine g hg).of_withoutACKs heq).grow hgrow
  case pending => exact hpending
  case sent =>
    intro raw hraw
    rcases hsent raw hraw with hraw | ⟨q, hq, hspoken, -⟩
    · obtain ⟨p, hp, hspoken⟩ := hn.sent raw hraw
      exact ⟨p, hp, hspoken.grow hgrow⟩
    · exact ⟨q, hq, hspoken.grow hgrow⟩
  case refused =>
    intro id hid
    rw [hrefused] at hid
    obtain ⟨hpos, hle, hnot, hnever⟩ := hn.refused id hid
    refine ⟨hpos, hsubmitted ▸ hle, fun f hf heq => ?_, fun raw hraw p hp hop heq => ?_⟩
    · obtain ⟨g, hg, hfg⟩ := hflight f hf
      exact hnot g hg ((id_eq_of_withoutACKs hfg).symm.trans heq)
    · rcases hsent raw hraw with hraw | ⟨q, hq, -, hfrom⟩
      · exact hnever raw hraw p hp hop heq
      · obtain rfl := Except.ok.inj (hp.symm.trans hq)
        rcases hfrom with hack | ⟨g, hg, hpg⟩
        · exact absurd (hop.symm.trans hack) (by decide)
        · exact hnot g hg (hpg.symm.trans heq)

theorem tick_cases (h : n.tick now = some m) :
    ∃ packets, n.sender.blockOnTryingToSend n.session now = some (m.sender, packets) ∧
      m = { n with
        sender := m.sender
        sent := n.sent ++ packets.filterMap fun p => p.bytes.toOption } := by
  unfold tick at h
  split at h
  · cases h
  · rename_i sender packets hsend
    obtain rfl := Option.some.inj h
    exact ⟨packets, hsend, rfl⟩

theorem tick_orderly (hn : n.Orderly peer) (h : n.tick now = some m) : m.Orderly peer := by
  obtain ⟨packets, hsend, hm⟩ := tick_cases h
  obtain ⟨hqueue, hpending, hpackets⟩ := blockOnTryingToSend_spec hsend
  have hreceived : m.received = n.received := by rw [hm]
  have hsent : m.sent = n.sent ++ packets.filterMap fun p => p.bytes.toOption := by rw [hm]
  have hgrow : Grows n m :=
    grows_of_eq (by rw [hm]) (by rw [hm]) (by rw [hreceived]; exact fun _ => id)
  -- the queue has the packets that it had
  have hflight : ∀ f ∈ m.sender.inFlight, ∃ g ∈ n.sender.inFlight,
      f.packet.withoutACKs = g.packet.withoutACKs := fun f hf => by
    have hmem : f.packet.withoutACKs ∈ n.sender.inFlight.map (·.packet.withoutACKs) :=
      hqueue ▸ List.mem_map.mpr ⟨f, hf, rfl⟩
    obtain ⟨g, hg, heq⟩ := List.mem_map.mp hmem
    exact ⟨g, hg, heq.symm⟩
  -- what is written now is read as an acknowledgement or as a packet of the queue
  have hnew : ∀ raw ∈ packets.filterMap (fun p => p.bytes.toOption), ∃ q,
      parsePacket raw = .ok q ∧ n.Spoken peer q ∧
        (q.opcode = .ackV1 ∨ ∃ g ∈ n.sender.inFlight, q.id = g.packet.id) := by
    intro raw hraw
    obtain ⟨p, hp, hbytes⟩ := List.mem_filterMap.mp hraw
    obtain ⟨hlen, hacks, hfrom⟩ := hpackets p hp
    have hacks' : ∀ a ∈ p.acks, a ∈ n.receivedIDs := fun a ha => hn.pending a (hacks a ha)
    rcases hfrom with ⟨g, hg, heq⟩ | hack
    · obtain ⟨raw', q, hraw', hq, hspoken, hid⟩ :=
        spoken_of_genuine ((hn.genuine g hg).of_withoutACKs heq) hlen hacks'
      rw [hraw'] at hbytes
      obtain rfl := Option.some.inj hbytes
      exact ⟨q, hq, hspoken, .inr ⟨g, hg, hid.trans (id_eq_of_withoutACKs heq)⟩⟩
    · obtain ⟨raw', q, hraw', hq, hspoken, hop⟩ := spoken_of_ack hn hack hlen hacks'
      rw [hraw'] at hbytes
      obtain rfl := Option.some.inj hbytes
      exact ⟨q, hq, hspoken, .inl hop⟩
  refine hn.transfer hgrow (by rw [hm]) (by rw [hm]) (by rw [hm])
    (queued_iff.mpr (hqueue ▸ queued_iff.mp hn.queued)) hflight
    (fun a ha => hgrow.received a (hn.pending a (hpending a ha))) fun raw hraw => ?_
  rw [hsent] at hraw
  exact (List.mem_append.mp hraw).imp_right (hnew raw)

end Tick

section Notice
variable {peer : SessionID} {n m : Node} {now : Time} {sorts : Sorts}

theorem notice_cases (h : n.notice sorts now = some m) :
    ∃ seen, n.incomingSeen = seen :: m.incomingSeen ∧
      m = { n with
        sender := n.sender.onIncomingPacketSeen sorts.outgoing seen
        incomingSeen := m.incomingSeen } := by
  unfold notice at h
  split at h
  · cases h
  · rename_i seen rest hseen
    obtain ⟨sender, hsender, rfl⟩ := Option.map_eq_some_iff.mp h
    obtain rfl := handleSeen_eq_some hsender
    exact ⟨seen, hseen, rfl⟩

theorem notice_orderly (hn : n.Orderly peer)
    (hseen : ∀ s ∈ n.incomingSeen, (∀ id, s.id = some id → id ∈ n.receivedIDs) ∧
      ∃ acks, s.acks = some acks)
    (h : n.notice sorts now = some m) : m.Orderly peer := by
  obtain ⟨seen, hcons, hm⟩ := notice_cases h
  obtain ⟨hid, acks, hacks⟩ := hseen seen (hcons ▸ List.mem_cons_self)
  obtain ⟨hqueued, hpackets, hpending⟩ := onIncomingPacketSeen_spec sorts.outgoing hacks hn.queued
  have hsender : m.sender = n.sender.onIncomingPacketSeen sorts.outgoing seen := by rw [hm]
  have hreceived : m.received = n.received := by rw [hm]
  have hsent : m.sent = n.sent := by rw [hm]
  have hgrow : Grows n m :=
    grows_of_eq (by rw [hm]) (by rw [hm]) (by rw [hreceived]; exact fun _ => id)
  rw [← hsender] at hqueued hpackets hpending
  refine hn.transfer hgrow (by rw [hm]) (by rw [hm]) (by rw [hm]) hqueued (fun f hf => ?_)
    (fun a ha => ?_) fun raw hraw => .inl (hsent ▸ hraw)
  · have hmem : f.packet ∈ m.sender.inFlight.map InFlightPacket.packet :=
      List.mem_map.mpr ⟨f, hf, rfl⟩
    rw [hpackets] at hmem
    obtain ⟨g, hg, heq⟩ := List.mem_map.mp (List.mem_filter.mp hmem).1
    exact ⟨g, hg, by rw [heq]⟩
  · rw [hpending] at ha
    rcases ACKSet.mem_maybeAdd ha with ha | ha
    · exact hgrow.received a (hn.pending a ha)
    · exact hgrow.received a (hid a ha)

end Notice

section Arrive
variable {peer : SessionID} {n m : Node} {sorts : Sorts} {raw : List UInt8}

theorem arrive_cases (h : n.arrive sorts raw = some m) :
    m = n ∨ ∃ p, parsePacket raw = .ok p ∧ p.opcode.isReliable = true ∧
      m = { n with
        receiver := (moveUpPacket sorts.incoming n.session n.receiver p).receiver
        incomingSeen := n.incomingSeen ++ (moveUpPacket sorts.incoming n.session n.receiver p).seen
        received := n.received ++
          ((moveUpPacket sorts.incoming n.session n.receiver p).seen.filterMap
            fun s => s.id).map fun id => (id, p.payload)
        delivered := n.delivered ++
          (moveUpPacket sorts.incoming n.session n.receiver p).delivered } := by
  unfold arrive at h
  split at h
  · exact .inl (Option.some.inj h).symm
  · rename_i p hp
    dsimp only at h
    split_ifs at h with hdata
    · exact .inl (Option.some.inj h).symm
    · exact .inr ⟨p, hp, by simpa using hdata, (Option.some.inj h).symm⟩

theorem arrive_orderly (hn : n.Orderly peer) (h : n.arrive sorts raw = some m) :
    m.Orderly peer ∧ Grows n m := by
  rcases arrive_cases h with rfl | ⟨p, -, -, hm⟩
  · exact ⟨hn, grows_of_eq rfl rfl fun _ hx => hx⟩
  have hgrow : Grows n m := grows_of_eq (by rw [hm]) (by rw [hm]) (by
    rw [hm]
    exact fun x hx => List.mem_append_left _ hx)
  have hsender : m.sender = n.sender := by rw [hm]
  have hsent : m.sent = n.sent := by rw [hm]
  refine ⟨hn.transfer hgrow (by rw [hm]) (by rw [hm]) (by rw [hm]) (hsender ▸ hn.queued)
    (fun f hf => ⟨f, hsender ▸ hf, rfl⟩) (fun a ha => ?_) fun raw hraw => .inl (hsent ▸ hraw),
    hgrow⟩
  rw [hsender] at ha
  exact hgrow.received a (hn.pending a ha)

end Arrive

end Node

end ResidentialIPManager.MiniVPN
