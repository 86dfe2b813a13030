import ResidentialIPManager.MiniVPN.Node
import ResidentialIPManager.Transition.Calls

/-! # An end and its peer

The peer is known by two things only: the records that it has put on the control channel, and
what it has heard. The network may lose, repeat and reorder datagrams and bring those of other
sessions. A datagram of the peer's session keeps the peer's side of the protocol: it carries
the record that its ID stands for, and acknowledges what was heard.
-/
namespace ResidentialIPManager.MiniVPN
open Domain Sorting Transition InFlightPacket

/-- An end, with the records that the peer has put on the channel and what the peer has
heard. -/
structure World where
  node : Node
  stream : List (List UInt8) := []
  heard : List (PacketID × List UInt8) := []

/-- A step of the end, a new record of the peer, or a datagram that reaches the peer. -/
inductive Event where
  | own (action : Action)
  | extend (record : List UInt8)
  | hear (raw : List UInt8)

def hears (raw : List UInt8) : List (PacketID × List UInt8) :=
  match parsePacket raw with
  | .error _ => []
  | .ok p => if p.opcode = .ackV1 then [] else [(p.id, p.payload)]

namespace World

def step (sorts : Sorts) (w : World) : Event → Option World
  | .own action => (w.node.step sorts action).map fun node => { w with node }
  | .extend record => some { w with stream := w.stream ++ [record] }
  | .hear raw => some { w with heard := w.heard ++ hears raw }

/-- The peer's side of the protocol. Packets of other sessions are not restricted. -/
def mayBring (w : World) (p : Packet) : Prop :=
  w.node.session.remoteSessionID = some p.localSessionID →
    (p.opcode = .controlV1 → recordAt w.stream p.id = some p.payload) ∧
      ∀ a ∈ p.acks, a ∈ w.heard.map Prod.fst

instance (w : World) (p : Packet) : Decidable (w.mayBring p) :=
  -- over the list: there is also the instance that tries all numbers
  letI : Decidable (∀ a ∈ p.acks, a ∈ w.heard.map Prod.fst) := List.decidableBAll _ _
  inferInstanceAs (Decidable (_ → _ ∧ _))

def mayArrive (w : World) : Except ParseError Packet → Prop
  | .error _ => True
  | .ok p => w.mayBring p

instance (w : World) : ∀ parsed, Decidable (w.mayArrive parsed)
  | .error _ => inferInstanceAs (Decidable True)
  | .ok p => inferInstanceAs (Decidable (w.mayBring p))

/-- The steps in which the peer keeps the protocol and hears only what was written. -/
def fair (w : World) : Event → Prop
  | .own (.arrive raw) => w.mayArrive (parsePacket raw)
  | .own _ => True
  | .extend _ => True
  | .hear raw => raw ∈ w.node.sent

instance (w : World) : ∀ event, Decidable (w.fair event)
  | .own (.arrive raw) => inferInstanceAs (Decidable (w.mayArrive (parsePacket raw)))
  | .own (.submit _) => inferInstanceAs (Decidable True)
  | .own (.tick _) => inferInstanceAs (Decidable True)
  | .own (.notice _) => inferInstanceAs (Decidable True)
  | .extend _ => inferInstanceAs (Decidable True)
  | .hear raw => inferInstanceAs (Decidable (raw ∈ w.node.sent))

def start (localSessionID peer : SessionID) : World := { node := .start localSessionID peer }

structure Coherent (peer : SessionID) (w : World) : Prop where
  orderly : w.node.Orderly peer
  seen : ∀ s ∈ w.node.incomingSeen, (∀ id, s.id = some id → id ∈ w.node.receivedIDs) ∧
    ∃ acks, s.acks = some acks ∧ ∀ a ∈ acks, a ∈ w.heard.map Prod.fst
  heard : ∀ x ∈ w.heard, recordAt w.node.submitted x.1 = some x.2
  accounted : ∀ id record, recordAt w.node.submitted id = some record → id ∈ w.node.refused ∨
    (∃ f ∈ w.node.sender.inFlight, f.packet.id = id) ∨ id ∈ w.heard.map Prod.fst
  unheard : ∀ id ∈ w.node.refused, id ∉ w.heard.map Prod.fst
  records : ∀ p ∈ w.node.delivered ++ w.node.receiver.incomingPackets,
    recordAt w.stream p.id = some p.payload ∧ p.id ∈ w.node.receivedIDs
  sequence : w.node.delivered.map Packet.id = idsAfter 0 w.node.delivered.length ∧
    w.node.receiver.lastConsumed = UInt32.ofNat w.node.delivered.length

theorem start_coherent (localSessionID peer : SessionID) :
    (start localSessionID peer).Coherent peer where
  orderly := Node.start_orderly localSessionID peer
  seen _ hs := nomatch hs
  heard _ hx := nomatch hx
  accounted id record h := by
    obtain ⟨hpos, hle⟩ := recordAt_bounds h
    exact absurd (hpos.trans_le hle) (by simp [start, Node.start])
  unheard _ hid := nomatch hid
  records _ hp := nomatch hp
  sequence := ⟨rfl, rfl⟩

section Steps
variable {peer : SessionID} {w : World} {m : Node} {sorts : Sorts}

theorem submit_coherent {record : List UInt8} (hw : w.Coherent peer)
    (h : w.node.submit record = some m) : Coherent peer { w with node := m } := by
  have hgrow := Node.grows_submit hw.orderly.remote h
  obtain ⟨-, -, hsubmitted, hreceiver, hseen, -, hreceived, hdelivered, -, hqueue⟩ :=
    Node.submit_cases hw.orderly.remote h
  constructor
  case orderly => exact Node.submit_orderly hw.orderly h
  case seen =>
    intro s hs
    obtain ⟨hid, hacks⟩ := hw.seen s (hseen ▸ hs)
    exact ⟨fun id h => hgrow.received id (hid id h), hacks⟩
  case heard => exact fun x hx => hgrow.record _ _ (hw.heard x hx)
  case accounted =>
    intro id r hr
    rw [hsubmitted] at hr
    rcases recordAt_append_cases hr with hr | ⟨hid, -⟩
    · rcases hw.accounted id r hr with hold | ⟨f, hf, hfid⟩ | hheard
      · rcases hqueue with ⟨-, href⟩ | ⟨-, href⟩
        · exact .inl (href ▸ hold)
        · exact .inl (href ▸ List.mem_append_left _ hold)
      · rcases hqueue with ⟨hin, -⟩ | ⟨hin, -⟩
        · exact .inr (.inl ⟨f, hin ▸ List.mem_append_left _ hf, hfid⟩)
        · exact .inr (.inl ⟨f, hin ▸ hf, hfid⟩)
      · exact .inr (.inr hheard)
    · -- the new record has the ID that the counter had
      have hcounter : id = w.node.session.localControlPacketID :=
        UInt32.toNat_inj.mp (hid.trans hw.orderly.counter.symm)
      rcases hqueue with ⟨hin, -⟩ | ⟨-, href⟩
      · exact .inr (.inl ⟨_, hin ▸ List.mem_append_right _ (List.mem_singleton_self _),
          hcounter.symm⟩)
      · exact .inl (href ▸ List.mem_append_right _ (List.mem_singleton.mpr hcounter))
  case unheard =>
    intro id hid hheard
    rcases hqueue with ⟨-, href⟩ | ⟨-, href⟩
    · exact hw.unheard id (href ▸ hid) hheard
    · rw [href] at hid
      rcases List.mem_append.mp hid with hid | hid
      · exact hw.unheard id hid hheard
      · -- the peer has heard only of older records
        obtain ⟨x, hx, rfl⟩ := List.mem_map.mp hheard
        have hle := (recordAt_bounds (hw.heard x hx)).2
        rw [List.mem_singleton.mp hid, hw.orderly.counter] at hle
        omega
  case records =>
    intro p hp
    have hp' : p ∈ w.node.delivered ++ w.node.receiver.incomingPackets := by
      rw [← hdelivered, ← hreceiver]
      exact hp
    obtain ⟨hrecord, hid⟩ := hw.records p hp'
    exact ⟨hrecord, hgrow.received _ hid⟩
  case sequence =>
    simp only [hdelivered, hreceiver]
    exact hw.sequence

theorem tick_coherent {now : Time} (hw : w.Coherent peer) (h : w.node.tick now = some m) :
    Coherent peer { w with node := m } := by
  obtain ⟨packets, hsend, hm⟩ := Node.tick_cases h
  obtain ⟨hqueue, -, -⟩ := blockOnTryingToSend_spec hsend
  have hreceived : m.received = w.node.received := by rw [hm]
  have hids : m.receivedIDs = w.node.receivedIDs := by rw [Node.receivedIDs, hreceived]; rfl
  constructor
  case orderly => exact Node.tick_orderly hw.orderly h
  case seen =>
    intro s hs
    have hseen : m.incomingSeen = w.node.incomingSeen := by rw [hm]
    obtain ⟨hid, hacks⟩ := hw.seen s (hseen ▸ hs)
    exact ⟨fun id h => hids ▸ hid id h, hacks⟩
  case heard =>
    have hsubmitted : m.submitted = w.node.submitted := by rw [hm]
    intro x hx
    rw [hsubmitted]
    exact hw.heard x hx
  case accounted =>
    intro id r hr
    have hsubmitted : m.submitted = w.node.submitted := by rw [hm]
    have hrefused : m.refused = w.node.refused := by rw [hm]
    rw [hsubmitted] at hr
    rw [hrefused]
    refine (hw.accounted id r hr).imp_right (Or.imp_left ?_)
    rintro ⟨f, hf, hfid⟩
    have hmem : f.packet.withoutACKs ∈ m.sender.inFlight.map (·.packet.withoutACKs) :=
      hqueue ▸ List.mem_map.mpr ⟨f, hf, rfl⟩
    obtain ⟨g, hg, heq⟩ := List.mem_map.mp hmem
    exact ⟨g, hg, (Node.id_eq_of_withoutACKs heq).trans hfid⟩
  case unheard => rw [hm]; exact hw.unheard
  case records => rw [hm]; exact hw.records
  case sequence => rw [hm]; exact hw.sequence

theorem notice_coherent {now : Time} (hw : w.Coherent peer)
    (h : w.node.notice sorts now = some m) : Coherent peer { w with node := m } := by
  obtain ⟨seen, hcons, hm⟩ := Node.notice_cases h
  obtain ⟨-, acks, hacks, hheard⟩ := hw.seen seen (hcons ▸ List.mem_cons_self)
  obtain ⟨-, hpackets, -⟩ :=
    onIncomingPacketSeen_spec sorts.outgoing hacks hw.orderly.queued
  have hsender : m.sender = w.node.sender.onIncomingPacketSeen sorts.outgoing seen := by rw [hm]
  have hreceived : m.received = w.node.received := by rw [hm]
  have hids : m.receivedIDs = w.node.receivedIDs := by rw [Node.receivedIDs, hreceived]; rfl
  rw [← hsender] at hpackets
  constructor
  case orderly =>
    refine Node.notice_orderly hw.orderly (fun s hs => ?_) h
    obtain ⟨hid, acks, hacks, -⟩ := hw.seen s hs
    exact ⟨hid, acks, hacks⟩
  case seen =>
    intro s hs
    obtain ⟨hid, hacks⟩ := hw.seen s (hcons ▸ List.mem_cons_of_mem seen hs)
    exact ⟨fun id h => hids ▸ hid id h, hacks⟩
  case heard =>
    have hsubmitted : m.submitted = w.node.submitted := by rw [hm]
    intro x hx
    rw [hsubmitted]
    exact hw.heard x hx
  case accounted =>
    intro id r hr
    have hsubmitted : m.submitted = w.node.submitted := by rw [hm]
    have hrefused : m.refused = w.node.refused := by rw [hm]
    rw [hsubmitted] at hr
    rw [hrefused]
    rcases hw.accounted id r hr with hold | ⟨f, hf, hfid⟩ | hold
    · exact .inl hold
    · -- a packet leaves the queue only if the peer has heard it
      by_cases hack : id ∈ acks
      · exact .inr (.inr (hheard id hack))
      · have hmem : f.packet ∈ m.sender.inFlight.map InFlightPacket.packet := by
          rw [hpackets]
          refine List.mem_filter.mpr ⟨List.mem_map.mpr ⟨f, hf, rfl⟩, ?_⟩
          simpa [hfid] using hack
        obtain ⟨g, hg, heq⟩ := List.mem_map.mp hmem
        exact .inr (.inl ⟨g, hg, heq ▸ hfid⟩)
    · exact .inr (.inr hold)
  case unheard => rw [hm]; exact hw.unheard
  case records => rw [hm]; exact hw.records
  case sequence => rw [hm]; exact hw.sequence

theorem arrive_coherent {raw : List UInt8} (hw : w.Coherent peer)
    (hfair : w.mayArrive (parsePacket raw)) (h : w.node.arrive sorts raw = some m) :
    Coherent peer { w with node := m } := by
  obtain ⟨horderly, hgrow⟩ := Node.arrive_orderly hw.orderly h
  rcases Node.arrive_cases h with rfl | ⟨p, hp, -, hm⟩
  · exact hw
  rw [hp] at hfair
  -- a packet that passes the checks is the peer's
  have hpeer : incomingSanityChecks w.node.session p = true →
      (p.opcode = .controlV1 → recordAt w.stream p.id = some p.payload) ∧
        ∀ a ∈ p.acks, a ∈ w.heard.map Prod.fst := by
    intro hcheck
    refine hfair ?_
    by_contra hne
    simp [incomingSanityChecks, hne] at hcheck
  have hsubmitted : m.submitted = w.node.submitted := by rw [hm]
  have hrefused : m.refused = w.node.refused := by rw [hm]
  have hsender : m.sender = w.node.sender := by rw [hm]
  constructor
  case orderly => exact horderly
  case seen =>
    intro s hs
    have hseen : m.incomingSeen = w.node.incomingSeen ++
        (moveUpPacket sorts.incoming w.node.session w.node.receiver p).seen := by rw [hm]
    rw [hseen] at hs
    rcases List.mem_append.mp hs with hold | hnew
    · obtain ⟨hid, hacks⟩ := hw.seen s hold
      exact ⟨fun id h => hgrow.received id (hid id h), hacks⟩
    · refine ⟨fun id hid => ?_, ?_⟩
      · rw [hm, Node.receivedIDs, List.map_append]
        refine List.mem_append_right _ (List.mem_map.mpr ⟨(id, p.payload), ?_, rfl⟩)
        exact List.mem_map.mpr ⟨id, List.mem_filterMap.mpr ⟨s, hnew, hid⟩, rfl⟩
      · rw [moveUpPacket_seen] at hnew
        obtain ⟨q, hq, rfl⟩ := List.mem_map.mp hnew
        obtain ⟨hqp, hcheck⟩ := List.mem_filter.mp hq
        rw [List.mem_singleton.mp hqp] at hcheck ⊢
        refine ⟨p.acks, ?_, (hpeer hcheck).2⟩
        unfold Receiver.newIncomingPacketSeen
        split_ifs <;> rfl
  case heard =>
    intro x hx
    rw [hsubmitted]
    exact hw.heard x hx
  case accounted =>
    intro id r hr
    rw [hsubmitted] at hr
    rw [hrefused, hsender]
    exact hw.accounted id r hr
  case unheard => rw [hrefused]; exact hw.unheard
  case records =>
    intro q hq
    have hfrom := (moveUpPacket_subperm sorts.incoming w.node.session w.node.receiver p).subset
    have hq' : q ∈ w.node.delivered ∨
        q ∈ (moveUpPacket sorts.incoming w.node.session w.node.receiver p).delivered ++
          (moveUpPacket sorts.incoming w.node.session w.node.receiver p).receiver.incomingPackets := by
      rw [hm, List.append_assoc] at hq
      exact List.mem_append.mp hq
    have hold : q ∈ w.node.delivered ++ w.node.receiver.incomingPackets →
        recordAt w.stream q.id = some q.payload ∧ q.id ∈ m.receivedIDs := fun hq => by
      obtain ⟨hrecord, hid⟩ := hw.records q hq
      exact ⟨hrecord, hgrow.received _ hid⟩
    rcases hq' with hq' | hq'
    · exact hold (List.mem_append_left _ hq')
    · rcases List.mem_append.mp (hfrom hq') with hbuffer | hnew
      · exact hold (List.mem_append_right _ hbuffer)
      · obtain ⟨hqp, hfor⟩ := List.mem_filter.mp hnew
        rw [List.mem_singleton.mp hqp] at hfor ⊢
        obtain ⟨hcheck, hop⟩ := forControl_iff.mp hfor
        refine ⟨(hpeer hcheck).1 hop, ?_⟩
        have hseen : (moveUpPacket sorts.incoming w.node.session w.node.receiver p).seen =
            [⟨some p.id, some p.acks⟩] := by
          rw [moveUpPacket_seen, List.filter_cons_of_pos hcheck]
          simp [Receiver.newIncomingPacketSeen, hop, Opcode.controlV1, Opcode.ackV1]
        rw [hm, Node.receivedIDs, hseen]
        simp
  case sequence =>
    obtain ⟨hids, hlast⟩ := moveUpPacket_ids sorts.incoming w.node.session w.node.receiver p
    obtain ⟨hold, holdLast⟩ := hw.sequence
    rw [hm]
    simp only [List.map_append, List.length_append, idsAfter_add, UInt32.ofNat_add]
    rw [hold, hids, hlast, holdLast, UInt32.zero_add]
    exact ⟨rfl, rfl⟩

theorem extend_coherent {record : List UInt8} (hw : w.Coherent peer) :
    Coherent peer { w with stream := w.stream ++ [record] } :=
  { hw with records := fun p hp => (hw.records p hp).imp_left recordAt_append }

theorem hear_coherent {raw : List UInt8} (hw : w.Coherent peer) (hraw : raw ∈ w.node.sent) :
    Coherent peer { w with heard := w.heard ++ hears raw } where
  orderly := hw.orderly
  seen s hs := by
    obtain ⟨hid, acks, hacks, hheard⟩ := hw.seen s hs
    refine ⟨hid, acks, hacks, fun a ha => ?_⟩
    rw [List.map_append]
    exact List.mem_append_left _ (hheard a ha)
  heard x hx := by
    rcases List.mem_append.mp hx with hx | hx
    · exact hw.heard x hx
    · obtain ⟨p, hp, hspoken⟩ := hw.orderly.sent raw hraw
      simp only [hears, hp] at hx
      split_ifs at hx with hack
      · cases hx
      · obtain rfl := List.mem_singleton.mp hx
        rcases hspoken.record with ⟨-, hrecord⟩ | ⟨hop, -⟩
        · exact hrecord
        · exact absurd hop hack
  accounted id r hr := by
    refine (hw.accounted id r hr).imp_right (Or.imp_right fun hheard => ?_)
    rw [List.map_append]
    exact List.mem_append_left _ hheard
  unheard id hid hheard := by
    rw [List.map_append] at hheard
    rcases List.mem_append.mp hheard with hheard | hheard
    · exact hw.unheard id hid hheard
    · obtain ⟨p, hp, hspoken⟩ := hw.orderly.sent raw hraw
      simp only [hears, hp] at hheard
      split_ifs at hheard with hack
      · cases hheard
      · obtain rfl : id = p.id := by simpa using hheard
        obtain ⟨-, -, -, hnever⟩ := hw.orderly.refused p.id hid
        rcases hspoken.record with ⟨hop, -⟩ | ⟨hop, -⟩
        · exact hnever raw hraw p hp hop rfl
        · exact hack hop
  records := hw.records
  sequence := hw.sequence

theorem step_coherent {w' : World} {event : Event} (hw : w.Coherent peer) (hfair : w.fair event)
    (h : w.step sorts event = some w') : w'.Coherent peer := by
  cases event with
  | own action =>
    obtain ⟨m, hm, rfl⟩ := Option.map_eq_some_iff.mp h
    cases action with
    | submit record => exact submit_coherent hw hm
    | tick now => exact tick_coherent hw hm
    | notice now => exact notice_coherent hw hm
    | arrive raw => exact arrive_coherent hw hfair hm
  | extend record =>
    obtain rfl := Option.some.inj h
    exact extend_coherent hw
  | hear raw =>
    obtain rfl := Option.some.inj h
    exact hear_coherent hw hfair

theorem reaches_coherent {localSessionID : SessionID}
    (h : Reaches (step sorts) fair (start localSessionID peer) w) : w.Coherent peer :=
  h.invariant (start_coherent localSessionID peer) fun _ _ _ hw hfair hstep =>
    step_coherent hw hfair hstep

end Steps

section Results
variable {sorts : Sorts} {localSessionID peer : SessionID} {w : World}

/-- What the layer above gets is an initial part of the peer's records, in order and each
once, whatever the network loses, repeats, reorders or brings from other sessions. -/
theorem delivered_prefix_stream
    (h : Reaches (step sorts) fair (start localSessionID peer) w) :
    w.node.delivered.map Packet.payload <+: w.stream := by
  have hw := reaches_coherent h
  have hrecords : ∀ p ∈ w.node.delivered, recordAt w.stream p.id = some p.payload :=
    fun p hp => (hw.records p (List.mem_append_left _ hp)).1
  simpa using map_payload_prefix hw.sequence.1 hrecords

end Results

def insertionSorts : Sorts := ⟨.insertion byID, .insertion byPacketID⟩

def ones : SessionID := List.Vector.replicate 8 1

def firstDatagram : List UInt8 := [32, 1, 1, 1, 1, 1, 1, 1, 1, 0, 0, 0, 0, 1, 7]

theorem delivered_prefix_stream_first :
    ∃ w, Reaches (step insertionSorts) fair (start (zeroArray 8) ones) w ∧
      w.node.delivered.length = 1 ∧ w.node.delivered.map Packet.payload <+: w.stream := by
  have hrun : ∃ w, Reaches (step insertionSorts) fair (start (zeroArray 8) ones) w ∧
      w.node.delivered.length = 1 :=
    exists_reaches _ _ [.extend [7], .own (.arrive firstDatagram), .own (.arrive firstDatagram)]
      (by decide +kernel)
  obtain ⟨w, hw, hlen⟩ := hrun
  exact ⟨w, hw, hlen, delivered_prefix_stream hw⟩

section Protocol
variable {sorts : Sorts} {localSessionID peer : SessionID} {w : World}

/-- The end keeps the protocol that it expects of the peer: what it writes can be read, belongs
to its session, carries the record that its ID stands for or nothing, and acknowledges only
what came in. -/
theorem sent_keeps_protocol (h : Reaches (step sorts) fair (start localSessionID peer) w) :
    ∀ raw ∈ w.node.sent, ∃ p, parsePacket raw = .ok p ∧ w.node.Spoken peer p :=
  (reaches_coherent h).orderly.sent

end Protocol

theorem sent_keeps_protocol_ack :
    ∃ w, Reaches (step insertionSorts) fair (start (zeroArray 8) ones) w ∧
      w.node.sent.length = 1 ∧
      ∀ raw ∈ w.node.sent, ∃ p, parsePacket raw = .ok p ∧ w.node.Spoken ones p := by
  have hrun : ∃ w, Reaches (step insertionSorts) fair (start (zeroArray 8) ones) w ∧
      w.node.sent.length = 1 :=
    exists_reaches _ _ [.extend [7], .own (.arrive firstDatagram), .own (.notice 1),
      .own (.submit [5]), .own (.tick 2)] (by decide +kernel)
  obtain ⟨w, hw, hlen⟩ := hrun
  exact ⟨w, hw, hlen, sent_keeps_protocol hw⟩

section Accounted
variable {sorts : Sorts} {localSessionID peer : SessionID} {w : World}

/-- No record gets lost on the way unnoticed: it was refused because the queue was full, it is
in flight, or the peer has heard it as it was submitted. -/
theorem submitted_accounted (h : Reaches (step sorts) fair (start localSessionID peer) w)
    {id : PacketID} {record : List UInt8} (hrecord : recordAt w.node.submitted id = some record) :
    id ∈ w.node.refused ∨
      (∃ f ∈ w.node.sender.inFlight, f.packet.id = id ∧ f.packet.payload = record) ∨
      (id, record) ∈ w.heard := by
  have hw := reaches_coherent h
  rcases hw.accounted id record hrecord with href | ⟨f, hf, rfl⟩ | hheard
  · exact .inl href
  · have hgenuine := (hw.orderly.genuine f hf).record
    rw [hrecord] at hgenuine
    exact .inr (.inl ⟨f, hf, rfl, (Option.some.inj hgenuine).symm⟩)
  · obtain ⟨⟨id', record'⟩, hx, rfl⟩ := List.mem_map.mp hheard
    have hsame := hw.heard _ hx
    rw [hrecord] at hsame
    obtain rfl := Option.some.inj hsame
    exact .inr (.inr hx)

end Accounted

theorem submitted_accounted_first :
    ∃ w, Reaches (step insertionSorts) fair (start (zeroArray 8) ones) w ∧
      recordAt w.node.submitted 1 = some [5] ∧
      (1 ∈ w.node.refused ∨
        (∃ f ∈ w.node.sender.inFlight, f.packet.id = 1 ∧ f.packet.payload = [5]) ∨
        (1, [5]) ∈ w.heard) := by
  have hrun : ∃ w, Reaches (step insertionSorts) fair (start (zeroArray 8) ones) w ∧
      recordAt w.node.submitted 1 = some [5] :=
    exists_reaches _ _ [.own (.submit [5]), .own (.tick 2)] (by decide +kernel)
  obtain ⟨w, hw, hrecord⟩ := hrun
  exact ⟨w, hw, hrecord, submitted_accounted hw hrecord⟩

end World

end ResidentialIPManager.MiniVPN
