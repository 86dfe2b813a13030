import ResidentialIPManager.MiniVPN.Exchange

/-! # Two ends of the control channel

Two ends whose datagrams go to each other. Each is the other's peer: the records of one are
the stream that the other reads, and what one has received is what the other's peer has heard.
Nothing is assumed of either end, since each keeps the protocol that the other expects.
-/
namespace ResidentialIPManager.MiniVPN
open Transition

structure Duplex where
  left : Node
  right : Node

inductive DuplexEvent where
  | left (action : Action)
  | right (action : Action)

def foreign (n : Node) : Except ParseError Packet → Prop
  | .error _ => True
  | .ok p => n.session.remoteSessionID ≠ some p.localSessionID

instance (n : Node) : ∀ parsed, Decidable (foreign n parsed)
  | .error _ => inferInstanceAs (Decidable True)
  | .ok _ => inferInstanceAs (Decidable (_ ≠ _))

namespace Duplex

def step (sorts : Sorts) (d : Duplex) : DuplexEvent → Option Duplex
  | .left action => (d.left.step sorts action).map fun left => { d with left }
  | .right action => (d.right.step sorts action).map fun right => { d with right }

/-- The network brings what the other end has written, as often as it likes and in any order,
and datagrams of other sessions. -/
def mayReach (target source : Node) : Action → Prop
  | .arrive raw => raw ∈ source.sent ∨ foreign target (parsePacket raw)
  | _ => True

instance (target source : Node) : ∀ action, Decidable (mayReach target source action)
  | .arrive _ => inferInstanceAs (Decidable (_ ∨ _))
  | .submit _ => inferInstanceAs (Decidable True)
  | .tick _ => inferInstanceAs (Decidable True)
  | .notice _ => inferInstanceAs (Decidable True)

def network (d : Duplex) : DuplexEvent → Prop
  | .left action => mayReach d.left d.right action
  | .right action => mayReach d.right d.left action

instance (d : Duplex) : ∀ event, Decidable (d.network event)
  | .left action => inferInstanceAs (Decidable (mayReach d.left d.right action))
  | .right action => inferInstanceAs (Decidable (mayReach d.right d.left action))

/-- Both ends know the session of the other. -/
def start (a b : SessionID) : Duplex := ⟨.start a b, .start b a⟩

end Duplex

def worldOf (n other : Node) : World := ⟨n, other.submitted, other.received⟩

section Step
variable {sorts : Sorts} {a b : SessionID} {n other m : Node} {action : Action}

/-- The other end keeps the protocol. -/
theorem mayArrive_of_sent {raw : List UInt8} (hother : other.Orderly a)
    (hreach : raw ∈ other.sent ∨ foreign n (parsePacket raw)) :
    (worldOf n other).mayArrive (parsePacket raw) := by
  rcases hreach with hsent | hforeign
  · obtain ⟨p, hp, hspoken⟩ := hother.sent raw hsent
    rw [hp]
    refine fun _ => ⟨fun hop => ?_, hspoken.acks_received⟩
    rcases hspoken.record with ⟨-, hrecord⟩ | ⟨hack, -⟩
    · exact hrecord
    · exact absurd (hop.symm.trans hack) (by decide)
  · cases hparsed : parsePacket raw with
    | error err => trivial
    | ok p =>
      rw [hparsed] at hforeign
      exact fun heq => absurd heq hforeign

/-- What an end notes of a datagram is what its peer's world calls heard, or nothing. -/
theorem arrive_received {raw : List UInt8} (h : n.arrive sorts raw = some m) :
    m.received = n.received ∨
      m.received = n.received ++ hears raw ∧ ¬ foreign n (parsePacket raw) := by
  rcases Node.arrive_cases h with rfl | ⟨p, hp, -, hm⟩
  · exact .inl rfl
  have hreceived : m.received = n.received ++
      ((moveUpPacket sorts.incoming n.session n.receiver p).seen.filterMap
        fun s => s.id).map fun id => (id, p.payload) := by rw [hm]
  rw [hreceived, moveUpPacket_seen, hp]
  by_cases hcheck : incomingSanityChecks n.session p = true
  · refine .inr ⟨?_, fun hforeign => ?_⟩
    · by_cases hack : p.opcode = .ackV1 <;>
        simp [hcheck, hears, hp, Receiver.newIncomingPacketSeen, hack]
    · have hne : n.session.remoteSessionID ≠ some p.localSessionID := hforeign
      simp [incomingSanityChecks, hne] at hcheck
  · rw [List.filter_cons_of_neg hcheck]
    exact .inl (List.append_nil _)

/-- A step of one end, seen by both. -/
theorem step_both (hn : (worldOf n other).Coherent b) (hother : (worldOf other n).Coherent a)
    (hreach : Duplex.mayReach n other action) (h : n.step sorts action = some m) :
    (worldOf m other).Coherent b ∧ (worldOf other m).Coherent a := by
  cases action with
  | submit record =>
    refine ⟨World.submit_coherent hn h, ?_⟩
    obtain ⟨-, -, hsubmitted, -, -, -, hreceived, -⟩ := Node.submit_cases hn.orderly.remote h
    have hworld : worldOf other m =
        { worldOf other n with stream := (worldOf other n).stream ++ [record] } := by
      simp only [worldOf, hsubmitted, hreceived]
    exact hworld ▸ World.extend_coherent hother
  | tick now =>
    refine ⟨World.tick_coherent hn h, ?_⟩
    obtain ⟨packets, -, hm⟩ := Node.tick_cases h
    have hworld : worldOf other m = worldOf other n := by rw [hm]; rfl
    exact hworld ▸ hother
  | notice now =>
    refine ⟨World.notice_coherent hn h, ?_⟩
    obtain ⟨seen, -, hm⟩ := Node.notice_cases h
    have hworld : worldOf other m = worldOf other n := by rw [hm]; rfl
    exact hworld ▸ hother
  | arrive raw =>
    refine ⟨World.arrive_coherent hn (mayArrive_of_sent hother.orderly hreach) h, ?_⟩
    have hsubmitted : m.submitted = n.submitted := by
      rcases Node.arrive_cases h with rfl | ⟨p, -, -, hm⟩
      · rfl
      · rw [hm]
    rcases arrive_received h with hsame | ⟨hmore, hours⟩
    · have hworld : worldOf other m = worldOf other n := by
        simp only [worldOf, hsubmitted, hsame]
      exact hworld ▸ hother
    · have hworld : worldOf other m =
          { worldOf other n with heard := (worldOf other n).heard ++ hears raw } := by
        simp only [worldOf, hsubmitted, hmore]
      exact hworld ▸ World.hear_coherent hother (hreach.resolve_right hours)

end Step

namespace Duplex

section Results
variable {sorts : Sorts} {a b : SessionID} {d : Duplex}

theorem reaches_both (h : Reaches (step sorts) network (start a b) d) :
    (worldOf d.left d.right).Coherent b ∧ (worldOf d.right d.left).Coherent a := by
  induction h with
  | refl => exact ⟨World.start_coherent a b, World.start_coherent b a⟩
  | @tail d d' event _ hnetwork hstep ih =>
    obtain ⟨hleft, hright⟩ := ih
    cases event with
    | left action =>
      obtain ⟨m, hm, rfl⟩ := Option.map_eq_some_iff.mp hstep
      exact step_both hleft hright hnetwork hm
    | right action =>
      obtain ⟨m, hm, rfl⟩ := Option.map_eq_some_iff.mp hstep
      exact (step_both hright hleft hnetwork hm).symm

/-- Each end gets an initial part of the records of the other, in order and each once. -/
theorem delivered_prefix_submitted (h : Reaches (step sorts) network (start a b) d) :
    d.right.delivered.map Packet.payload <+: d.left.submitted ∧
      d.left.delivered.map Packet.payload <+: d.right.submitted := by
  have hinitial : ∀ {n other : Node} {peer : SessionID}, (worldOf n other).Coherent peer →
      n.delivered.map Packet.payload <+: other.submitted := by
    intro n other peer hn
    have hrecords : ∀ p ∈ n.delivered, recordAt other.submitted p.id = some p.payload :=
      fun p hp => (hn.records p (List.mem_append_left _ hp)).1
    have hids : n.delivered.map Packet.id = idsAfter 0 n.delivered.length := hn.sequence.1
    simpa using map_payload_prefix hids hrecords
  obtain ⟨hleft, hright⟩ := reaches_both h
  exact ⟨hinitial hright, hinitial hleft⟩

end Results

theorem delivered_prefix_submitted_two :
    ∃ d, Reaches (step World.insertionSorts) network (start (zeroArray 8) World.ones) d ∧
      d.right.delivered.length = 2 ∧
      d.right.delivered.map Packet.payload <+: d.left.submitted ∧
      d.left.delivered.map Packet.payload <+: d.right.submitted := by
  have hrun : ∃ d, Reaches (step World.insertionSorts) network
      (start (zeroArray 8) World.ones) d ∧ d.right.delivered.length = 2 :=
    -- the second packet overtakes the first
    exists_reaches _ _ [.left (.submit [5]), .left (.submit [6]), .left (.tick 1),
      .right (.arrive [32, 0, 0, 0, 0, 0, 0, 0, 0, 0, 0, 0, 0, 2, 6]),
      .right (.arrive [32, 0, 0, 0, 0, 0, 0, 0, 0, 0, 0, 0, 0, 1, 5])] (by decide +kernel)
  obtain ⟨d, hd, hlen⟩ := hrun
  exact ⟨d, hd, hlen, delivered_prefix_submitted hd⟩

/-- A record that found the queue full ends the stream: its ID is used up and it is never
sent, so the other end gets neither it nor anything behind it. -/
theorem refused_ends_stream {sorts : Sorts} {a b : SessionID} {d : Duplex}
    (h : Reaches (step sorts) network (start a b) d) {id : PacketID}
    (hid : id ∈ d.left.refused) :
    id.toNat < d.left.session.localControlPacketID.toNat ∧
      (∀ raw ∈ d.left.sent, ∀ p, parsePacket raw = .ok p → p.opcode = .controlV1 → p.id ≠ id) ∧
      d.right.delivered.length < id.toNat := by
  obtain ⟨hleft, hright⟩ := reaches_both h
  obtain ⟨hpos, hle, -, hnever⟩ := hleft.orderly.refused id hid
  have hcounter : d.left.session.localControlPacketID.toNat = d.left.submitted.length + 1 :=
    hleft.orderly.counter
  have hused : id.toNat ≤ d.left.submitted.length := hle
  refine ⟨by omega, hnever, ?_⟩
  by_contra hge
  have hids : d.right.delivered.map Packet.id = idsAfter 0 d.right.delivered.length :=
    hright.sequence.1
  have hmem : id ∈ d.right.delivered.map Packet.id := by
    rw [hids]
    refine mem_idsAfter hpos ?_
    have hlen : id.toNat ≤ d.right.delivered.length := not_lt.mp hge
    simpa using hlen
  obtain ⟨p, hp, rfl⟩ := List.mem_map.mp hmem
  exact hleft.unheard p.id hid (hright.records p (List.mem_append_left _ hp)).2

theorem refused_ends_stream_seventh :
    ∃ d, Reaches (step World.insertionSorts) network (start (zeroArray 8) World.ones) d ∧
      7 ∈ d.left.refused ∧ d.left.sent ≠ [] ∧
      (∀ raw ∈ d.left.sent, ∀ p, parsePacket raw = .ok p → p.opcode = .controlV1 → p.id ≠ 7) ∧
      d.right.delivered.length < 7 := by
  have hrun : ∃ d, Reaches (step World.insertionSorts) network
      (start (zeroArray 8) World.ones) d ∧ 7 ∈ d.left.refused ∧ d.left.sent ≠ [] :=
    exists_reaches _ _ (List.replicate 7 (.left (.submit [5])) ++ [.left (.tick 1)])
      (by decide +kernel)
  obtain ⟨d, hd, hid, hsent⟩ := hrun
  exact ⟨d, hd, hid, hsent, (refused_ends_stream hd hid).2⟩

end Duplex

end ResidentialIPManager.MiniVPN
