import ResidentialIPManager.MiniVPN.Packet

/-! # The session manager

`session.Manager`: the sessions of both ends, the key, and the counters from which control
and data packets get their IDs. A counter stops at the largest ID; it does not wrap.
-/
namespace ResidentialIPManager.MiniVPN
open Text

structure TunnelInfo where
  gw : GoString := []
  ip : GoString := []
  mtu : Int := 0
  netMask : GoString := []
  peerID : Int := 0
  usePeerID : Bool := false
  deriving DecidableEq, Repr

inductive SessionError where
  | expiredKey
  | noRemoteSessionID
  deriving DecidableEq, Repr

/-- The fields of `Manager` from which packets are made. -/
structure Manager where
  keyID : UInt8 := 0
  localControlPacketID : PacketID := 1
  localDataPacketID : PacketID := 1
  localSessionID : SessionID
  remoteSessionID : Option SessionID := none
  tunnelInfo : TunnelInfo := {}

namespace Manager

def maxPacketID : PacketID := 4294967295

/-- `localControlPacketIDLocked`. -/
def nextControlPacketID (m : Manager) : Except SessionError (PacketID × Manager) :=
  if m.localControlPacketID = maxPacketID then .error .expiredKey
  else .ok (m.localControlPacketID,
    { m with localControlPacketID := m.localControlPacketID + 1 })

/-- `LocalDataPacketID`. -/
def nextDataPacketID (m : Manager) : Except SessionError (PacketID × Manager) :=
  if m.localDataPacketID = maxPacketID then .error .expiredKey
  else .ok (m.localDataPacketID, { m with localDataPacketID := m.localDataPacketID + 1 })

def newPacket (m : Manager) (opcode : Opcode) (payload : List UInt8) :
    Except SessionError (Packet × Manager) := do
  let (id, m) ← if opcode.isControl then m.nextControlPacketID else m.nextDataPacketID
  return ({ opcode, keyID := m.keyID, localSessionID := m.localSessionID,
            remoteSessionID := m.remoteSessionID.getD (zeroArray 8), id, payload }, m)

def newACKForPacketIDs (m : Manager) (ids : List PacketID) : Except SessionError Packet :=
  match m.remoteSessionID with
  | none => .error .noRemoteSessionID
  | some remote =>
    .ok { opcode := .ackV1, keyID := m.keyID, localSessionID := m.localSessionID, acks := ids,
          remoteSessionID := remote, payload := [] }

theorem newPacket_controlV1 {m m' : Manager} {payload : List UInt8} {p : Packet}
    (h : m.newPacket .controlV1 payload = .ok (p, m')) :
    m.localControlPacketID ≠ maxPacketID ∧
      m' = { m with localControlPacketID := m.localControlPacketID + 1 } ∧
      p = { opcode := .controlV1, keyID := m.keyID, localSessionID := m.localSessionID,
            remoteSessionID := m.remoteSessionID.getD (zeroArray 8),
            id := m.localControlPacketID, payload } := by
  have hcontrol : Opcode.controlV1.isControl = true := by decide
  unfold newPacket nextControlPacketID at h
  rw [if_pos hcontrol] at h
  split_ifs at h with hmax
  · cases h
  · obtain ⟨rfl, rfl⟩ := Prod.mk.inj (Except.ok.inj h)
    exact ⟨hmax, rfl, rfl⟩

theorem toNat_succ_packetID {id : PacketID} (h : id ≠ maxPacketID) :
    (id + 1).toNat = id.toNat + 1 := by
  have hne : id.toNat ≠ 4294967295 := fun heq => h (UInt32.toNat_inj.mp heq)
  have hlt := id.toNat_lt
  rw [UInt32.toNat_add]
  have hone : (1 : UInt32).toNat = 1 := rfl
  omega

end Manager

end ResidentialIPManager.MiniVPN
