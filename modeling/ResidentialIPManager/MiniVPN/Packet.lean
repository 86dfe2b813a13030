import ResidentialIPManager.Bytes.Wire
import ResidentialIPManager.Text.Rune

/-! # Packets on the wire

`ParsePacket` and `Packet.Bytes`. A control packet or an acknowledgement has, after its
first byte, the session of the sender, the acknowledged packets, the session of the peer if
there are any, and a packet ID unless it only acknowledges. `P_DATA_V1` has its payload
right after the first byte. The payload of a `P_DATA_V2` packet to send already starts with
the header, so `Bytes` writes nothing in front of it.
-/
namespace ResidentialIPManager.MiniVPN
open Bytes Text

/-- `Opcode`, with its constants; the wire can bring others. -/
structure Opcode where
  byte : UInt8
  deriving DecidableEq, Repr

namespace Opcode

def controlHardResetClientV1 : Opcode := ⟨1⟩
def controlHardResetServerV1 : Opcode := ⟨2⟩
def controlSoftResetV1 : Opcode := ⟨3⟩
def controlV1 : Opcode := ⟨4⟩
def ackV1 : Opcode := ⟨5⟩
def dataV1 : Opcode := ⟨6⟩
def controlHardResetClientV2 : Opcode := ⟨7⟩
def controlHardResetServerV2 : Opcode := ⟨8⟩
def dataV2 : Opcode := ⟨9⟩

def isControl (op : Opcode) : Bool :=
  decide (op ∈ [controlHardResetClientV1, controlHardResetServerV1, controlSoftResetV1,
    controlV1, controlHardResetClientV2, controlHardResetServerV2])

def isData (op : Opcode) : Bool := decide (op ∈ [dataV1, dataV2])

/-- The packets that go to the reliable transport. -/
def isReliable (op : Opcode) : Bool := op.isControl || decide (op = ackV1)

end Opcode

abbrev SessionID := List.Vector UInt8 8
abbrev PacketID := UInt32
abbrev PeerID := List.Vector UInt8 3

def zeroArray (n : Nat) : List.Vector UInt8 n := List.Vector.replicate n 0

structure Packet where
  opcode : Opcode
  keyID : UInt8
  peerID : PeerID := zeroArray 3
  localSessionID : SessionID := zeroArray 8
  acks : List PacketID := []
  remoteSessionID : SessionID := zeroArray 8
  id : PacketID := 0
  payload : List UInt8
  deriving DecidableEq

/-- `ErrPacketTooShort`, `ErrEmptyPayload`, and `ErrParsePacket` with what it wraps. -/
inductive ParseError where
  | packetTooShort
  | emptyPayload
  | parsePacket (detail : GoString)
  deriving DecidableEq, Repr

def readErrorText : ReadError → GoString
  | .eof => lit "EOF"
  | .unexpectedEOF => lit "unexpected EOF"

def badField (what : String) (err : ReadError) : ParseError :=
  .parsePacket (lit what ++ lit ": " ++ readErrorText err)

/-- The session of the peer, which is there only with acknowledgements. -/
def readRemoteSessionID (ackArrayLen : Nat) (buf : List UInt8) :
    Except ParseError (SessionID × List UInt8) :=
  if 0 < ackArrayLen then (readArray 8 buf).mapError (badField "bad remote sessionID")
  else .ok (zeroArray 8, buf)

/-- The packet ID, which an acknowledgement does not have. -/
def readPacketID (opcode : Opcode) (buf : List UInt8) :
    Except ParseError (PacketID × List UInt8) :=
  if opcode ≠ .ackV1 then (readUint32 buf).mapError (badField "bad packetID")
  else .ok (0, buf)

def parseControlOrACKPacket (opcode : Opcode) (keyID : UInt8) (payload : List UInt8) :
    Except ParseError Packet :=
  if payload = [] then .error .emptyPayload
  else if opcode.isReliable = false then
    .error (.parsePacket (lit "expected control/ack packet"))
  else do
    let (localSessionID, buf) ← (readArray 8 payload).mapError (badField "bad sessionID")
    let (ackArrayLen, buf) ← (readByte buf).mapError (badField "bad ack")
    let (acks, buf) ←
      (readUint32s ackArrayLen.toNat buf).mapError (badField "cannot parse ack id")
    let (remoteSessionID, buf) ← readRemoteSessionID ackArrayLen.toNat buf
    let (id, buf) ← readPacketID opcode buf
    return { opcode, keyID, localSessionID, acks, remoteSessionID, id, payload := buf }

def parsePacket (buf : List UInt8) : Except ParseError Packet :=
  match buf with
  | first :: second :: rest =>
    let opcode : Opcode := ⟨first >>> 3⟩
    let keyID := first &&& 7
    if opcode = .dataV2 then
      match readArray 3 (second :: rest) with
      | .error _ => .error .packetTooShort
      | .ok (peerID, payload) => .ok { opcode, keyID, peerID, payload }
    else if opcode.isReliable then parseControlOrACKPacket opcode keyID (second :: rest)
    else .ok { opcode, keyID, payload := second :: rest }
  | _ => .error .packetTooShort

def headerByte (opcode : Opcode) (keyID : UInt8) : UInt8 :=
  (opcode.byte <<< 3) ||| (keyID &&& 7)

namespace Packet

def body (p : Packet) : List UInt8 :=
  p.localSessionID.toList ++ UInt8.ofNat p.acks.length :: (p.acks.flatMap uint32Bytes ++
    ((if p.acks = [] then [] else p.remoteSessionID.toList) ++
      ((if p.opcode = .ackV1 then [] else uint32Bytes p.id) ++ p.payload)))

def bytes (p : Packet) : Except GoString (List UInt8) :=
  if p.opcode = .dataV1 then .ok (headerByte p.opcode p.keyID :: p.payload)
  else if p.opcode = .dataV2 then .ok p.payload
  else if 255 < p.acks.length then .error (lit "cannot marshal packet: too many ACKs")
  else .ok (headerByte p.opcode p.keyID :: p.body)

/-- The opcodes whose packets the wire carries whole: all known ones but `P_DATA_V2`. -/
def carriedWhole (p : Packet) : Prop := p.opcode.isReliable = true ∨ p.opcode = .dataV1

/-- The packets that can come out of `ParsePacket`: the key has three bits, and a field that
the wire does not carry is zero. -/
structure WellFormed (p : Packet) : Prop where
  keyID_lt : p.keyID.toNat < 8
  peerID_eq : p.peerID = zeroArray 3
  control : p.opcode.isReliable = true → p.acks.length ≤ 255 ∧
    (p.acks = [] → p.remoteSessionID = zeroArray 8) ∧ (p.opcode = .ackV1 → p.id = 0)
  data : p.opcode = .dataV1 → p.localSessionID = zeroArray 8 ∧ p.acks = [] ∧
    p.remoteSessionID = zeroArray 8 ∧ p.id = 0 ∧ p.payload ≠ []

end Packet

section HeaderByte

/-- The opcode and the key that a first byte stands for. -/
theorem headerByte_shift (b : UInt8) : headerByte ⟨b >>> 3⟩ (b &&& 7) = b := by
  have h : ∀ v : BitVec 8, ((v >>> 3) <<< 3) ||| ((v &&& 7) &&& 7) = v := by decide
  exact UInt8.toBitVec_inj.mp (h b.toBitVec)

theorem headerByte_inv {op : Opcode} {key : UInt8} (hop : op.byte.toNat < 32)
    (hkey : key.toNat < 8) :
    headerByte op key >>> 3 = op.byte ∧ headerByte op key &&& 7 = key := by
  have h : ∀ n < 32, ∀ k < 8, headerByte ⟨UInt8.ofNat n⟩ (UInt8.ofNat k) >>> 3 = UInt8.ofNat n ∧
      headerByte ⟨UInt8.ofNat n⟩ (UInt8.ofNat k) &&& 7 = UInt8.ofNat k := by decide
  simpa using h op.byte.toNat hop key.toNat hkey

theorem keyID_lt (b : UInt8) : (b &&& 7).toNat < 8 := by
  have h : ∀ v : BitVec 8, (v &&& 7).toNat < 8 := by decide
  exact h b.toBitVec

end HeaderByte

theorem Opcode.byte_lt {p : Packet} (h : p.carriedWhole) : p.opcode.byte.toNat < 32 := by
  have hall : ∀ op ∈ [controlHardResetClientV1, controlHardResetServerV1, controlSoftResetV1,
      controlV1, controlHardResetClientV2, controlHardResetServerV2, ackV1, dataV1],
      op.byte.toNat < 32 := by decide
  apply hall
  rcases h with h | h
  · simp only [isReliable, isControl, Bool.or_eq_true, decide_eq_true_eq, List.mem_cons,
      List.not_mem_nil, or_false] at h
    simp only [List.mem_cons]
    tauto
  · simp [h]

theorem readRemoteSessionID_eq_ok {n : Nat} {buf rest : List UInt8} {r : SessionID} :
    readRemoteSessionID n buf = .ok (r, rest) ↔
      (n = 0 → r = zeroArray 8) ∧ buf = (if n = 0 then [] else r.toList) ++ rest := by
  unfold readRemoteSessionID
  rcases Nat.eq_zero_or_pos n with rfl | hn
  · simp [eq_comm]
  · rw [if_pos hn, if_neg (by omega), mapError_eq_ok, readArray_eq_ok]
    simp [show n ≠ 0 by omega]

theorem readPacketID_eq_ok {op : Opcode} {buf rest : List UInt8} {id : PacketID} :
    readPacketID op buf = .ok (id, rest) ↔
      (op = .ackV1 → id = 0) ∧ buf = (if op = .ackV1 then [] else uint32Bytes id) ++ rest := by
  unfold readPacketID
  by_cases hop : op = .ackV1
  · simp [hop, eq_comm]
  · rw [if_pos hop, if_neg hop, mapError_eq_ok, readUint32_eq_ok]
    simp [hop]

theorem parseControlOrACKPacket_eq_ok {op : Opcode} {key : UInt8} {payload : List UInt8}
    {p : Packet} (hop : op.isReliable = true) :
    parseControlOrACKPacket op key payload = .ok p ↔
      p.opcode = op ∧ p.keyID = key ∧ p.peerID = zeroArray 3 ∧ p.acks.length ≤ 255 ∧
        (p.acks = [] → p.remoteSessionID = zeroArray 8) ∧ (op = .ackV1 → p.id = 0) ∧
        payload = p.body := by
  have hrel : ¬op.isReliable = false := by simp [hop]
  unfold parseControlOrACKPacket
  rw [if_neg hrel]
  constructor
  · intro h
    split_ifs at h with hempty
    obtain ⟨⟨localSessionID, buf₁⟩, h₁, h⟩ := bind_eq_ok.mp h
    obtain ⟨⟨ackArrayLen, buf₂⟩, h₂, h⟩ := bind_eq_ok.mp h
    obtain ⟨⟨acks, buf₃⟩, h₃, h⟩ := bind_eq_ok.mp h
    obtain ⟨⟨remoteSessionID, buf₄⟩, h₄, h⟩ := bind_eq_ok.mp h
    obtain ⟨⟨id, buf₅⟩, h₅, h⟩ := bind_eq_ok.mp h
    obtain rfl := Except.ok.inj h
    rw [mapError_eq_ok, readArray_eq_ok] at h₁
    rw [mapError_eq_ok, readByte_eq_ok] at h₂
    obtain ⟨hlen, rfl⟩ := readUint32s_eq_ok.mp (mapError_eq_ok.mp h₃)
    obtain ⟨hremote, rfl⟩ := readRemoteSessionID_eq_ok.mp h₄
    obtain ⟨hid, rfl⟩ := readPacketID_eq_ok.mp h₅
    have hnil : acks = [] ↔ ackArrayLen.toNat = 0 := by
      rw [← hlen, List.length_eq_zero_iff]
    refine ⟨rfl, rfl, rfl, ?_, fun hacks => hremote (hnil.mp hacks), hid, ?_⟩
    · have hlt := ackArrayLen.toNat_lt
      show acks.length ≤ 255
      omega
    · rw [h₁, h₂]
      simp only [Packet.body, hlen, hnil, UInt8.ofNat_toNat]
  · rintro ⟨rfl, rfl, hpeer, hlen, hremote, hid, rfl⟩
    have hcount : (UInt8.ofNat p.acks.length).toNat = p.acks.length := by
      rw [UInt8.toNat_ofNat']
      omega
    have hbody : p.body ≠ [] := by simp [Packet.body]
    let idBytes := if p.opcode = .ackV1 then [] else uint32Bytes p.id
    let remoteBytes := if p.acks = [] then [] else p.remoteSessionID.toList
    have h₄ : readRemoteSessionID (UInt8.ofNat p.acks.length).toNat
        (remoteBytes ++ (idBytes ++ p.payload)) = .ok (p.remoteSessionID, idBytes ++ p.payload) := by
      rw [readRemoteSessionID_eq_ok, hcount]
      simp only [List.length_eq_zero_iff]
      exact ⟨hremote, rfl⟩
    have h₅ : readPacketID p.opcode (idBytes ++ p.payload) = .ok (p.id, p.payload) :=
      readPacketID_eq_ok.mpr ⟨hid, rfl⟩
    rw [if_neg hbody]
    refine bind_eq_ok.mpr ⟨_, mapError_eq_ok.mpr (readArray_eq_ok.mpr rfl), ?_⟩
    refine bind_eq_ok.mpr ⟨_, mapError_eq_ok.mpr (readByte_eq_ok.mpr rfl), ?_⟩
    refine bind_eq_ok.mpr ⟨_, mapError_eq_ok.mpr
      (readUint32s_eq_ok.mpr ⟨hcount.symm, rfl⟩), ?_⟩
    refine bind_eq_ok.mpr ⟨_, h₄, bind_eq_ok.mpr ⟨_, h₅, ?_⟩⟩
    rw [← hpeer]
    rfl

theorem Opcode.ne_data_of_isReliable {op : Opcode} (h : op.isReliable = true) :
    op ≠ .dataV1 ∧ op ≠ .dataV2 := by
  constructor
  · rintro rfl
    exact absurd h (by decide)
  · rintro rfl
    exact absurd h (by decide)

theorem Packet.bytes_of_isReliable {p : Packet} (hop : p.opcode.isReliable = true)
    (hacks : p.acks.length ≤ 255) :
    p.bytes = .ok (headerByte p.opcode p.keyID :: p.body) := by
  obtain ⟨h₁, h₂⟩ := Opcode.ne_data_of_isReliable hop
  rw [Packet.bytes, if_neg h₁, if_neg h₂, if_neg (by omega)]

theorem Packet.body_ne_nil (p : Packet) : p.body ≠ [] := by simp [Packet.body]

theorem parsePacket_header {op : Opcode} {key : UInt8} {rest : List UInt8}
    (hop : op.isReliable = true) (hbyte : op.byte.toNat < 32) (hkey : key.toNat < 8)
    (hrest : rest ≠ []) :
    parsePacket (headerByte op key :: rest) = parseControlOrACKPacket op key rest := by
  obtain ⟨second, tail, rfl⟩ := List.exists_cons_of_ne_nil hrest
  obtain ⟨hshift, hmask⟩ := headerByte_inv hbyte hkey
  have hne := (Opcode.ne_data_of_isReliable hop).2
  simp only [parsePacket, hshift, hmask]
  rw [if_neg hne, if_pos hop]

/-- What a peer reads when a packet of the reliable transport was written: the packet, without
the session of the receiver if nothing is acknowledged. -/
theorem parsePacket_bytes {p : Packet} (hop : p.opcode.isReliable = true)
    (hkey : p.keyID.toNat < 8) (hpeer : p.peerID = zeroArray 3) (hacks : p.acks.length ≤ 255)
    (hid : p.opcode = .ackV1 → p.id = 0) :
    ∃ raw, p.bytes = .ok raw ∧ parsePacket raw = .ok { p with
      remoteSessionID := if p.acks = [] then zeroArray 8 else p.remoteSessionID } := by
  refine ⟨_, Packet.bytes_of_isReliable hop hacks, ?_⟩
  rw [parsePacket_header hop (Opcode.byte_lt (.inl hop)) hkey p.body_ne_nil,
    parseControlOrACKPacket_eq_ok hop]
  refine ⟨rfl, rfl, hpeer, hacks, fun hnil => if_pos hnil, hid, ?_⟩
  unfold Packet.body
  by_cases hnil : p.acks = []
  · simp only [if_pos hnil]
  · simp only [if_neg hnil]

/-- For every opcode but `P_DATA_V2` and unknown ones, parsing and writing are inverse to each
other: a buffer is read as a packet exactly if the packet is well formed and written as that
buffer. -/
theorem parsePacket_eq_ok_iff {p : Packet} (hwhole : p.carriedWhole) (buf : List UInt8) :
    parsePacket buf = .ok p ↔ p.WellFormed ∧ p.bytes = .ok buf := by
  have hbyte := Opcode.byte_lt hwhole
  constructor
  · intro h
    match buf with
    | [] => cases h
    | [first] => cases h
    | first :: second :: rest =>
      simp only [parsePacket] at h
      split_ifs at h with hv2 hrel
      · -- the opcode would be that of `P_DATA_V2`
        exfalso
        split at h
        · cases h
        · obtain rfl := Except.ok.inj h
          rcases hwhole with hwhole | hwhole
          · exact (Opcode.ne_data_of_isReliable hwhole).2 hv2
          · exact absurd (hwhole.symm.trans hv2) (by decide)
      · obtain ⟨hop, hkey, hpeer, hacks, hremote, hid, hbody⟩ :=
          (parseControlOrACKPacket_eq_ok hrel).mp h
        rw [← hop] at hrel hid
        have hdata := (Opcode.ne_data_of_isReliable hrel).1
        refine ⟨⟨by rw [hkey]; exact keyID_lt first, hpeer, fun _ => ⟨hacks, hremote, hid⟩,
          fun h => absurd h hdata⟩, ?_⟩
        rw [Packet.bytes_of_isReliable hrel hacks, hop, hkey, headerByte_shift, hbody]
      · obtain rfl := Except.ok.inj h
        obtain hop | hop := hwhole
        · exact absurd hop hrel
        · refine ⟨⟨keyID_lt first, rfl, fun h => absurd h hrel, fun _ => by simp⟩, ?_⟩
          rw [Packet.bytes, if_pos hop]
          exact congrArg (fun b => Except.ok (b :: second :: rest)) (headerByte_shift first)
  · rintro ⟨hwf, hbytes⟩
    rcases hwhole with hrel | hdata
    · obtain ⟨hacks, hremote, hid⟩ := hwf.control hrel
      rw [Packet.bytes_of_isReliable hrel hacks] at hbytes
      obtain rfl := Except.ok.inj hbytes
      rw [parsePacket_header hrel hbyte hwf.keyID_lt p.body_ne_nil,
        parseControlOrACKPacket_eq_ok hrel]
      exact ⟨rfl, rfl, hwf.peerID_eq, hacks, hremote, hid, rfl⟩
    · obtain ⟨hlocal, hacks, hremote, hid, hpayload⟩ := hwf.data hdata
      rw [Packet.bytes, if_pos hdata] at hbytes
      obtain rfl := Except.ok.inj hbytes
      obtain ⟨second, rest, hcons⟩ := List.exists_cons_of_ne_nil hpayload
      obtain ⟨hshift, hmask⟩ := headerByte_inv hbyte hwf.keyID_lt
      have hnot : ¬p.opcode.isReliable = true := by rw [hdata]; decide
      have hv2 : p.opcode ≠ .dataV2 := by rw [hdata]; decide
      rw [hcons]
      simp only [parsePacket, hshift, hmask]
      rw [if_neg hv2, if_neg hnot, ← hcons]
      have hpeer := hwf.peerID_eq
      obtain ⟨opcode, keyID, peerID, localSessionID, acks, remoteSessionID, id, payload⟩ := p
      obtain ⟨rfl, rfl, rfl, rfl, rfl⟩ : peerID = _ ∧ localSessionID = _ ∧ acks = _ ∧
        remoteSessionID = _ ∧ id = _ := ⟨hpeer, hlocal, hacks, hremote, hid⟩
      rfl

/-- An acknowledgement of packets 1 and 2 in session 7 of a peer in session 9. -/
theorem parsePacket_eq_ok_iff_ack :
    (⟨.ackV1, 0, zeroArray 3, List.Vector.replicate 8 7, [1, 2], List.Vector.replicate 8 9, 0, []⟩ :
      Packet).carriedWhole ∧
    (parsePacket [40, 7, 7, 7, 7, 7, 7, 7, 7, 2, 0, 0, 0, 1, 0, 0, 0, 2, 9, 9, 9, 9, 9, 9, 9, 9] =
      .ok ⟨.ackV1, 0, zeroArray 3, List.Vector.replicate 8 7, [1, 2],
        List.Vector.replicate 8 9, 0, []⟩) :=
  ⟨.inl (by decide), (parsePacket_eq_ok_iff (.inl (by decide)) _).mpr
    ⟨⟨by decide, rfl, fun _ => by decide, fun h => absurd h (by decide)⟩, by decide⟩⟩

end ResidentialIPManager.MiniVPN
