import ResidentialIPManager.MiniVPN.DataStreams

/-! # What goes wrong in the data channel

Two things that the data channel makes of datagrams. One that nobody with the keys made is
dropped and changes nothing, or it ends the program: the channel has no logger when a bad HMAC
is logged, and the muxer hands it every packet whose opcode it does not know. And in CBC mode the
framings of compression are put around the packet ID by the writer and looked for behind it by
the reader, so that a tunnel of such channels carries nothing.
-/
namespace ResidentialIPManager.MiniVPN
open Bytes Text
open Tunnel (Fault Compression)

/-! ## Datagrams that are not authentic -/

/-- The payload of a packet passes the check of the mode: the HMAC, or the tag. -/
def DataChannel.Authentic (prims : Primitives) (d : DataChannel) (payload : List UInt8) : Prop :=
  match d.dataCipher.mode with
  | .cbc => d.hash.size + blockSize ≤ payload.length ∧
      d.hmacRemote prims (payload.drop d.hash.size) = payload.take d.hash.size
  | .gcm => 20 ≤ payload.length ∧
      prims.gcmOpen (d.cipherKeyRemote.toList.take d.dataCipher.ksb)
        (payload.take 4 ++ d.hmacKeyRemote.toList.take 8)
        (payload.drop 20 ++ (payload.drop 4).take 16) (d.header ++ payload.take 4) ≠ none

/-- A datagram that the muxer takes for one of the data channel and that is not authentic. -/
structure Forged (prims : Primitives) (d : DataChannel) (raw : List UInt8) (p : Packet) : Prop where
  parsed : parsePacket raw = .ok p
  notReliable : p.opcode.isReliable = false
  notAuthentic : ¬ d.Authentic prims p.payload

/-- A packet that the reader panics on when it is not authentic. -/
def DataChannel.Exposed (d : DataChannel) (p : Packet) : Prop :=
  p.payload ≠ [] ∧ (p.opcode.isData = false ∨
    d.dataCipher.mode = .cbc ∧ d.hash.size + blockSize ≤ p.payload.length)

section Forged
variable (prims : Primitives) {d : DataChannel}

theorem decrypt_cbc_forged (hmode : d.dataCipher.mode = .cbc) {payload : List UInt8}
    (hforged : ¬ d.Authentic prims payload) :
    d.decrypt prims payload =
      if d.hash.size + blockSize ≤ payload.length then .error nilDereference
      else .error (.error (lit "cannot decrypt" ++ lit ": " ++
        (lit "cannot decode: too short (" ++ itoa payload.length ++ lit " bytes)"))) := by
  have hnot : d.dataCipher.isAEAD = false := by simp [DataCipher.isAEAD, hmode]
  unfold DataChannel.decrypt DataChannel.decodeEncryptedPayloadNonAEAD
  simp only [hnot, Bool.false_eq_true, if_false]
  by_cases hlong : d.hash.size + blockSize ≤ payload.length
  · -- the IV and the ciphertext are all that is behind the HMAC
    have hsplit := take_append_drop_add payload d.hash.size blockSize
    have hmac : d.hmacRemote prims (payload.drop d.hash.size) ≠ payload.take d.hash.size := by
      intro heq
      exact hforged (by rw [DataChannel.Authentic, hmode]; exact ⟨hlong, heq⟩)
    rw [if_neg (Nat.not_lt.mpr hlong), if_pos hlong, hsplit, if_pos hmac]
    rfl
  · rw [if_pos (Nat.lt_of_not_le hlong), if_neg hlong]
    rfl

theorem decrypt_gcm_forged (hmode : d.dataCipher.mode = .gcm) {payload : List UInt8}
    (hforged : ¬ d.Authentic prims payload) :
    ∃ err, d.decrypt prims payload = .error (.error err) := by
  have haead : d.dataCipher.isAEAD = true := by simp [DataCipher.isAEAD, hmode]
  unfold DataChannel.decrypt DataChannel.decodeEncryptedPayloadAEAD
  simp only [haead, if_true]
  by_cases hlong : 20 ≤ payload.length
  · have hopen : prims.gcmOpen (d.cipherKeyRemote.toList.take d.dataCipher.ksb)
        (payload.take 4 ++ d.hmacKeyRemote.toList.take 8)
        (payload.drop 20 ++ (payload.drop 4).take 16) (d.header ++ payload.take 4) = none := by
      by_contra hsome
      exact hforged (by rw [DataChannel.Authentic, hmode]; exact ⟨hlong, hsome⟩)
    have hiv : ¬ (payload.take 4 ++ d.hmacKeyRemote.toList.take 8).length ≠ 12 := by
      simp only [List.length_append, List.length_take, List.Vector.toList_length]
      omega
    have htext : payload.drop 20 ++ (payload.drop 4).take 16 ≠ [] := by
      intro hnil
      have := congrArg List.length hnil
      simp only [List.length_append, List.length_drop, List.length_take, List.length_nil] at this
      omega
    rw [if_neg (Nat.not_lt.mpr hlong)]
    simp only [if_neg htext, DataCipher.decrypt, hmode, if_neg hiv, hopen]
    exact ⟨_, rfl⟩
  · rw [if_pos (Nat.lt_of_not_le hlong)]
    exact ⟨_, rfl⟩

def afterRead : Except Fault (List UInt8) → Except GoString (Option (List UInt8))
  | .error (.crash message) => .error message
  | .error (.error _) => .ok none
  | .ok decrypted => .ok (if decrypted.length = 16 then none else some decrypted)

theorem moveUpData_eq {raw : List UInt8} {p : Packet} (hp : parsePacket raw = .ok p)
    (hrel : p.opcode.isReliable = false) :
    moveUpData prims d raw =
      (afterRead (d.readPacket prims p).1, (d.readPacket prims p).2) := by
  unfold moveUpData
  simp only [hp, hrel, Bool.false_eq_true, if_false]
  cases d.readPacket prims p with
  | mk result after =>
    cases result with
    | error err => cases err <;> rfl
    | ok decrypted => rfl

theorem moveUpData_forged {raw : List UInt8} {p : Packet} (h : Forged prims d raw p) :
    (d.Exposed p → ∃ message, moveUpData prims d raw = (.error message, d)) ∧
      (¬ d.Exposed p → moveUpData prims d raw = (.ok none, d)) := by
  rw [moveUpData_eq prims h.parsed h.notReliable]
  unfold DataChannel.Exposed DataChannel.readPacket
  by_cases hempty : p.payload = []
  · simp [hempty, afterRead]
  by_cases hdata : p.opcode.isData = false
  · simp [hempty, hdata, afterRead]
  cases hmode : d.dataCipher.mode with
  | cbc =>
    rw [if_neg hempty, if_neg hdata, decrypt_cbc_forged prims hmode h.notAuthentic]
    by_cases hlong : d.hash.size + blockSize ≤ p.payload.length
    · simp [hempty, hlong, nilDereference, afterRead]
    · simp [hdata, hlong, afterRead]
  | gcm =>
    obtain ⟨err, herr⟩ := decrypt_gcm_forged prims hmode h.notAuthentic
    rw [if_neg hempty, if_neg hdata, herr]
    simp [hdata, afterRead]

/-! ### Arrivals before and after -/

theorem readPacket_state (p : Packet) : ∃ id, (d.readPacket prims p).2 = d.sawID id := by
  have hsame : ∃ id, d = d.sawID id := ⟨d.remotePacketID, rfl⟩
  have hdecompress : ∀ b, ∃ id, (d.maybeDecompress b).2 = d.sawID id := by
    intro b
    unfold DataChannel.maybeDecompress
    dsimp only
    split_ifs
    · exact hsame
    · exact hsame
    · exact hsame
    · exact hsame
    · exact ⟨_, rfl⟩
    · exact ⟨_, rfl⟩
  unfold DataChannel.readPacket
  split_ifs
  · exact hsame
  · exact hsame
  · cases d.decrypt prims p.payload with
    | error err => exact hsame
    | ok b => exact hdecompress b

theorem moveUpData_state (raw : List UInt8) :
    ∃ id, (moveUpData prims d raw).2 = d.sawID id := by
  cases hp : parsePacket raw with
  | error err => exact ⟨d.remotePacketID, by simp [moveUpData, hp, DataChannel.sawID]⟩
  | ok p =>
    cases hrel : p.opcode.isReliable with
    | true => exact ⟨d.remotePacketID, by simp [moveUpData, hp, hrel, DataChannel.sawID]⟩
    | false =>
      rw [moveUpData_eq prims hp hrel]
      exact readPacket_state prims p

theorem forged_sawID {raw : List UInt8} {p : Packet} (h : Forged prims d raw p) (id : PacketID) :
    Forged prims (d.sawID id) raw p := ⟨h.parsed, h.notReliable, h.notAuthentic⟩

/-- Wherever it arrives, a datagram that is not authentic ends the program if the reader is exposed
to it, and otherwise it is as if it had not arrived. -/
theorem forged_datagram {raw : List UInt8} {p : Packet} (h : Forged prims d raw p)
    (before after : List (List UInt8)) :
    (d.Exposed p → ∃ message, (moveUpAll prims d (before ++ raw :: after)).1 = .error message) ∧
      (¬ d.Exposed p →
        moveUpAll prims d (before ++ raw :: after) = moveUpAll prims d (before ++ after)) := by
  induction before generalizing d with
  | nil =>
    obtain ⟨hcrash, hdrop⟩ := moveUpData_forged prims h
    constructor
    · intro hexposed
      obtain ⟨message, hmessage⟩ := hcrash hexposed
      exact ⟨message, by simp [moveUpAll, hmessage]⟩
    · intro hexposed
      simp only [List.nil_append, moveUpAll, hdrop hexposed]
      rcases moveUpAll prims d after with ⟨_ | _, _⟩ <;> rfl
  | cons first before ih =>
    obtain ⟨id, hid⟩ := moveUpData_state prims (d := d) first
    obtain ⟨hcrash, hdrop⟩ := ih (forged_sawID prims h id)
    have hfirst : moveUpData prims d first = ((moveUpData prims d first).1, d.sawID id) := by
      rw [← hid]
    cases hresult : (moveUpData prims d first).1 with
    | error message =>
      rw [hresult] at hfirst
      exact ⟨fun _ => ⟨message, by simp [moveUpAll, hfirst]⟩, fun _ => by simp [moveUpAll, hfirst]⟩
    | ok delivered =>
      rw [hresult] at hfirst
      constructor
      · intro hexposed
        obtain ⟨message, hmessage⟩ := hcrash hexposed
        exact ⟨message, by simp [moveUpAll, hfirst, hmessage, Except.map]⟩
      · intro hexposed
        simp only [List.cons_append, moveUpAll, hfirst, hdrop hexposed]

theorem forged_datagram_crashes :
    let d := loopback .cbc .empty
    let raw := headerByte .dataV1 0 :: List.replicate 36 1
    ∃ p, Forged checksummed d raw p ∧ d.Exposed p ∧ ∃ message,
      (moveUpAll checksummed d ([] ++ raw :: [])).1 = .error message := by
  have hbody : List.replicate 36 (1 : UInt8) ≠ [] := by simp
  obtain ⟨p, hp, hop, hpayload⟩ := parsePacket_dataV1 0 hbody
  have hmac : (loopback .cbc .empty).hmacRemote checksummed ((List.replicate 36 1).drop 20) ≠
      (List.replicate 36 1).take 20 := by decide +kernel
  have hforged : Forged checksummed (loopback .cbc .empty)
      (headerByte .dataV1 0 :: List.replicate 36 1) p := by
    refine ⟨hp, by rw [hop]; decide, fun hauthentic => ?_⟩
    rw [hpayload] at hauthentic
    exact hmac hauthentic.2
  have hexposed : (loopback .cbc .empty).Exposed p := by
    refine ⟨by rw [hpayload]; simp, .inr ⟨rfl, ?_⟩⟩
    rw [hpayload]
    decide
  exact ⟨p, hforged, hexposed, (forged_datagram checksummed hforged [] []).1 hexposed⟩

end Forged

/-! ## Compression in CBC mode -/

section Framing
variable (prims : Primitives) (iv : List.Vector UInt8 16)

theorem moveUpData_dropped {r : DataChannel} {raw : List UInt8} {p : Packet} {err : GoString}
    (hp : parsePacket raw = .ok p) (hdata : p.opcode.isData = true)
    (hread : (r.readPacket prims p).1 = .error (.error err)) :
    (moveUpData prims r raw).1 = .ok none := by
  rw [moveUpData_eq prims hp (isReliable_eq_false_of_isData hdata), hread]
  rfl

/-- With the stub, the first byte of the ID ends up where the size of the padding is read. -/
theorem send_stub {w : DataChannel} (hmode : w.dataCipher.mode = .cbc) (hstub : w.compress = .stub)
    (hid : w.writeID.toNat < 2 ^ 24) (payload : List UInt8) :
    ∃ raw, w.send prims iv payload = (.ok raw, w.advanced) ∧
      ∀ r, Paired w r → (moveUpData prims r raw).1 = .ok none := by
  obtain ⟨rest, hbytes⟩ : ∃ rest, uint32Bytes w.writeID ++ payload = 0 :: rest := by
    have hzero : w.writeID.toNat / 16777216 = 0 := by omega
    exact ⟨_, by rw [uint32Bytes_eq, hzero]; rfl⟩
  have hcompress : doCompress (uint32Bytes w.writeID ++ payload) w.compress =
      .ok (0xfb :: rest ++ [0]) := by
    rw [hbytes, hstub]
    rfl
  have hpad : doPadding (0xfb :: rest ++ [0]) w.compress blockSize =
      .ok ((0xfb :: rest ++ padding (0xfb :: rest).length).dropLast ++ [0]) := by
    unfold doPadding
    rw [List.getLast?_concat, List.dropLast_concat, hstub]
    rfl
  have hlength : ((0xfb :: rest ++ padding (0xfb :: rest).length).dropLast ++
      [0]).length % 16 = 0 := by
    have hsize := length_append_padding (0xfb :: rest)
    simp only [List.length_append, List.length_dropLast, List.length_cons, List.length_nil] at *
    omega
  have hunpad : bytesUnpadPKCS7 ((0xfb :: rest ++ padding (0xfb :: rest).length).dropLast ++ [0])
      blockSize = .error (unpadError (lit "padding size cannot be zero")) := by
    unfold bytesUnpadPKCS7
    rw [if_neg (by decide), List.getLast?_concat]
    rfl
  obtain ⟨raw, hsend, hread⟩ := read_send_padded prims iv hmode hcompress (by simp) hpad (by simp)
    hlength
  refine ⟨raw, hsend, fun r hpair => ?_⟩
  obtain ⟨p, hp, hdata, hpacket⟩ := hread r hpair
  rw [hunpad] at hpacket
  exact moveUpData_dropped prims hp hdata (congrArg Prod.fst hpacket)

/-- With `lzo-no`, the last byte of the ID ends up where the framing is read. -/
theorem send_lzoNo {w : DataChannel} (hmode : w.dataCipher.mode = .cbc)
    (hlzo : w.compress = .lzoNo) (hid : w.writeID.toNat % 256 ∉ [0, 0xfa, 0xfb])
    (payload : List UInt8) :
    ∃ raw, w.send prims iv payload = (.ok raw, w.advanced) ∧
      ∀ r, Paired w r → (moveUpData prims r raw).1 = .ok none := by
  -- the reader takes the marker and three bytes of the ID for an ID
  obtain ⟨other, hbytes⟩ : ∃ other : PacketID, 0xfa :: (uint32Bytes w.writeID ++ payload) =
      uint32Bytes other ++ (UInt8.ofNat w.writeID.toNat :: payload) := by
    have hfront : (0xfa :: (uint32Bytes w.writeID).take 3).length = 4 := by simp
    refine ⟨uint32Of (0xfa :: (uint32Bytes w.writeID).take 3), ?_⟩
    rw [uint32Bytes_uint32Of hfront, uint32Bytes_eq]
    rfl
  have hcompress : doCompress (uint32Bytes w.writeID ++ payload) w.compress =
      .ok (0xfa :: (uint32Bytes w.writeID ++ payload)) := by
    rw [hlzo]
    rfl
  have hpad := doPadding_eq (List.cons_ne_nil 0xfa (uint32Bytes w.writeID ++ payload)) w.compress
    (by rw [hlzo]; decide)
  obtain ⟨raw, hsend, hread⟩ := read_send_padded prims iv hmode hcompress (by simp) hpad (by simp)
    (length_append_padding _)
  refine ⟨raw, hsend, fun r hpair => ?_⟩
  obtain ⟨p, hp, hdata, hpacket⟩ := hread r hpair
  have hlow : (UInt8.ofNat w.writeID.toNat).toNat = w.writeID.toNat % 256 := UInt8.toNat_ofNat'
  have hunframe : ∃ err, DataChannel.unframe (UInt8.ofNat w.writeID.toNat) payload =
      .error (.error err) := by
    have hne : ∀ byte : UInt8, byte.toNat ∈ [0, 0xfa, 0xfb] → UInt8.ofNat w.writeID.toNat ≠ byte := by
      intro byte hbyte heq
      rw [← heq, hlow] at hbyte
      exact hid hbyte
    unfold DataChannel.unframe
    rw [if_neg (hne 0xfb (by decide)),
      if_neg (not_or.mpr ⟨hne 0 (by decide), hne 0xfa (by decide)⟩)]
    exact ⟨_, rfl⟩
  obtain ⟨err, herr⟩ := hunframe
  rw [bytesUnpadPKCS7_append_padding] at hpacket
  simp only [hbytes] at hpacket
  rw [maybeDecompress_cbc (hpair.dataCipher_eq ▸ hmode), hpair.compress_eq, hlzo] at hpacket
  by_cases hmax : r.remotePacketID = Manager.maxPacketID
  · rw [if_pos hmax] at hpacket
    exact moveUpData_dropped prims hp hdata (congrArg Prod.fst hpacket)
  by_cases hold : other ≤ r.remotePacketID
  · rw [if_neg hmax, if_pos hold] at hpacket
    exact moveUpData_dropped prims hp hdata (congrArg Prod.fst hpacket)
  · rw [if_neg hmax, if_neg hold] at hpacket
    exact moveUpData_dropped prims hp hdata ((congrArg Prod.fst hpacket).trans herr)

/-- In CBC mode a framed datagram is lost on every reader that has the writer's keys and settings:
with the stub while the IDs are short of 2 ^ 24, with `lzo-no` unless the last byte of the ID is by
chance a framing. -/
theorem cbc_framing_lost {w : DataChannel} (hmode : w.dataCipher.mode = .cbc)
    (hframed : w.compress = .stub ∧ w.writeID.toNat < 2 ^ 24 ∨
      w.compress = .lzoNo ∧ w.writeID.toNat % 256 ∉ [0, 0xfa, 0xfb]) (payload : List UInt8) :
    ∃ raw, w.send prims iv payload = (.ok raw, w.advanced) ∧
      ∀ r, Paired w r → (moveUpData prims r raw).1 = .ok none := by
  rcases hframed with ⟨hstub, hid⟩ | ⟨hlzo, hid⟩
  · exact send_stub prims iv hmode hstub hid payload
  · exact send_lzoNo prims iv hmode hlzo hid payload

theorem cbc_framing_lost_stub :
    let w := loopback .cbc .stub
    (w.compress = .stub ∧ w.writeID.toNat < 2 ^ 24) ∧ ∃ raw,
      w.send checksummed (List.Vector.replicate 16 0) [7] = (.ok raw, w.advanced) ∧
        ∀ r, Paired w r → (moveUpData checksummed r raw).1 = .ok none :=
  ⟨by decide, cbc_framing_lost checksummed _ rfl (.inl (by decide)) [7]⟩

end Framing

end ResidentialIPManager.MiniVPN
