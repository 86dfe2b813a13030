import ResidentialIPManager.MiniVPN.DataChannel

/-! # What comes out of the data channel

A writer and a reader with the keys of each other. A datagram that the writer made is read as
what was written, in CBC mode exactly and in GCM mode with the padding behind it, which is
never taken off. The CBC reader accepts rising packet IDs only; the GCM reader has no such check.
-/
namespace ResidentialIPManager.MiniVPN
open Bytes Text
open Tunnel (Fault Compression)

/-- The reader has the writer's keys and settings. -/
structure Paired (w r : DataChannel) : Prop where
  dataCipher_eq : r.dataCipher = w.dataCipher
  hash_eq : r.hash = w.hash
  compress_eq : r.compress = w.compress
  cipherKey_eq : r.cipherKeyRemote = w.cipherKeyLocal
  hmacKey_eq : r.hmacKeyRemote = w.hmacKeyLocal
  keyID_eq : r.session.keyID = w.session.keyID
  peerID_eq : r.session.tunnelInfo.peerID = w.session.tunnelInfo.peerID

def DataChannel.send (prims : Primitives) (iv : List.Vector UInt8 16) (d : DataChannel)
    (payload : List UInt8) : Except Fault (List UInt8) × DataChannel :=
  match d.writePacket prims iv payload with
  | (.error err, d) => (.error err, d)
  | (.ok packet, d) => (packet.bytes.mapError Fault.error, d)

/-- The packet ID of the next write without AEAD, and the state after it. -/
def DataChannel.writeID (d : DataChannel) : PacketID :=
  if d.session.localDataPacketID = Manager.maxPacketID then 0 else d.session.localDataPacketID

def DataChannel.advanced (d : DataChannel) : DataChannel :=
  if d.session.localDataPacketID = Manager.maxPacketID then d
  else { d with session := { d.session with
    localDataPacketID := d.session.localDataPacketID + 1 } }

section CBC
variable (prims : Primitives) (iv : List.Vector UInt8 16) {d : DataChannel}

theorem numbered_cbc (hmode : d.dataCipher.mode = .cbc) (payload : List UInt8) :
    d.numbered payload = (uint32Bytes d.writeID ++ payload, d.advanced) := by
  have hnot : d.dataCipher.isAEAD = false := by simp [DataCipher.isAEAD, hmode]
  unfold DataChannel.numbered Manager.nextDataPacketID DataChannel.writeID DataChannel.advanced
  by_cases hmax : d.session.localDataPacketID = Manager.maxPacketID
  · simp [hnot, hmax]
  · simp [hnot, hmax]

@[simp] theorem advanced_dataCipher : d.advanced.dataCipher = d.dataCipher := by
  unfold DataChannel.advanced
  split_ifs <;> rfl

@[simp] theorem advanced_compress : d.advanced.compress = d.compress := by
  unfold DataChannel.advanced
  split_ifs <;> rfl

def cbcCiphertext (d : DataChannel) (plaintext : List UInt8) : List UInt8 :=
  prims.cbcEncrypt (d.cipherKeyLocal.toList.take d.dataCipher.ksb) iv.toList plaintext

/-- What a packet carries behind its header: the HMAC, the IV and the ciphertext. -/
def cbcBody (d : DataChannel) (plaintext : List UInt8) : List UInt8 :=
  d.hmacLocal prims (iv.toList ++ cbcCiphertext prims iv d plaintext) ++
    (iv.toList ++ cbcCiphertext prims iv d plaintext)

theorem encode_cbc (hmode : d.dataCipher.mode = .cbc) {padded : List UInt8}
    (hpadded : padded.length % 16 = 0) :
    d.encryptAndEncodePayloadNonAEAD prims iv padded =
      (.ok ((if d.session.tunnelInfo.usePeerID then d.header else []) ++
        cbcBody prims iv d padded), d) := by
  have hiv : ¬ iv.toList.length ≠ blockSize := by simp [blockSize]
  have htext : ¬ padded.length % blockSize ≠ 0 := by simpa [blockSize] using hpadded
  unfold DataChannel.encryptAndEncodePayloadNonAEAD DataCipher.encrypt
  simp only [hmode, if_neg hiv, if_neg htext, cbcBody, cbcCiphertext, List.append_assoc]

theorem send_cbc (hmode : d.dataCipher.mode = .cbc) {payload plain padded : List UInt8}
    (hcompress : doCompress (uint32Bytes d.writeID ++ payload) d.compress = .ok plain)
    (hne : plain ≠ []) (hpad : doPadding plain d.compress blockSize = .ok padded)
    (hlen : padded.length % 16 = 0) :
    ∃ raw p, d.send prims iv payload = (.ok raw, d.advanced) ∧ parsePacket raw = .ok p ∧
      p.opcode.isData = true ∧ p.payload = cbcBody prims iv d.advanced padded := by
  have hnot : d.advanced.dataCipher.isAEAD = false := by simp [DataCipher.isAEAD, hmode]
  have hencode := encode_cbc prims iv (d := d.advanced) (by simpa using hmode) hlen
  have hpayload : d.advanced.encryptAndEncodePayload prims iv plain =
      (.ok ((if d.advanced.session.tunnelInfo.usePeerID then d.advanced.header else []) ++
        cbcBody prims iv d.advanced padded), d.advanced) := by
    unfold DataChannel.encryptAndEncodePayload
    rw [if_neg hne, advanced_compress, hpad]
    simp only [hnot, Bool.false_eq_true, if_false, hencode]
    rfl
  unfold DataChannel.send DataChannel.writePacket
  simp only [numbered_cbc hmode, advanced_compress, hcompress, hpayload, hnot, Bool.false_or]
  by_cases hpeer : d.advanced.session.tunnelInfo.usePeerID = true
  · obtain ⟨p, hp, hop, hbody⟩ := parsePacket_dataV2 d.advanced.session.keyID
      d.advanced.peerIDBytes (cbcBody prims iv d.advanced padded)
    simp only [hpeer, if_true]
    exact ⟨_, p, rfl, hp, by rw [hop]; decide, hbody⟩
  · have hne : cbcBody prims iv d.advanced padded ≠ [] := by
      intro h
      have := congrArg List.length h
      simp [cbcBody] at this
    obtain ⟨p, hp, hop, hbody⟩ := parsePacket_dataV1 d.advanced.session.keyID hne
    simp only [hpeer, Bool.false_eq_true, if_false, List.nil_append]
    exact ⟨_, p, rfl, hp, by rw [hop]; decide, hbody⟩

theorem decode_cbc (r : DataChannel) {mac ciphertext : List UInt8}
    (hmac : mac.length = r.hash.size) :
    r.decodeEncryptedPayloadNonAEAD prims (mac ++ (iv.toList ++ ciphertext)) =
      if r.hmacRemote prims (iv.toList ++ ciphertext) ≠ mac then .error nilDereference
      else .ok ⟨iv.toList, ciphertext, []⟩ := by
  have hlong : ¬ (mac ++ (iv.toList ++ ciphertext)).length < r.hash.size + blockSize := by
    simp only [List.length_append, hmac, List.Vector.toList_length, blockSize]
    omega
  have hiv : ((mac ++ (iv.toList ++ ciphertext)).drop r.hash.size).take blockSize = iv.toList := by
    rw [List.drop_left' hmac, List.take_left' (by simp [blockSize])]
  have hdrop : (mac ++ (iv.toList ++ ciphertext)).drop (r.hash.size + blockSize) = ciphertext := by
    rw [← List.append_assoc, List.drop_left' (by simp [hmac, blockSize])]
  unfold DataChannel.decodeEncryptedPayloadNonAEAD
  rw [if_neg hlong, List.take_left' hmac, hiv, hdrop]

theorem decrypt_cbcBody {w r : DataChannel} (hmode : w.dataCipher.mode = .cbc)
    (hpair : Paired w r) {padded : List UInt8} (hne : padded ≠ [])
    (hlen : padded.length % 16 = 0) :
    r.decrypt prims (cbcBody prims iv w padded) =
      (bytesUnpadPKCS7 padded blockSize).mapError (Fault.wrap "cannot decrypt") := by
  have hnot : r.dataCipher.isAEAD = false := by
    simp [DataCipher.isAEAD, hpair.dataCipher_eq, hmode]
  have hmac : ∀ message, r.hmacRemote prims message = w.hmacLocal prims message := fun message => by
    rw [DataChannel.hmacRemote, DataChannel.hmacLocal, hpair.hash_eq, hpair.hmacKey_eq]
  have hmaclen : ∀ message, (w.hmacLocal prims message).length = r.hash.size := fun message => by
    rw [DataChannel.hmacLocal, prims.length_hmac, hpair.hash_eq]
  have hdecode : r.decodeEncryptedPayloadNonAEAD prims (cbcBody prims iv w padded) =
      .ok ⟨iv.toList, cbcCiphertext prims iv w padded, []⟩ := by
    rw [cbcBody, decode_cbc prims iv r (hmaclen _), hmac, if_neg (not_not.mpr rfl)]
  have hct : (cbcCiphertext prims iv w padded).length = padded.length :=
    prims.length_cbcEncrypt _ _ _
  have htext : cbcCiphertext prims iv w padded ≠ [] := by
    intro hnil
    rw [hnil] at hct
    exact hne (List.length_eq_zero_iff.mp hct.symm)
  have hiv : ¬ iv.toList.length ≠ blockSize := by simp [blockSize]
  have hblocks : ¬ (cbcCiphertext prims iv w padded).length % blockSize ≠ 0 := by
    simpa [hct, blockSize] using hlen
  unfold DataChannel.decrypt
  simp only [hnot, Bool.false_eq_true, if_false, hdecode, if_neg htext]
  simp only [DataCipher.decrypt, hpair.dataCipher_eq, hmode, if_neg hiv, if_neg hblocks,
    hpair.cipherKey_eq]
  rw [cbcCiphertext, prims.cbcDecrypt_cbcEncrypt _ _ _ (by simp) hlen]

def DataChannel.sawID (r : DataChannel) (id : PacketID) : DataChannel :=
  { r with remotePacketID := id }

theorem paired_advanced {w r : DataChannel} (h : Paired w r) : Paired w.advanced r := by
  unfold DataChannel.advanced
  split_ifs
  · exact h
  · exact ⟨h.dataCipher_eq, h.hash_eq, h.compress_eq, h.cipherKey_eq, h.hmacKey_eq, h.keyID_eq,
      h.peerID_eq⟩

theorem readPacket_of_decrypt {r : DataChannel} {p : Packet} {b : Slice}
    (hdata : p.opcode.isData = true) (hpayload : p.payload ≠ [])
    (h : r.decrypt prims p.payload = .ok b) : r.readPacket prims p = r.maybeDecompress b := by
  have hnotData : ¬ p.opcode.isData = false := by simp [hdata]
  unfold DataChannel.readPacket
  rw [if_neg hpayload, if_neg hnotData, h]

/-- What the reader does with a plaintext that starts with an ID. -/
theorem maybeDecompress_cbc {r : DataChannel} (hmode : r.dataCipher.mode = .cbc)
    (id : PacketID) (rest behind : List UInt8) :
    r.maybeDecompress ⟨uint32Bytes id ++ rest, behind⟩ =
      if r.remotePacketID = Manager.maxPacketID then (.error (.error (lit "key is expired")), r)
      else if id ≤ r.remotePacketID then (.error (.error (lit "replay attack")), r)
      else (do
        let (compr, payload) ← DataChannel.splitCompressed rest r.compress
        DataChannel.unframe compr payload, r.sawID id) := by
  have hnot : r.dataCipher.isAEAD = false := by simp [DataCipher.isAEAD, hmode]
  have hlong : ¬ ((uint32Bytes id ++ rest) ++ behind).length < 4 := by
    simp only [List.length_append, length_uint32Bytes]
    omega
  have hid : uint32Of (((uint32Bytes id ++ rest) ++ behind).take 4) = id := by
    rw [List.append_assoc, List.take_left' (length_uint32Bytes _), uint32Of_uint32Bytes]
  have hshort : ¬ (uint32Bytes id ++ rest).length < 4 := by simp
  unfold DataChannel.maybeDecompress
  simp only [hnot, Bool.false_eq_true, if_false, if_neg hlong, hid, if_neg hshort,
    List.drop_left' (length_uint32Bytes _)]
  rfl

theorem cbcBody_ne_nil (d : DataChannel) (padded : List UInt8) : cbcBody prims iv d padded ≠ [] := by
  intro h
  have := congrArg List.length h
  simp [cbcBody] at this

theorem uint32Bytes_append_ne_nil (id : PacketID) (rest : List UInt8) :
    uint32Bytes id ++ rest ≠ [] := by
  intro h
  have := congrArg List.length h
  simp at this

/-- A datagram goes through: what was padded is what is unpadded. -/
theorem read_send_padded {w : DataChannel} (hmode : w.dataCipher.mode = .cbc)
    {payload plain padded : List UInt8}
    (hcompress : doCompress (uint32Bytes w.writeID ++ payload) w.compress = .ok plain)
    (hne : plain ≠ []) (hpad : doPadding plain w.compress blockSize = .ok padded)
    (hpadded : padded ≠ []) (hlen : padded.length % 16 = 0) :
    ∃ raw, w.send prims iv payload = (.ok raw, w.advanced) ∧
      ∀ r, Paired w r → ∃ p, parsePacket raw = .ok p ∧ p.opcode.isData = true ∧
        r.readPacket prims p =
          match bytesUnpadPKCS7 padded blockSize with
          | .error err => (.error (Fault.wrap "cannot decrypt" err), r)
          | .ok b => r.maybeDecompress b := by
  obtain ⟨raw, p, hsend, hp, hdata, hbody⟩ := send_cbc prims iv hmode hcompress hne hpad hlen
  refine ⟨raw, hsend, fun r hpair => ⟨p, hp, hdata, ?_⟩⟩
  have hpayload : p.payload ≠ [] := hbody ▸ cbcBody_ne_nil prims iv _ _
  have hdecrypt := decrypt_cbcBody prims iv (by simpa using hmode) (paired_advanced hpair) hpadded
    hlen
  rw [← hbody] at hdecrypt
  cases hunpad : bytesUnpadPKCS7 padded blockSize with
  | error err =>
    have hnotData : ¬ p.opcode.isData = false := by simp [hdata]
    rw [hunpad] at hdecrypt
    unfold DataChannel.readPacket
    rw [if_neg hpayload, if_neg hnotData, hdecrypt]
    rfl
  | ok b =>
    rw [hunpad] at hdecrypt
    exact readPacket_of_decrypt prims hdata hpayload hdecrypt

theorem doPadding_eq {plain : List UInt8} (hplain : plain ≠ []) (compress : Compression)
    (hcompress : compress ≠ .stub) :
    doPadding plain compress blockSize = .ok (plain ++ padding plain.length) := by
  obtain ⟨last, hlast⟩ := Option.ne_none_iff_exists'.mp
    (mt List.getLast?_eq_none_iff.mp hplain)
  unfold doPadding
  rw [hlast]
  simp only [if_neg hcompress]
  exact bytesPadPKCS7_eq _

theorem length_append_padding (plain : List UInt8) :
    (plain ++ padding plain.length).length % 16 = 0 := by
  rw [List.length_append, length_padding]
  exact (padSize_bounds _).2.2

/-- Without compression a datagram is read as what was written, unless its ID is not above the
last one. -/
theorem read_send_cbc {w : DataChannel} (hmode : w.dataCipher.mode = .cbc)
    (hempty : w.compress = .empty) (payload : List UInt8) :
    ∃ raw, w.send prims iv payload = (.ok raw, w.advanced) ∧
      ∀ r, Paired w r → ∃ p, parsePacket raw = .ok p ∧ p.opcode.isData = true ∧
        r.readPacket prims p =
          if r.remotePacketID = Manager.maxPacketID then
            (.error (.error (lit "key is expired")), r)
          else if w.writeID ≤ r.remotePacketID then (.error (.error (lit "replay attack")), r)
          else (.ok payload, r.sawID w.writeID) := by
  have hplain := uint32Bytes_append_ne_nil w.writeID payload
  have hpad := doPadding_eq hplain w.compress (by rw [hempty]; decide)
  obtain ⟨raw, hsend, hread⟩ := read_send_padded prims iv hmode (by rw [hempty]; rfl) hplain hpad
    (List.append_ne_nil_of_left_ne_nil hplain _) (length_append_padding _)
  refine ⟨raw, hsend, fun r hpair => ?_⟩
  obtain ⟨p, hp, hdata, hpacket⟩ := hread r hpair
  refine ⟨p, hp, hdata, ?_⟩
  rw [bytesUnpadPKCS7_append_padding] at hpacket
  rw [hpacket]
  simp only [maybeDecompress_cbc (hpair.dataCipher_eq ▸ hmode), hpair.compress_eq, hempty]
  rfl

end CBC

/-! ## GCM -/

section GCM
variable (prims : Primitives) {d : DataChannel}

/-- A sealed plaintext: the nonce is the ID with eight bytes of a key behind it. -/
def gcmSealed (d : DataChannel) (id : PacketID) (padded : List UInt8) : List UInt8 :=
  prims.gcmSeal (d.cipherKeyLocal.toList.take d.dataCipher.ksb)
    (uint32Bytes id ++ d.hmacKeyLocal.toList.take 8) padded (d.header ++ uint32Bytes id)

def gcmBody (d : DataChannel) (id : PacketID) (padded : List UInt8) : List UInt8 :=
  uint32Bytes id ++ ((gcmSealed prims d id padded).drop padded.length ++
    (gcmSealed prims d id padded).take padded.length)

theorem length_gcmSealed (d : DataChannel) (id : PacketID) (padded : List UInt8) :
    (gcmSealed prims d id padded).length = padded.length + 16 := prims.length_gcmSeal _ _ _ _

theorem encode_gcm (hmode : d.dataCipher.mode = .gcm)
    (hmax : d.session.localDataPacketID ≠ Manager.maxPacketID) (padded : List UInt8) :
    d.encryptAndEncodePayloadAEAD prims padded =
      (.ok (d.header ++ gcmBody prims d d.session.localDataPacketID padded), d.advanced) := by
  have hnext : d.session.nextDataPacketID = .ok (d.session.localDataPacketID,
      { d.session with localDataPacketID := d.session.localDataPacketID + 1 }) := if_neg hmax
  have hiv : ¬ (uint32Bytes d.session.localDataPacketID ++
      d.hmacKeyLocal.toList.take 8).length ≠ 12 := by
    simp
  let ciphertext := gcmSealed prims d d.session.localDataPacketID padded
  have hboundary : ciphertext.length - 16 = padded.length := by
    simp [ciphertext, length_gcmSealed]
  unfold DataChannel.encryptAndEncodePayloadAEAD DataCipher.encrypt
  rw [hnext]
  simp only [hmode, if_neg hiv]
  rw [DataChannel.advanced, if_neg hmax]
  change (Except.ok (d.header ++ uint32Bytes d.session.localDataPacketID ++
    ciphertext.drop (ciphertext.length - 16) ++ ciphertext.take (ciphertext.length - 16)), _) = _
  rw [hboundary, List.append_assoc, List.append_assoc]
  rfl

theorem send_gcm (hmode : d.dataCipher.mode = .gcm) (iv : List.Vector UInt8 16)
    (hmax : d.session.localDataPacketID ≠ Manager.maxPacketID)
    {payload plain padded : List UInt8} (hcompress : doCompress payload d.compress = .ok plain)
    (hne : plain ≠ []) (hpad : doPadding plain d.compress blockSize = .ok padded) :
    d.send prims iv payload =
      (.ok (d.header ++ gcmBody prims d d.session.localDataPacketID padded), d.advanced) := by
  have haead : d.dataCipher.isAEAD = true := by simp [DataCipher.isAEAD, hmode]
  have hpayload : d.encryptAndEncodePayload prims iv plain =
      (.ok (d.header ++ gcmBody prims d d.session.localDataPacketID padded), d.advanced) := by
    unfold DataChannel.encryptAndEncodePayload
    rw [if_neg hne, hpad]
    simp only [haead, if_true, encode_gcm prims hmode hmax]
    rfl
  unfold DataChannel.send DataChannel.writePacket DataChannel.numbered
  simp only [haead, if_true, hcompress, hpayload, advanced_dataCipher, Bool.true_or]
  rfl

def Framed (compress : Compression) (payload padded : List UInt8) : Prop :=
  ∃ plain, doCompress payload compress = .ok plain ∧ plain ≠ [] ∧
    doPadding plain compress blockSize = .ok padded

/-- A write makes a datagram and uses up an ID, or it does neither. -/
theorem send_gcm_cases (hmode : d.dataCipher.mode = .gcm) (iv : List.Vector UInt8 16)
    (payload : List UInt8) :
    (∃ err, d.send prims iv payload = (.error err, d)) ∨
      d.session.localDataPacketID ≠ Manager.maxPacketID ∧ ∃ padded,
        Framed d.compress payload padded ∧ d.send prims iv payload =
          (.ok (d.header ++ gcmBody prims d d.session.localDataPacketID padded), d.advanced) := by
  have haead : d.dataCipher.isAEAD = true := by simp [DataCipher.isAEAD, hmode]
  have hsend : (∃ err, d.writePacket prims iv payload = (.error err, d)) →
      ∃ err, d.send prims iv payload = (.error err, d) := fun ⟨err, h⟩ =>
    ⟨err, by rw [DataChannel.send, h]⟩
  cases hcompress : doCompress payload d.compress with
  | error err =>
    refine .inl (hsend ?_)
    simp only [DataChannel.writePacket, DataChannel.numbered, haead, if_true, hcompress]
    exact ⟨_, rfl⟩
  | ok plain =>
    by_cases hne : plain = []
    · refine .inl (hsend ?_)
      simp only [DataChannel.writePacket, DataChannel.numbered, haead, if_true, hcompress,
        DataChannel.encryptAndEncodePayload, if_pos hne]
      exact ⟨_, rfl⟩
    cases hpad : doPadding plain d.compress blockSize with
    | error err =>
      refine .inl (hsend ?_)
      simp only [DataChannel.writePacket, DataChannel.numbered, haead, if_true, hcompress,
        DataChannel.encryptAndEncodePayload, if_neg hne, hpad]
      exact ⟨_, rfl⟩
    | ok padded =>
      by_cases hmax : d.session.localDataPacketID = Manager.maxPacketID
      · have hnext : d.session.nextDataPacketID = .error .expiredKey := if_pos hmax
        refine .inl (hsend ?_)
        simp only [DataChannel.writePacket, DataChannel.numbered, haead, if_true, hcompress,
          DataChannel.encryptAndEncodePayload, if_neg hne, hpad,
          DataChannel.encryptAndEncodePayloadAEAD, hnext]
        exact ⟨_, rfl⟩
      · exact .inr ⟨hmax, padded, ⟨plain, hcompress, hne, hpad⟩,
          send_gcm prims hmode iv hmax hcompress hne hpad⟩

theorem read_gcm {w r : DataChannel} (hmode : w.dataCipher.mode = .gcm) (hpair : Paired w r)
    (id : PacketID) (padded : List UInt8) :
    ∃ p, parsePacket (w.header ++ gcmBody prims w id padded) = .ok p ∧ p.opcode = .dataV2 ∧
      r.readPacket prims p = r.maybeDecompress ⟨padded, []⟩ := by
  obtain ⟨p, hp, hop, hbody⟩ := parsePacket_dataV2 w.session.keyID w.peerIDBytes
    (gcmBody prims w id padded)
  refine ⟨p, hp, hop, ?_⟩
  have hdata : p.opcode.isData = true := by rw [hop]; decide
  have hpayload : p.payload ≠ [] := hbody ▸ uint32Bytes_append_ne_nil _ _
  have haead : r.dataCipher.isAEAD = true := by
    simp [DataCipher.isAEAD, hpair.dataCipher_eq, hmode]
  have hheader : r.header = w.header := by
    rw [DataChannel.header, DataChannel.header, DataChannel.peerIDBytes, DataChannel.peerIDBytes,
      hpair.keyID_eq, hpair.peerID_eq]
  have hsealed := length_gcmSealed prims w id padded
  -- the parts of the body
  have htag : ((gcmSealed prims w id padded).drop padded.length).length = 16 := by
    rw [List.length_drop, hsealed]
    omega
  have hlong : ¬ (gcmBody prims w id padded).length < 20 := by
    simp only [gcmBody, List.length_append, length_uint32Bytes, htag]
    omega
  have hid : (gcmBody prims w id padded).take 4 = uint32Bytes id :=
    List.take_left' (length_uint32Bytes _)
  have htake : ((gcmBody prims w id padded).drop 4).take 16 =
      (gcmSealed prims w id padded).drop padded.length := by
    rw [gcmBody, List.drop_left' (length_uint32Bytes _), List.take_left' htag]
  have hdrop : (gcmBody prims w id padded).drop 20 =
      (gcmSealed prims w id padded).take padded.length := by
    rw [gcmBody, ← List.append_assoc, List.drop_left' (by simp [htag])]
  have hdecode : r.decodeEncryptedPayloadAEAD (gcmBody prims w id padded) = .ok
      { iv := uint32Bytes id ++ w.hmacKeyLocal.toList.take 8
        text := gcmSealed prims w id padded
        aead := w.header ++ uint32Bytes id } := by
    unfold DataChannel.decodeEncryptedPayloadAEAD
    rw [if_neg hlong, hid, htake, hdrop, hheader, hpair.hmacKey_eq, List.take_append_drop]
  have htext : gcmSealed prims w id padded ≠ [] := by
    intro hnil
    rw [hnil] at hsealed
    simp at hsealed
  have hiv : ¬ (uint32Bytes id ++ w.hmacKeyLocal.toList.take 8).length ≠ 12 := by simp
  refine readPacket_of_decrypt prims hdata hpayload ?_
  unfold DataChannel.decrypt
  simp only [haead, if_true, hbody, hdecode, if_neg htext]
  simp only [DataCipher.decrypt, hpair.dataCipher_eq, hmode, if_neg hiv, hpair.cipherKey_eq,
    gcmSealed, prims.gcmOpen_gcmSeal]
  rfl

/-- What comes out in GCM mode: the padding stays on, and of the stub's padding one byte less. -/
def deliveredGCM : Compression → List UInt8 → List UInt8
  | .empty, payload => payload ++ padding payload.length
  | .lzoNo, payload => payload ++ padding (payload.length + 1)
  | .stub, payload => payload ++ (padding payload.length).dropLast

theorem padding_ne_nil (n : Nat) : padding n ≠ [] := by
  intro hnil
  have := congrArg List.length hnil
  rw [length_padding] at this
  exact (padSize_bounds _).1.ne' this

theorem Framed.unframe {compress : Compression} {payload padded : List UInt8}
    (h : Framed compress payload padded) :
    (do
      let (compr, payload) ← DataChannel.splitCompressed padded compress
      DataChannel.unframe compr payload) = .ok (deliveredGCM compress payload) := by
  obtain ⟨plain, hcompress, hne, hpad⟩ := h
  cases compress with
  | empty =>
    obtain rfl := Except.ok.inj hcompress
    rw [doPadding_eq hne _ (by decide)] at hpad
    obtain rfl := Except.ok.inj hpad
    rfl
  | lzoNo =>
    obtain rfl := Except.ok.inj hcompress
    rw [doPadding_eq hne _ (by decide)] at hpad
    obtain rfl := Except.ok.inj hpad
    rfl
  | stub =>
    cases payload with
    | nil => cases hcompress
    | cons first rest =>
      obtain rfl := Except.ok.inj hcompress
      have hdrop : (0xfb :: rest ++ padding (rest.length + 1)).dropLast =
          0xfb :: (rest ++ (padding (rest.length + 1)).dropLast) := by
        rw [List.dropLast_append_of_ne_nil (padding_ne_nil _)]
        rfl
      unfold doPadding at hpad
      rw [List.getLast?_concat, List.dropLast_concat] at hpad
      simp only [if_true, bytesPadPKCS7_eq, List.length_cons] at hpad
      change Except.ok ((0xfb :: rest ++ padding (rest.length + 1)).dropLast ++ [first]) = _ at hpad
      rw [hdrop] at hpad
      obtain rfl := Except.ok.inj hpad
      change DataChannel.unframe 0xfb (rest ++ (padding (rest.length + 1)).dropLast ++ [first]) = _
      unfold DataChannel.unframe
      rw [if_pos rfl, List.getLast?_concat, List.dropLast_concat]
      rfl

/-- In GCM mode a datagram is read as what was written with the padding behind it, any number
of times. -/
theorem read_framed_gcm {w : DataChannel} (hmode : w.dataCipher.mode = .gcm) (id : PacketID)
    {payload padded : List UInt8} (hframed : Framed w.compress payload padded) {r : DataChannel}
    (hpair : Paired w r) :
    ∃ p, parsePacket (w.header ++ gcmBody prims w id padded) = .ok p ∧ p.opcode = .dataV2 ∧
      r.readPacket prims p = (.ok (deliveredGCM w.compress payload), r) := by
  obtain ⟨p, hp, hop, hpacket⟩ := read_gcm prims hmode hpair id padded
  refine ⟨p, hp, hop, hpacket.trans ?_⟩
  have haead : r.dataCipher.isAEAD = true := by
    simp [DataCipher.isAEAD, hpair.dataCipher_eq, hmode]
  unfold DataChannel.maybeDecompress
  simp only [haead, if_true, hpair.compress_eq]
  rw [← hframed.unframe]

end GCM

end ResidentialIPManager.MiniVPN
