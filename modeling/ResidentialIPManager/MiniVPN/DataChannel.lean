import ResidentialIPManager.MiniVPN.Session
import ResidentialIPManager.Text.Address
import ResidentialIPManager.Tunnel.ProfileReader

/-! # The data channel

`writePacket` and `readPacket` of the data channel, in the two modes of AES. In CBC mode a
packet ID goes in front of the plaintext, which is padded, encrypted and authenticated by an
HMAC. In GCM mode the ID is part of the nonce and of the authenticated header. The reader
panics where the source does: it logs a bad HMAC to a logger that nobody sets, and it expects
that what it decrypts is long enough.
-/
namespace ResidentialIPManager.MiniVPN
open Bytes Text
open Tunnel (Fault Compression)

/-! ## Ciphers and hashes -/

inductive CipherMode where
  | cbc
  | gcm
  deriving DecidableEq, Repr

/-- `dataCipherAES`: the size of the key in bytes, and the mode. -/
structure DataCipher where
  ksb : Nat
  mode : CipherMode
  deriving DecidableEq, Repr

def DataCipher.isAEAD (c : DataCipher) : Bool := decide (c.mode ≠ .cbc)

def blockSize : Nat := 16

inductive Hash where
  | sha1
  | sha256
  | sha512
  deriving DecidableEq, Repr

def Hash.size : Hash → Nat
  | .sha1 => 20
  | .sha256 => 32
  | .sha512 => 64

/-- The functions of the Go library, with what the data channel needs of them: decryption
undoes encryption, and the lengths are right. -/
structure Primitives where
  cbcEncrypt : (key iv plaintext : List UInt8) → List UInt8
  cbcDecrypt : (key iv ciphertext : List UInt8) → List UInt8
  gcmSeal : (key nonce plaintext aad : List UInt8) → List UInt8
  gcmOpen : (key nonce ciphertext aad : List UInt8) → Option (List UInt8)
  hmac : Hash → (key message : List UInt8) → List UInt8
  length_cbcEncrypt : ∀ key iv plaintext, (cbcEncrypt key iv plaintext).length = plaintext.length
  length_cbcDecrypt : ∀ key iv ciphertext,
    (cbcDecrypt key iv ciphertext).length = ciphertext.length
  cbcDecrypt_cbcEncrypt : ∀ key iv plaintext, iv.length = 16 → plaintext.length % 16 = 0 →
    cbcDecrypt key iv (cbcEncrypt key iv plaintext) = plaintext
  length_gcmSeal : ∀ key nonce plaintext aad,
    (gcmSeal key nonce plaintext aad).length = plaintext.length + 16
  gcmOpen_gcmSeal : ∀ key nonce plaintext aad,
    gcmOpen key nonce (gcmSeal key nonce plaintext aad) aad = some plaintext
  length_hmac : ∀ hash key message, (hmac hash key message).length = hash.size

/-! ## Padding and compression -/

def bytesPadPKCS7 (b : List UInt8) (blockSize : Nat) : Except Fault (List UInt8) :=
  if blockSize = 0 then .error (.crash (lit "blocksize cannot be negative or zero"))
  else if 255 < blockSize then .error (.error (lit "PKCS#7 padding error"))
  else
    let psiz := blockSize - b.length % blockSize
    .ok (b ++ List.replicate psiz (UInt8.ofNat psiz))

/-- A slice, with what its array holds behind it: a slice can be extended over it. -/
structure Slice where
  elems : List UInt8
  behind : List UInt8
  deriving DecidableEq, Repr

def unpadError (message : GoString) : Fault :=
  .error (lit "PKCS#7 unpadding error: " ++ message)

/-- `BytesUnpadPKCS7`. It reads the size of the padding from the last byte and does not look
at the others. -/
def bytesUnpadPKCS7 (b : List UInt8) (blockSize : Nat) : Except Fault Slice :=
  if 255 < blockSize then .error (unpadError (lit "blockSize too large"))
  else match b.getLast? with
    | none => .error (unpadError (lit "passed empty buffer"))
    | some last =>
      let psiz := last.toNat
      if psiz = 0 then .error (unpadError (lit "padding size cannot be zero"))
      else if blockSize < psiz then
        .error (unpadError (lit "padding size cannot be larger than blockSize"))
      else if b.length < psiz then .error (.crash (lit "off is out of bounds"))
      else .ok ⟨b.take (b.length - psiz), b.drop (b.length - psiz)⟩

/-- `doCompress`. The stub sends the first byte to the end and marks its place. -/
def doCompress (b : List UInt8) : Compression → Except Fault (List UInt8)
  | .stub => match b with
    | [] => .error (.crash (lit "runtime error: index out of range [0] with length 0"))
    | first :: rest => .ok (0xfb :: rest ++ [first])
  | .lzoNo => .ok (0xfa :: b)
  | .empty => .ok b

/-- `doPadding`. With the stub the last byte takes the place of the last byte of the
padding. -/
def doPadding (b : List UInt8) (compress : Compression) (blockSize : Nat) :
    Except Fault (List UInt8) :=
  match b.getLast? with
  | none => .error (.error (lit "padding error: nothing to pad"))
  | some endByte =>
    if compress = .stub then do
      let padded ← bytesPadPKCS7 b.dropLast blockSize
      return padded.dropLast ++ [endByte]
    else bytesPadPKCS7 b blockSize

/-! ## State -/

abbrev KeySlot := List.Vector UInt8 64

structure DataChannel where
  dataCipher : DataCipher
  hash : Hash
  compress : Compression
  session : Manager
  cipherKeyLocal : KeySlot
  cipherKeyRemote : KeySlot
  hmacKeyLocal : KeySlot
  hmacKeyRemote : KeySlot
  remotePacketID : PacketID := 0

/-- `plaintextData` and `encryptedData`. -/
structure CryptData where
  iv : List UInt8
  text : List UInt8
  aead : List UInt8

def uint24Bytes (v : UInt32) : List UInt8 := (uint32Bytes v).drop 1

@[simp] theorem length_uint24Bytes (v : UInt32) : (uint24Bytes v).length = 3 := by
  simp [uint24Bytes]

namespace DataChannel

def peerIDBytes (d : DataChannel) : PeerID :=
  ⟨uint24Bytes (UInt32.ofInt d.session.tunnelInfo.peerID), length_uint24Bytes _⟩

/-- The opcode, key and peer ID in front of a `P_DATA_V2` packet. -/
def header (d : DataChannel) : List UInt8 :=
  headerByte .dataV2 d.session.keyID :: d.peerIDBytes.toList

/-- The key of the HMAC is as long as the hash. -/
def hmacLocal (prims : Primitives) (d : DataChannel) (message : List UInt8) : List UInt8 :=
  prims.hmac d.hash (d.hmacKeyLocal.toList.take d.hash.size) message

def hmacRemote (prims : Primitives) (d : DataChannel) (message : List UInt8) : List UInt8 :=
  prims.hmac d.hash (d.hmacKeyRemote.toList.take d.hash.size) message

end DataChannel

/-- `fmt.Errorf("%w: %s", prefix, err)`; a panic stays a panic. -/
def Fault.wrap (message : String) : Fault → Fault
  | .error err => .error (lit message ++ lit ": " ++ err)
  | .crash err => .crash err

def wrongIV (message : String) (iv : List UInt8) : Fault :=
  .error (lit message ++ lit ": wrong size for iv: " ++ itoa iv.length)

/-! ## Writing -/

/-- `dataCipherAES.encrypt`. The slot is longer than every key. -/
def DataCipher.encrypt (prims : Primitives) (c : DataCipher) (key : KeySlot) (data : CryptData) :
    Except Fault (List UInt8) :=
  match c.mode with
  | .cbc =>
    if data.iv.length ≠ blockSize then .error (wrongIV "cannot encrypt" data.iv)
    else if data.text.length % blockSize ≠ 0 then
      .error (.error (lit "cannot encrypt: wrong padding"))
    else .ok (prims.cbcEncrypt (key.toList.take c.ksb) data.iv data.text)
  | .gcm =>
    if data.iv.length ≠ 12 then .error (wrongIV "cannot encrypt" data.iv)
    else .ok (prims.gcmSeal (key.toList.take c.ksb) data.iv data.text data.aead)

namespace DataChannel

/-- `encryptAndEncodePayloadAEAD`. The tag goes in front of the ciphertext. -/
def encryptAndEncodePayloadAEAD (prims : Primitives) (d : DataChannel) (padded : List UInt8) :
    Except Fault (List UInt8) × DataChannel :=
  match d.session.nextDataPacketID with
  | .error _ => (.error (.error (lit "bad packet id")), d)
  | .ok (id, session) =>
    let d := { d with session }
    let aead := d.header ++ uint32Bytes id
    let iv := uint32Bytes id ++ d.hmacKeyLocal.toList.take 8
    match d.dataCipher.encrypt prims d.cipherKeyLocal ⟨iv, padded, aead⟩ with
    | .error err => (.error err, d)
    | .ok encrypted =>
      let boundary := encrypted.length - 16
      (.ok (aead ++ encrypted.drop boundary ++ encrypted.take boundary), d)

/-- `encryptAndEncodePayloadNonAEAD` with the random bytes that it gets. -/
def encryptAndEncodePayloadNonAEAD (prims : Primitives) (iv : List.Vector UInt8 16)
    (d : DataChannel) (padded : List UInt8) : Except Fault (List UInt8) × DataChannel :=
  match d.dataCipher.encrypt prims d.cipherKeyLocal ⟨iv.toList, padded, []⟩ with
  | .error err => (.error err, d)
  | .ok ciphertext =>
    let computedMAC := d.hmacLocal prims (iv.toList ++ ciphertext)
    let front := if d.session.tunnelInfo.usePeerID then d.header else []
    (.ok (front ++ computedMAC ++ iv.toList ++ ciphertext), d)

def encryptAndEncodePayload (prims : Primitives) (iv : List.Vector UInt8 16) (d : DataChannel)
    (plaintext : List UInt8) : Except Fault (List UInt8) × DataChannel :=
  if plaintext = [] then (.error (.error (lit "cannot encrypt: nothing to encrypt")), d)
  else match doPadding plaintext d.compress blockSize with
    | .error err => (.error (Fault.wrap "cannot encrypt" err), d)
    | .ok padded =>
      let (result, d) := if d.dataCipher.isAEAD then d.encryptAndEncodePayloadAEAD prims padded
        else d.encryptAndEncodePayloadNonAEAD prims iv padded
      (result.mapError (Fault.wrap "cannot encrypt"), d)

/-- What `writePacket` encrypts, before compression: without AEAD the packet ID goes in front.
An exhausted counter is not noticed here; the ID is then 0. -/
def numbered (d : DataChannel) (payload : List UInt8) : List UInt8 × DataChannel :=
  if d.dataCipher.isAEAD then (payload, d)
  else match d.session.nextDataPacketID with
    | .error _ => (uint32Bytes 0 ++ payload, d)
    | .ok (id, session) => (uint32Bytes id ++ payload, { d with session })

def writePacket (prims : Primitives) (iv : List.Vector UInt8 16) (d : DataChannel)
    (payload : List UInt8) : Except Fault Packet × DataChannel :=
  let (payload, d) := d.numbered payload
  match doCompress payload d.compress with
  | .error err => (.error (Fault.wrap "cannot encrypt" err), d)
  | .ok payload =>
    match d.encryptAndEncodePayload prims iv payload with
    | (.error err, d) => (.error (Fault.wrap "cannot encrypt" err), d)
    | (.ok encrypted, d) =>
      if d.dataCipher.isAEAD || d.session.tunnelInfo.usePeerID then
        (.ok { opcode := .dataV2, keyID := d.session.keyID, payload := encrypted,
               peerID := d.peerIDBytes }, d)
      else (.ok { opcode := .dataV1, keyID := d.session.keyID, payload := encrypted }, d)

end DataChannel

/-! ## Reading -/

def nilDereference : Fault :=
  .crash (lit "runtime error: invalid memory address or nil pointer dereference")

def outOfRange : Fault := .crash (lit "runtime error: slice bounds out of range")

/-- `dataCipherAES.decrypt`. `CryptBlocks` panics on a partial block. -/
def DataCipher.decrypt (prims : Primitives) (c : DataCipher) (key : KeySlot) (data : CryptData) :
    Except Fault Slice :=
  match c.mode with
  | .cbc =>
    if data.iv.length ≠ blockSize then .error (wrongIV "cannot decrypt" data.iv)
    else if data.text.length % blockSize ≠ 0 then
      .error (.crash (lit "crypto/cipher: input not full blocks"))
    else
      bytesUnpadPKCS7 (prims.cbcDecrypt (key.toList.take c.ksb) data.iv data.text) blockSize
  | .gcm =>
    if data.iv.length ≠ 12 then .error (wrongIV "cannot decrypt" data.iv)
    else match prims.gcmOpen (key.toList.take c.ksb) data.iv data.text data.aead with
      | none => .error (.error (lit "cipher: message authentication failed"))
      | some plaintext => .ok ⟨plaintext, []⟩

namespace DataChannel

def decodeEncryptedPayloadAEAD (d : DataChannel) (buf : List UInt8) : Except Fault CryptData :=
  if buf.length < 20 then .error (.error (lit "too short: " ++ itoa buf.length ++ lit " bytes"))
  else .ok {
    iv := buf.take 4 ++ d.hmacKeyRemote.toList.take 8
    text := buf.drop 20 ++ (buf.drop 4).take 16
    aead := d.header ++ buf.take 4 }

/-- `decodeEncryptedPayloadNonAEAD`. The logger that is told of a bad HMAC is nil. -/
def decodeEncryptedPayloadNonAEAD (prims : Primitives) (d : DataChannel) (buf : List UInt8) :
    Except Fault CryptData :=
  if buf.length < d.hash.size + blockSize then
    .error (.error (lit "cannot decode: too short (" ++ itoa buf.length ++ lit " bytes)"))
  else
    let receivedHMAC := buf.take d.hash.size
    let iv := (buf.drop d.hash.size).take blockSize
    let cipherText := buf.drop (d.hash.size + blockSize)
    if d.hmacRemote prims (iv ++ cipherText) ≠ receivedHMAC then .error nilDereference
    else .ok ⟨iv, cipherText, []⟩

def decrypt (prims : Primitives) (d : DataChannel) (encrypted : List UInt8) :
    Except Fault Slice :=
  let decoded := if d.dataCipher.isAEAD then d.decodeEncryptedPayloadAEAD encrypted
    else d.decodeEncryptedPayloadNonAEAD prims encrypted
  match decoded with
  | .error err => .error (Fault.wrap "cannot decrypt" err)
  | .ok data =>
    if data.text = [] then .error (.error (lit "cannot decrypt: nothing to decrypt"))
    else (d.dataCipher.decrypt prims d.cipherKeyRemote data).mapError (Fault.wrap "cannot decrypt")

/-- The byte that says how a payload is framed, if the option has one, and the payload. -/
def splitCompressed (b : List UInt8) : Compression → Except Fault (UInt8 × List UInt8)
  | .empty => .ok (0, b)
  | _ => match b with
    | [] => .error (.crash (lit "runtime error: index out of range"))
    | compr :: payload => .ok (compr, payload)

def unframe (compr : UInt8) (payload : List UInt8) : Except Fault (List UInt8) :=
  if compr = 0xfb then
    match payload.getLast? with
    | none => .error (.crash (lit "runtime error: index out of range [-1]"))
    | some last => .ok (last :: payload.dropLast)
  else if compr = 0 ∨ compr = 0xfa then .ok payload
  else .error (.error
    (lit "bad compression: cannot handle compression " ++ IP.hexGroup compr.toNat))

/-- `maybeDecompress`. Without AEAD the packet ID is read from the first four bytes of the
array, which may reach into the padding, and is stored before the rest is looked at. -/
def maybeDecompress (d : DataChannel) (b : Slice) : Except Fault (List UInt8) × DataChannel :=
  if d.dataCipher.isAEAD then
    (do
      let (compr, payload) ← splitCompressed b.elems d.compress
      unframe compr payload, d)
  else if (b.elems ++ b.behind).length < 4 then (.error outOfRange, d)
  else
    let remotePacketID := uint32Of ((b.elems ++ b.behind).take 4)
    if d.remotePacketID = Manager.maxPacketID then (.error (.error (lit "key is expired")), d)
    else if remotePacketID ≤ d.remotePacketID then (.error (.error (lit "replay attack")), d)
    else
      let d := { d with remotePacketID }
      if b.elems.length < 4 then (.error outOfRange, d)
      else
        (do
          let (compr, payload) ← splitCompressed (b.elems.drop 4) d.compress
          unframe compr payload, d)

def readPacket (prims : Primitives) (d : DataChannel) (p : Packet) :
    Except Fault (List UInt8) × DataChannel :=
  if p.payload = [] then (.error (.error (lit "cannot decrypt: empty payload")), d)
  else if p.opcode.isData = false then (.error (.crash (lit "ReadPacket expects data packet")), d)
  else match d.decrypt prims p.payload with
    | .error err => (.error err, d)
    | .ok plaintext => d.maybeDecompress plaintext

end DataChannel

/-! ## Padding and its inverse -/

/-- The size of the padding: a whole block where nothing is missing. -/
def padSize (n : Nat) : Nat := blockSize - n % blockSize

theorem padSize_bounds (n : Nat) : 0 < padSize n ∧ padSize n ≤ 16 ∧ (n + padSize n) % 16 = 0 := by
  unfold padSize blockSize
  omega

def padding (n : Nat) : List UInt8 := List.replicate (padSize n) (UInt8.ofNat (padSize n))

@[simp] theorem length_padding (n : Nat) : (padding n).length = padSize n := List.length_replicate

theorem bytesPadPKCS7_eq (b : List UInt8) :
    bytesPadPKCS7 b blockSize = .ok (b ++ padding b.length) := rfl

theorem getLast?_append_padding (b : List UInt8) (n : Nat) :
    (b ++ padding n).getLast? = some (UInt8.ofNat (padSize n)) := by
  obtain ⟨k, hk⟩ := Nat.exists_eq_succ_of_ne_zero (padSize_bounds n).1.ne'
  rw [padding, hk, List.replicate_succ', ← List.append_assoc, List.getLast?_concat]

theorem bytesUnpadPKCS7_append_padding (b : List UInt8) (n : Nat) :
    bytesUnpadPKCS7 (b ++ padding n) blockSize = .ok ⟨b, padding n⟩ := by
  obtain ⟨hpos, hle, -⟩ := padSize_bounds n
  have hsize : (UInt8.ofNat (padSize n)).toNat = padSize n := by
    rw [UInt8.toNat_ofNat']
    omega
  have hlen : (b ++ padding n).length - padSize n = b.length := by simp
  unfold bytesUnpadPKCS7
  rw [if_neg (by decide), getLast?_append_padding]
  simp only [hsize, hlen]
  rw [if_neg hpos.ne', if_neg (by unfold blockSize; omega), if_neg (by simp), List.take_left,
    List.drop_left]

/-! ## What a peer reads -/

section Parse

theorem headerByte_dataV2 (key : UInt8) : headerByte .dataV2 key >>> 3 = 9 := by
  have h : ∀ v : BitVec 8, (((9 : BitVec 8) <<< 3) ||| (v &&& 7)) >>> 3 = 9 := by decide
  exact UInt8.toBitVec_inj.mp (h key.toBitVec)

theorem headerByte_dataV1 (key : UInt8) : headerByte .dataV1 key >>> 3 = 6 := by
  have h : ∀ v : BitVec 8, (((6 : BitVec 8) <<< 3) ||| (v &&& 7)) >>> 3 = 6 := by decide
  exact UInt8.toBitVec_inj.mp (h key.toBitVec)

/-- Behind its header a `P_DATA_V2` packet has its payload. -/
theorem parsePacket_dataV2 (key : UInt8) (peer : PeerID) (body : List UInt8) :
    ∃ p, parsePacket (headerByte .dataV2 key :: (peer.toList ++ body)) = .ok p ∧
      p.opcode = .dataV2 ∧ p.payload = body := by
  have hread : readArray 3 (peer.toList ++ body) = .ok (peer, body) := readArray_eq_ok.mpr rfl
  have hop : (⟨9⟩ : Opcode) = .dataV2 := rfl
  obtain ⟨second, rest, hcons⟩ : ∃ second rest, peer.toList ++ body = second :: rest := by
    refine List.exists_cons_of_ne_nil fun hnil => ?_
    have := congrArg List.length hnil
    simp at this
  rw [hcons] at hread ⊢
  refine ⟨{ opcode := .dataV2, keyID := headerByte .dataV2 key &&& 7, peerID := peer,
            payload := body }, ?_, rfl, rfl⟩
  simp only [parsePacket, headerByte_dataV2]
  rw [if_pos hop, hread, hop]

theorem parsePacket_dataV1 (key : UInt8) {body : List UInt8} (hbody : body ≠ []) :
    ∃ p, parsePacket (headerByte .dataV1 key :: body) = .ok p ∧
      p.opcode = .dataV1 ∧ p.payload = body := by
  obtain ⟨second, rest, rfl⟩ := List.exists_cons_of_ne_nil hbody
  refine ⟨{ opcode := .dataV1, keyID := headerByte .dataV1 key &&& 7, payload := second :: rest },
    ?_, rfl, rfl⟩
  simp only [parsePacket, headerByte_dataV1]
  rw [if_neg (by decide), if_neg (by decide)]
  rfl

end Parse

end ResidentialIPManager.MiniVPN
