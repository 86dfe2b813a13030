import ResidentialIPManager.MiniVPN.DataFlow
import ResidentialIPManager.Sorting.Sorter

/-! # Streams of data packets

Any number of writes, and any sequence of the datagrams that came of them, repeated, reordered
and with gaps. In CBC mode what the reader delivers is in the order of the writes and without
repetition. In GCM mode every arrival is delivered. The nonces of GCM do not repeat.
-/
namespace ResidentialIPManager.MiniVPN
open Bytes Text Sorting
open Tunnel (Fault Compression)

/-- The muxer once the keys are there, and the body of the loop of `moveUpWorker`: a payload for
the device, nothing, or the panic of the worker. Payloads of 16 bytes are keepalives. -/
def moveUpData (prims : Primitives) (d : DataChannel) (raw : List UInt8) :
    Except GoString (Option (List UInt8)) × DataChannel :=
  match parsePacket raw with
  | .error _ => (.ok none, d)
  | .ok p =>
    if p.opcode.isReliable then (.ok none, d)
    else match d.readPacket prims p with
      | (.error (.crash message), d) => (.error message, d)
      | (.error (.error _), d) => (.ok none, d)
      | (.ok decrypted, d) => (.ok (if decrypted.length = 16 then none else some decrypted), d)

/-- The loop of `moveUpWorker`, until a panic ends the program. -/
def moveUpAll (prims : Primitives) (d : DataChannel) :
    List (List UInt8) → Except GoString (List (List UInt8)) × DataChannel
  | [] => (.ok [], d)
  | raw :: rest =>
    match moveUpData prims d raw with
    | (.error message, d) => (.error message, d)
    | (.ok delivered, d) =>
      let (result, d) := moveUpAll prims d rest
      (result.map (delivered.toList ++ ·), d)

/-- The loop of `moveDownWorker`: each payload comes with the random bytes that its encryption
draws. A payload that cannot be encrypted is dropped. -/
def moveDownAll (prims : Primitives) (d : DataChannel) :
    List (List.Vector UInt8 16 × List UInt8) → List (List UInt8) × DataChannel
  | [] => ([], d)
  | (iv, payload) :: rest =>
    match d.send prims iv payload with
    | (.error (.crash _), d) => ([], d)
    | (.error (.error _), d) => moveDownAll prims d rest
    | (.ok raw, d) =>
      let (raws, d) := moveDownAll prims d rest
      (raw :: raws, d)

/-- The datagrams of `moveDownAll`, each with the payload that it was made from. -/
def written (prims : Primitives) (d : DataChannel) :
    List (List.Vector UInt8 16 × List UInt8) → List (List UInt8 × List UInt8)
  | [] => []
  | (iv, payload) :: rest =>
    match d.send prims iv payload with
    | (.error (.crash _), _) => []
    | (.error (.error _), d) => written prims d rest
    | (.ok raw, d) => (raw, payload) :: written prims d rest

theorem written_fst (prims : Primitives) (d : DataChannel)
    (messages : List (List.Vector UInt8 16 × List UInt8)) :
    (written prims d messages).map Prod.fst = (moveDownAll prims d messages).1 := by
  induction messages generalizing d with
  | nil => rfl
  | cons message rest ih =>
    obtain ⟨iv, payload⟩ := message
    unfold written moveDownAll
    split <;> simp [ih]

/-! ## Concrete channels -/

def checksum (message : List UInt8) : UInt8 := message.foldl (fun acc b => acc * 31 + b + 7) 1

/-- As many checksums as are asked for, each of another message. -/
def checksums (n : Nat) (message : List UInt8) : List UInt8 :=
  (List.range n).map fun i => checksum (UInt8.ofNat i :: message)

def chainEncrypt (previous : UInt8) : List UInt8 → List UInt8
  | [] => []
  | b :: rest => (b + previous) :: chainEncrypt (b + previous) rest

def chainDecrypt (previous : UInt8) : List UInt8 → List UInt8
  | [] => []
  | c :: rest => (c - previous) :: chainDecrypt c rest

@[simp] theorem length_chainEncrypt (previous : UInt8) (b : List UInt8) :
    (chainEncrypt previous b).length = b.length := by
  induction b generalizing previous with
  | nil => rfl
  | cons first rest ih => simp [chainEncrypt, ih]

@[simp] theorem length_chainDecrypt (previous : UInt8) (b : List UInt8) :
    (chainDecrypt previous b).length = b.length := by
  induction b generalizing previous with
  | nil => rfl
  | cons first rest ih => simp [chainDecrypt, ih]

@[simp] theorem chainDecrypt_chainEncrypt (previous : UInt8) (b : List UInt8) :
    chainDecrypt previous (chainEncrypt previous b) = b := by
  induction b generalizing previous with
  | nil => rfl
  | cons first rest ih => simp [chainEncrypt, chainDecrypt, ih]

def checksumTag (key nonce ciphertext aad : List UInt8) : List UInt8 :=
  checksums 16 (key ++ nonce ++ aad ++ ciphertext)

/-- Small functions with the laws of the real ones: what they give depends on the key, on the
nonce or IV and on the data, and a changed tag is refused. -/
def checksummed : Primitives where
  cbcEncrypt key iv plaintext := chainEncrypt (checksum (key ++ iv)) plaintext
  cbcDecrypt key iv ciphertext := chainDecrypt (checksum (key ++ iv)) ciphertext
  gcmSeal key nonce plaintext aad :=
    let ciphertext := chainEncrypt (checksum (key ++ nonce)) plaintext
    ciphertext ++ checksumTag key nonce ciphertext aad
  gcmOpen key nonce sealed aad :=
    let ciphertext := sealed.take (sealed.length - 16)
    if sealed.drop (sealed.length - 16) = checksumTag key nonce ciphertext aad then
      some (chainDecrypt (checksum (key ++ nonce)) ciphertext)
    else none
  hmac hash key message := checksums hash.size (key ++ message)
  length_cbcEncrypt _ _ _ := length_chainEncrypt _ _
  length_cbcDecrypt _ _ _ := length_chainDecrypt _ _
  cbcDecrypt_cbcEncrypt _ _ _ _ _ := chainDecrypt_chainEncrypt _ _
  length_gcmSeal _ _ _ _ := by simp [checksumTag, checksums]
  gcmOpen_gcmSeal key nonce plaintext aad := by
    have hlen : (checksumTag key nonce (chainEncrypt (checksum (key ++ nonce)) plaintext)
        aad).length = 16 := by simp [checksumTag, checksums]
    simp [hlen]
  length_hmac _ _ _ := by simp [checksums]

/-- A data channel that has the same keys in both directions. -/
def loopback (mode : CipherMode) (compress : Compression) : DataChannel where
  dataCipher := ⟨16, mode⟩
  hash := .sha1
  compress := compress
  session := { localSessionID := List.Vector.replicate 8 0 }
  cipherKeyLocal := List.Vector.replicate 64 0
  cipherKeyRemote := List.Vector.replicate 64 0
  hmacKeyLocal := List.Vector.replicate 64 0
  hmacKeyRemote := List.Vector.replicate 64 0

theorem paired_loopback (mode : CipherMode) (compress : Compression) :
    Paired (loopback mode compress) (loopback mode compress) :=
  ⟨rfl, rfl, rfl, rfl, rfl, rfl, rfl⟩

def threePayloads : List (List.Vector UInt8 16 × List UInt8) :=
  [[1], [2], [3]].map fun payload => (List.Vector.replicate 16 0, payload)

/-! ## CBC -/

structure Written where
  id : PacketID
  payload : List UInt8
  raw : List UInt8

/-- How a reader of the writer reads a datagram. -/
def ReadsAs (prims : Primitives) (w : DataChannel) (e : Written) : Prop :=
  ∀ r, Paired w r → ∃ p, parsePacket e.raw = .ok p ∧ p.opcode.isReliable = false ∧
    r.readPacket prims p =
      if r.remotePacketID = Manager.maxPacketID then (.error (.error (lit "key is expired")), r)
      else if e.id ≤ r.remotePacketID then (.error (.error (lit "replay attack")), r)
      else (.ok e.payload, r.sawID e.id)

theorem isReliable_eq_false_of_isData {op : Opcode} (h : op.isData = true) :
    op.isReliable = false := by
  have hall : ∀ op ∈ [Opcode.dataV1, Opcode.dataV2], op.isReliable = false := by decide
  exact hall op (by simpa [Opcode.isData] using h)

section CBC
variable (prims : Primitives)

theorem paired_sawID {w r : DataChannel} (h : Paired w r) (id : PacketID) :
    Paired w (r.sawID id) :=
  ⟨h.dataCipher_eq, h.hash_eq, h.compress_eq, h.cipherKey_eq, h.hmacKey_eq, h.keyID_eq,
    h.peerID_eq⟩

/-- The writes that got an ID of their own have rising ones, from a number on. -/
structure Rising (least : Nat) (entries : List Written) : Prop where
  increasing : (entries.filter fun e => e.id ≠ 0).Pairwise fun a b => a.id.toNat < b.id.toNat
  above : ∀ e ∈ entries, e.id ≠ 0 → least ≤ e.id.toNat

/-- The counter, as the least ID that is still to come. An exhausted counter gives none. -/
def DataChannel.counter (d : DataChannel) : Nat := d.session.localDataPacketID.toNat

theorem counter_advanced {d : DataChannel}
    (hmax : d.session.localDataPacketID ≠ Manager.maxPacketID) :
    d.advanced.counter = d.counter + 1 := by
  unfold DataChannel.counter DataChannel.advanced
  rw [if_neg hmax]
  exact Manager.toNat_succ_packetID hmax

theorem counter_le_advanced (d : DataChannel) : d.counter ≤ d.advanced.counter := by
  by_cases hmax : d.session.localDataPacketID = Manager.maxPacketID
  · rw [DataChannel.advanced, if_pos hmax]
  · rw [counter_advanced hmax]
    omega

theorem writeID_lt_advanced {d : DataChannel} (h : d.writeID ≠ 0) :
    d.writeID.toNat = d.counter ∧ d.counter < d.advanced.counter := by
  by_cases hmax : d.session.localDataPacketID = Manager.maxPacketID
  · rw [DataChannel.writeID, if_pos hmax] at h
    exact absurd rfl h
  · rw [counter_advanced hmax, DataChannel.writeID, if_neg hmax]
    exact ⟨rfl, Nat.lt_succ_self _⟩

theorem moveDownAll_cbc {w : DataChannel} (hmode : w.dataCipher.mode = .cbc)
    (hempty : w.compress = .empty) (messages : List (List.Vector UInt8 16 × List UInt8)) :
    ∃ entries : List Written, (moveDownAll prims w messages).1 = entries.map Written.raw ∧
      entries.map Written.payload = messages.map Prod.snd ∧ Rising w.counter entries ∧
      ∀ e ∈ entries, ReadsAs prims w e := by
  induction messages generalizing w with
  | nil => exact ⟨[], rfl, rfl, ⟨.nil, by simp⟩, by simp⟩
  | cons message rest ih =>
    obtain ⟨iv, payload⟩ := message
    obtain ⟨raw, hsend, hread⟩ := read_send_cbc prims iv hmode hempty payload
    obtain ⟨entries, hraws, hpayloads, hrising, hreads⟩ :=
      ih (w := w.advanced) (by simpa using hmode) (by simpa using hempty)
    refine ⟨⟨w.writeID, payload, raw⟩ :: entries, ?_, ?_, ?_, ?_⟩
    · simp [moveDownAll, hsend, hraws]
    · simp [hpayloads]
    · have hle := counter_le_advanced w
      constructor
      · by_cases hzero : w.writeID = 0
        · simpa [hzero] using hrising.increasing
        · obtain ⟨hid, hlt⟩ := writeID_lt_advanced hzero
          rw [List.filter_cons_of_pos (by simpa using hzero), List.pairwise_cons]
          refine ⟨fun e he => ?_, hrising.increasing⟩
          obtain ⟨hmem, hne⟩ := List.mem_filter.mp he
          have := hrising.above e hmem (by simpa using hne)
          change w.writeID.toNat < e.id.toNat
          omega
      · intro e he hne
        rcases List.mem_cons.mp he with rfl | he
        · exact (writeID_lt_advanced hne).1.ge
        · exact hle.trans (hrising.above e he hne)
    · intro e he
      rcases List.mem_cons.mp he with rfl | he
      · intro r hpair
        obtain ⟨p, hp, hdata, hpacket⟩ := hread r hpair
        exact ⟨p, hp, isReliable_eq_false_of_isData hdata, hpacket⟩
      · exact fun r hpair => hreads e he r (paired_advanced hpair)

theorem moveUpData_cbc {w r : DataChannel} {e : Written} (he : ReadsAs prims w e)
    (hpair : Paired w r) :
    moveUpData prims r e.raw = (.ok none, r) ∨
      r.remotePacketID < e.id ∧
        moveUpData prims r e.raw =
          (.ok (if e.payload.length = 16 then none else some e.payload), r.sawID e.id) := by
  obtain ⟨p, hp, hrel, hread⟩ := he r hpair
  unfold moveUpData
  simp only [hp, hrel, Bool.false_eq_true, if_false]
  by_cases hmax : r.remotePacketID = Manager.maxPacketID
  · rw [hread, if_pos hmax]
    exact .inl rfl
  · by_cases hle : e.id ≤ r.remotePacketID
    · rw [hread, if_neg hmax, if_pos hle]
      exact .inl rfl
    · rw [hread, if_neg hmax, if_neg hle]
      exact .inr ⟨UInt32.not_le.mp hle, rfl⟩

/-- The entries that a CBC reader accepts have rising IDs. -/
theorem moveUpAll_cbc {w r : DataChannel} {entries : List Written}
    (hreads : ∀ e ∈ entries, ReadsAs prims w e) (hpair : Paired w r) {arrivals : List (List UInt8)}
    (harrivals : ∀ raw ∈ arrivals, ∃ e ∈ entries, e.raw = raw) :
    ∃ accepted : List Written, (moveUpAll prims r arrivals).1 =
        .ok (accepted.map Written.payload) ∧
      (∀ e ∈ accepted, e ∈ entries ∧ r.remotePacketID.toNat < e.id.toNat) ∧
      accepted.Pairwise fun a b => a.id.toNat < b.id.toNat := by
  induction arrivals generalizing r with
  | nil => exact ⟨[], rfl, by simp, .nil⟩
  | cons raw rest ih =>
    obtain ⟨e, he, rfl⟩ := harrivals raw List.mem_cons_self
    have hrest : ∀ raw ∈ rest, ∃ e ∈ entries, e.raw = raw := fun raw hraw =>
      harrivals raw (List.mem_cons_of_mem _ hraw)
    rcases moveUpData_cbc prims (hreads e he) hpair with hnone | ⟨hlt, hsome⟩
    · obtain ⟨accepted, hall, hmem, hrising⟩ := ih hpair hrest
      refine ⟨accepted, ?_, hmem, hrising⟩
      simp only [moveUpAll, hnone, hall]
      rfl
    · obtain ⟨accepted, hall, hmem, hrising⟩ := ih (paired_sawID hpair e.id) hrest
      have hlt' : r.remotePacketID.toNat < e.id.toNat := UInt32.lt_iff_toNat_lt.mp hlt
      have hmem' : ∀ a ∈ accepted, a ∈ entries ∧ r.remotePacketID.toNat < a.id.toNat :=
        fun a ha => ⟨(hmem a ha).1, hlt'.trans (hmem a ha).2⟩
      by_cases hkeep : e.payload.length = 16
      · refine ⟨accepted, ?_, hmem', hrising⟩
        simp only [moveUpAll, hsome, hall, if_pos hkeep]
        rfl
      · refine ⟨e :: accepted, ?_, ?_, ?_⟩
        · simp only [moveUpAll, hsome, hall, if_neg hkeep]
          rfl
        · intro a ha
          rcases List.mem_cons.mp ha with rfl | ha
          · exact ⟨he, hlt'⟩
          · exact hmem' a ha
        · exact List.pairwise_cons.mpr ⟨fun a ha => (hmem a ha).2, hrising⟩

/-- In CBC mode without compression, whatever the network does to the datagrams of a writer, the
device gets payloads in the order in which they were written and each at most once. This stays
so when the writer's packet IDs are used up. -/
theorem cbc_delivers_in_order {w r : DataChannel} (hmode : w.dataCipher.mode = .cbc)
    (hempty : w.compress = .empty) (hpair : Paired w r)
    (messages : List (List.Vector UInt8 16 × List UInt8)) {arrivals : List (List UInt8)}
    (harrivals : arrivals ⊆ (moveDownAll prims w messages).1) :
    ∃ delivered, (moveUpAll prims r arrivals).1 = .ok delivered ∧
      delivered.Sublist (messages.map Prod.snd) := by
  obtain ⟨entries, hraws, hpayloads, hrising, hreads⟩ :=
    moveDownAll_cbc prims hmode hempty messages
  have hfrom : ∀ raw ∈ arrivals, ∃ e ∈ entries, e.raw = raw := fun raw hraw => by
    have hmem := harrivals hraw
    rw [hraws] at hmem
    exact List.mem_map.mp hmem
  obtain ⟨accepted, hall, hmem, haccepted⟩ := moveUpAll_cbc prims hreads hpair hfrom
  refine ⟨_, hall, ?_⟩
  have hnumbered : accepted ⊆ entries.filter fun e => e.id ≠ 0 := by
    intro e he
    obtain ⟨hentry, hpos⟩ := hmem e he
    refine List.mem_filter.mpr ⟨hentry, ?_⟩
    have hne : e.id ≠ 0 := by
      intro hzero
      simp [hzero] at hpos
    simpa using hne
  have hsub : accepted.Sublist entries :=
    (sublist_of_increasing (fun e : Written => e.id.toNat) hrising.increasing haccepted
      hnumbered).trans List.filter_sublist
  rw [← hpayloads]
  exact hsub.map Written.payload

theorem cbc_delivers_in_order_repeated :
    let w := loopback .cbc .empty
    let raws := (moveDownAll checksummed w threePayloads).1
    raws.length = 3 ∧ ∃ delivered, (moveUpAll checksummed w (raws.tail ++ raws)).1 = .ok delivered ∧
      delivered.Sublist (threePayloads.map Prod.snd) :=
  ⟨by decide +kernel, cbc_delivers_in_order checksummed rfl rfl (paired_loopback _ _) threePayloads
    (List.append_subset.mpr ⟨List.tail_subset _, List.Subset.refl _⟩)⟩

end CBC

/-! ## GCM -/

section GCM
variable (prims : Primitives)

/-- How a reader of the writer reads a datagram, whenever it comes. -/
def OpensAs (w : DataChannel) (raw text : List UInt8) : Prop :=
  ∀ r, Paired w r → moveUpData prims r raw =
    (.ok (if text.length = 16 then none else some text), r)

/-- Every write that makes a datagram makes one that can be opened at any time. -/
theorem opensAs_written {w : DataChannel} (hmode : w.dataCipher.mode = .gcm)
    (messages : List (List.Vector UInt8 16 × List UInt8)) :
    ∀ x ∈ written prims w messages, OpensAs prims w x.1 (deliveredGCM w.compress x.2) := by
  induction messages generalizing w with
  | nil => simp [written]
  | cons message rest ih =>
    obtain ⟨iv, payload⟩ := message
    rcases send_gcm_cases prims hmode iv payload with ⟨err, herr⟩ | ⟨-, padded, hframed, hok⟩
    · cases err with
      | crash text => simp [written, herr]
      | error text => simpa only [written, herr] using ih hmode
    · intro x hx
      simp only [written, hok, List.mem_cons] at hx
      rcases hx with rfl | hx
      · intro r hpair
        obtain ⟨p, hp, hop, hpacket⟩ :=
          read_framed_gcm prims hmode w.session.localDataPacketID hframed hpair
        have hrel : p.opcode.isReliable = false := by rw [hop]; decide
        unfold moveUpData
        simp only [hp, hrel, Bool.false_eq_true, if_false, hpacket]
      · have hlater := ih (w := w.advanced) (by simpa using hmode) x hx
        rw [advanced_compress] at hlater
        exact fun r hpair => hlater r (paired_advanced hpair)

/-- In GCM mode there is no protection against repetition or reordering: whatever datagrams of a
writer arrive, each is delivered when it comes, as often as it comes, with its padding. -/
theorem gcm_delivers_each_arrival {w r : DataChannel} (hmode : w.dataCipher.mode = .gcm)
    (hpair : Paired w r) (messages : List (List.Vector UInt8 16 × List UInt8)) :
    (written prims w messages).map Prod.fst = (moveDownAll prims w messages).1 ∧
      ∀ arrivals ⊆ written prims w messages,
        moveUpAll prims r (arrivals.map Prod.fst) =
          (.ok ((arrivals.map fun a => deliveredGCM w.compress a.2).filter
            fun text => text.length ≠ 16), r) := by
  refine ⟨written_fst prims w messages, fun arrivals harrivals => ?_⟩
  have hopens := opensAs_written prims hmode messages
  induction arrivals with
  | nil => rfl
  | cons a rest ih =>
    have hrest := ih fun x hx => harrivals (List.mem_cons_of_mem a hx)
    have hfirst := hopens a (harrivals List.mem_cons_self) r hpair
    simp only [List.map_cons, moveUpAll, hfirst, hrest, List.filter_cons]
    by_cases hkeep : (deliveredGCM w.compress a.2).length = 16
    · simp [hkeep, Except.map]
    · simp [hkeep, Except.map]

/-- With `comp-lzo no` an empty payload is a datagram too, and comes out as padding. -/
theorem gcm_delivers_each_arrival_twice :
    let w := loopback .gcm .lzoNo
    let messages := (List.Vector.replicate 16 0, []) :: threePayloads
    let arrivals := written checksummed w messages ++ written checksummed w messages
    (written checksummed w messages).length = 4 ∧
      moveUpAll checksummed w (arrivals.map Prod.fst) =
        (.ok ((arrivals.map fun a => deliveredGCM w.compress a.2).filter
          fun text => text.length ≠ 16), w) := by
  intro w messages arrivals
  refine ⟨by decide +kernel, ?_⟩
  exact (gcm_delivers_each_arrival checksummed rfl (paired_loopback _ _) messages).2 arrivals
    (List.append_subset.mpr ⟨List.Subset.refl _, List.Subset.refl _⟩)

def SealedUnder (w : DataChannel) (id : PacketID) (raw : List UInt8) : Prop :=
  ∃ padded, raw = w.header ++ gcmBody prims w id padded

theorem sealedUnder_of_advanced {w : DataChannel} {id : PacketID} {raw : List UInt8}
    (h : SealedUnder prims w.advanced id raw) : SealedUnder prims w id raw := by
  unfold DataChannel.advanced at h
  split_ifs at h
  · exact h
  · exact h

/-- The nonces of GCM rise, whatever is written and however much. The datagrams have the IDs from
the counter on without a gap, so a payload that cannot be written takes none, and the last ID is
never given. -/
theorem gcm_nonces_rise {w : DataChannel} (hmode : w.dataCipher.mode = .gcm)
    (messages : List (List.Vector UInt8 16 × List UInt8)) :
    ∃ ids : List PacketID, List.Forall₂ (SealedUnder prims w) ids (moveDownAll prims w messages).1 ∧
      ids.Pairwise (fun a b => a.toNat < b.toNat) ∧
      ids.map UInt32.toNat =
        List.range' w.counter (moveDownAll prims w messages).1.length ∧
      ∀ id ∈ ids, id ≠ Manager.maxPacketID := by
  suffices h : ∃ ids : List PacketID,
      List.Forall₂ (SealedUnder prims w) ids (moveDownAll prims w messages).1 ∧
      ids.map UInt32.toNat =
        List.range' w.counter (moveDownAll prims w messages).1.length ∧
      ∀ id ∈ ids, id ≠ Manager.maxPacketID by
    obtain ⟨ids, hsealed, hrange, hlast⟩ := h
    refine ⟨ids, hsealed, ?_, hrange, hlast⟩
    rw [← List.pairwise_map, hrange]
    exact List.pairwise_lt_range'
  induction messages generalizing w with
  | nil => exact ⟨[], .nil, rfl, by simp⟩
  | cons message rest ih =>
    obtain ⟨iv, payload⟩ := message
    rcases send_gcm_cases prims hmode iv payload with ⟨err, herr⟩ | ⟨hmax, padded, -, hok⟩
    · cases err with
      | crash text => exact ⟨[], by simp [moveDownAll, herr], by simp [moveDownAll, herr], by simp⟩
      | error text => simpa only [moveDownAll, herr] using ih hmode
    · obtain ⟨ids, hsealed, hrange, hlast⟩ := ih (w := w.advanced) (by simpa using hmode)
      refine ⟨w.session.localDataPacketID :: ids, ?_, ?_, ?_⟩
      · simp only [moveDownAll, hok]
        exact .cons ⟨padded, rfl⟩ (hsealed.imp fun _ _ => sealedUnder_of_advanced prims)
      · simp only [moveDownAll, hok, List.length_cons, List.map_cons, hrange,
          counter_advanced hmax, List.range'_succ]
        rfl
      · intro id hid
        rcases List.mem_cons.mp hid with rfl | hid
        · exact hmax
        · exact hlast id hid

theorem gcm_nonces_rise_three :
    let w := loopback .gcm .empty
    w.dataCipher.mode = .gcm ∧ ∃ ids : List PacketID,
      List.Forall₂ (SealedUnder checksummed w) ids (moveDownAll checksummed w threePayloads).1 ∧
        ids.Pairwise (fun a b => a.toNat < b.toNat) ∧
        ids.map UInt32.toNat =
          List.range' w.counter (moveDownAll checksummed w threePayloads).1.length ∧
        ∀ id ∈ ids, id ≠ Manager.maxPacketID :=
  ⟨rfl, gcm_nonces_rise checksummed rfl threePayloads⟩

end GCM

end ResidentialIPManager.MiniVPN
