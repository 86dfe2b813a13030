import ResidentialIPManager.MiniVPN.ControlMessage
import ResidentialIPManager.MiniVPN.DataStreams

/-! # Key derivation

The keys of the data channel are expanded from the key material of both sides with the
pseudo-random function of TLS 1.0. `pHash` fills a slice block by block, and the last block is cut
off; beside it stands the function as RFC 4346 defines it, an initial part of the concatenation of
all blocks.
-/
namespace ResidentialIPManager.MiniVPN
open Bytes Text

structure MAC where
  size : Nat
  sum : (key message : List UInt8) → List UInt8
  size_pos : 0 < size
  length_sum : ∀ key message, (sum key message).length = size

/-! ## The code -/

/-- `copy(result[j:], b)`. -/
def copyAt (result : List UInt8) (j : Nat) (b : List UInt8) : List UInt8 :=
  result.take j ++ b.take (result.length - j) ++ result.drop (j + b.length)

theorem length_copyAt {result : List UInt8} {j : Nat} (hj : j ≤ result.length) (b : List UInt8) :
    (copyAt result j b).length = result.length := by
  simp only [copyAt, List.length_append, List.length_take, List.length_drop]
  omega

def pHashFrom (mac : MAC) (secret seed : List UInt8) (result a : List UInt8) (j : Nat) :
    List UInt8 :=
  if j < result.length then
    let b := mac.sum secret (a ++ seed)
    pHashFrom mac secret seed (copyAt result j b) (mac.sum secret a) (j + b.length)
  else result
termination_by result.length - j
decreasing_by
  have hsum := mac.length_sum secret (a ++ seed)
  have hpos := mac.size_pos
  rw [length_copyAt (by omega)]
  omega

def pHash (mac : MAC) (result secret seed : List UInt8) : List UInt8 :=
  pHashFrom mac secret seed result (mac.sum secret seed) 0

/-- `splitPreMasterSecret`. The halves share a byte if the length is odd. -/
def splitPreMasterSecret (secret : List UInt8) : List UInt8 × List UInt8 :=
  (secret.take ((secret.length + 1) / 2), secret.drop (secret.length / 2))

def prf10 (md5 sha1 : MAC) (result secret label seed : List UInt8) : List UInt8 :=
  let (s1, s2) := splitPreMasterSecret secret
  let result1 := pHash md5 result s1 (label ++ seed)
  let result2 := pHash sha1 (List.replicate result.length 0) s2 (label ++ seed)
  List.zipWith (· ^^^ ·) result1 result2

def prf (md5 sha1 : MAC) (secret label clientSeed serverSeed clientSid serverSid : List UInt8)
    (olen : Nat) : List UInt8 :=
  let seed := clientSeed ++ serverSeed
  let seed := if clientSid.length ≠ 0 then seed ++ clientSid else seed
  let seed := if serverSid.length ≠ 0 then seed ++ serverSid else seed
  prf10 md5 sha1 (List.replicate olen 0) secret label seed

/-- `DataChannelKey`, which is ready when it has the remote part. -/
structure DataChannelKey where
  localKey : KeySource
  remoteKey : Option KeySource := none

/-- `copy` of a part of the keys into an empty slot. -/
def keySlotAt (keys : List UInt8) (i : Nat) : KeySlot :=
  ⟨((keys.drop i).take 64).rightpad 64 0, by simp⟩

namespace DataChannel

/-- `RemoteSessionID`, which is empty as long as there is none. -/
def remoteSessionBytes (d : DataChannel) : List UInt8 :=
  match d.session.remoteSessionID with
  | some id => id.toList
  | none => []

def setupKeys (md5 sha1 : MAC) (d : DataChannel) (dck : DataChannelKey) :
    Except GoString DataChannel :=
  match dck.remoteKey with
  | none => .error (lit "bad key: key not ready")
  | some remote =>
    let master := prf md5 sha1 dck.localKey.preMaster.toList
      (GoString.bytes (lit "OpenVPN master secret")) dck.localKey.r1.toList remote.r1.toList [] [] 48
    let keys := prf md5 sha1 master (GoString.bytes (lit "OpenVPN key expansion"))
      dck.localKey.r2.toList remote.r2.toList d.session.localSessionID.toList d.remoteSessionBytes
      256
    .ok { d with
      cipherKeyLocal := keySlotAt keys 0
      hmacKeyLocal := keySlotAt keys 64
      cipherKeyRemote := keySlotAt keys 128
      hmacKeyRemote := keySlotAt keys 192 }

def keyMaterial (d : DataChannel) : List UInt8 :=
  d.cipherKeyLocal.toList ++ d.hmacKeyLocal.toList ++ d.cipherKeyRemote.toList ++
    d.hmacKeyRemote.toList

end DataChannel

/-! ## The definition -/

section Definition
variable (mac : MAC) (secret seed : List UInt8)

/-- `A(i)` of the definition. -/
def hashChain : Nat → List UInt8
  | 0 => seed
  | i + 1 => mac.sum secret (hashChain i)

def hashBlocks : Nat → List UInt8
  | 0 => []
  | k + 1 => hashBlocks k ++ mac.sum secret (hashChain mac secret seed (k + 1) ++ seed)

/-- `P_hash` with an output of a length; that many blocks are always enough. -/
def expansion (n : Nat) : List UInt8 := (hashBlocks mac secret seed n).take n

end Definition

def pseudoRandom (md5 sha1 : MAC) (secret label seed : List UInt8) (n : Nat) : List UInt8 :=
  List.zipWith (· ^^^ ·)
    (expansion md5 (secret.take ((secret.length + 1) / 2)) (label ++ seed) n)
    (expansion sha1 (secret.drop (secret.length / 2)) (label ++ seed) n)

/-! ## The code computes the definition -/

section Refinement
variable {mac : MAC} {secret seed : List UInt8}

@[simp] theorem length_hashBlocks (k : Nat) :
    (hashBlocks mac secret seed k).length = k * mac.size := by
  induction k with
  | zero => simp [hashBlocks]
  | succ k ih => simp [hashBlocks, ih, mac.length_sum, Nat.succ_mul]

@[simp] theorem length_expansion (n : Nat) : (expansion mac secret seed n).length = n := by
  rw [expansion, List.length_take, length_hashBlocks]
  exact min_eq_left (Nat.le_mul_of_pos_right n mac.size_pos)

/-- More blocks than needed change nothing. -/
theorem take_hashBlocks_add {n k : Nat} (hn : n ≤ k * mac.size) (m : Nat) :
    (hashBlocks mac secret seed (k + m)).take n = (hashBlocks mac secret seed k).take n := by
  induction m with
  | zero => rfl
  | succ m ih =>
    have hle : n ≤ (hashBlocks mac secret seed (k + m)).length := by
      rw [length_hashBlocks]
      exact hn.trans (Nat.mul_le_mul_right _ (Nat.le_add_right k m))
    rw [← Nat.add_assoc, hashBlocks, List.take_append_of_le_length hle, ih]

theorem take_hashBlocks {n k : Nat} (hn : n ≤ k * mac.size) :
    (hashBlocks mac secret seed k).take n = expansion mac secret seed n := by
  have henough : n ≤ n * mac.size := Nat.le_mul_of_pos_right n mac.size_pos
  rcases Nat.le_total k n with hle | hle
  · obtain ⟨m, rfl⟩ := Nat.exists_eq_add_of_le hle
    exact (take_hashBlocks_add hn m).symm
  · obtain ⟨m, rfl⟩ := Nat.exists_eq_add_of_le hle
    exact take_hashBlocks_add henough m

theorem take_copyAt {result b : List UInt8} {j : Nat} (hj : j ≤ result.length) :
    (copyAt result j b).take (j + b.length) = result.take j ++ b.take (result.length - j) := by
  have hfront : (result.take j ++ b.take (result.length - j)).length =
      min (j + b.length) result.length := by
    simp only [List.length_append, List.length_take]
    omega
  unfold copyAt
  by_cases hroom : j + b.length ≤ result.length
  · have hlen : (result.take j ++ b.take (result.length - j)).length = j + b.length := by
      rw [hfront]
      omega
    rw [← hlen, List.take_left]
  · rw [List.drop_of_length_le (by omega), List.append_nil]
    exact List.take_of_length_le (by omega)

/-- What the loop has done after some blocks is an initial part of them. -/
theorem pHashFrom_eq {result : List UInt8} {i : Nat}
    (hdone : result.take (i * mac.size) =
      (hashBlocks mac secret seed i).take result.length) :
    pHashFrom mac secret seed result (hashChain mac secret seed (i + 1)) (i * mac.size) =
      expansion mac secret seed result.length := by
  induction hleft : result.length - i * mac.size using Nat.strong_induction_on
    generalizing result i with
  | _ left ih =>
    rw [pHashFrom]
    split_ifs with hlt
    · have hb : (mac.sum secret (hashChain mac secret seed (i + 1) ++ seed)).length = mac.size :=
        mac.length_sum ..
      have hnext : i * mac.size + mac.size = (i + 1) * mac.size := (Nat.succ_mul i _).symm
      have hlen := length_copyAt (le_of_lt hlt)
        (mac.sum secret (hashChain mac secret seed (i + 1) ++ seed))
      have hpos := mac.size_pos
      dsimp only
      rw [hb, hnext, ← hlen]
      refine ih _ ?_ ?_ rfl
      · rw [hlen, ← hnext]
        omega
      · have hcopy := take_copyAt (b := mac.sum secret (hashChain mac secret seed (i + 1) ++ seed))
          (le_of_lt hlt)
        rw [hb, hnext] at hcopy
        rw [hcopy, hdone, hlen, hashBlocks, List.take_append, length_hashBlocks]
    · have hall : result.length ≤ i * mac.size := not_lt.mp hlt
      rw [List.take_of_length_le hall] at hdone
      exact hdone.trans (take_hashBlocks hall)

theorem pHash_eq (result : List UInt8) :
    pHash mac result secret seed = expansion mac secret seed result.length := by
  have hstart : pHashFrom mac secret seed result (hashChain mac secret seed (0 + 1))
      (0 * mac.size) = expansion mac secret seed result.length :=
    pHashFrom_eq (by simp [hashBlocks])
  simpa [pHash, hashChain] using hstart

end Refinement

section PRF
variable (md5 sha1 : MAC)

theorem prf10_eq (result secret label seed : List UInt8) :
    prf10 md5 sha1 result secret label seed =
      pseudoRandom md5 sha1 secret label seed result.length := by
  simp only [prf10, splitPreMasterSecret, pseudoRandom, pHash_eq, List.length_replicate]

/-- The tests for empty session IDs make no difference. -/
theorem prf_eq (secret label clientSeed serverSeed clientSid serverSid : List UInt8)
    (olen : Nat) :
    prf md5 sha1 secret label clientSeed serverSeed clientSid serverSid olen =
      pseudoRandom md5 sha1 secret label (clientSeed ++ serverSeed ++ clientSid ++ serverSid)
        olen := by
  have happend : ∀ s t : List UInt8, (if t.length ≠ 0 then s ++ t else s) = s ++ t := by
    intro s t
    cases t <;> simp
  simp only [prf, happend, prf10_eq, List.length_replicate]

theorem length_pseudoRandom (secret label seed : List UInt8) (n : Nat) :
    (pseudoRandom md5 sha1 secret label seed n).length = n := by
  simp [pseudoRandom]

end PRF

/-- Four slots are all of the keys. -/
theorem keySlotAt_append {keys : List UInt8} (hlen : keys.length = 256) :
    (keySlotAt keys 0).toList ++ (keySlotAt keys 64).toList ++ (keySlotAt keys 128).toList ++
      (keySlotAt keys 192).toList = keys := by
  have hslot : ∀ i, i + 64 ≤ keys.length → (keySlotAt keys i).toList = (keys.drop i).take 64 := by
    intro i hi
    change ((keys.drop i).take 64).rightpad 64 0 = _
    have hfull : 64 - ((keys.drop i).take 64).length = 0 := by
      simp only [List.length_take, List.length_drop]
      omega
    rw [List.rightpad, hfull, List.replicate_zero, List.append_nil]
  rw [hslot 0 (by omega), hslot 64 (by omega), hslot 128 (by omega), hslot 192 (by omega)]
  have hcut : ∀ i, (keys.drop i).take 64 ++ keys.drop (i + 64) = keys.drop i := by
    intro i
    rw [← List.drop_drop, List.take_append_drop]
  have hlast : (keys.drop 192).take 64 = keys.drop 192 := by
    apply List.take_of_length_le
    simp [hlen]
  rw [hlast, List.append_assoc, List.append_assoc, hcut 128, hcut 64, hcut 0, List.drop_zero]

/-- The four slots are the expansion of the master secret as the definition says, cut in the order
cipher key and HMAC key of this side, then of the other side; the master secret comes from this
side's premaster secret. -/
theorem setupKeys_expands (md5 sha1 : MAC) (d : DataChannel) (own remote : KeySource) :
    (d.setupKeys md5 sha1 ⟨own, some remote⟩).map DataChannel.keyMaterial =
      .ok (pseudoRandom md5 sha1
        (pseudoRandom md5 sha1 own.preMaster.toList
          (GoString.bytes (lit "OpenVPN master secret")) (own.r1.toList ++ remote.r1.toList) 48)
        (GoString.bytes (lit "OpenVPN key expansion"))
        (own.r2.toList ++ remote.r2.toList ++ d.session.localSessionID.toList ++
          d.remoteSessionBytes) 256) := by
  simp only [DataChannel.setupKeys, Except.map, DataChannel.keyMaterial, prf_eq, List.append_nil]
  rw [keySlotAt_append (length_pseudoRandom ..)]

/-- Checksums of the key and the message, in place of a hash. -/
def checksumMAC (size : Nat) (hpos : 0 < size) : MAC where
  size := size
  sum key message := checksums size (key ++ message)
  size_pos := hpos
  length_sum _ _ := by simp [checksums]

def constantKey (b : UInt8) : KeySource where
  r1 := List.Vector.replicate 32 b
  r2 := List.Vector.replicate 32 (b + 1)
  preMaster := List.Vector.replicate 48 (b + 2)

theorem setupKeys_expands_checksums :
    let md5 := checksumMAC 16 (by decide)
    let sha1 := checksumMAC 20 (by decide)
    let d := loopback .gcm .empty
    (d.setupKeys md5 sha1 ⟨constantKey 1, some (constantKey 4)⟩).map DataChannel.keyMaterial =
      .ok (pseudoRandom md5 sha1
        (pseudoRandom md5 sha1 (List.replicate 48 3)
          (GoString.bytes (lit "OpenVPN master secret"))
          (List.replicate 32 1 ++ List.replicate 32 4) 48)
        (GoString.bytes (lit "OpenVPN key expansion"))
        (List.replicate 32 2 ++ List.replicate 32 5 ++ List.replicate 8 0) 256) := by
  intro md5 sha1 d
  have hexpands := setupKeys_expands md5 sha1 d (constantKey 1) (constantKey 4)
  simpa [constantKey, d, loopback, DataChannel.remoteSessionBytes] using hexpands

end ResidentialIPManager.MiniVPN
