import Mathlib.Data.Vector.Basic
import Mathlib.Tactic

/-! # Reading and writing bytes

Numbers are written in base 256 with the most significant byte first. A reader takes what
it needs from the front of a buffer and leaves the rest; what it returns, written again in
front of the rest, is the buffer. The lemmas are equivalences, so that readers compose.
-/
namespace ResidentialIPManager.Bytes

section BigEndian

def ofBigEndian (bytes : List UInt8) : Nat := bytes.foldl (fun n b => 256 * n + b.toNat) 0

theorem take_append_drop_add (bytes : List UInt8) (i n : Nat) :
    (bytes.drop i).take n ++ bytes.drop (i + n) = bytes.drop i := by
  rw [← List.drop_drop, List.take_append_drop]

/-- The last `k` bytes of a number. -/
def toBigEndian : Nat → Nat → List UInt8
  | 0, _ => []
  | k + 1, n => toBigEndian k (n / 256) ++ [UInt8.ofNat n]

@[simp] theorem length_toBigEndian (k n : Nat) : (toBigEndian k n).length = k := by
  induction k generalizing n with
  | zero => rfl
  | succ k ih => simp [toBigEndian, ih]

theorem ofBigEndian_concat (bytes : List UInt8) (b : UInt8) :
    ofBigEndian (bytes ++ [b]) = 256 * ofBigEndian bytes + b.toNat := by
  simp [ofBigEndian]

theorem ofBigEndian_lt (bytes : List UInt8) : ofBigEndian bytes < 256 ^ bytes.length := by
  induction bytes using List.reverseRecOn with
  | nil => simp [ofBigEndian]
  | append_singleton bytes b ih =>
    rw [ofBigEndian_concat, List.length_append, List.length_singleton, pow_succ]
    have hb := b.toNat_lt
    omega

theorem ofBigEndian_toBigEndian (k n : Nat) : ofBigEndian (toBigEndian k n) = n % 256 ^ k := by
  induction k generalizing n with
  | zero => simp [toBigEndian, ofBigEndian, Nat.mod_one]
  | succ k ih =>
    rw [toBigEndian, ofBigEndian_concat, ih, pow_succ', Nat.mod_mul, UInt8.toNat_ofNat']
    omega

theorem toBigEndian_ofBigEndian (bytes : List UInt8) :
    toBigEndian bytes.length (ofBigEndian bytes) = bytes := by
  induction bytes using List.reverseRecOn with
  | nil => rfl
  | append_singleton bytes b ih =>
    have hb := b.toNat_lt
    have hdiv : (256 * ofBigEndian bytes + b.toNat) / 256 = ofBigEndian bytes := by omega
    have hlast : UInt8.ofNat (256 * ofBigEndian bytes + b.toNat) = b := by
      apply UInt8.toNat_inj.mp
      rw [UInt8.toNat_ofNat']
      omega
    rw [List.length_append, List.length_singleton, toBigEndian, ofBigEndian_concat, hdiv, ih,
      hlast]

end BigEndian

/-- Why a read fails: nothing was left, or not enough. -/
inductive ReadError where
  | eof
  | unexpectedEOF
  deriving DecidableEq, Repr

section Except

universe u

variable {ε ε' α β : Type u}

theorem bind_eq_ok {x : Except ε α} {f : α → Except ε β} {b : β} :
    (x >>= f) = .ok b ↔ ∃ a, x = .ok a ∧ f a = .ok b := by
  cases x with
  | error e =>
    constructor
    · intro h
      cases h
    · rintro ⟨a, h, -⟩
      cases h
  | ok a =>
    constructor
    · intro h
      exact ⟨a, rfl, h⟩
    · rintro ⟨a', h, hf⟩
      cases h
      exact hf

theorem mapError_eq_ok {x : Except ε α} {f : ε → ε'} {a : α} :
    x.mapError f = .ok a ↔ x = .ok a := by
  cases x <;> simp [Except.mapError]

end Except

/-- `io.ReadFull` into an array. -/
def readArray (n : Nat) (buf : List UInt8) :
    Except ReadError (List.Vector UInt8 n × List UInt8) :=
  if h : n ≤ buf.length then
    .ok (⟨buf.take n, List.length_take_of_le h⟩, buf.drop n)
  else .error (if buf = [] then .eof else .unexpectedEOF)

theorem readArray_eq_ok {n : Nat} {buf rest : List UInt8} {a : List.Vector UInt8 n} :
    readArray n buf = .ok (a, rest) ↔ buf = a.toList ++ rest := by
  have ha : a.toList.length = n := a.toList_length
  unfold readArray
  constructor
  · intro h
    split_ifs at h with hlen
    obtain ⟨rfl, rfl⟩ := Prod.mk.inj (Except.ok.inj h)
    exact (List.take_append_drop n buf).symm
  · rintro rfl
    rw [dif_pos (by simp)]
    have hfront : (a.toList ++ rest).take n = a.toList := List.take_left' ha
    have hrest : (a.toList ++ rest).drop n = rest := List.drop_left' ha
    exact congrArg Except.ok (Prod.ext (Subtype.ext hfront) hrest)

def readByte : List UInt8 → Except ReadError (UInt8 × List UInt8)
  | [] => .error .eof
  | b :: rest => .ok (b, rest)

theorem readByte_eq_ok {buf rest : List UInt8} {b : UInt8} :
    readByte buf = .ok (b, rest) ↔ buf = b :: rest := by
  cases buf with
  | nil => simp [readByte]
  | cons c buf => simp [readByte]

def uint32Bytes (v : UInt32) : List UInt8 := toBigEndian 4 v.toNat

@[simp] theorem length_uint32Bytes (v : UInt32) : (uint32Bytes v).length = 4 :=
  length_toBigEndian 4 _

theorem ofBigEndian_uint32Bytes (v : UInt32) : ofBigEndian (uint32Bytes v) = v.toNat := by
  have hv := v.toNat_lt
  rw [uint32Bytes, ofBigEndian_toBigEndian]
  omega

/-- `binary.BigEndian.Uint32`. -/
def uint32Of (bytes : List UInt8) : UInt32 := UInt32.ofNat (ofBigEndian bytes)

@[simp] theorem uint32Of_uint32Bytes (v : UInt32) : uint32Of (uint32Bytes v) = v := by
  rw [uint32Of, ofBigEndian_uint32Bytes, UInt32.ofNat_toNat]

theorem uint32Bytes_eq (v : UInt32) :
    uint32Bytes v = [UInt8.ofNat (v.toNat / 16777216), UInt8.ofNat (v.toNat / 65536),
      UInt8.ofNat (v.toNat / 256), UInt8.ofNat v.toNat] := by
  simp [uint32Bytes, toBigEndian, Nat.div_div_eq_div_mul]

theorem uint32Bytes_uint32Of {bytes : List UInt8} (h : bytes.length = 4) :
    uint32Bytes (uint32Of bytes) = bytes := by
  have hlt := ofBigEndian_lt bytes
  rw [h] at hlt
  rw [uint32Bytes, uint32Of, UInt32.toNat_ofNat', Nat.mod_eq_of_lt (by omega), ← h,
    toBigEndian_ofBigEndian]

def readUint32 (buf : List UInt8) : Except ReadError (UInt32 × List UInt8) := do
  let (numBuf, rest) ← readArray 4 buf
  return (uint32Of numBuf.toList, rest)

theorem readUint32_eq_ok {buf rest : List UInt8} {v : UInt32} :
    readUint32 buf = .ok (v, rest) ↔ buf = uint32Bytes v ++ rest := by
  unfold readUint32
  rw [bind_eq_ok]
  constructor
  · rintro ⟨⟨numBuf, rest'⟩, hread, hv⟩
    obtain ⟨rfl, rfl⟩ := Prod.mk.inj (Except.ok.inj hv)
    rw [readArray_eq_ok.mp hread, uint32Bytes_uint32Of numBuf.toList_length]
  · rintro rfl
    refine ⟨(⟨uint32Bytes v, length_uint32Bytes v⟩, rest), readArray_eq_ok.mpr rfl, ?_⟩
    exact congrArg (fun w => Except.ok (w, rest)) (uint32Of_uint32Bytes v)

def readUint32s : Nat → List UInt8 → Except ReadError (List UInt32 × List UInt8)
  | 0, buf => .ok ([], buf)
  | n + 1, buf => do
    let (v, buf) ← readUint32 buf
    let (vs, buf) ← readUint32s n buf
    return (v :: vs, buf)

theorem readUint32s_eq_ok {n : Nat} {buf rest : List UInt8} {vs : List UInt32} :
    readUint32s n buf = .ok (vs, rest) ↔
      vs.length = n ∧ buf = vs.flatMap uint32Bytes ++ rest := by
  induction n generalizing buf vs with
  | zero =>
    simp only [readUint32s, Except.ok.injEq, Prod.mk.injEq, List.length_eq_zero_iff]
    constructor
    · rintro ⟨rfl, rfl⟩
      exact ⟨rfl, rfl⟩
    · rintro ⟨rfl, rfl⟩
      exact ⟨rfl, rfl⟩
  | succ n ih =>
    simp only [readUint32s, bind_eq_ok]
    constructor
    · rintro ⟨⟨v, buf₁⟩, hv, ⟨ws, buf₂⟩, hws, hret⟩
      obtain ⟨rfl, rfl⟩ := Prod.mk.inj (Except.ok.inj hret)
      obtain ⟨hlen, rfl⟩ := ih.mp hws
      exact ⟨by simp [hlen], by rw [readUint32_eq_ok.mp hv]; simp⟩
    · rintro ⟨hlen, rfl⟩
      cases vs with
      | nil => simp at hlen
      | cons v ws =>
        refine ⟨(v, ws.flatMap uint32Bytes ++ rest), readUint32_eq_ok.mpr (by simp), (ws, rest),
          ih.mpr ⟨by simpa using hlen, rfl⟩, rfl⟩

end ResidentialIPManager.Bytes
