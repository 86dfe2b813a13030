import ResidentialIPManager.Text.Rune

/-! # Bytes as runes, and base64

Ranging over a Go string, and `utf8.DecodeRune`: the shortest well-formed sequence at
the front is one rune, and a byte that starts none stands for itself. Decoding loses
nothing. `decodeBase64` is `base64.StdEncoding` on a text without line breaks; the bits
that padding leaves over are not checked.
-/
namespace ResidentialIPManager.Text

def IsTail (b : UInt8) : Prop := 128 ≤ b.toNat ∧ b.toNat ≤ 191

instance (b : UInt8) : Decidable (IsTail b) := inferInstanceAs (Decidable (_ ∧ _))

/-- The sequences of one to four bytes, with the number of bytes after the first. -/
def oneByte (a : UInt8) : Option (Char × Nat) :=
  if a.toNat ≤ 127 then some (Char.ofNat a.toNat, 0) else none

def twoBytes (a b : UInt8) : Option (Char × Nat) :=
  if 194 ≤ a.toNat ∧ a.toNat ≤ 223 ∧ IsTail b then
    some (Char.ofNat ((a.toNat - 192) * 64 + (b.toNat - 128)), 1)
  else none

/-- Neither overlong nor a surrogate. -/
def threeBytes (a b c : UInt8) : Option (Char × Nat) :=
  if 224 ≤ a.toNat ∧ a.toNat ≤ 239 ∧ IsTail b ∧ IsTail c ∧ (a.toNat = 224 → 160 ≤ b.toNat) ∧
      (a.toNat = 237 → b.toNat ≤ 159) then
    some (Char.ofNat ((a.toNat - 224) * 4096 + (b.toNat - 128) * 64 + (c.toNat - 128)), 2)
  else none

/-- Neither overlong nor above U+10FFFF. -/
def fourBytes (a b c d : UInt8) : Option (Char × Nat) :=
  if 240 ≤ a.toNat ∧ a.toNat ≤ 244 ∧ IsTail b ∧ IsTail c ∧ IsTail d ∧
      (a.toNat = 240 → 144 ≤ b.toNat) ∧ (a.toNat = 244 → b.toNat ≤ 143) then
    some (Char.ofNat ((a.toNat - 240) * 262144 + (b.toNat - 128) * 4096 + (c.toNat - 128) * 64 +
      (d.toNat - 128)), 3)
  else none

def leadingChar : List UInt8 → Option (Char × Nat)
  | [] => none
  | [a] => oneByte a
  | [a, b] => (oneByte a).or (twoBytes a b)
  | [a, b, c] => (oneByte a).or ((twoBytes a b).or (threeBytes a b c))
  | a :: b :: c :: d :: _ =>
    (oneByte a).or ((twoBytes a b).or ((threeBytes a b c).or (fourBytes a b c d)))

/-- The runes of the bytes after the next `skip`. -/
def decodeAfter : Nat → List UInt8 → GoString
  | _, [] => []
  | skip + 1, _ :: rest => decodeAfter skip rest
  | 0, b :: rest =>
    match leadingChar (b :: rest) with
    | some (c, skip) => .scalar c :: decodeAfter skip rest
    | none => .invalid b :: decodeAfter 0 rest

def decodeUTF8 (bytes : List UInt8) : GoString := decodeAfter 0 bytes

theorem toNat_ofNat_of_valid {n : Nat} (h : n.isValidChar) : (Char.ofNat n).val.toNat = n := by
  rw [Char.ofNat, dif_pos h]
  rfl

theorem ofNat_eq_of_toNat {n : Nat} {b : UInt8} (h : n = b.toNat) : UInt8.ofNat n = b := by
  rw [h, UInt8.ofNat_toNat]

/-- The bytes of a decoded sequence are the ones it was read from. -/
theorem oneByte_spec {a : UInt8} {c : Char} {k : Nat} (h : oneByte a = some (c, k)) :
    k = 0 ∧ String.utf8EncodeChar c = [a] := by
  unfold oneByte at h
  split_ifs at h with hc
  obtain ⟨rfl, rfl⟩ := Prod.mk.inj (Option.some.inj h)
  refine ⟨rfl, ?_⟩
  unfold String.utf8EncodeChar
  rw [toNat_ofNat_of_valid (.inl (by omega)), if_pos hc, ofNat_eq_of_toNat rfl]

theorem twoBytes_spec {a b : UInt8} {c : Char} {k : Nat} (h : twoBytes a b = some (c, k)) :
    k = 1 ∧ String.utf8EncodeChar c = [a, b] := by
  unfold twoBytes IsTail at h
  split_ifs at h with hc
  obtain ⟨rfl, rfl⟩ := Prod.mk.inj (Option.some.inj h)
  refine ⟨rfl, ?_⟩
  unfold String.utf8EncodeChar
  rw [toNat_ofNat_of_valid (.inl (by omega)), if_neg (by omega), if_pos (by omega),
    ofNat_eq_of_toNat (b := a) (by omega), ofNat_eq_of_toNat (b := b) (by omega)]

theorem threeBytes_spec {a b c : UInt8} {r : Char} {k : Nat}
    (h : threeBytes a b c = some (r, k)) : k = 2 ∧ String.utf8EncodeChar r = [a, b, c] := by
  unfold threeBytes IsTail at h
  split_ifs at h with hc
  obtain ⟨rfl, rfl⟩ := Prod.mk.inj (Option.some.inj h)
  refine ⟨rfl, ?_⟩
  have hvalid : ((a.toNat - 224) * 4096 + (b.toNat - 128) * 64 + (c.toNat - 128)).isValidChar := by
    unfold Nat.isValidChar
    omega
  unfold String.utf8EncodeChar
  rw [toNat_ofNat_of_valid hvalid, if_neg (by omega), if_neg (by omega), if_pos (by omega),
    ofNat_eq_of_toNat (b := a) (by omega), ofNat_eq_of_toNat (b := b) (by omega),
    ofNat_eq_of_toNat (b := c) (by omega)]

theorem fourBytes_spec {a b c d : UInt8} {r : Char} {k : Nat}
    (h : fourBytes a b c d = some (r, k)) : k = 3 ∧ String.utf8EncodeChar r = [a, b, c, d] := by
  unfold fourBytes IsTail at h
  split_ifs at h with hc
  obtain ⟨rfl, rfl⟩ := Prod.mk.inj (Option.some.inj h)
  refine ⟨rfl, ?_⟩
  have hvalid : ((a.toNat - 240) * 262144 + (b.toNat - 128) * 4096 + (c.toNat - 128) * 64 +
      (d.toNat - 128)).isValidChar := by
    unfold Nat.isValidChar
    omega
  unfold String.utf8EncodeChar
  rw [toNat_ofNat_of_valid hvalid, if_neg (by omega), if_neg (by omega), if_neg (by omega),
    ofNat_eq_of_toNat (b := a) (by omega), ofNat_eq_of_toNat (b := b) (by omega),
    ofNat_eq_of_toNat (b := c) (by omega), ofNat_eq_of_toNat (b := d) (by omega)]

theorem leadingChar_spec {a : UInt8} {rest : List UInt8} {r : Char} {k : Nat}
    (h : leadingChar (a :: rest) = some (r, k)) :
    String.utf8EncodeChar r ++ rest.drop k = a :: rest := by
  rcases rest with - | ⟨b, - | ⟨c, - | ⟨d, tail⟩⟩⟩ <;>
    simp only [leadingChar, Option.or_eq_some_iff] at h
  · obtain ⟨rfl, hr⟩ := oneByte_spec h
    simp [hr]
  · rcases h with h | ⟨-, h⟩
    · obtain ⟨rfl, hr⟩ := oneByte_spec h
      simp [hr]
    · obtain ⟨rfl, hr⟩ := twoBytes_spec h
      simp [hr]
  · rcases h with h | ⟨-, h | ⟨-, h⟩⟩
    · obtain ⟨rfl, hr⟩ := oneByte_spec h
      simp [hr]
    · obtain ⟨rfl, hr⟩ := twoBytes_spec h
      simp [hr]
    · obtain ⟨rfl, hr⟩ := threeBytes_spec h
      simp [hr]
  · rcases h with h | ⟨-, h | ⟨-, h | ⟨-, h⟩⟩⟩
    · obtain ⟨rfl, hr⟩ := oneByte_spec h
      simp [hr]
    · obtain ⟨rfl, hr⟩ := twoBytes_spec h
      simp [hr]
    · obtain ⟨rfl, hr⟩ := threeBytes_spec h
      simp [hr]
    · obtain ⟨rfl, hr⟩ := fourBytes_spec h
      simp [hr]

theorem bytes_decodeAfter (bytes : List UInt8) (skip : Nat) :
    GoString.bytes (decodeAfter skip bytes) = bytes.drop skip := by
  induction bytes generalizing skip with
  | nil => simp [decodeAfter, GoString.bytes]
  | cons a rest ih =>
    cases skip with
    | succ skip => simpa [decodeAfter] using ih skip
    | zero =>
      simp only [decodeAfter, List.drop_zero]
      split
      · next c k h =>
        simp only [GoString.bytes, List.flatMap_cons, Rune.bytes]
        rw [← GoString.bytes, ih k]
        exact leadingChar_spec h
      · next h =>
        simp only [GoString.bytes, List.flatMap_cons, Rune.bytes, List.singleton_append]
        rw [← GoString.bytes, ih 0, List.drop_zero]

/-- The runes of a byte sequence determine it. -/
theorem bytes_decodeUTF8 (bytes : List UInt8) : GoString.bytes (decodeUTF8 bytes) = bytes :=
  bytes_decodeAfter bytes 0

def sextet : Rune → Option Nat
  | .scalar c =>
    if 'A' ≤ c ∧ c ≤ 'Z' then some (c.toNat - 65)
    else if 'a' ≤ c ∧ c ≤ 'z' then some (c.toNat - 71)
    else if '0' ≤ c ∧ c ≤ '9' then some (c.toNat + 4)
    else if c = '+' then some 62
    else if c = '/' then some 63
    else none
  | .invalid _ => none

def quantum (x y z w : Nat) : List UInt8 :=
  [UInt8.ofNat (x * 4 + y / 16), UInt8.ofNat (y % 16 * 16 + z / 4), UInt8.ofNat (z % 4 * 64 + w)]

/-- `base64.StdEncoding.DecodeString`: only the last quantum may be padded. -/
def decodeBase64 : GoString → Option (List UInt8)
  | [] => some []
  | [a, b, .scalar '=', .scalar '='] => do
    let x ← sextet a
    let y ← sextet b
    return (quantum x y 0 0).take 1
  | [a, b, c, .scalar '='] => do
    let x ← sextet a
    let y ← sextet b
    let z ← sextet c
    return (quantum x y z 0).take 2
  | a :: b :: c :: d :: rest => do
    let x ← sextet a
    let y ← sextet b
    let z ← sextet c
    let w ← sextet d
    let tail ← decodeBase64 rest
    return quantum x y z w ++ tail
  | _ => none

end ResidentialIPManager.Text
