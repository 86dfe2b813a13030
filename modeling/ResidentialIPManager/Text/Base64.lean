import ResidentialIPManager.Text.Encoding

/-! # Base64 encoding

The standard encoding of RFC 4648: three bytes become four digits, and a last group of
one or two bytes is padded. Decoding an encoded text gives the bytes back.
-/
namespace ResidentialIPManager.Text

def base64Digit (n : Nat) : Rune :=
  .scalar (if n < 26 then Char.ofNat (n + 65)
    else if n < 52 then Char.ofNat (n + 71)
    else if n < 62 then Char.ofNat (n - 4)
    else if n = 62 then '+'
    else '/')

def base64Pad : Rune := .scalar '='

def encodeBase64 : List UInt8 → GoString
  | [] => []
  | [a] => [base64Digit (a.toNat / 4), base64Digit (a.toNat % 4 * 16), base64Pad, base64Pad]
  | [a, b] =>
    [base64Digit (a.toNat / 4), base64Digit (a.toNat % 4 * 16 + b.toNat / 16),
      base64Digit (b.toNat % 16 * 4), base64Pad]
  | a :: b :: c :: rest =>
    base64Digit (a.toNat / 4) :: base64Digit (a.toNat % 4 * 16 + b.toNat / 16) ::
      base64Digit (b.toNat % 16 * 4 + c.toNat / 64) :: base64Digit (c.toNat % 64) ::
      encodeBase64 rest

theorem sextet_base64Digit : ∀ n < 64, sextet (base64Digit n) = some n := by decide

/-- Beyond the alphabet the last digit is repeated. -/
theorem base64Digit_of_le {n : Nat} (h : 64 ≤ n) : base64Digit n = base64Digit 63 := by
  unfold base64Digit
  rw [if_neg (by omega), if_neg (by omega), if_neg (by omega), if_neg (by omega)]
  rfl

theorem base64Digit_ne_pad (n : Nat) : base64Digit n ≠ base64Pad := by
  have hall : ∀ n < 64, base64Digit n ≠ base64Pad := by decide
  rcases Nat.lt_or_ge n 64 with h | h
  · exact hall n h
  · exact base64Digit_of_le h ▸ hall 63 (by decide)

/-- A rune of one byte that is no blank. -/
def IsBase64 (r : Rune) : Prop := r.isSpace = false ∧ r.bytes.length = 1

instance (r : Rune) : Decidable (IsBase64 r) := inferInstanceAs (Decidable (_ ∧ _))

theorem isBase64_pad : IsBase64 base64Pad := by decide

theorem isBase64_base64Digit (n : Nat) : IsBase64 (base64Digit n) := by
  have hall : ∀ n < 64, IsBase64 (base64Digit n) := by decide
  rcases Nat.lt_or_ge n 64 with h | h
  · exact hall n h
  · exact base64Digit_of_le h ▸ hall 63 (by decide)

section Quanta

variable (a b c : UInt8)

theorem quantum_one : (quantum (a.toNat / 4) (a.toNat % 4 * 16) 0 0).take 1 = [a] := by
  have ha := a.toNat_lt
  rw [quantum, List.take_succ_cons, List.take_zero, ofNat_eq_of_toNat (b := a) (by omega)]

theorem quantum_two : (quantum (a.toNat / 4) (a.toNat % 4 * 16 + b.toNat / 16)
    (b.toNat % 16 * 4) 0).take 2 = [a, b] := by
  have ha := a.toNat_lt
  have hb := b.toNat_lt
  rw [quantum, List.take_succ_cons, List.take_succ_cons, List.take_zero,
    ofNat_eq_of_toNat (b := a) (by omega), ofNat_eq_of_toNat (b := b) (by omega)]

theorem quantum_three : quantum (a.toNat / 4) (a.toNat % 4 * 16 + b.toNat / 16)
    (b.toNat % 16 * 4 + c.toNat / 64) (c.toNat % 64) = [a, b, c] := by
  have ha := a.toNat_lt
  have hb := b.toNat_lt
  have hc := c.toNat_lt
  rw [quantum, ofNat_eq_of_toNat (b := a) (by omega), ofNat_eq_of_toNat (b := b) (by omega),
    ofNat_eq_of_toNat (b := c) (by omega)]

end Quanta

theorem decodeBase64_digits {x y z w : Nat} (hx : x < 64) (hy : y < 64) (hz : z < 64)
    (hw : w < 64) (rest : GoString) :
    decodeBase64 (base64Digit x :: base64Digit y :: base64Digit z :: base64Digit w :: rest) =
      (decodeBase64 rest).map (quantum x y z w ++ ·) := by
  rw [decodeBase64]
  · simp only [sextet_base64Digit, hx, hy, hz, hw, Option.bind_eq_bind, Option.bind_some]
    cases decodeBase64 rest <;> rfl
  · intro _ hpad _
    exact base64Digit_ne_pad w hpad
  · intro hpad _
    exact base64Digit_ne_pad w hpad

theorem decodeBase64_encodeBase64 (bytes : List UInt8) :
    decodeBase64 (encodeBase64 bytes) = some bytes := by
  fun_induction encodeBase64 bytes with
  | case1 => rfl
  | case2 a =>
    have ha := a.toNat_lt
    simp only [base64Pad, decodeBase64, sextet_base64Digit (a.toNat / 4) (by omega),
      sextet_base64Digit (a.toNat % 4 * 16) (by omega), Option.bind_eq_bind, Option.bind_some,
      quantum_one]
    rfl
  | case3 a b =>
    have ha := a.toNat_lt
    have hb := b.toNat_lt
    rw [base64Pad, decodeBase64]
    · simp only [sextet_base64Digit (a.toNat / 4) (by omega),
        sextet_base64Digit (a.toNat % 4 * 16 + b.toNat / 16) (by omega),
        sextet_base64Digit (b.toNat % 16 * 4) (by omega), Option.bind_eq_bind, Option.bind_some,
        quantum_two]
      rfl
    · exact base64Digit_ne_pad _
  | case4 a b c rest ih =>
    have ha := a.toNat_lt
    have hb := b.toNat_lt
    have hc := c.toNat_lt
    rw [decodeBase64_digits (by omega) (by omega) (by omega) (by omega), ih, quantum_three]
    rfl

theorem length_encodeBase64 (bytes : List UInt8) : (encodeBase64 bytes).length % 4 = 0 := by
  fun_induction encodeBase64 bytes with
  | case1 => rfl
  | case2 => simp
  | case3 => simp
  | case4 a b c rest ih =>
    simp only [List.length_cons]
    omega

theorem mem_encodeBase64 {bytes : List UInt8} {r : Rune} (h : r ∈ encodeBase64 bytes) :
    IsBase64 r := by
  fun_induction encodeBase64 bytes with
  | case1 => cases h
  | case2 a =>
    simp only [List.mem_cons, List.not_mem_nil, or_false] at h
    rcases h with rfl | rfl | rfl | rfl
    · exact isBase64_base64Digit _
    · exact isBase64_base64Digit _
    · exact isBase64_pad
    · exact isBase64_pad
  | case3 a b =>
    simp only [List.mem_cons, List.not_mem_nil, or_false] at h
    rcases h with rfl | rfl | rfl | rfl
    · exact isBase64_base64Digit _
    · exact isBase64_base64Digit _
    · exact isBase64_base64Digit _
    · exact isBase64_pad
  | case4 a b c rest ih =>
    simp only [List.mem_cons] at h
    rcases h with rfl | rfl | rfl | rfl | h
    · exact isBase64_base64Digit _
    · exact isBase64_base64Digit _
    · exact isBase64_base64Digit _
    · exact isBase64_base64Digit _
    · exact ih h

/-- Only the last group is padded. -/
theorem count_pad_encodeBase64 (bytes : List UInt8) :
    (encodeBase64 bytes).count base64Pad ≤ 2 := by
  fun_induction encodeBase64 bytes with
  | case1 => simp
  | case2 a => simp [base64Digit_ne_pad]
  | case3 a b => simp [base64Digit_ne_pad]
  | case4 a b c rest ih => simpa [List.count_cons, base64Digit_ne_pad] using ih

end ResidentialIPManager.Text
