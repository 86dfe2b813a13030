import ResidentialIPManager.Source.VPNGate
import ResidentialIPManager.Text.Base64

/-! # Encoded profiles

`decodeConfig` reads what an encoder writes: blanks may stand anywhere in the text, the
padding may be cut, and one byte order mark in front of the profile is not part of it.
-/
namespace ResidentialIPManager.Source
open Text

def byteOrderMark : List UInt8 := [0xEF, 0xBB, 0xBF]

theorem bytes_feff : Rune.bytes (.scalar '\uFEFF') = byteOrderMark := by decide

theorem decodeUTF8_byteOrderMark (bytes : List UInt8) :
    decodeUTF8 (byteOrderMark ++ bytes) = .scalar '\uFEFF' :: decodeUTF8 bytes := by
  have hlead : leadingChar (0xEF :: 0xBB :: 0xBF :: bytes) = some ('\uFEFF', 2) := by
    cases bytes with
    | nil => decide
    | cons a rest =>
      have htwo : (oneByte 0xEF).or (twoBytes 0xEF 0xBB) = none := by decide
      have hthree : threeBytes 0xEF 0xBB 0xBF = some ('\uFEFF', 2) := by decide
      rw [leadingChar, ← Option.or_assoc, htwo, hthree]
      rfl
  change decodeAfter 0 (0xEF :: 0xBB :: 0xBF :: bytes) = _
  rw [decodeAfter, hlead]
  rfl

/-- A decoded text has the mark in front only if the bytes have it. -/
theorem not_hasPrefix_mark {bytes : List UInt8} (h : ¬byteOrderMark <+: bytes) :
    hasPrefix (decodeUTF8 bytes) [.scalar '\uFEFF'] = false := by
  rw [Bool.eq_false_iff]
  intro hmark
  obtain ⟨rest, hrest⟩ := List.isPrefixOf_iff_prefix.mp hmark
  apply h
  refine ⟨GoString.bytes rest, ?_⟩
  rw [← bytes_decodeUTF8 bytes, ← hrest, ← bytes_feff]
  simp [GoString.bytes]

theorem byteLen_of_isBase64 {s : GoString} (h : ∀ r ∈ s, IsBase64 r) :
    GoString.byteLen s = s.length := by
  unfold GoString.byteLen GoString.bytes
  induction s with
  | nil => rfl
  | cons r s ih =>
    rw [List.flatMap_cons, List.length_append, (h r List.mem_cons_self).2,
      ih fun q hq => h q (List.mem_cons_of_mem _ hq), List.length_cons]
    omega

/-- The text is the encoding of the bytes up to blanks and cut padding. -/
def Armoured (bytes : List UInt8) (text : GoString) : Prop :=
  ∃ cut, encodeBase64 bytes =
    (text.filter fun r => !r.isSpace) ++ List.replicate cut (.scalar '=')

/-- The padding that `decodeConfig` supplies is the one that was cut. -/
theorem padded_eq {bytes : List UInt8} {compact : GoString} {cut : Nat}
    (h : encodeBase64 bytes = compact ++ List.replicate cut (.scalar '=')) :
    (if GoString.byteLen compact % 4 ≠ 0 then
        compact ++ List.replicate (4 - GoString.byteLen compact % 4) (.scalar '=')
      else compact) = encodeBase64 bytes := by
  have hlen : GoString.byteLen compact = compact.length := by
    apply byteLen_of_isBase64
    intro r hr
    exact mem_encodeBase64 (h ▸ List.mem_append_left _ hr)
  have hcut : cut ≤ 2 := by
    have hcount := count_pad_encodeBase64 bytes
    rw [h, List.count_append, base64Pad, List.count_replicate_self] at hcount
    omega
  have htotal := length_encodeBase64 bytes
  rw [h, List.length_append, List.length_replicate] at htotal
  rw [hlen]
  split_ifs with hrem
  · rw [h, show 4 - compact.length % 4 = cut by omega]
  · obtain rfl : cut = 0 := by omega
    simpa using h.symm

theorem decodeConfig_armoured {bytes : List UInt8} {text : GoString} (hne : bytes ≠ [])
    (h : Armoured bytes text) :
    decodeConfig text = some (trimPrefix (decodeUTF8 bytes) [.scalar '\uFEFF']) := by
  obtain ⟨cut, hcut⟩ := h
  have hcompact : (text.filter fun r => !r.isSpace) ≠ [] := by
    intro hnil
    have hcount := count_pad_encodeBase64 bytes
    have hlen := length_encodeBase64 bytes
    rw [hnil, List.nil_append] at hcut
    rw [hcut, base64Pad, List.count_replicate_self] at hcount
    rw [hcut, List.length_replicate] at hlen
    obtain rfl : cut = 0 := by omega
    have hdecode := decodeBase64_encodeBase64 bytes
    rw [hcut] at hdecode
    exact hne (Option.some.inj hdecode).symm
  unfold decodeConfig
  simp only [flatten_fields, if_neg hcompact, padded_eq hcut, decodeBase64_encodeBase64,
    Option.map_some]

/-- A profile that was encoded, with or without a byte order mark in front, is decoded to
its bytes. -/
theorem decodeConfig_encoded {bytes encoded : List UInt8} {text : GoString} (hne : bytes ≠ [])
    (hmark : ¬byteOrderMark <+: bytes) (henc : encoded = bytes ∨ encoded = byteOrderMark ++ bytes)
    (htext : Armoured encoded text) : (decodeConfig text).map GoString.bytes = some bytes := by
  rcases henc with rfl | rfl
  · rw [decodeConfig_armoured hne htext, trimPrefix, not_hasPrefix_mark hmark]
    simp [bytes_decodeUTF8]
  · rw [decodeConfig_armoured (by simp [byteOrderMark]) htext, decodeUTF8_byteOrderMark]
    simp [trimPrefix, hasPrefix, bytes_decodeUTF8]

/-- The line `dev` after a mark, with two kinds of blanks inside and the padding cut. -/
theorem decodeConfig_encoded_dev :
    Armoured (byteOrderMark ++ [100, 101, 118, 10]) (lit "77u/\nZG\u3000V2Cg") ∧
      (decodeConfig (lit "77u/\nZG\u3000V2Cg")).map GoString.bytes =
        some [100, 101, 118, 10] := by
  have h : Armoured (byteOrderMark ++ [100, 101, 118, 10]) (lit "77u/\nZG\u3000V2Cg") :=
    ⟨2, by decide +kernel⟩
  exact ⟨h, decodeConfig_encoded (by decide) (by decide) (.inr rfl) h⟩

end ResidentialIPManager.Source
