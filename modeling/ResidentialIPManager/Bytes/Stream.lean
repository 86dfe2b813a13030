import ResidentialIPManager.Bytes.Wire

/-! # Reading from a stream

A stream arrives in segments of any length; one `Read` returns at most the rest of a
segment. `readFull` goes on until it has all it needs. What it returns and what it leaves
depend on the bytes of the stream only, not on how they are cut into segments.
-/
namespace ResidentialIPManager.Bytes

/-- The loop of `io.ReadFull`; `started` says that something was read already. -/
def readFrom (started : Bool) (n : Nat) :
    List (List UInt8) → Except ReadError (List UInt8 × List (List UInt8))
  | [] => if n = 0 then .ok ([], []) else .error (if started then .unexpectedEOF else .eof)
  | segment :: rest =>
    if n = 0 then .ok ([], segment :: rest)
    else if n < segment.length then .ok (segment.take n, segment.drop n :: rest)
    else
      (readFrom (started || !segment.isEmpty) (n - segment.length) rest).map
        fun r => (segment ++ r.1, r.2)

def readFull (n : Nat) (segments : List (List UInt8)) :
    Except ReadError (List UInt8 × List (List UInt8)) :=
  readFrom false n segments

theorem readFrom_of_le {started : Bool} {n : Nat} {segments : List (List UInt8)}
    (h : n ≤ segments.flatten.length) :
    ∃ rest, readFrom started n segments = .ok (segments.flatten.take n, rest) ∧
      rest.flatten = segments.flatten.drop n := by
  induction segments generalizing started n with
  | nil =>
    obtain rfl : n = 0 := by simpa using h
    exact ⟨[], by simp [readFrom], rfl⟩
  | cons segment rest ih =>
    unfold readFrom
    by_cases hzero : n = 0
    · subst hzero
      exact ⟨segment :: rest, by simp, by simp⟩
    rw [if_neg hzero]
    by_cases hlt : n < segment.length
    · refine ⟨segment.drop n :: rest, ?_, ?_⟩
      · rw [if_pos hlt, List.flatten_cons, List.take_append_of_le_length (by omega)]
      · rw [List.flatten_cons, List.flatten_cons, List.drop_append_of_le_length (by omega)]
    · have hrest : n - segment.length ≤ rest.flatten.length := by
        rw [List.flatten_cons, List.length_append] at h
        omega
      have htake : segment.take n = segment := List.take_of_length_le (by omega)
      have hdrop : segment.drop n = [] := List.drop_of_length_le (by omega)
      obtain ⟨left, hleft, hflat⟩ := ih hrest
      refine ⟨left, ?_, ?_⟩
      · rw [if_neg hlt, hleft, List.flatten_cons, List.take_append, htake]
        rfl
      · rw [hflat, List.flatten_cons, List.drop_append, hdrop, List.nil_append]

theorem readFrom_of_lt {started : Bool} {n : Nat} {segments : List (List UInt8)}
    (h : segments.flatten.length < n) :
    readFrom started n segments =
      .error (if started || !segments.flatten.isEmpty then .unexpectedEOF else .eof) := by
  induction segments generalizing started n with
  | nil =>
    have hne : n ≠ 0 := by
      rintro rfl
      simp at h
    simp [readFrom, hne]
  | cons segment rest ih =>
    rw [List.flatten_cons, List.length_append] at h
    unfold readFrom
    rw [if_neg (by omega), if_neg (by omega), ih (by omega)]
    have hempty : (segment ++ rest.flatten).isEmpty =
        (segment.isEmpty && rest.flatten.isEmpty) := by
      cases segment <;> rfl
    rw [List.flatten_cons, hempty, Bool.not_and, Bool.or_assoc]
    rfl

/-- A read succeeds exactly if there are enough bytes, and takes them from the front. -/
theorem readFull_of_le {n : Nat} {segments : List (List UInt8)}
    (h : n ≤ segments.flatten.length) :
    ∃ rest, readFull n segments = .ok (segments.flatten.take n, rest) ∧
      rest.flatten = segments.flatten.drop n :=
  readFrom_of_le h

theorem readFull_of_lt {n : Nat} {segments : List (List UInt8)}
    (h : segments.flatten.length < n) :
    readFull n segments =
      .error (if segments.flatten.isEmpty then .eof else .unexpectedEOF) := by
  rw [readFull, readFrom_of_lt h]
  cases segments.flatten.isEmpty <;> rfl

theorem readFull_eq_ok {n : Nat} {segments rest : List (List UInt8)} {bytes : List UInt8}
    (h : readFull n segments = .ok (bytes, rest)) :
    segments.flatten = bytes ++ rest.flatten ∧ bytes.length = n := by
  by_cases hle : n ≤ segments.flatten.length
  · obtain ⟨left, hread, hleft⟩ := readFull_of_le hle
    obtain ⟨rfl, rfl⟩ := Prod.mk.inj (Except.ok.inj (h.symm.trans hread))
    exact ⟨by rw [hleft, List.take_append_drop], List.length_take_of_le hle⟩
  · rw [readFull_of_lt (by omega)] at h
    cases h

end ResidentialIPManager.Bytes
