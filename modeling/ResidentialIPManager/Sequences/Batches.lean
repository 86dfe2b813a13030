import Mathlib.Data.List.Basic
import Mathlib.Data.List.Nodup

/-! # Requests in batches

A list without repetitions is cut into slices of a bounded length, and the slices are sent
one after another until an answer fails. Nothing here depends on what is sent.
-/
namespace ResidentialIPManager.Sequences

variable {α β ε : Type*}

section Firsts

variable [DecidableEq α]

/-- The elements at their first occurrence, with those seen before left out. -/
def firsts (seen : List α) : List α → List α
  | [] => []
  | a :: rest => if a ∈ seen then firsts seen rest else a :: firsts (a :: seen) rest

theorem mem_firsts {seen l : List α} {a : α} : a ∈ firsts seen l ↔ a ∈ l ∧ a ∉ seen := by
  induction l generalizing seen with
  | nil => simp [firsts]
  | cons b rest ih =>
    rw [firsts]
    split_ifs with hb
    · rw [ih, List.mem_cons]
      constructor
      · exact fun h => ⟨.inr h.1, h.2⟩
      · rintro ⟨rfl | ha, hseen⟩
        · exact absurd hb hseen
        · exact ⟨ha, hseen⟩
    · rw [List.mem_cons, ih, List.mem_cons, List.mem_cons, not_or]
      constructor
      · rintro (rfl | ⟨ha, -, hseen⟩)
        · exact ⟨.inl rfl, hb⟩
        · exact ⟨.inr ha, hseen⟩
      · rintro ⟨rfl | ha, hseen⟩
        · exact .inl rfl
        · by_cases hab : a = b
          · exact .inl hab
          · exact .inr ⟨ha, hab, hseen⟩

theorem nodup_firsts (seen l : List α) : (firsts seen l).Nodup := by
  induction l generalizing seen with
  | nil => exact List.nodup_nil
  | cons a rest ih =>
    rw [firsts]
    split_ifs
    · exact ih seen
    · exact List.nodup_cons.mpr ⟨fun h => (mem_firsts.mp h).2 List.mem_cons_self, ih _⟩

end Firsts

section Slices

def slices (size : Nat) (l : List α) : List (List α) :=
  (List.range ((l.length + size - 1) / size)).map fun i => (l.drop (i * size)).take size

theorem flatten_slices_take (size count : Nat) (l : List α) :
    ((List.range count).map fun i => (l.drop (i * size)).take size).flatten =
      l.take (count * size) := by
  induction count with
  | zero => simp
  | succ count ih =>
    rw [List.range_succ, List.map_append, List.flatten_append, ih, Nat.succ_mul, List.take_add]
    simp

theorem flatten_slices {size : Nat} (h : 0 < size) (l : List α) : (slices size l).flatten = l := by
  rw [slices, flatten_slices_take]
  apply List.take_of_length_le
  have hdiv := Nat.div_add_mod (l.length + size - 1) size
  have hmod := Nat.mod_lt (l.length + size - 1) h
  rw [Nat.mul_comm] at hdiv
  omega

theorem length_of_mem_slices {size : Nat} (h : 0 < size) {l slice : List α}
    (hslice : slice ∈ slices size l) : 0 < slice.length ∧ slice.length ≤ size := by
  obtain ⟨i, hi, rfl⟩ := List.mem_map.mp hslice
  have hcount := (Nat.le_div_iff_mul_le h).mp (List.mem_range.mp hi)
  rw [Nat.succ_mul] at hcount
  rw [List.length_take, List.length_drop]
  omega

/-- No element of a list without repetitions lies in two of its parts. -/
theorem index_unique {parts : List (List α)} (h : parts.flatten.Nodup) {i j : Nat}
    {part part' : List α} {a : α} (hi : parts[i]? = some part) (hj : parts[j]? = some part')
    (ha : a ∈ part) (ha' : a ∈ part') : i = j := by
  obtain ⟨-, hpairs⟩ := List.nodup_flatten.mp h
  have hdisjoint : ∀ {i j : Nat} {part part' : List α}, parts[i]? = some part →
      parts[j]? = some part' → i < j → part.Disjoint part' := by
    intro i j part part' hi hj hlt
    obtain ⟨hi', rfl⟩ := List.getElem?_eq_some_iff.mp hi
    obtain ⟨hj', rfl⟩ := List.getElem?_eq_some_iff.mp hj
    exact List.pairwise_iff_getElem.mp hpairs i j hi' hj' hlt
  rcases Nat.lt_trichotomy i j with hlt | heq | hlt
  · exact absurd ha' fun h' => hdisjoint hi hj hlt ha h'
  · exact heq
  · exact absurd ha fun h' => hdisjoint hj hi hlt ha' h'

end Slices

section Sending

/-- Requests are sent until one fails. The first component is the log of what was sent. -/
def sendAll (send : Nat → α → Except ε (List β)) (call : Nat) (collected : List β) :
    List α → List α × Except ε (List β)
  | [] => ([], .ok collected)
  | request :: rest =>
    match send call request with
    | .error e => ([request], .error e)
    | .ok answer =>
      let later := sendAll send (call + 1) (collected ++ answer) rest
      (request :: later.1, later.2)

variable {send : Nat → α → Except ε (List β)} {call : Nat} {collected : List β}
  {requests : List α}

/-- If every request is answered, all are sent and the answers are put together in order. -/
theorem sendAll_of_ok {answer : Nat → List β}
    (h : ∀ i request, requests[i]? = some request → send (call + i) request = .ok (answer i)) :
    sendAll send call collected requests =
      (requests, .ok (collected ++ (List.range requests.length).flatMap answer)) := by
  induction requests generalizing call collected answer with
  | nil => simp [sendAll]
  | cons request rest ih =>
    have hfirst : send call request = .ok (answer 0) := h 0 request rfl
    have hrest : ∀ i r, rest[i]? = some r → send (call + 1 + i) r = .ok (answer (i + 1)) := by
      intro i r hr
      rw [Nat.add_assoc, Nat.add_comm 1 i]
      exact h (i + 1) r (by simpa using hr)
    rw [sendAll, hfirst]
    simp only [ih hrest]
    rw [List.length_cons, List.range_succ_eq_map, List.flatMap_cons, List.flatMap_map,
      List.append_assoc]

/-- If some request would fail, so does the whole. -/
theorem sendAll_of_error (h : ∃ i request e, requests[i]? = some request ∧
    send (call + i) request = .error e) :
    ∃ e, (sendAll send call collected requests).2 = .error e := by
  induction requests generalizing call collected with
  | nil => simp at h
  | cons request rest ih =>
    obtain ⟨i, failing, e, hi, hfail⟩ := h
    rw [sendAll]
    cases hfirst : send call request with
    | error e' => exact ⟨e', rfl⟩
    | ok answer =>
      apply ih
      cases i with
      | zero =>
        obtain rfl := Option.some.inj hi
        cases hfirst.symm.trans hfail
      | succ i =>
        refine ⟨i, failing, e, by simpa using hi, ?_⟩
        rw [Nat.add_assoc, Nat.add_comm 1 i]
        exact hfail

end Sending

end ResidentialIPManager.Sequences
