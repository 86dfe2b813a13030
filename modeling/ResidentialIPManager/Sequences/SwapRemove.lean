import Mathlib.Data.List.Range
import Mathlib.Tactic

/-! # Removing an element of an array by a swap

A loop over the indices of an array marks the small elements, swaps the one that is sought
with the last one, and goes on over the swapped array; afterwards the last place is cut off.
On a sorted array that holds the element at most once, what is left is what filtering
leaves, in another order.
-/
namespace ResidentialIPManager.Sequences

variable {α : Type*} (side : α → Ordering) (mark : α → α)

def swapWithLast (l : List α) (i : Nat) : List α :=
  match l[i]?, l.getLast? with
  | some a, some z => (l.set i z).set (l.length - 1) a
  | _, _ => l

/-- The body of the loop: `side` says whether an element is smaller, sought or larger. The
flag is set once the last place is to be cut off. -/
def visit (st : Bool × List α) (i : Nat) : Bool × List α :=
  match st.2[i]? with
  | none => st
  | some a =>
    match side a with
    | .lt => (st.1, st.2.set i (mark a))
    | .eq => (true, swapWithLast st.2 i)
    | .gt => st

def sweep (l : List α) : Bool × List α := (List.range l.length).foldl (visit side mark) (false, l)

def swapRemove (l : List α) : List α :=
  match sweep side mark l with
  | (true, swept) => swept.dropLast
  | (false, swept) => swept

def markedRest (l : List α) : List α :=
  (l.filter fun a => side a ≠ .eq).map fun a => if side a = .lt then mark a else a

variable {side}

theorem visit_lt {b : Bool} {before after : List α} {a : α} (ha : side a = .lt) :
    visit side mark (b, before ++ a :: after) before.length =
      (b, before ++ mark a :: after) := by
  simp [visit, ha]

theorem visit_gt {b : Bool} {before after : List α} {a : α} (ha : side a = .gt) :
    visit side mark (b, before ++ a :: after) before.length = (b, before ++ a :: after) := by
  simp [visit, ha]

theorem visit_last (b : Bool) (before : List α) {a : α} (ha : side a = .eq) :
    visit side mark (b, before ++ [a]) before.length = (true, before ++ [a]) := by
  simp [visit, ha, swapWithLast]

theorem visit_swap {b : Bool} {before between : List α} {a z : α} (ha : side a = .eq) :
    visit side mark (b, before ++ a :: (between ++ [z])) before.length =
      (true, before ++ z :: (between ++ [a])) := by
  have hlast : before.length + (between.length + 1 + 1) - 1 =
      before.length + (between.length + 1) := by omega
  have hz : (before ++ a :: (between ++ [z])).getLast? = some z := by
    rw [← List.cons_append, ← List.append_assoc, List.getLast?_concat]
  simp [visit, ha, swapWithLast, hz, hlast]

theorem foldl_visit_lt (b : Bool) (before : List α) {l : List α} (after : List α)
    (hl : ∀ a ∈ l, side a = .lt) :
    (List.range' before.length l.length).foldl (visit side mark) (b, before ++ (l ++ after)) =
      (b, before ++ (l.map mark ++ after)) := by
  induction l generalizing before with
  | nil => rfl
  | cons a rest ih =>
    have hrest := ih (before ++ [mark a]) fun c hc => hl c (List.mem_cons_of_mem a hc)
    simp only [List.length_append, List.length_singleton, List.append_assoc,
      List.singleton_append] at hrest
    rw [List.length_cons, List.range'_succ, List.foldl_cons, List.cons_append,
      visit_lt mark (hl a List.mem_cons_self), hrest, List.map_cons, List.cons_append]

theorem foldl_visit_gt (b : Bool) (before : List α) {l : List α} (after : List α)
    (hl : ∀ a ∈ l, side a = .gt) :
    (List.range' before.length l.length).foldl (visit side mark) (b, before ++ (l ++ after)) =
      (b, before ++ (l ++ after)) := by
  induction l generalizing before with
  | nil => rfl
  | cons a rest ih =>
    have hrest := ih (before ++ [a]) fun c hc => hl c (List.mem_cons_of_mem a hc)
    simp only [List.length_append, List.length_singleton, List.append_assoc,
      List.singleton_append] at hrest
    rw [List.length_cons, List.range'_succ, List.foldl_cons, List.cons_append,
      visit_gt mark (hl a List.mem_cons_self), hrest]

theorem sweep_absent {lower higher : List α} (hlower : ∀ a ∈ lower, side a = .lt)
    (hhigher : ∀ a ∈ higher, side a = .gt) :
    sweep side mark (lower ++ higher) = (false, lower.map mark ++ higher) := by
  have hfirst := foldl_visit_lt mark false [] higher hlower
  have hsecond := foldl_visit_gt mark false (lower.map mark) [] hhigher
  simp only [List.length_nil, List.nil_append] at hfirst
  simp only [List.length_map, List.append_nil] at hsecond
  rw [sweep, List.length_append, List.range_eq_range', ← List.range'_append_1, List.foldl_append,
    hfirst, Nat.zero_add, hsecond]

/-- The loop when it is there: the last element has come to its place. -/
theorem sweep_present {lower higher : List α} {a : α} (hlower : ∀ a ∈ lower, side a = .lt)
    (ha : side a = .eq) (hhigher : ∀ a ∈ higher, side a = .gt) :
    ∃ rest, rest.Perm higher ∧
      sweep side mark (lower ++ a :: higher) = (true, lower.map mark ++ (rest ++ [a])) := by
  have hfirst := foldl_visit_lt mark false [] (a :: higher) hlower
  simp only [List.length_nil, List.nil_append] at hfirst
  have hsweep : sweep side mark (lower ++ a :: higher) =
      (List.range' (lower.length + 1) higher.length).foldl (visit side mark)
        (visit side mark (false, lower.map mark ++ a :: higher) (lower.map mark).length) := by
    rw [sweep, List.length_append, List.range_eq_range', ← List.range'_append_1,
      List.foldl_append, hfirst, Nat.zero_add, List.length_cons, List.range'_succ,
      List.foldl_cons, List.length_map]
  rcases List.eq_nil_or_concat' higher with rfl | ⟨between, z, rfl⟩
  · refine ⟨[], .refl _, ?_⟩
    rw [hsweep, visit_last mark _ _ ha]
    rfl
  · refine ⟨z :: between, (List.perm_append_singleton z between).symm, ?_⟩
    have hbetween : ∀ c ∈ between, side c = .gt := fun c hc =>
      hhigher c (by simp [hc])
    have hsecond := foldl_visit_gt mark true (lower.map mark ++ [z]) [a] hbetween
    have hthird := visit_last mark true (lower.map mark ++ z :: between) ha
    simp only [List.length_append, List.length_map, List.length_cons, List.length_nil, Nat.zero_add,
      List.append_assoc, List.cons_append, List.nil_append] at hsecond hthird
    rw [hsweep, visit_swap mark ha, List.length_append, List.length_singleton,
      ← List.range'_append_1, List.foldl_append, hsecond, List.range'_one, List.foldl_cons,
      List.foldl_nil]
    have hindex : lower.length + 1 + between.length = lower.length + (between.length + 1) := by
      omega
    rw [hindex, hthird]
    simp

/-- On a sorted array the removal by swaps keeps what filtering keeps. -/
theorem swapRemove_perm {lower same higher : List α} (hlower : ∀ a ∈ lower, side a = .lt)
    (hsame : ∀ a ∈ same, side a = .eq) (hhigher : ∀ a ∈ higher, side a = .gt)
    (honce : same.length ≤ 1) :
    (swapRemove side mark (lower ++ (same ++ higher))).Perm
      (markedRest side mark (lower ++ (same ++ higher))) := by
  have hrest : markedRest side mark (lower ++ (same ++ higher)) = lower.map mark ++ higher := by
    have h1 : lower.filter (fun a => side a ≠ .eq) = lower :=
      List.filter_eq_self.mpr fun a ha => by simp [hlower a ha]
    have h2 : same.filter (fun a => side a ≠ .eq) = [] :=
      List.filter_eq_nil_iff.mpr fun a ha => by simp [hsame a ha]
    have h3 : higher.filter (fun a => side a ≠ .eq) = higher :=
      List.filter_eq_self.mpr fun a ha => by simp [hhigher a ha]
    rw [markedRest, List.filter_append, List.filter_append, h1, h2, h3, List.nil_append,
      List.map_append]
    congr 1
    · exact List.map_congr_left fun a ha => by simp [hlower a ha]
    · exact (List.map_congr_left fun a ha => by simp [hhigher a ha]).trans (List.map_id' higher)
  rw [hrest]
  match same, hsame, honce with
  | [], _, _ =>
    rw [List.nil_append, swapRemove, sweep_absent mark hlower hhigher]
  | [a], hsame, _ =>
    obtain ⟨rest, hperm, hsweep⟩ :=
      sweep_present mark hlower (hsame a (List.mem_singleton_self a)) hhigher
    rw [List.singleton_append, swapRemove, hsweep]
    simp only [← List.append_assoc, List.dropLast_concat]
    exact hperm.append_left _

end ResidentialIPManager.Sequences
