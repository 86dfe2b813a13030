import Mathlib.Data.List.Sort

/-! # The upper median

The middle element of a sorted list, the upper one of two, has at least half of the
elements on either side.
-/
namespace ResidentialIPManager.Sorting

variable {α : Type*} [LinearOrder α]

theorem median_of_pairwise {l : List α} (hsorted : l.Pairwise (· ≤ ·)) {m : α}
    (h : l[l.length / 2]? = some m) :
    l.length ≤ 2 * l.countP (fun a => decide (a ≤ m)) ∧
      l.length ≤ 2 * l.countP (fun a => decide (m ≤ a)) := by
  obtain ⟨hk, hm⟩ := List.getElem?_eq_some_iff.mp h
  have hle : ∀ {i j : Nat} (hi : i < l.length) (hj : j < l.length), i ≤ j → l[i] ≤ l[j] := by
    intro i j hi hj hij
    rcases Nat.lt_or_eq_of_le hij with hlt | rfl
    · exact List.pairwise_iff_getElem.mp hsorted i j hi hj hlt
    · exact le_rfl
  -- the elements up to the middle, and those from the middle on
  have hlow : (l.take (l.length / 2 + 1)).countP (fun a => decide (a ≤ m)) = l.length / 2 + 1 := by
    have hall : ∀ a ∈ l.take (l.length / 2 + 1), decide (a ≤ m) = true := by
      intro a ha
      obtain ⟨i, hi, rfl⟩ := List.getElem_of_mem ha
      rw [List.length_take] at hi
      rw [List.getElem_take, decide_eq_true_eq, ← hm]
      exact hle (by omega) hk (by omega)
    rw [List.countP_eq_length.mpr hall, List.length_take]
    omega
  have hhigh : (l.drop (l.length / 2)).countP (fun a => decide (m ≤ a)) =
      l.length - l.length / 2 := by
    have hall : ∀ a ∈ l.drop (l.length / 2), decide (m ≤ a) = true := by
      intro a ha
      obtain ⟨i, hi, rfl⟩ := List.getElem_of_mem ha
      rw [List.length_drop] at hi
      rw [List.getElem_drop, decide_eq_true_eq, ← hm]
      exact hle hk (by omega) (by omega)
    rw [List.countP_eq_length.mpr hall, List.length_drop]
  have hlow' := (List.take_sublist (l.length / 2 + 1) l).countP_le (p := fun a => decide (a ≤ m))
  have hhigh' := (List.drop_sublist (l.length / 2) l).countP_le (p := fun a => decide (m ≤ a))
  omega

theorem median_of_insertionSort {l : List α} {m : α}
    (h : (l.insertionSort (· ≤ ·))[l.length / 2]? = some m) :
    m ∈ l ∧ l.length ≤ 2 * l.countP (fun a => decide (a ≤ m)) ∧
      l.length ≤ 2 * l.countP (fun a => decide (m ≤ a)) := by
  have hperm := List.perm_insertionSort (· ≤ ·) l
  have hmedian := median_of_pairwise (List.pairwise_insertionSort (· ≤ ·) l) (m := m) (by
    rw [List.length_insertionSort]
    exact h)
  rw [hperm.length_eq, hperm.countP_eq, hperm.countP_eq] at hmedian
  exact ⟨hperm.mem_iff.mp (List.mem_of_getElem? h), hmedian⟩

end ResidentialIPManager.Sorting
