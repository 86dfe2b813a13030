import Mathlib.Data.List.Sort
import Mathlib.Tactic

/-! # Sorts that promise no more than order

A library sort by a key returns the same elements in order of the key. Where two keys are
equal it may put either element first, so a program that uses it is a program for every such
sort. On elements with different keys there is only one result.
-/
namespace ResidentialIPManager.Sorting

variable {α κ : Type*} [LinearOrder κ] {key : α → κ}

structure Sorter (key : α → κ) where
  sort : List α → List α
  perm : ∀ l, (sort l).Perm l
  ordered : ∀ l, (sort l).Pairwise fun a b => key a ≤ key b

namespace Sorter

/-- The one that inserts each element before the first that is not smaller. -/
def insertion (key : α → κ) : Sorter key where
  sort := List.insertionSort fun a b => key a ≤ key b
  perm := List.perm_insertionSort _
  ordered l := by
    have : Std.Total fun a b : α => key a ≤ key b := ⟨fun a b => le_total (key a) (key b)⟩
    have : IsTrans α fun a b => key a ≤ key b := ⟨fun _ _ _ => le_trans⟩
    exact List.pairwise_insertionSort _ l

@[simp] theorem mem_sort (sorter : Sorter key) {l : List α} {a : α} :
    a ∈ sorter.sort l ↔ a ∈ l := (sorter.perm l).mem_iff

@[simp] theorem length_sort (sorter : Sorter key) (l : List α) :
    (sorter.sort l).length = l.length := (sorter.perm l).length_eq

/-- Of different keys there is one sorted list. -/
theorem sort_eq (sorter : Sorter key) {l sorted : List α} (hperm : sorted.Perm l)
    (hsorted : sorted.Pairwise fun a b => key a < key b) : sorter.sort l = sorted := by
  have hinj : ∀ a ∈ sorted, ∀ b ∈ sorted, key a = key b → a = b := by
    have hnodup : (sorted.map key).Nodup :=
      List.pairwise_map.mpr (hsorted.imp fun hlt => hlt.ne)
    exact fun a ha b hb heq => List.inj_on_of_nodup_map hnodup ha hb heq
  apply List.Perm.eq_of_pairwise _ (sorter.ordered l) (hsorted.imp fun hlt => hlt.le)
    ((sorter.perm l).trans hperm.symm)
  intro a b ha hb hab hba
  have ha' : a ∈ sorted := hperm.symm.mem_iff.mp (sorter.mem_sort.mp ha)
  exact hinj a ha' b hb (le_antisymm hab hba)

end Sorter

/-- A list with increasing keys falls apart at a key. -/
theorem split_at_key {l : List α} (h : l.Pairwise fun a b => key a < key b) (k : κ) :
    l = l.filter (fun a => key a < k) ++
        (l.filter (fun a => key a = k) ++ l.filter (fun a => k < key a)) ∧
      (l.filter fun a => key a = k).length ≤ 1 := by
  induction l with
  | nil => exact ⟨rfl, by simp⟩
  | cons a rest ih =>
    obtain ⟨hhead, htail⟩ := List.pairwise_cons.mp h
    obtain ⟨hsplit, hlen⟩ := ih htail
    -- behind an element that is not below the key there are only larger ones
    have habove : k ≤ key a → rest.filter (fun b => key b < k) = [] ∧
        rest.filter (fun b => key b = k) = [] ∧ rest.filter (fun b => k < key b) = rest := by
      intro hka
      have hlt : ∀ b ∈ rest, k < key b := fun b hb => hka.trans_lt (hhead b hb)
      refine ⟨?_, ?_, ?_⟩
      · exact List.filter_eq_nil_iff.mpr fun b hb => by simpa using (hlt b hb).le
      · exact List.filter_eq_nil_iff.mpr fun b hb => by simpa using (hlt b hb).ne'
      · exact List.filter_eq_self.mpr fun b hb => by simpa using hlt b hb
    rcases lt_trichotomy (key a) k with hlt | heq | hgt
    · simp only [List.filter_cons, hlt, hlt.ne, hlt.not_gt, decide_true, decide_false, if_true,
        Bool.false_eq_true, if_false, List.cons_append]
      exact ⟨congrArg _ hsplit, hlen⟩
    · obtain ⟨h1, h2, h3⟩ := habove heq.ge
      simp [h1, h2, h3, heq]
    · obtain ⟨h1, h2, h3⟩ := habove hgt.le
      simp [h1, h2, h3, hgt, hgt.ne', hgt.not_gt]

/-- Of two lists with increasing keys, one with elements of the other only is a part of it. -/
theorem sublist_of_increasing (key : α → κ) {l m : List α}
    (hl : l.Pairwise fun a b => key a < key b)
    (hm : m.Pairwise fun a b => key a < key b) (hsub : m ⊆ l) : m.Sublist l := by
  induction l generalizing m with
  | nil => simp [List.subset_nil.mp hsub]
  | cons a rest ih =>
    cases m with
    | nil => exact List.nil_sublist _
    | cons b others =>
      obtain ⟨ha, hrest⟩ := List.pairwise_cons.mp hl
      obtain ⟨hb, hothers⟩ := List.pairwise_cons.mp hm
      rcases List.mem_cons.mp (hsub List.mem_cons_self) with rfl | hmem
      · refine (ih hrest hothers fun c hc => ?_).cons_cons b
        refine (List.mem_cons.mp (hsub (List.mem_cons_of_mem b hc))).resolve_left ?_
        rintro rfl
        exact (hb c hc).ne rfl
      · -- everything is above the first element
        refine (ih hrest hm fun c hc => ?_).cons a
        refine (List.mem_cons.mp (hsub hc)).resolve_left ?_
        rintro rfl
        rcases List.mem_cons.mp hc with rfl | hc
        · exact (ha c hmem).ne rfl
        · exact lt_asymm (ha b hmem) (hb c hc)

def smallestKey (key : α → κ) (first : κ) (l : List α) : κ :=
  l.foldl (fun k a => if key a < k then key a else k) first

theorem smallestKey_spec (key : α → κ) (first : κ) (l : List α) :
    (∀ a ∈ l, smallestKey key first l ≤ key a) ∧ smallestKey key first l ≤ first ∧
      (smallestKey key first l = first ∨ ∃ a ∈ l, smallestKey key first l = key a) := by
  induction l generalizing first with
  | nil => simp [smallestKey]
  | cons a rest ih =>
    have hmin : (if key a < first then key a else first) = min first (key a) := by
      rw [min_def]
      split_ifs with hlt hle hle
      · exact absurd hlt (not_lt.mpr hle)
      · rfl
      · rfl
      · exact absurd (not_lt.mp hlt) hle
    have hcons : smallestKey key first (a :: rest) = smallestKey key (min first (key a)) rest := by
      rw [smallestKey, List.foldl_cons, hmin]
      rfl
    obtain ⟨hall, hle, hfrom⟩ := ih (min first (key a))
    rw [hcons]
    refine ⟨fun b hb => ?_, hle.trans (min_le_left _ _), ?_⟩
    · rcases List.mem_cons.mp hb with rfl | hb
      · exact hle.trans (min_le_right _ _)
      · exact hall b hb
    · rcases hfrom with heq | ⟨b, hb, heq⟩
      · rw [heq]
        exact (min_choice first (key a)).imp_right fun h => ⟨a, List.mem_cons_self, h⟩
      · exact .inr ⟨b, List.mem_cons_of_mem a hb, heq⟩

end ResidentialIPManager.Sorting
