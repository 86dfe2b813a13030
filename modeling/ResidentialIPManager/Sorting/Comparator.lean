import Mathlib.Data.List.Sort
import Mathlib.Tactic

/-! # Comparisons given to a sort

A `less` function that is asymmetric and cotransitive is a strict weak order. Comparing
by a key and, on equal keys, by a further comparison is one again. On a list whose
elements are pairwise comparable, a stable sort by such a function has one possible
result, whatever the order of the input. Leaving out elements commutes with the sort.
Ties keep their places: the sort is the one that compares places last.
-/
namespace ResidentialIPManager.Sorting

variable {α κ : Type*} {less : α → α → Bool}

structure StrictWeak (less : α → α → Bool) : Prop where
  asymm : ∀ a b, less a b = true → less b a = false
  cotrans : ∀ a b c, less a c = true → less a b = true ∨ less b c = true

namespace StrictWeak

theorem irrefl (h : StrictWeak less) (a : α) : less a a = false := by
  by_contra ha
  have ht : less a a = true := by simpa using ha
  exact ha (h.asymm a a ht)

theorem trans (h : StrictWeak less) {a b c : α} (hab : less a b = true) (hbc : less b c = true) :
    less a c = true := by
  rcases h.cotrans a c b hab with hac | hcb
  · exact hac
  · simp [h.asymm b c hbc] at hcb

/-- The order that a map into ordered things gives. -/
theorem comap {β : Type*} (h : StrictWeak less) (f : β → α) :
    StrictWeak fun a b => less (f a) (f b) where
  asymm a b := h.asymm (f a) (f b)
  cotrans a b c := h.cotrans (f a) (f b) (f c)

end StrictWeak

def byKey [LinearOrder κ] (key : α → κ) (next : α → α → Bool) (a b : α) : Bool :=
  if key a ≠ key b then decide (key a < key b) else next a b

theorem byKey_iff [LinearOrder κ] {key : α → κ} {next : α → α → Bool} {a b : α} :
    byKey key next a b = true ↔ key a < key b ∨ key a = key b ∧ next a b = true := by
  unfold byKey
  by_cases h : key a = key b
  · simp [h]
  · simp [h]

theorem StrictWeak.byKey [LinearOrder κ] {next : α → α → Bool} (h : StrictWeak next)
    (key : α → κ) : StrictWeak (byKey key next) where
  asymm a b hab := by
    rw [Bool.eq_false_iff]
    intro hba
    rw [byKey_iff] at hab hba
    rcases hab with hlt | ⟨heq, hab⟩
    · rcases hba with hgt | ⟨heq, -⟩
      · exact lt_asymm hlt hgt
      · exact hlt.ne' heq
    · rcases hba with hgt | ⟨-, hba⟩
      · exact hgt.ne' heq
      · simp [h.asymm a b hab] at hba
  cotrans a b c hac := by
    simp only [byKey_iff] at hac ⊢
    rcases hac with hlt | ⟨heq, hac⟩
    · rcases lt_or_ge (key a) (key b) with hab | hba
      · exact .inl (.inl hab)
      · exact .inr (.inl (hba.trans_lt hlt))
    · rcases lt_trichotomy (key a) (key b) with hab | hab | hab
      · exact .inl (.inl hab)
      · rcases h.cotrans a b c hac with h1 | h2
        · exact .inl (.inr ⟨hab, h1⟩)
        · exact .inr (.inr ⟨hab ▸ heq, h2⟩)
      · exact .inr (.inl (heq ▸ hab))

def Comparable (less : α → α → Bool) (l : List α) : Prop :=
  ∀ a ∈ l, ∀ b ∈ l, a ≠ b → less a b = true ∨ less b a = true

/-- The relation that a stable insertion sort uses for `less`. -/
def notAfter (less : α → α → Bool) (a b : α) : Prop := (!less b a) = true

instance (less : α → α → Bool) : DecidableRel (notAfter less) :=
  fun a b => inferInstanceAs (Decidable ((!less b a) = true))

theorem StrictWeak.total_notAfter (h : StrictWeak less) : Std.Total (notAfter less) where
  total a b := by
    unfold notAfter
    cases hba : less b a with
    | false => exact .inl rfl
    | true => exact .inr (by simp [h.asymm b a hba])

theorem StrictWeak.trans_notAfter (h : StrictWeak less) : IsTrans α (notAfter less) where
  trans a b c hab hbc := by
    unfold notAfter at hab hbc ⊢
    rw [Bool.not_eq_true'] at hab hbc ⊢
    rw [Bool.eq_false_iff]
    intro hca
    rcases h.cotrans c b a hca with hcb | hba
    · simp [hbc] at hcb
    · simp [hab] at hba

/-- After the sort no smaller element stands behind a larger one. -/
theorem index_lt_of_less (h : StrictWeak less) {l : List α} {a b : α} (hab : less a b = true)
    {i j : Nat} (hi : (l.insertionSort (notAfter less))[i]? = some a)
    (hj : (l.insertionSort (notAfter less))[j]? = some b) : i < j := by
  have := h.total_notAfter
  have := h.trans_notAfter
  obtain ⟨hilen, rfl⟩ := List.getElem?_eq_some_iff.mp hi
  obtain ⟨hjlen, rfl⟩ := List.getElem?_eq_some_iff.mp hj
  rcases lt_trichotomy i j with hlt | rfl | hgt
  · exact hlt
  · simp [h.irrefl] at hab
  · have hsorted := List.pairwise_iff_getElem.mp (List.pairwise_insertionSort (notAfter less) l)
      j i hjlen hilen hgt
    simp [notAfter, hab] at hsorted

/-- The sorted list is increasing, not only nowhere decreasing. -/
theorem pairwise_insertionSort_less (h : StrictWeak less) {l : List α} (hl : l.Nodup)
    (hc : Comparable less l) :
    (l.insertionSort (notAfter less)).Pairwise (fun a b => less a b = true) := by
  have := h.total_notAfter
  have := h.trans_notAfter
  have hperm := List.perm_insertionSort (notAfter less) l
  have hnd : (l.insertionSort (notAfter less)).Pairwise (· ≠ ·) := hperm.nodup_iff.mpr hl
  refine (List.Pairwise.and hnd (List.pairwise_insertionSort (notAfter less) l)).imp_of_mem ?_
  intro a b ha hb hab
  rcases hc a (hperm.mem_iff.mp ha) b (hperm.mem_iff.mp hb) hab.1 with hless | hless
  · exact hless
  · have hnot := hab.2
    simp [notAfter, hless] at hnot

/-- Two increasing lists of the same elements are equal. -/
theorem eq_of_perm_of_increasing (h : StrictWeak less) {l l' : List α} (hp : l.Perm l')
    (hl : l.Pairwise (fun a b => less a b = true))
    (hl' : l'.Pairwise (fun a b => less a b = true)) : l = l' := by
  refine hp.eq_of_pairwise (fun a b _ _ hab hba => ?_) hl hl'
  simp [h.asymm a b hab] at hba

/-- The order of the input does not show in the result. -/
theorem insertionSort_perm_invariant (h : StrictWeak less) {l l' : List α} (hp : l.Perm l')
    (hl : l.Nodup) (hc : Comparable less l) :
    l.insertionSort (notAfter less) = l'.insertionSort (notAfter less) := by
  have hc' : Comparable less l' := fun a ha b hb =>
    hc a (hp.mem_iff.mpr ha) b (hp.mem_iff.mpr hb)
  refine eq_of_perm_of_increasing h ?_ (pairwise_insertionSort_less h hl hc)
    (pairwise_insertionSort_less h (hp.nodup_iff.mp hl) hc')
  exact (List.perm_insertionSort _ l).trans (hp.trans (List.perm_insertionSort _ l').symm)

section Filtering

variable {r : α → α → Prop} [DecidableRel r]

/-- An element that is not after any other one is inserted in front. -/
theorem orderedInsert_of_forall {a : α} {l : List α} (h : ∀ b ∈ l, r a b) :
    l.orderedInsert r a = a :: l := by
  cases l with
  | nil => rfl
  | cons b l => rw [List.orderedInsert_cons, if_pos (h b List.mem_cons_self)]

theorem filter_orderedInsert [IsTrans α r] (p : α → Bool) (a : α) {l : List α}
    (hl : l.Pairwise r) :
    (l.orderedInsert r a).filter p =
      if p a then (l.filter p).orderedInsert r a else l.filter p := by
  induction l with
  | nil => cases hp : p a <;> simp [hp]
  | cons b l ih =>
    rw [List.pairwise_cons] at hl
    rw [List.orderedInsert_cons]
    by_cases hab : r a b
    · have hfront : ∀ c ∈ (b :: l).filter p, r a c := by
        intro c hc
        rcases List.mem_cons.mp (List.mem_of_mem_filter hc) with rfl | hmem
        · exact hab
        · exact Trans.trans hab (hl.1 c hmem)
      rw [if_pos hab, List.filter_cons, orderedInsert_of_forall hfront]
    · rw [if_neg hab, List.filter_cons, List.filter_cons, ih hl.2]
      by_cases hb : p b = true
      · simp only [hb, if_true, List.orderedInsert_cons, if_neg hab]
        split_ifs <;> rfl
      · simp only [hb, if_false, Bool.false_eq_true]

/-- Leaving out elements before or after a stable sort is the same. -/
theorem filter_insertionSort [IsTrans α r] [Std.Total r] (p : α → Bool) (l : List α) :
    (l.insertionSort r).filter p = (l.filter p).insertionSort r := by
  induction l with
  | nil => rfl
  | cons a l ih =>
    rw [List.insertionSort_cons, filter_orderedInsert p a (List.pairwise_insertionSort r l), ih,
      List.filter_cons]
    split_ifs <;> rfl

end Filtering

section Places

theorem pairwise_zipIdx (l : List α) (n : Nat) : (l.zipIdx n).Pairwise fun p q => p.2 < q.2 := by
  induction l generalizing n with
  | nil => exact .nil
  | cons a l ih =>
    rw [List.zipIdx_cons, List.pairwise_cons]
    refine ⟨?_, ih (n + 1)⟩
    intro q hq
    have hle := List.le_snd_of_mem_zipIdx hq
    show n < q.2
    omega

/-- Two comparisons that agree on a list sort it alike. -/
theorem insertionSort_congr {less' : α → α → Bool} {l : List α}
    (h : ∀ a ∈ l, ∀ b ∈ l, less a b = less' a b) :
    l.insertionSort (notAfter less) = l.insertionSort (notAfter less') := by
  have hmap := List.map_insertionSort (notAfter less) (notAfter less') id l ?_
  · simpa only [List.map_id] using hmap
  · intro a ha b hb
    simp only [notAfter, id_eq, h b hb a ha]

def thenPlace (less : α → α → Bool) (p q : α × Nat) : Bool :=
  less p.1 q.1 || (!less q.1 p.1 && decide (p.2 < q.2))

theorem thenPlace_iff {p q : α × Nat} :
    thenPlace less p q = true ↔
      less p.1 q.1 = true ∨ less q.1 p.1 = false ∧ p.2 < q.2 := by
  simp [thenPlace]

theorem StrictWeak.thenPlace (h : StrictWeak less) : StrictWeak (thenPlace less) where
  asymm p q hpq := by
    rw [Bool.eq_false_iff]
    intro hqp
    rw [thenPlace_iff] at hpq hqp
    rcases hpq with hless | ⟨hnot, hlt⟩
    · rcases hqp with hless' | ⟨hnot', -⟩
      · simp [h.asymm _ _ hless] at hless'
      · simp [hnot'] at hless
    · rcases hqp with hless' | ⟨-, hlt'⟩
      · simp [hnot] at hless'
      · omega
  cotrans p q r hpr := by
    simp only [thenPlace_iff] at hpr ⊢
    rcases hpr with hless | ⟨hnot, hlt⟩
    · rcases h.cotrans _ q.1 _ hless with hpq | hqr
      · exact .inl (.inl hpq)
      · exact .inr (.inl hqr)
    · cases hpq : less p.1 q.1 with
      | true => exact .inl (.inl rfl)
      | false =>
        cases hqr : less q.1 r.1 with
        | true => exact .inr (.inl rfl)
        | false =>
          -- neither before nor behind: the three are tied, and the places decide
          have hqp : less q.1 p.1 = false := by
            rw [Bool.eq_false_iff]
            intro hqp
            rcases h.cotrans _ r.1 _ hqp with hqr' | hrp
            · simp [hqr] at hqr'
            · simp [hnot] at hrp
          have hrq : less r.1 q.1 = false := by
            rw [Bool.eq_false_iff]
            intro hrq
            rcases h.cotrans _ p.1 _ hrq with hrp | hpq'
            · simp [hnot] at hrp
            · simp [hpq] at hpq'
          by_cases hplace : p.2 < q.2
          · exact .inl (.inr ⟨hqp, hplace⟩)
          · exact .inr (.inr ⟨hrq, by omega⟩)

theorem map_orderedInsert_fst {r : α → α → Prop} [DecidableRel r] {s : α × Nat → α × Nat → Prop}
    [DecidableRel s] {p : α × Nat} {l : List (α × Nat)} (h : ∀ q ∈ l, s p q ↔ r p.1 q.1) :
    (l.orderedInsert s p).map Prod.fst = (l.map Prod.fst).orderedInsert r p.1 := by
  induction l with
  | nil => rfl
  | cons q l ih =>
    rw [List.orderedInsert_cons, List.map_cons, List.orderedInsert_cons]
    by_cases hq : s p q
    · rw [if_pos hq, if_pos ((h q List.mem_cons_self).mp hq)]
      rfl
    · rw [if_neg hq, if_neg fun hr => hq ((h q List.mem_cons_self).mpr hr), List.map_cons,
        ih fun q hq => h q (List.mem_cons_of_mem _ hq)]

/-- On a list in the order of its places, a stable sort is the sort that compares the
places last. -/
theorem map_insertionSort_fst {l : List (α × Nat)} (hl : l.Pairwise fun p q => p.2 < q.2) :
    (l.insertionSort (notAfter (thenPlace less))).map Prod.fst =
      (l.map Prod.fst).insertionSort (notAfter less) := by
  induction l with
  | nil => rfl
  | cons p l ih =>
    rw [List.pairwise_cons] at hl
    rw [List.insertionSort_cons, List.map_cons, List.insertionSort_cons, ← ih hl.2]
    apply map_orderedInsert_fst
    intro q hq
    have hplace : p.2 < q.2 := hl.1 q ((List.mem_insertionSort _).mp hq)
    have hnot : ¬q.2 < p.2 := by omega
    simp [notAfter, thenPlace, hnot]

/-- The result of a stable sort with the places its elements come from. -/
theorem exists_places (h : StrictWeak less) {l : List (α × Nat)}
    (hl : l.Pairwise fun p q => p.2 < q.2) :
    ∃ placed : List (α × Nat), placed.Perm l ∧
      (l.map Prod.fst).insertionSort (notAfter less) = placed.map Prod.fst ∧
      placed.Pairwise fun p q => thenPlace less p q = true := by
  have hdistinct : (l.map Prod.snd).Nodup := List.pairwise_map.mpr (hl.imp fun hlt => hlt.ne)
  refine ⟨_, List.perm_insertionSort _ _, (map_insertionSort_fst hl).symm, ?_⟩
  apply pairwise_insertionSort_less h.thenPlace
  · exact hdistinct.of_map _
  · intro p hp q hq hne
    have hplaces : p.2 ≠ q.2 := fun heq => hne (List.inj_on_of_nodup_map hdistinct hp hq heq)
    simp only [thenPlace_iff]
    cases hpq : less p.1 q.1 with
    | true => exact .inl (.inl rfl)
    | false =>
      cases hqp : less q.1 p.1 with
      | true => exact .inr (.inl rfl)
      | false =>
        rcases Nat.lt_or_gt_of_ne hplaces with hlt | hlt
        · exact .inl (.inr ⟨rfl, hlt⟩)
        · exact .inr (.inr ⟨rfl, hlt⟩)

end Places

end ResidentialIPManager.Sorting
