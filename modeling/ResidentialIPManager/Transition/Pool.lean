import ResidentialIPManager.Transition.Runs

/-! # Interleaved threads over a shared state

A `Pool` is a shared state, a list of threads that only ever grows, and the
history of events, newest first. One move replaces the state of one thread,
appends the threads it starts and records the events it emits. A thread's
position is its identity.
-/
namespace ResidentialIPManager.Transition

structure Outcome (σ τ ε : Type*) where
  shared : σ
  thread : τ
  spawned : List τ := []
  events : List ε := []

structure Pool (σ τ ε : Type*) where
  shared : σ
  threads : List τ
  history : List ε

namespace Pool

variable {σ τ ε : Type*}

def move (w : Pool σ τ ε) (tid : Nat) (o : Outcome σ τ ε) : Pool σ τ ε :=
  ⟨o.shared, w.threads.set tid o.thread ++ o.spawned, o.events ++ w.history⟩

@[simp] theorem move_shared (w : Pool σ τ ε) (tid : Nat) (o : Outcome σ τ ε) :
    (w.move tid o).shared = o.shared := rfl

@[simp] theorem move_history (w : Pool σ τ ε) (tid : Nat) (o : Outcome σ τ ε) :
    (w.move tid o).history = o.events ++ w.history := rfl

/-- A thread after a move is the moving one, a new one, or an unchanged other one. -/
theorem getElem?_move {w : Pool σ τ ε} {tid j : Nat} {o : Outcome σ τ ε} {u : τ}
    (h : (w.move tid o).threads[j]? = some u) :
    (j = tid ∧ u = o.thread) ∨ (j ≠ tid ∧ w.threads[j]? = some u) ∨
      (w.threads.length ≤ j ∧ u ∈ o.spawned) := by
  unfold move at h
  by_cases hj : j < w.threads.length
  · rw [List.getElem?_append_left (by simpa using hj)] at h
    by_cases he : j = tid
    · subst he
      rw [List.getElem?_set_self hj, Option.some.injEq] at h
      exact .inl ⟨rfl, h.symm⟩
    · rw [List.getElem?_set_ne (Ne.symm he)] at h
      exact .inr (.inl ⟨he, h⟩)
  · rw [List.getElem?_append_right (by simpa using hj)] at h
    exact .inr (.inr ⟨by omega, List.mem_of_getElem? h⟩)

theorem getElem?_move_self {w : Pool σ τ ε} {tid : Nat} {o : Outcome σ τ ε} {t : τ}
    (h : w.threads[tid]? = some t) : (w.move tid o).threads[tid]? = some o.thread := by
  obtain ⟨hlt, -⟩ := List.getElem?_eq_some_iff.mp h
  unfold move
  rw [List.getElem?_append_left (by simpa using hlt), List.getElem?_set_self hlt]

theorem getElem?_move_other {w : Pool σ τ ε} {tid j : Nat} {o : Outcome σ τ ε} {u : τ}
    (hj : j ≠ tid) (h : w.threads[j]? = some u) : (w.move tid o).threads[j]? = some u := by
  obtain ⟨hlt, -⟩ := List.getElem?_eq_some_iff.mp h
  unfold move
  rw [List.getElem?_append_left (by simpa using hlt), List.getElem?_set_ne (Ne.symm hj), h]

/-- Every thread, at its position, satisfies `P`. -/
def Each (P : Nat → τ → Prop) (l : List τ) : Prop := ∀ j u, l[j]? = some u → P j u

theorem Each.nil {P : Nat → τ → Prop} : Each P [] := by
  intro j u h
  cases h

/-- The local proof obligation of a move: the moving thread and the new threads
satisfy `Q`, and the others keep it. -/
theorem Each.move {P Q : Nat → τ → Prop} {w : Pool σ τ ε} {tid : Nat} {o : Outcome σ τ ε}
    (h : Each P w.threads) (hself : Q tid o.thread)
    (hother : ∀ j u, j ≠ tid → w.threads[j]? = some u → P j u → Q j u)
    (hnew : ∀ j u, w.threads.length ≤ j → u ∈ o.spawned → Q j u) :
    Each Q (w.move tid o).threads := by
  intro j u hu
  rcases getElem?_move hu with ⟨rfl, rfl⟩ | ⟨hj, hold⟩ | ⟨hj, hs⟩
  · exact hself
  · exact hother j u hj hold (h j u hold)
  · exact hnew j u hj hs

theorem Each.imp {P Q : Nat → τ → Prop} {l : List τ} (h : Each P l)
    (himp : ∀ j u, P j u → Q j u) : Each Q l :=
  fun j u hu => himp j u (h j u hu)

theorem Each.push {P : Nat → τ → Prop} {l : List τ} {t : τ} (h : Each P l) (ht : P l.length t) :
    Each P (l ++ [t]) := by
  intro j u hu
  rcases Nat.lt_trichotomy j l.length with hj | rfl | hj
  · rw [List.getElem?_append_left hj] at hu
    exact h j u hu
  · rw [List.getElem?_append_right (le_refl _)] at hu
    simp only [Nat.sub_self, List.getElem?_cons_zero, Option.some.injEq] at hu
    exact hu ▸ ht
  · rw [List.getElem?_eq_none (by simp; omega)] at hu
    simp at hu

def Some (P : τ → Prop) (l : List τ) : Prop := ∃ (j : Nat) (u : τ), l[j]? = some u ∧ P u

theorem Some.any {f : τ → Bool} {l : List τ} (h : Some (fun u => f u = true) l) :
    l.any f = true := by
  obtain ⟨j, u, hu, hp⟩ := h
  exact List.any_eq_true.mpr ⟨u, List.mem_of_getElem? hu, hp⟩

theorem Some.push {P : τ → Prop} {l : List τ} {t : τ} (h : Some P l) : Some P (l ++ [t]) := by
  obtain ⟨j, u, hu, hp⟩ := h
  obtain ⟨hlt, -⟩ := List.getElem?_eq_some_iff.mp hu
  exact ⟨j, u, by rw [List.getElem?_append_left hlt, hu], hp⟩

theorem Some.of_push {P : τ → Prop} {l : List τ} {t : τ} (h : Some P (l ++ [t])) (ht : ¬P t) :
    Some P l := by
  obtain ⟨j, u, hu, hp⟩ := h
  rw [List.getElem?_append] at hu
  split_ifs at hu with hlt
  · exact ⟨j, u, hu, hp⟩
  · rw [List.mem_singleton.mp (List.mem_of_getElem? hu)] at hp
    exact absurd hp ht

theorem Some.move {P : τ → Prop} {w : Pool σ τ ε} {tid : Nat} {o : Outcome σ τ ε} {t : τ}
    (ht : w.threads[tid]? = some t) (h : Some P w.threads) (hself : P t → P o.thread) :
    Some P (w.move tid o).threads := by
  obtain ⟨j, u, hu, hp⟩ := h
  by_cases hj : j = tid
  · subst hj
    rw [ht, Option.some.injEq] at hu
    exact ⟨j, o.thread, getElem?_move_self ht, hself (hu ▸ hp)⟩
  · exact ⟨j, u, getElem?_move_other hj hu, hp⟩

end Pool

end ResidentialIPManager.Transition
