import ResidentialIPManager.Transition.Pool

/-! # Concurrent calls

Any number of calls run on one shared state. A call is a thread of a pool; `section_` is
its next atomic section, which may need an input from outside and may not be enabled.
`entry` says which threads a caller can start. Uniqueness of a kind of thread is kept by
`AtMostOne.move`, the counterpart of `Each.move` for pairs of threads; `countP_move` says
how the number of threads of a kind changes.
-/
namespace ResidentialIPManager.Transition

inductive CallAction (τ ι : Type*) where
  | call (t : τ)
  | run (tid : Nat) (input : ι)

/-- How far the body under a `sync.Once` is. -/
inductive OnceState where
  | uncalled
  | running
  | returned
  deriving DecidableEq, Repr

namespace Pool

variable {σ τ ι ε : Type*}

def callStep (entry : τ → Bool) (section_ : σ → τ → ι → Option (Outcome σ τ ε))
    (w : Pool σ τ ε) : CallAction τ ι → Option (Pool σ τ ε)
  | .call t => if entry t then some { w with threads := w.threads ++ [t] } else none
  | .run tid input =>
    (w.threads[tid]?).bind fun t => (section_ w.shared t input).map (w.move tid)

variable {entry : τ → Bool} {section_ : σ → τ → ι → Option (Outcome σ τ ε)}

/-- The invariant rule: new calls and sections keep it. -/
theorem callStep_invariant {Inv : Pool σ τ ε → Prop} {ok : Pool σ τ ε → CallAction τ ι → Prop}
    {s w : Pool σ τ ε} (h : Reaches (callStep entry section_) ok s w) (h0 : Inv s)
    (hcall : ∀ w t, Inv w → ok w (.call t) → entry t = true →
      Inv { w with threads := w.threads ++ [t] })
    (hrun : ∀ w tid t input o, Inv w → ok w (.run tid input) → w.threads[tid]? = some t →
      section_ w.shared t input = some o → Inv (w.move tid o)) : Inv w := by
  refine h.invariant h0 ?_
  intro t u a hinv hok hstep
  cases a with
  | call call =>
    simp only [callStep] at hstep
    split_ifs at hstep with hentry
    obtain rfl := Option.some.inj hstep
    exact hcall t call hinv hok hentry
  | run tid input =>
    obtain ⟨thread, hthread, hmove⟩ := Option.bind_eq_some_iff.mp hstep
    obtain ⟨o, ho, rfl⟩ := Option.map_eq_some_iff.mp hmove
    exact hrun t tid thread input o hinv hok hthread ho

def AtMostOne (P : τ → Prop) (l : List τ) : Prop :=
  ∀ (i j : Nat) (u v : τ), l[i]? = some u → l[j]? = some v → P u → P v → i = j

theorem AtMostOne.nil {P : τ → Prop} : AtMostOne P [] := by
  intro i j u v h
  cases h

theorem AtMostOne.push {P : τ → Prop} {l : List τ} {t : τ} (h : AtMostOne P l) (ht : ¬P t) :
    AtMostOne P (l ++ [t]) := by
  have hold : ∀ (i : Nat) (u : τ), (l ++ [t])[i]? = some u → P u → l[i]? = some u := by
    intro i u hu hp
    rw [List.getElem?_append] at hu
    split_ifs at hu with hlt
    · exact hu
    · rw [List.mem_singleton.mp (List.mem_of_getElem? hu)] at hp
      exact absurd hp ht
  intro i j u v hi hj hu hv
  exact h i j u v (hold i u hi hu) (hold j v hj hv) hu hv

/-- A move keeps uniqueness if it starts no thread of the kind, and the moving thread
becomes one only if it was one or there was none. -/
theorem AtMostOne.move {P : τ → Prop} {w : Pool σ τ ε} {tid : Nat} {o : Outcome σ τ ε} {t : τ}
    (h : AtMostOne P w.threads) (ht : w.threads[tid]? = some t)
    (hself : P o.thread → P t ∨ ∀ (j : Nat) (u : τ), w.threads[j]? = some u → ¬P u)
    (hnew : ∀ u ∈ o.spawned, ¬P u) : AtMostOne P (w.move tid o).threads := by
  -- an old thread of the kind other than the moving one excludes the moving one
  have hother : ∀ (j : Nat) (u : τ), j ≠ tid → w.threads[j]? = some u → P u → ¬P o.thread := by
    intro j u hj hu hp hpo
    rcases hself hpo with hpt | hnone
    · exact hj (h j tid u t hu ht hp hpt)
    · exact hnone j u hu hp
  intro i j u v hi hj hu hv
  rcases getElem?_move hi with ⟨rfl, rfl⟩ | ⟨hi', hiold⟩ | ⟨-, hs⟩
  · rcases getElem?_move hj with ⟨rfl, rfl⟩ | ⟨hj', hjold⟩ | ⟨-, hs⟩
    · rfl
    · exact absurd hu (hother j v hj' hjold hv)
    · exact absurd hv (hnew v hs)
  · rcases getElem?_move hj with ⟨rfl, rfl⟩ | ⟨-, hjold⟩ | ⟨-, hs⟩
    · exact absurd hv (hother i u hi' hiold hu)
    · exact h i j u v hiold hjold hu hv
    · exact absurd hv (hnew v hs)
  · exact absurd hu (hnew u hs)

/-- A witness of `P` is left unless the moving thread was the only one. -/
theorem Some.move_of_ne {P : τ → Prop} {w : Pool σ τ ε} {tid : Nat} {o : Outcome σ τ ε} {t : τ}
    (ht : w.threads[tid]? = some t) (h : Some P w.threads) (hp : ¬P t) :
    Some P (w.move tid o).threads :=
  h.move ht fun hpt => absurd hpt hp

theorem Some.of_thread {P : τ → Prop} {w : Pool σ τ ε} {tid : Nat} {o : Outcome σ τ ε} {t : τ}
    (ht : w.threads[tid]? = some t) (hp : P o.thread) : Some P (w.move tid o).threads :=
  ⟨tid, o.thread, getElem?_move_self ht, hp⟩

/-- The number of threads of a kind after a move that starts none of the kind. -/
theorem countP_move {w : Pool σ τ ε} {tid : Nat} {o : Outcome σ τ ε} {t : τ} (p : τ → Bool)
    (ht : w.threads[tid]? = some t) (hnew : ∀ u ∈ o.spawned, p u = false) :
    (w.move tid o).threads.countP p + (p t).toNat =
      w.threads.countP p + (p o.thread).toNat := by
  obtain ⟨hlt, heq⟩ := List.getElem?_eq_some_iff.mp ht
  have hspawned : o.spawned.countP p = 0 := List.countP_eq_zero.mpr (by simpa using hnew)
  simp only [move, List.countP_append, hspawned, List.countP_set hlt, heq]
  cases hpt : p t with
  | false => cases p o.thread <;> simp
  | true =>
    have hpos : 0 < w.threads.countP p :=
      List.countP_pos_iff.mpr ⟨t, List.mem_of_getElem? ht, hpt⟩
    cases p o.thread <;> simp <;> omega

end Pool

/-- A run found by evaluating a list of actions. -/
theorem exists_reaches {σ α : Type*} {step : σ → α → Option σ} {ok : σ → α → Prop}
    [∀ s a, Decidable (ok s a)] (s : σ) (P : σ → Prop) [DecidablePred P] (l : List α)
    (h : (runWhile step ok l s).any (fun t => decide (P t)) = true) :
    ∃ t, Reaches step ok s t ∧ P t := by
  obtain ⟨t, ht, hp⟩ := (Option.any_eq_true _ _).mp h
  exact ⟨t, Reaches.of_runWhile ht, of_decide_eq_true hp⟩

end ResidentialIPManager.Transition
