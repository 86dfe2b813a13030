import Mathlib.Tactic

/-! # Runs of a partial step function

A machine is a partial step function on states and actions. `Reaches step ok s t`
says that a run from `s` to `t` exists whose every step meets `ok`, a condition on
the state before the step and on the action. Safety results are proved with the
invariant rule; concrete runs are found by evaluating `runWhile`.
-/
namespace ResidentialIPManager.Transition

variable {σ α : Type*}

def anyStep : σ → α → Prop := fun _ _ => True

instance (s : σ) (a : α) : Decidable (anyStep s a) := inferInstanceAs (Decidable True)

/-- A run whose every step meets `ok`. -/
inductive Reaches (step : σ → α → Option σ) (ok : σ → α → Prop) (s : σ) : σ → Prop
  | refl : Reaches step ok s s
  | tail {t u : σ} {a : α} : Reaches step ok s t → ok t a → step t a = some u →
      Reaches step ok s u

variable {step : σ → α → Option σ} {ok : σ → α → Prop}

/-- A property of the start that every admitted step keeps holds at the end of every run. -/
theorem Reaches.invariant {Inv : σ → Prop} {s t : σ} (h : Reaches step ok s t) (h0 : Inv s)
    (hstep : ∀ t u a, Inv t → ok t a → step t a = some u → Inv u) : Inv t := by
  induction h with
  | refl => exact h0
  | tail _ hok hs ih => exact hstep _ _ _ ih hok hs

theorem Reaches.trans {s t u : σ} (hst : Reaches step ok s t) (htu : Reaches step ok t u) :
    Reaches step ok s u := by
  induction htu with
  | refl => exact hst
  | tail _ hok hs ih => exact ih.tail hok hs

def runWhile (step : σ → α → Option σ) (ok : σ → α → Prop) [∀ s a, Decidable (ok s a)] :
    List α → σ → Option σ
  | [], s => some s
  | a :: rest, s => if ok s a then (step s a).bind (runWhile step ok rest) else none

theorem Reaches.of_runWhile_from [∀ s a, Decidable (ok s a)] {s t u : σ} {l : List α}
    (hs : Reaches step ok s t) (h : runWhile step ok l t = some u) : Reaches step ok s u := by
  induction l generalizing t with
  | nil =>
    simp only [runWhile, Option.some.injEq] at h
    exact h ▸ hs
  | cons a rest ih =>
    unfold runWhile at h
    split_ifs at h with hok
    obtain ⟨v, hv, hrest⟩ := Option.bind_eq_some_iff.mp h
    exact ih (hs.tail hok hv) hrest

theorem Reaches.of_runWhile [∀ s a, Decidable (ok s a)] {s t : σ} {l : List α}
    (h : runWhile step ok l s = some t) : Reaches step ok s t :=
  Reaches.refl.of_runWhile_from h

end ResidentialIPManager.Transition
