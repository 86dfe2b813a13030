import ResidentialIPManager.Transition.Runs

/-! # Observers

An observer takes notes on a run. It sees the state before each step and the action, and
has no influence on the steps.
-/
namespace ResidentialIPManager.Transition

variable {σ α κ : Type*}

def observe (step : σ → α → Option σ) (note : σ → α → κ → κ) (p : σ × κ) (a : α) :
    Option (σ × κ) :=
  (step p.1 a).map fun s => (s, note p.1 a p.2)

variable {step : σ → α → Option σ} {note : σ → α → κ → κ}

theorem observe_eq_some {p q : σ × κ} {a : α} :
    observe step note p a = some q ↔ step p.1 a = some q.1 ∧ q.2 = note p.1 a p.2 := by
  unfold observe
  rw [Option.map_eq_some_iff]
  constructor
  · rintro ⟨s, hs, rfl⟩
    exact ⟨hs, rfl⟩
  · rintro ⟨hs, hk⟩
    exact ⟨q.1, hs, Prod.ext rfl hk.symm⟩

/-- The runs with an observer are the runs without. -/
theorem reaches_observe_iff {s t : σ} (k : κ) :
    (∃ k', Reaches (observe step note) anyStep (s, k) (t, k')) ↔ Reaches step anyStep s t := by
  constructor
  · rintro ⟨k', h⟩
    have hrun : ∀ q, Reaches (observe step note) anyStep (s, k) q → Reaches step anyStep s q.1 := by
      intro q hq
      induction hq with
      | refl => exact .refl
      | tail _ _ hstep ih => exact ih.tail trivial (observe_eq_some.mp hstep).1
    exact hrun _ h
  · intro h
    induction h with
    | refl => exact ⟨k, .refl⟩
    | tail _ _ hstep ih =>
      obtain ⟨k', hk⟩ := ih
      exact ⟨_, hk.tail trivial (observe_eq_some.mpr ⟨hstep, rfl⟩)⟩

end ResidentialIPManager.Transition
