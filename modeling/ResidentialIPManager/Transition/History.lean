import Mathlib.Tactic

/-! # Events with what came before them

Histories list events newest first. `Throughout P h` says of every event of `h`
that `P` holds of it and of the events before it.
-/
namespace ResidentialIPManager.Transition

variable {ε : Type*} {P : ε → List ε → Prop}

def Throughout (P : ε → List ε → Prop) (h : List ε) : Prop :=
  ∀ newer e older, h = newer ++ e :: older → P e older

theorem throughout_nil : Throughout P [] := by
  intro newer e older h
  simp at h

theorem Throughout.cons {e : ε} {h : List ε} (hall : Throughout P h) (he : P e h) :
    Throughout P (e :: h) := by
  intro newer a older heq
  cases newer with
  | nil =>
    obtain ⟨rfl, rfl⟩ := List.cons.inj heq
    exact he
  | cons b rest => exact hall rest a older (List.cons.inj heq).2

/-- New events of which `P` holds whatever came before. -/
theorem Throughout.append {l h : List ε} (hall : Throughout P h)
    (hl : ∀ e ∈ l, ∀ older, P e older) : Throughout P (l ++ h) := by
  induction l with
  | nil => exact hall
  | cons e rest ih =>
    exact (ih fun a ha => hl a (List.mem_cons_of_mem _ ha)).cons (hl e List.mem_cons_self _)

end ResidentialIPManager.Transition
