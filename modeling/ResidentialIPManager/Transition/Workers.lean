import ResidentialIPManager.Transition.Runs

/-! # A crew of workers, each with a cell of its own

One goroutine starts a worker for every cell of an array, at most `limit` of them run at a
time, and it waits for all of them. A worker reads and writes its own cell only. Whatever
the order of their steps, the cells end up as if each worker had run alone; some step is
always possible until the wait is over; and no run is longer than the workers' own steps
allow.
-/
namespace ResidentialIPManager.Transition

variable {Λ σ : Type*}

/-- The code of the workers: where worker `i` starts and what it does next to its local
variables and its cell; `none` when it returns. -/
structure Program (Λ σ : Type*) where
  start : Nat → Λ
  next : Nat → Λ → σ → Option (Λ × σ)

/-- Where a worker is: before its turn, running, past the release of its turn, returned. -/
inductive Phase (Λ : Type*) where
  | waiting
  | running (locals : Λ)
  | leaving
  | finished

def Phase.holds : Phase Λ → Bool
  | .running _ => true
  | _ => false

def Phase.isFinished : Phase Λ → Bool
  | .finished => true
  | _ => false

/-- The workers started so far, the cells, and whether the wait for the workers is over. -/
structure Crew (Λ σ : Type*) where
  phases : List (Phase Λ)
  cells : List σ
  joined : Bool := false

inductive CrewAction where
  | spawn
  | acquire (i : Nat)
  | act (i : Nat)
  | leave (i : Nat)
  | done (i : Nat)
  | join

namespace Crew

def initial (cells : List σ) : Crew Λ σ := { phases := [], cells := cells }

def held (s : Crew Λ σ) : Nat := s.phases.countP Phase.holds

def setPhase (s : Crew Λ σ) (i : Nat) (phase : Phase Λ) : Crew Λ σ :=
  { s with phases := s.phases.set i phase }

def step (p : Program Λ σ) (limit : Nat) (s : Crew Λ σ) : CrewAction → Option (Crew Λ σ)
  | .spawn =>
    if s.phases.length < s.cells.length then some { s with phases := s.phases ++ [.waiting] }
    else none
  | .acquire i =>
    match s.phases[i]? with
    | some .waiting => if s.held < limit then some (s.setPhase i (.running (p.start i))) else none
    | _ => none
  | .act i =>
    match s.phases[i]?, s.cells[i]? with
    | some (.running locals), some cell =>
      (p.next i locals cell).map fun after =>
        { s.setPhase i (.running after.1) with cells := s.cells.set i after.2 }
    | _, _ => none
  | .leave i =>
    match s.phases[i]?, s.cells[i]? with
    | some (.running locals), some cell =>
      if (p.next i locals cell).isNone then some (s.setPhase i .leaving) else none
    | _, _ => none
  | .done i =>
    match s.phases[i]? with
    | some .leaving => some (s.setPhase i .finished)
    | _ => none
  | .join =>
    if s.phases.length = s.cells.length ∧ s.phases.all Phase.isFinished ∧ s.joined = false then
      some { s with joined := true }
    else none

end Crew

inductive Moves (p : Program Λ σ) (i : Nat) : Phase Λ → σ → Phase Λ → σ → Prop where
  | acquire (cell : σ) : Moves p i .waiting cell (.running (p.start i)) cell
  | act {locals locals' : Λ} {cell cell' : σ} (h : p.next i locals cell = some (locals', cell')) :
      Moves p i (.running locals) cell (.running locals') cell'
  | leave {locals : Λ} {cell : σ} (h : p.next i locals cell = none) :
      Moves p i (.running locals) cell .leaving cell
  | done (cell : σ) : Moves p i .leaving cell .finished cell

namespace Crew

variable {p : Program Λ σ} {limit : Nat} {s t : Crew Λ σ} {a : CrewAction}

theorem exists_cell (hlen : s.phases.length ≤ s.cells.length) {i : Nat} {phase : Phase Λ}
    (hphase : s.phases[i]? = some phase) : ∃ cell, s.cells[i]? = some cell := by
  obtain ⟨hi, -⟩ := List.getElem?_eq_some_iff.mp hphase
  exact ⟨_, List.getElem?_eq_getElem (Nat.lt_of_lt_of_le hi hlen)⟩

/-- A step starts a worker, moves one, or ends the wait. -/
theorem step_cases (hlen : s.phases.length ≤ s.cells.length) (h : step p limit s a = some t) :
    (s.phases.length < s.cells.length ∧ t = { s with phases := s.phases ++ [.waiting] }) ∨
      (∃ i phase cell phase' cell', s.phases[i]? = some phase ∧ s.cells[i]? = some cell ∧
        Moves p i phase cell phase' cell' ∧
        t = { s with phases := s.phases.set i phase', cells := s.cells.set i cell' }) ∨
      (s.phases.length = s.cells.length ∧ s.phases.all Phase.isFinished = true ∧
        s.joined = false ∧ t = { s with joined := true }) := by
  -- a step that leaves the cell alone writes it back
  have hsame : ∀ {i : Nat} {phase : Phase Λ} {cell : σ}, s.cells[i]? = some cell →
      s.setPhase i phase = { s with phases := s.phases.set i phase, cells := s.cells.set i cell } := by
    intro i phase cell hi
    obtain ⟨hlt, rfl⟩ := List.getElem?_eq_some_iff.mp hi
    rw [List.set_getElem_self]
    rfl
  cases a with
  | spawn =>
    simp only [step] at h
    split_ifs at h with hlt
    exact .inl ⟨hlt, (Option.some.inj h).symm⟩
  | acquire i =>
    simp only [step] at h
    split at h
    · next hphase =>
      split_ifs at h
      obtain ⟨cell, hi⟩ := exists_cell hlen hphase
      exact .inr (.inl ⟨i, _, cell, _, cell, hphase, hi, .acquire cell,
        (Option.some.inj h).symm.trans (hsame hi)⟩)
    · cases h
  | act i =>
    simp only [step] at h
    split at h
    · next locals cell hphase hi =>
      obtain ⟨after, hnext, rfl⟩ := Option.map_eq_some_iff.mp h
      exact .inr (.inl ⟨i, _, cell, _, after.2, hphase, hi, .act hnext, rfl⟩)
    · cases h
  | leave i =>
    simp only [step] at h
    split at h
    · next locals cell hphase hi =>
      split_ifs at h with hnext
      exact .inr (.inl ⟨i, _, cell, _, cell, hphase, hi, .leave (Option.isNone_iff_eq_none.mp hnext),
        (Option.some.inj h).symm.trans (hsame hi)⟩)
    · cases h
  | done i =>
    simp only [step] at h
    split at h
    · next hphase =>
      obtain ⟨cell, hi⟩ := exists_cell hlen hphase
      exact .inr (.inl ⟨i, _, cell, _, cell, hphase, hi, .done cell,
        (Option.some.inj h).symm.trans (hsame hi)⟩)
    · cases h
  | join =>
    simp only [step] at h
    split_ifs at h with hjoin
    exact .inr (.inr ⟨hjoin.1, hjoin.2.1, hjoin.2.2, (Option.some.inj h).symm⟩)

end Crew

section Alone

def AloneStep (p : Program Λ σ) (i : Nat) (before after : Λ × σ) : Prop :=
  p.next i before.1 before.2 = some after

/-- Worker `i`, alone, takes the cell from its first value to its last. -/
def Completes (p : Program Λ σ) (i : Nat) (first last : σ) : Prop :=
  ∃ locals, Relation.ReflTransGen (AloneStep p i) (p.start i, first) (locals, last) ∧
    p.next i locals last = none

theorem Completes.unique {p : Program Λ σ} {i : Nat} {first last last' : σ}
    (h : Completes p i first last) (h' : Completes p i first last') : last = last' := by
  obtain ⟨locals, hruns, hend⟩ := h
  obtain ⟨locals', hruns', hend'⟩ := h'
  have hunique : Relator.RightUnique (AloneStep p i) := by
    intro a b c hab hac
    exact Option.some.inj (hab.symm.trans hac)
  have hstuck : ∀ {a b : Λ × σ}, p.next i a.1 a.2 = none →
      Relation.ReflTransGen (AloneStep p i) a b → a = b := by
    intro a b ha hab
    rcases hab.cases_head with heq | ⟨c, hac, -⟩
    · exact heq
    · cases ha.symm.trans hac
  rcases hruns.total_of_right_unique hunique hruns' with hle | hle
  · exact congrArg Prod.snd (hstuck hend hle)
  · exact (congrArg Prod.snd (hstuck hend' hle)).symm

/-- What is known of a cell when its worker is in the given phase. -/
def Own (p : Program Λ σ) (i : Nat) (first : σ) : Phase Λ → σ → Prop
  | .waiting, cell => cell = first
  | .running locals, cell =>
    Relation.ReflTransGen (AloneStep p i) (p.start i, first) (locals, cell)
  | .leaving, cell => Completes p i first cell
  | .finished, cell => Completes p i first cell

theorem Moves.own {p : Program Λ σ} {i : Nat} {first cell cell' : σ} {phase phase' : Phase Λ}
    (h : Moves p i phase cell phase' cell') (hown : Own p i first phase cell) :
    Own p i first phase' cell' := by
  cases h with
  | acquire =>
    obtain rfl : cell = first := hown
    exact .refl
  | act hnext => exact Relation.ReflTransGen.tail hown hnext
  | leave hnext => exact ⟨_, hown, hnext⟩
  | done => exact hown

end Alone

namespace Crew

variable {p : Program Λ σ} {limit : Nat} {init : List σ} {s t : Crew Λ σ} {a : CrewAction}

/-- Every cell is at its worker's place, and the wait ends after the workers. -/
structure Ordered (p : Program Λ σ) (init : List σ) (s : Crew Λ σ) : Prop where
  cells : s.cells.length = init.length
  started : s.phases.length ≤ s.cells.length
  fresh : ∀ i cell, s.phases.length ≤ i → s.cells[i]? = some cell → init[i]? = some cell
  own : ∀ i phase cell, s.phases[i]? = some phase → s.cells[i]? = some cell →
    ∃ first, init[i]? = some first ∧ Own p i first phase cell
  waited : s.joined = true → s.phases.length = s.cells.length ∧
    ∀ (i : Nat) (phase : Phase Λ), s.phases[i]? = some phase → phase = .finished

theorem ordered_initial (p : Program Λ σ) (init : List σ) : Ordered p init (initial init) where
  cells := rfl
  started := Nat.zero_le _
  fresh _ _ _ h := h
  own i _ _ h := by simp [initial] at h
  waited h := by cases h

theorem isFinished_eq {phase : Phase Λ} (h : phase.isFinished = true) : phase = .finished := by
  cases phase with
  | finished => rfl
  | waiting => cases h
  | running locals => cases h
  | leaving => cases h

theorem Ordered.spawn (h : Ordered p init s) (hlt : s.phases.length < s.cells.length) :
    Ordered p init { s with phases := s.phases ++ [.waiting] } where
  cells := h.cells
  started := by simpa using hlt
  fresh i cell hi hcell := h.fresh i cell (by simp at hi; omega) hcell
  own i phase cell hphase hcell := by
    rcases Nat.lt_trichotomy i s.phases.length with hi | rfl | hi
    · rw [List.getElem?_append_left hi] at hphase
      exact h.own i phase cell hphase hcell
    · rw [List.getElem?_append_right (Nat.le_refl _)] at hphase
      obtain rfl : Phase.waiting = phase := by simpa using hphase
      exact ⟨cell, h.fresh _ cell (Nat.le_refl _) hcell, rfl⟩
    · rw [List.getElem?_eq_none (by simp; omega)] at hphase
      cases hphase
  waited hjoined := absurd (h.waited hjoined).1 (Nat.ne_of_lt hlt)

theorem Ordered.move (h : Ordered p init s) {i : Nat} {phase phase' : Phase Λ} {cell cell' : σ}
    (hphase : s.phases[i]? = some phase) (hcell : s.cells[i]? = some cell)
    (hmove : Moves p i phase cell phase' cell') :
    Ordered p init { s with phases := s.phases.set i phase', cells := s.cells.set i cell' } where
  cells := by simpa using h.cells
  started := by simpa using h.started
  fresh j c hj hc := by
    obtain ⟨hi, -⟩ := List.getElem?_eq_some_iff.mp hphase
    rw [List.length_set] at hj
    rw [List.getElem?_set_ne (by omega)] at hc
    exact h.fresh j c hj hc
  own j q c hq hc := by
    by_cases hij : i = j
    · subst hij
      obtain ⟨hi, -⟩ := List.getElem?_eq_some_iff.mp hphase
      obtain ⟨hi', -⟩ := List.getElem?_eq_some_iff.mp hcell
      rw [List.getElem?_set_self hi] at hq
      rw [List.getElem?_set_self hi'] at hc
      obtain rfl := Option.some.inj hq
      obtain rfl := Option.some.inj hc
      obtain ⟨first, hfirst, hown⟩ := h.own i phase cell hphase hcell
      exact ⟨first, hfirst, hmove.own hown⟩
    · rw [List.getElem?_set_ne hij] at hq hc
      exact h.own j q c hq hc
  waited hjoined := by
    obtain rfl := (h.waited hjoined).2 i phase hphase
    cases hmove

theorem Ordered.step (h : Ordered p init s) (hstep : step p limit s a = some t) :
    Ordered p init t := by
  rcases step_cases h.started hstep with ⟨hlt, rfl⟩ |
    ⟨i, phase, cell, phase', cell', hphase, hcell, hmove, rfl⟩ | ⟨hlen, hall, -, rfl⟩
  · exact h.spawn hlt
  · exact h.move hphase hcell hmove
  · refine ⟨h.cells, h.started, h.fresh, h.own, fun _ => ⟨hlen, fun i phase hphase => ?_⟩⟩
    exact isFinished_eq (List.all_eq_true.mp hall phase (List.mem_of_getElem? hphase))

/-- When the wait is over, every cell holds what its worker alone makes of it. -/
theorem Ordered.completes (h : Ordered p init s) (hjoined : s.joined = true) {i : Nat} {first : σ}
    (hfirst : init[i]? = some first) : ∃ cell, s.cells[i]? = some cell ∧ Completes p i first cell := by
  obtain ⟨hlen, hall⟩ := h.waited hjoined
  obtain ⟨hi, -⟩ := List.getElem?_eq_some_iff.mp hfirst
  rw [← h.cells] at hi
  have hcell := List.getElem?_eq_getElem hi
  have hphase := List.getElem?_eq_getElem (hlen.symm ▸ hi)
  obtain ⟨first', hfirst', hown⟩ := h.own i _ _ hphase hcell
  rw [hall i _ hphase] at hown
  obtain rfl := Option.some.inj (hfirst'.symm.trans hfirst)
  exact ⟨_, hcell, hown⟩

/-- Until the wait is over, some step is possible. -/
theorem Ordered.progress (h : Ordered p init s) (hlimit : 0 < limit) (hjoined : s.joined = false) :
    ∃ a t, Crew.step p limit s a = some t := by
  by_cases hspawn : s.phases.length < s.cells.length
  · exact ⟨.spawn, _, if_pos hspawn⟩
  have hlen : s.phases.length = s.cells.length := by
    have := h.started
    omega
  by_cases hall : s.phases.all Phase.isFinished = true
  · exact ⟨.join, _, if_pos ⟨hlen, hall, hjoined⟩⟩
  by_cases hheld : s.held = 0
  · -- nobody has a turn: an unfinished worker leaves or takes one
    simp only [List.all_eq_true, not_forall] at hall
    obtain ⟨phase, hmem, hunfinished⟩ := hall
    obtain ⟨i, hphase⟩ := List.mem_iff_getElem?.mp hmem
    cases phase with
    | waiting =>
      refine ⟨.acquire i, s.setPhase i (.running (p.start i)), ?_⟩
      simp only [Crew.step, hphase, hheld, hlimit, if_true]
    | running locals =>
      have hnone := List.countP_eq_zero.mp hheld _ hmem
      exact absurd rfl hnone
    | leaving =>
      refine ⟨.done i, s.setPhase i .finished, ?_⟩
      simp only [Crew.step, hphase]
    | finished => exact absurd rfl hunfinished
  · -- somebody has a turn and goes on with it
    obtain ⟨phase, hmem, hholds⟩ := List.countP_pos_iff.mp (Nat.pos_of_ne_zero hheld)
    obtain ⟨i, hphase⟩ := List.mem_iff_getElem?.mp hmem
    cases phase with
    | running locals =>
      obtain ⟨cell, hi⟩ := exists_cell hlen.le hphase
      cases hnext : p.next i locals cell with
      | none =>
        refine ⟨.leave i, s.setPhase i .leaving, ?_⟩
        simp only [Crew.step, hphase, hi, hnext, Option.isNone_none, if_true]
      | some after =>
        refine ⟨.act i, { s.setPhase i (.running after.1) with cells := s.cells.set i after.2 }, ?_⟩
        simp only [Crew.step, hphase, hi, hnext, Option.map_some]
    | waiting => cases hholds
    | leaving => cases hholds
    | finished => cases hholds

end Crew

section Bound

variable {p : Program Λ σ} {limit : Nat} {s t : Crew Λ σ} {a : CrewAction} {μ : Nat → Λ → Nat}

/-- The steps that a worker can still take, given a bound on those of its own code. -/
def weight (p : Program Λ σ) (μ : Nat → Λ → Nat) (i : Nat) : Option (Phase Λ) → Nat
  | none => μ i (p.start i) + 4
  | some .waiting => μ i (p.start i) + 3
  | some (.running locals) => μ i locals + 2
  | some .leaving => 1
  | some .finished => 0

def Crew.remaining (p : Program Λ σ) (μ : Nat → Λ → Nat) (s : Crew Λ σ) : Nat :=
  (∑ i ∈ Finset.range s.cells.length, weight p μ i s.phases[i]?) + if s.joined then 0 else 1

def Decreases (p : Program Λ σ) (μ : Nat → Λ → Nat) : Prop :=
  ∀ i locals cell after, p.next i locals cell = some after → μ i after.1 < μ i locals

theorem Moves.weight_lt {i : Nat} {phase phase' : Phase Λ} {cell cell' : σ}
    (h : Moves p i phase cell phase' cell') (hμ : Decreases p μ) :
    weight p μ i (some phase') < weight p μ i (some phase) := by
  cases h with
  | acquire => exact Nat.lt_succ_self _
  | act hnext => exact Nat.add_lt_add_right (hμ _ _ _ _ hnext) 2
  | leave => exact Nat.succ_lt_succ (Nat.succ_pos _)
  | done => exact Nat.zero_lt_one

/-- One worker that comes closer to its end is enough. -/
theorem sum_weight_lt {phases phases' : List (Phase Λ)} {n i : Nat} (hi : i < n)
    (hlt : weight p μ i phases'[i]? < weight p μ i phases[i]?)
    (hother : ∀ j, j ≠ i → phases'[j]? = phases[j]?) :
    ∑ j ∈ Finset.range n, weight p μ j phases'[j]? < ∑ j ∈ Finset.range n, weight p μ j phases[j]? := by
  refine Finset.sum_lt_sum (fun j _ => ?_) ⟨i, Finset.mem_range.mpr hi, hlt⟩
  by_cases hji : j = i
  · subst hji
    exact Nat.le_of_lt hlt
  · rw [hother j hji]

theorem Crew.remaining_lt (hlen : s.phases.length ≤ s.cells.length) (hμ : Decreases p μ)
    (h : Crew.step p limit s a = some t) : t.remaining p μ < s.remaining p μ := by
  rcases Crew.step_cases hlen h with ⟨hlt, rfl⟩ |
    ⟨i, phase, cell, phase', cell', hphase, hcell, hmove, rfl⟩ | ⟨-, -, hjoined, rfl⟩
  · refine Nat.add_lt_add_right (sum_weight_lt hlt ?_ fun j hj => ?_) _
    · rw [List.getElem?_append_right (Nat.le_refl _), List.getElem?_eq_none (Nat.le_refl _)]
      simp [weight]
    · rcases Nat.lt_or_gt_of_ne hj with hj | hj
      · rw [List.getElem?_append_left hj]
      · rw [List.getElem?_eq_none (by simp; omega), List.getElem?_eq_none (by omega)]
  · obtain ⟨hi, -⟩ := List.getElem?_eq_some_iff.mp hphase
    obtain ⟨hi', -⟩ := List.getElem?_eq_some_iff.mp hcell
    unfold Crew.remaining
    rw [List.length_set]
    refine Nat.add_lt_add_right (sum_weight_lt hi' ?_ fun j hj => ?_) _
    · rw [List.getElem?_set_self hi, hphase]
      exact hmove.weight_lt hμ
    · exact List.getElem?_set_ne (Ne.symm hj)
  · simp [Crew.remaining, hjoined]

end Bound

section Runs

variable {p : Program Λ σ} {limit : Nat} {init : List σ} {μ : Nat → Λ → Nat}

/-- Along every run: the invariant, and one step less to go with every step taken. -/
theorem Crew.run_ordered (hμ : Decreases p μ) {s t : Crew Λ σ} {actions : List CrewAction}
    (h : s.Ordered p init) (hrun : runWhile (Crew.step p limit) anyStep actions s = some t) :
    t.Ordered p init ∧ actions.length + t.remaining p μ ≤ s.remaining p μ := by
  induction actions generalizing s with
  | nil =>
    obtain rfl := Option.some.inj hrun
    exact ⟨h, by simp⟩
  | cons a rest ih =>
    have hany : anyStep s a := trivial
    rw [runWhile, if_pos hany] at hrun
    obtain ⟨u, hstep, hrest⟩ := Option.bind_eq_some_iff.mp hrun
    obtain ⟨hordered, hbound⟩ := ih (h.step hstep) hrest
    have hless := Crew.remaining_lt h.started hμ hstep
    refine ⟨hordered, ?_⟩
    rw [List.length_cons]
    omega

/-- A crew whose workers all complete leaves the completed cells. -/
theorem Crew.Ordered.cells_eq {t : Crew Λ σ} (h : t.Ordered p init) (hjoined : t.joined = true)
    {result : Nat → σ → σ} (hresult : ∀ i first, Completes p i first (result i first)) :
    t.cells = init.mapIdx result := by
  apply List.ext_getElem?
  intro i
  rw [List.getElem?_mapIdx]
  cases hfirst : init[i]? with
  | none =>
    have hi := List.getElem?_eq_none_iff.mp hfirst
    exact List.getElem?_eq_none (h.cells ▸ hi)
  | some first =>
    obtain ⟨cell, hcell, hcompletes⟩ := h.completes hjoined hfirst
    rw [hcell, hcompletes.unique (hresult i first)]
    rfl

end Runs

end ResidentialIPManager.Transition
