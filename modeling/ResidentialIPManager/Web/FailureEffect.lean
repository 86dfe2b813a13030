import ResidentialIPManager.Web.Ranking

/-! # What a recorded failure does to the next selection

`cooldownNode` marks the failed node in the list that is current, and a refresh carries
the mark over to the fetched list. Until the cooldown has passed, the selection from the
fetched list lacks exactly this node; the order of the others is the one it would have
been.
-/
namespace ResidentialIPManager.Web
open Text Domain Sorting

/-- The nodes agree but for the four fields that a failure or a kept cooldown writes. -/
def SameButStatus (n m : VpnNode) : Prop :=
  m = { n with
    status := m.status
    lastError := m.lastError
    lastCheckedAt := m.lastCheckedAt
    cooldownUntil := m.cooldownUntil }

section Frame

variable {id message : GoString} {cooldown : Duration} {now : Time}

theorem markNodeFailure_frame (nodes : List VpnNode) :
    List.Forall₂ (fun n m => SameButStatus n m ∧ (n.id ≠ id → m = n)) nodes
      (markNodeFailure nodes id message cooldown now) := by
  have hsame : ∀ l : List VpnNode,
      List.Forall₂ (fun n m => SameButStatus n m ∧ (n.id ≠ id → m = n)) l l := by
    intro l
    exact List.forall₂_same.mpr fun n _ => ⟨rfl, fun _ => rfl⟩
  induction nodes with
  | nil => exact .nil
  | cons n rest ih =>
    unfold markNodeFailure
    split_ifs with hn
    · exact .cons ⟨rfl, fun hne => absurd hn hne⟩ (hsame rest)
    · exact .cons ⟨rfl, fun _ => rfl⟩ ih

def Matched (previous : List VpnNode) (now : Time) (n : VpnNode) : Prop :=
  ∃ old ∈ previous, old.id = n.id ∧ ∃ limit, old.cooldownUntil = some limit ∧ now < limit

theorem coolingByID_eq_none {previous : List VpnNode} {n : VpnNode}
    (h : ¬Matched previous now n) : coolingByID previous now n.id = none := by
  rw [coolingByID, List.find?_eq_none]
  intro old hold
  simp only [decide_eq_true_eq, not_and]
  intro hid hany
  obtain ⟨limit, hlimit, hlt⟩ := (Option.any_eq_true _ _).mp hany
  exact h ⟨old, List.mem_reverse.mp hold, hid, limit, hlimit, of_decide_eq_true hlt⟩

theorem preserveCooldown_frame (previous : List VpnNode) (n : VpnNode) :
    SameButStatus n (preserveCooldown previous now n) ∧
      (¬Matched previous now n → preserveCooldown previous now n = n) := by
  constructor
  · unfold SameButStatus preserveCooldown
    split <;> rfl
  · intro h
    rw [preserveCooldown, coolingByID_eq_none h]

theorem preserveNodeCooldowns_frame (nodes previous : List VpnNode) :
    List.Forall₂ (fun n m => SameButStatus n m ∧ (¬Matched previous now n → m = n)) nodes
      (preserveNodeCooldowns nodes previous now) := by
  rw [preserveNodeCooldowns, List.forall₂_map_right_iff]
  exact List.forall₂_same.mpr fun n _ => preserveCooldown_frame previous n

end Frame

section Selection

variable {prev fresh : List VpnNode} {id message : GoString} {cooldown : Duration}
  {t0 t1 t2 : Time}

/-- The mark shows in the map only under the failed node's ID. -/
theorem coolingByID_markNodeFailure_other {other : GoString} (h : other ≠ id) :
    coolingByID (markNodeFailure prev id message cooldown t0) t1 other =
      coolingByID prev t1 other := by
  unfold coolingByID
  induction prev with
  | nil => rfl
  | cons n rest ih =>
    unfold markNodeFailure
    split_ifs with hn
    · -- neither the node nor its marked form has the other ID
      have hmarked : (failNode message cooldown t0 n).id ≠ other := fun he => h (he.symm.trans hn)
      have hplain : n.id ≠ other := fun he => h (he.symm.trans hn)
      simp [List.find?_append, hmarked, hplain]
    · simp only [List.reverse_cons, List.find?_append, ih]

theorem preserveCooldown_markNodeFailure_other {n : VpnNode} (h : n.id ≠ id) :
    preserveCooldown (markNodeFailure prev id message cooldown t0) t1 n =
      preserveCooldown prev t1 n := by
  unfold preserveCooldown
  rw [coolingByID_markNodeFailure_other h]

/-- The failed node is not offered until its cooldown has passed. -/
theorem preserveCooldown_markNodeFailure_self {n : VpnNode} (hd : (ids prev).Nodup)
    (hid : id ∈ ids prev) (hpos : 0 < cooldown) (h12 : t1 ≤ t2) (h2 : t2 < t0 + cooldown)
    (hn : n.id = id) :
    connectable (preserveCooldown (markNodeFailure prev id message cooldown t0) t1 n) t2 =
      false := by
  have hcool : (id, some (t0 + cooldown)) ∈
      cooldowns (markNodeFailure prev id message cooldown t0) :=
    cooldowns_markNodeFailure_self hpos hid
  obtain ⟨old, hold, holdid, hlimit⟩ := mem_cooldowns.mp hcool
  have hfound := coolingByID_of_nodup (by rwa [ids_markNodeFailure]) hold hlimit
    (lt_of_le_of_lt h12 h2)
  rw [holdid] at hfound
  refine not_connectable_of_cooling ?_ h2
  rw [preserveCooldown, hn, hfound]
  exact hlimit

theorem filter_preserve_markNodeFailure (hd : (ids prev).Nodup) (hid : id ∈ ids prev)
    (hpos : 0 < cooldown) (h12 : t1 ≤ t2) (h2 : t2 < t0 + cooldown) :
    (preserveNodeCooldowns fresh (markNodeFailure prev id message cooldown t0) t1).filter
        (connectable · t2) =
      ((preserveNodeCooldowns fresh prev t1).filter (connectable · t2)).filter
        fun n => decide (n.id ≠ id) := by
  unfold preserveNodeCooldowns
  induction fresh with
  | nil => rfl
  | cons n rest ih =>
    rw [List.map_cons, List.map_cons, List.filter_cons, List.filter_cons, ih]
    by_cases hn : n.id = id
    · rw [preserveCooldown_markNodeFailure_self hd hid hpos h12 h2 hn, if_neg (by simp)]
      split_ifs
      · rw [List.filter_cons, if_neg (by simp [hn])]
      · rfl
    · rw [preserveCooldown_markNodeFailure_other hn]
      split_ifs
      · rw [List.filter_cons, if_pos (by simpa using hn)]
      · rfl

end Selection

theorem filter_rankedCandidates (p : VpnNode → Bool) (nodes : List VpnNode) (now : Time) :
    (rankedCandidates nodes now).filter p =
      ((nodes.filter (connectable · now)).filter p).insertionSort (notAfter candidateLess) := by
  have := strictWeak_candidateLess.total_notAfter
  have := strictWeak_candidateLess.trans_notAfter
  change ((nodes.filter (connectable · now)).insertionSort (notAfter candidateLess)).filter p = _
  rw [filter_insertionSort]

/-- The effect of a failure at `t0` on the selection at `t2`, across a refresh at `t1`. -/
structure FailureEffect (prev fresh : List VpnNode) (id message : GoString) (cooldown : Duration)
    (t0 t1 t2 : Time) : Prop where
  selection : connectionCandidates
      (preserveNodeCooldowns fresh (markNodeFailure prev id message cooldown t0) t1) [] 0 t2 =
    (connectionCandidates (preserveNodeCooldowns fresh prev t1) [] 0 t2).filter
      fun n => decide (n.id ≠ id)
  marked : List.Forall₂ (fun n m => SameButStatus n m ∧ (n.id ≠ id → m = n)) prev
    (markNodeFailure prev id message cooldown t0)
  preserved : ∀ previous : List VpnNode,
    List.Forall₂ (fun n m => SameButStatus n m ∧ (¬Matched previous t1 n → m = n)) fresh
      (preserveNodeCooldowns fresh previous t1)

/-- A recorded failure takes exactly the failed node out of the next selection. -/
theorem failure_removes_node {prev fresh : List VpnNode} {id : GoString} {cooldown : Duration}
    {t0 t1 t2 : Time} (hprev : (ids prev).Nodup) (hid : id ∈ ids prev) (hpos : 0 < cooldown)
    (h12 : t1 ≤ t2) (h2 : t2 < t0 + cooldown) (message : GoString) :
    FailureEffect prev fresh id message cooldown t0 t1 t2 where
  selection := by
    rw [connectionCandidates_all, connectionCandidates_all, filter_rankedCandidates,
      ← filter_preserve_markNodeFailure hprev hid hpos h12 h2]
    rfl
  marked := markNodeFailure_frame prev
  preserved previous := preserveNodeCooldowns_frame fresh previous

/-- The first of two nodes fails at 5 with a cooldown of 10. -/
theorem failure_removes_node_tied : lit "b" ∈ ids tiedNodes ∧
    FailureEffect tiedNodes tiedNodes (lit "b") (lit "timeout") 10 5 6 7 :=
  ⟨by decide +kernel, failure_removes_node (by decide +kernel) (by decide +kernel) (by decide)
    (by decide) (by decide) (lit "timeout")⟩

end ResidentialIPManager.Web
