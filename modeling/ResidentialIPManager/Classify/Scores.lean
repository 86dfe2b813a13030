import ResidentialIPManager.Classify.Batches
import ResidentialIPManager.Source.Payload

/-! # Scores and grades

`Classify` writes the score together with the grade when it has a record, and neither when
the service fails. When the service answers without a usable record, only the grade is
written: a node that was graded StrictHome becomes a Candidate with the score of a home, and
a Rejected one a Candidate that looks as if it had never been graded.
-/
namespace ResidentialIPManager.Classify
open Text Domain

/-- One call of `Classify` on the list that the calls before it have left. -/
structure Call where
  service : Service
  now : Time

def Call.answer (call : Call) (nodes : List VpnNode) : Except GoString (List IpApiRecord) :=
  (fetchIPAPI call.service nodes).2

def classifyAll (nodes : List VpnNode) (calls : List Call) : List VpnNode :=
  calls.foldl (fun nodes call => StrictClassifier.classify call.service call.now nodes) nodes

/-- A node together with the record whether a call has graded it. -/
structure Tracked where
  node : VpnNode
  graded : Bool
  deriving DecidableEq

def Tracked.regrade (answer : Except GoString (List IpApiRecord)) (now : Time) (t : Tracked) :
    Tracked where
  node := Classify.regrade answer now t.node
  graded := t.graded || (evidenceOn answer t.node).isSome

def Tracked.Consistent (t : Tracked) : Prop :=
  t.node.purityGrade = .strictHome ∧ t.node.purityScore = 90 ∨
    t.node.purityGrade = .candidate ∧ t.node.purityScore = 40 ∨
    t.node.purityGrade = .rejected ∧ t.node.purityScore = 0 ∨
    t.node.purityGrade = .candidate ∧ t.node.purityScore = 0 ∧ t.graded = false

instance (t : Tracked) : Decidable t.Consistent := inferInstanceAs (Decidable (_ ∨ _))

def trackCall (tracked : List Tracked) (call : Call) : List Tracked :=
  tracked.map (Tracked.regrade (call.answer (tracked.map (·.node))) call.now)

def trackAll (nodes : List VpnNode) (calls : List Call) : List Tracked :=
  calls.foldl trackCall (nodes.map (⟨·, false⟩))

section Links

theorem trackCall_nodes (tracked : List Tracked) (call : Call) :
    (trackCall tracked call).map (·.node) =
      StrictClassifier.classify call.service call.now (tracked.map (·.node)) := by
  rw [trackCall, classify_eq_map, List.map_map, List.map_map]
  rfl

theorem trackAll_nodes (nodes : List VpnNode) (calls : List Call) :
    (trackAll nodes calls).map (·.node) = classifyAll nodes calls := by
  have hrun : ∀ tracked : List Tracked, (calls.foldl trackCall tracked).map (·.node) =
      classifyAll (tracked.map (·.node)) calls := by
    induction calls with
    | nil => exact fun _ => rfl
    | cons call rest ih =>
      intro tracked
      rw [List.foldl_cons, ih, trackCall_nodes]
      rfl
  rw [trackAll, hrun, List.map_map]
  exact congrArg (classifyAll · calls) (List.map_id nodes)

end Links

/-- The call leaves the node alone or has a usable record for it. -/
def Settles (answer : Except GoString (List IpApiRecord)) (n : VpnNode) : Prop :=
  answer.toBool = false ∨ (evidenceOn answer n).isSome = true

instance (answer : Except GoString (List IpApiRecord)) (n : VpnNode) :
    Decidable (Settles answer n) :=
  inferInstanceAs (Decidable (_ ∨ _))

section Step

variable {answer : Except GoString (List IpApiRecord)} {now : Time}

/-- What one call does to grade and score. -/
theorem regrade_cases (answer : Except GoString (List IpApiRecord)) (now : Time) (n : VpnNode) :
    let m := regrade answer now n
    (answer.toBool = false ∧ evidenceOn answer n = none ∧ m.purityScore = n.purityScore ∧
        m.purityGrade = if n.purityGrade = .unset then .candidate else n.purityGrade) ∨
      (answer.toBool = true ∧ evidenceOn answer n = none ∧ m.purityScore = n.purityScore ∧
        m.purityGrade = .candidate) ∨
      ((evidenceOn answer n).isSome = true ∧
        (m.purityGrade = .rejected ∧ m.purityScore = 0 ∨
          m.purityGrade = .strictHome ∧ m.purityScore = 90 ∨
          m.purityGrade = .candidate ∧ m.purityScore = 40)) := by
  cases answer with
  | error err => exact .inl ⟨rfl, rfl, rfl, rfl⟩
  | ok records =>
    right
    cases hrecord : recordFor records n.ip with
    | none =>
      left
      simp [regrade, evidenceOn, gradeNode, hrecord, gradeMissing, Except.toBool]
    | some record =>
      by_cases hstatus : record.status = lit "success"
      · right
        simp only [regrade, evidenceOn, gradeNode, hrecord, hstatus, if_true, gradeRecord, verdict]
        refine ⟨rfl, ?_⟩
        split_ifs
        · exact .inl ⟨rfl, rfl⟩
        · exact .inr (.inl ⟨rfl, rfl⟩)
        · exact .inr (.inr ⟨rfl, rfl⟩)
      · left
        simp [regrade, evidenceOn, gradeNode, hrecord, hstatus, gradeMissing, Except.toBool]

def Tracked.Fresh (t : Tracked) : Prop := t.graded = false → t.node.purityGrade = .candidate

theorem Tracked.Fresh.regrade {t : Tracked} (h : t.Fresh) : (t.regrade answer now).Fresh := by
  intro hgraded
  simp only [Tracked.regrade, Bool.or_eq_false_iff] at hgraded
  have hgrade := h hgraded.1
  have hcases := regrade_cases answer now t.node
  simp only [] at hcases
  rcases hcases with ⟨-, -, -, hkept⟩ | ⟨-, -, -, hcandidate⟩ | ⟨hevidence, -⟩
  · rw [Tracked.regrade, hkept, hgrade]
    rfl
  · exact hcandidate
  · simp [hgraded.2] at hevidence

/-- One call keeps a consistent node consistent, unless it drops the grade of a node that
has another grade than Candidate. -/
theorem Tracked.regrade_consistent_iff {t : Tracked} (h : t.Consistent) (hfresh : t.Fresh) :
    (t.regrade answer now).Consistent ↔
      (t.node.purityGrade = .strictHome ∨ t.node.purityGrade = .rejected →
        Settles answer t.node) := by
  have hcases := regrade_cases answer now t.node
  simp only [] at hcases
  rcases hcases with ⟨hanswer, hnone, hscore, hkept⟩ | ⟨hanswer, hnone, hscore, hgrade⟩ | ⟨hsome, hset⟩
  · -- the service failed: grade and score stay together
    refine iff_of_true ?_ fun _ => .inl hanswer
    have hset : t.node.purityGrade ≠ .unset := by
      intro hunset
      simp [Tracked.Consistent, hunset] at h
    rw [if_neg hset] at hkept
    simpa [Tracked.Consistent, Tracked.regrade, hscore, hkept, hnone] using h
  · -- no usable record: the grade becomes Candidate, the score stays
    have hlost : ¬Settles answer t.node := by simp [Settles, hanswer, hnone]
    rcases h with ⟨hg, hs⟩ | ⟨hg, hs⟩ | ⟨hg, hs⟩ | ⟨hg, hs, hgraded⟩
    · simp [Tracked.Consistent, Tracked.regrade, hgrade, hscore, hnone, hg, hs, hlost]
    · simp [Tracked.Consistent, Tracked.regrade, hgrade, hscore, hnone, hg, hs]
    · have hgraded : t.graded = true := by
        by_contra hnot
        have hcandidate := hfresh (Bool.not_eq_true _ ▸ hnot)
        rw [hg] at hcandidate
        cases hcandidate
      simp [Tracked.Consistent, Tracked.regrade, hgrade, hscore, hnone, hg, hs, hlost, hgraded]
    · simp [Tracked.Consistent, Tracked.regrade, hgrade, hscore, hnone, hg, hs, hgraded]
  · -- a usable record: both are written
    refine iff_of_true ?_ fun _ => .inr hsome
    rcases hset with ⟨hg, hs⟩ | ⟨hg, hs⟩ | ⟨hg, hs⟩
    all_goals simp [Tracked.Consistent, Tracked.regrade, hg, hs]

end Step

section Runs

/-- The calls never lose the grade of a node that a call has set to StrictHome or
Rejected. -/
def GradesSettled (nodes : List VpnNode) (calls : List Call) : Prop :=
  ∀ j call, calls[j]? = some call → ∀ n ∈ classifyAll nodes (calls.take j),
    n.purityGrade = .strictHome ∨ n.purityGrade = .rejected →
      Settles (call.answer (classifyAll nodes (calls.take j))) n

def Sound (tracked : List Tracked) : Prop := ∀ t ∈ tracked, t.Consistent ∧ t.Fresh

theorem sound_trackCall_iff {tracked : List Tracked} (h : Sound tracked) (call : Call) :
    (∀ t ∈ trackCall tracked call, t.Consistent) ↔
      ∀ t ∈ tracked, t.node.purityGrade = .strictHome ∨ t.node.purityGrade = .rejected →
        Settles (call.answer (tracked.map (·.node))) t.node := by
  rw [trackCall, List.forall_mem_map]
  constructor
  · intro hall t ht
    exact (t.regrade_consistent_iff (h t ht).1 (h t ht).2).mp (hall t ht)
  · intro hall t ht
    exact (t.regrade_consistent_iff (h t ht).1 (h t ht).2).mpr (hall t ht)

theorem consistent_run_iff {tracked : List Tracked} (h : Sound tracked) (calls : List Call) :
    (∀ j, ∀ t ∈ (calls.take j).foldl trackCall tracked, t.Consistent) ↔
      ∀ j call, calls[j]? = some call → ∀ t ∈ (calls.take j).foldl trackCall tracked,
        t.node.purityGrade = .strictHome ∨ t.node.purityGrade = .rejected →
          Settles (call.answer (((calls.take j).foldl trackCall tracked).map (·.node))) t.node := by
  -- soundness goes on from list to list, as long as the scores were right so far
  induction calls generalizing tracked with
  | nil => exact iff_of_true (fun j t ht => (h t (by simpa using ht)).1) (by simp)
  | cons call rest ih =>
    have hsound (hnext : ∀ t ∈ trackCall tracked call, t.Consistent) :
        Sound (trackCall tracked call) := by
      intro t ht
      refine ⟨hnext t ht, ?_⟩
      obtain ⟨t₀, ht₀, rfl⟩ := List.mem_map.mp ht
      exact (h t₀ ht₀).2.regrade
    constructor
    · intro hall j next hcall
      have hnext : ∀ t ∈ trackCall tracked call, t.Consistent := hall 1
      cases j with
      | zero =>
        obtain rfl := Option.some.inj hcall
        exact (sound_trackCall_iff h call).mp hnext
      | succ j => exact (ih (hsound hnext)).mp (fun j => hall (j + 1)) j next hcall
    · intro hall j
      have hnext := (sound_trackCall_iff h call).mpr (hall 0 call rfl)
      cases j with
      | zero => exact fun t ht => (h t ht).1
      | succ j =>
        exact (ih (hsound hnext)).mpr (fun j next hcall => hall (j + 1) next hcall) j

theorem sound_parsed {text : GoString} {nodes : List VpnNode}
    (h : Source.parseVPNGateCSV text = .ok nodes) : Sound (nodes.map (⟨·, false⟩)) := by
  intro t ht
  obtain ⟨node, hnode, rfl⟩ := List.mem_map.mp ht
  obtain ⟨header, rows, -, hparse⟩ := Source.parseVPNGateCSV_eq_ok.mp h
  obtain ⟨row, index, hrow⟩ := Source.mem_parseRecords hparse hnode
  obtain ⟨ip, decoded, -, rfl⟩ := Source.rowToNode_accepted hrow
  exact ⟨.inr (.inr (.inr ⟨rfl, rfl, rfl⟩)), fun _ => rfl⟩

end Runs

/-- The scores follow the grades after every call exactly if no call answers without a
usable record for a node that is StrictHome or Rejected at the time. -/
theorem scores_follow_grades_iff {text : GoString} {nodes : List VpnNode}
    (h : Source.parseVPNGateCSV text = .ok nodes) (calls : List Call) :
    (∀ j, ∀ t ∈ trackAll nodes (calls.take j), t.Consistent) ↔ GradesSettled nodes calls := by
  have hrun := consistent_run_iff (sound_parsed h) calls
  have hnodes : ∀ j, ((calls.take j).foldl trackCall (nodes.map (⟨·, false⟩))).map (·.node) =
      classifyAll nodes (calls.take j) := fun j => trackAll_nodes nodes (calls.take j)
  refine hrun.trans ?_
  constructor
  · intro hall j call hcall n hn hgrade
    rw [← hnodes j] at hn ⊢
    obtain ⟨t, ht, rfl⟩ := List.mem_map.mp hn
    exact hall j call hcall t ht hgrade
  · intro hall j call hcall t ht hgrade
    rw [hnodes j]
    exact hall j call hcall t.node (hnodes j ▸ List.mem_map_of_mem ht) hgrade

def failingAfterHome : List Call :=
  [⟨homeService, 0⟩, ⟨fun _ _ => .error (lit "timeout"), 1⟩]

theorem scores_follow_grades_failing :
    Source.parseVPNGateCSV Source.oneRowText = .ok Source.oneRowTextNodes ∧
      ∀ j, ∀ t ∈ trackAll Source.oneRowTextNodes (failingAfterHome.take j), t.Consistent := by
  refine ⟨Source.parseVPNGateCSV_oneRowText,
    (scores_follow_grades_iff Source.parseVPNGateCSV_oneRowText failingAfterHome).mpr ?_⟩
  intro j call hcall
  rcases j with - | - | j
  · obtain rfl := Option.some.inj hcall
    decide +kernel
  · obtain rfl := Option.some.inj hcall
    decide +kernel
  · cases hcall

def emptyAfterHome : List Call := [⟨homeService, 0⟩, ⟨fun _ _ => .ok [], 1⟩]

theorem stale_home_score :
    ¬ ∀ (text : GoString) (nodes : List VpnNode) (calls : List Call),
      Source.parseVPNGateCSV text = .ok nodes →
      ∀ j, ∀ t ∈ trackAll nodes (calls.take j), t.Consistent := by
  intro hclaim
  have hconsistent := hclaim _ _ emptyAfterHome Source.parseVPNGateCSV_oneRowText 2
  revert hconsistent
  decide +kernel

end ResidentialIPManager.Classify
