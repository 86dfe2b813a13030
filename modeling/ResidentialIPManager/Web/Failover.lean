import ResidentialIPManager.Domain.Config
import Mathlib.Data.List.Sort

/-! # Candidate selection and node cooldowns

The functions of web/failover.go. `connectionCandidates` ranks the connectable
nodes with a stable sort and truncates; `markNodeFailure` and
`preserveNodeCooldowns` rewrite a node list without changing any ID, which is
what lets them act on a `NodeCache`.
-/
namespace ResidentialIPManager.Web
open Text Domain

def connectable (node : VpnNode) (now : Time) : Bool :=
  if node.protocol ≠ lit "tcp" ∨ node.purityGrade = .rejected then false
  else if node.status = .unavailable then false
  else match node.cooldownUntil with
    | some limit => !decide (now < limit)
    | none => true

def nodeRank (node : VpnNode) : Int :=
  wrap64 ((if node.purityGrade = .strictHome then 1000 else 0) +
    (if node.status = .available then 200 else 0) + node.purityScore)

def latencyRank (node : VpnNode) : Int :=
  match node.latencyMS with
  | some ms =>
    if !node.latencySuspicious then ms
    else if 0 < node.advertisedPingMS then wrap64 (100000 + node.advertisedPingMS)
    else 1000000
  | none =>
    if 0 < node.advertisedPingMS then wrap64 (100000 + node.advertisedPingMS) else 1000000

/-- The comparison given to `sort.SliceStable`. -/
def candidateLess (a b : VpnNode) : Bool :=
  if nodeRank a ≠ nodeRank b then decide (nodeRank b < nodeRank a)
  else if latencyRank a ≠ latencyRank b then decide (latencyRank a < latencyRank b)
  else if a.score ≠ b.score then decide (b.score < a.score)
  else GoString.less a.id b.id

def rankedCandidates (nodes : List VpnNode) (now : Time) : List VpnNode :=
  (nodes.filter (connectable · now)).insertionSort (fun a b => !candidateLess b a)

def connectionCandidates (nodes : List VpnNode) (requestedID : GoString) (maxAttempts : Int)
    (now : Time) : List VpnNode :=
  if requestedID ≠ [] then
    match nodes.find? (fun n => n.id = requestedID ∧ connectable n now) with
    | some n => [n]
    | none => []
  else if maxAttempts ≤ 0 ∨ (rankedCandidates nodes now).length < maxAttempts then
    rankedCandidates nodes now
  else (rankedCandidates nodes now).take maxAttempts.toNat

theorem mem_connectionCandidates {nodes : List VpnNode} {requestedID : GoString} {k : Int}
    {now : Time} {n : VpnNode} (h : n ∈ connectionCandidates nodes requestedID k now) :
    n ∈ nodes ∧ connectable n now = true := by
  unfold connectionCandidates at h
  split_ifs at h
  · split at h
    · rename_i m hf
      rw [List.mem_singleton] at h
      subst h
      have hm := List.find?_some hf
      simp only [decide_eq_true_eq] at hm
      exact ⟨List.mem_of_find?_eq_some hf, hm.2⟩
    · simp at h
  · simpa [rankedCandidates] using h
  · simpa [rankedCandidates] using List.mem_of_mem_take h

theorem connectionCandidates_byID {nodes : List VpnNode} {n : VpnNode} {now : Time}
    (hn : n ∈ nodes) (hid : n.id ≠ []) (hc : connectable n now = true) (k : Int) :
    ∃ m ∈ nodes, m.id = n.id ∧ connectionCandidates nodes n.id k now = [m] := by
  unfold connectionCandidates
  rw [if_pos hid]
  cases hf : nodes.find? fun m => decide (m.id = n.id ∧ connectable m now = true) with
  | none =>
    have hnone := List.find?_eq_none.mp hf n hn
    simp [hc] at hnone
  | some m =>
    have hm := List.find?_some hf
    simp only [decide_eq_true_eq] at hm
    exact ⟨m, List.mem_of_find?_eq_some hf, hm.1, rfl⟩

theorem not_connectable_of_cooling {n : VpnNode} {now limit : Time}
    (hc : n.cooldownUntil = some limit) (h : now < limit) : connectable n now = false := by
  unfold connectable
  split_ifs
  · rfl
  · rfl
  · simp [hc, h]

def failNode (message : GoString) (cooldown : Duration) (now : Time) (n : VpnNode) : VpnNode :=
  { n with
    status := .cooldown
    lastError := message
    lastCheckedAt := some now
    cooldownUntil := if 0 < cooldown then some (now + cooldown) else n.cooldownUntil }

/-- Only the first node with the ID is marked. -/
def markNodeFailure (nodes : List VpnNode) (nodeID message : GoString) (cooldown : Duration)
    (now : Time) : List VpnNode :=
  match nodes with
  | [] => []
  | n :: rest =>
    if n.id = nodeID then failNode message cooldown now n :: rest
    else n :: markNodeFailure rest nodeID message cooldown now

theorem mem_markNodeFailure {nodes : List VpnNode} {nodeID message : GoString}
    {cooldown : Duration} {now : Time} {n : VpnNode}
    (h : n ∈ markNodeFailure nodes nodeID message cooldown now) :
    ∃ m ∈ nodes, n = m ∨ n = failNode message cooldown now m := by
  induction nodes with
  | nil => cases h
  | cons m rest ih =>
    unfold markNodeFailure at h
    split_ifs at h
    · rcases List.mem_cons.mp h with rfl | hr
      · exact ⟨m, List.mem_cons_self, .inr rfl⟩
      · exact ⟨n, List.mem_cons_of_mem _ hr, .inl rfl⟩
    · rcases List.mem_cons.mp h with rfl | hr
      · exact ⟨n, List.mem_cons_self, .inl rfl⟩
      · obtain ⟨k, hk, heq⟩ := ih hr
        exact ⟨k, List.mem_cons_of_mem _ hk, heq⟩

@[simp] theorem ids_markNodeFailure (nodes : List VpnNode) (nodeID message : GoString)
    (cooldown : Duration) (now : Time) :
    ids (markNodeFailure nodes nodeID message cooldown now) = ids nodes := by
  induction nodes with
  | nil => rfl
  | cons n rest ih =>
    unfold markNodeFailure
    split_ifs
    · rfl
    · simp [ih]

theorem cooldowns_markNodeFailure_other {nodes : List VpnNode} {nodeID message id : GoString}
    {cooldown : Duration} {now : Time} {c : Option Time} (hid : id ≠ nodeID)
    (h : (id, c) ∈ cooldowns nodes) :
    (id, c) ∈ cooldowns (markNodeFailure nodes nodeID message cooldown now) := by
  induction nodes with
  | nil => simp [cooldowns] at h
  | cons n rest ih =>
    unfold markNodeFailure
    rw [cooldowns_cons, List.mem_cons] at h
    split_ifs with hn
    · rcases h with heq | hr
      · exact absurd ((Prod.mk.inj heq).1.trans hn) hid
      · exact List.mem_cons_of_mem _ hr
    · rcases h with heq | hr
      · exact heq ▸ List.mem_cons_self
      · exact List.mem_cons_of_mem _ (ih hr)

theorem cooldowns_markNodeFailure_self {nodes : List VpnNode} {nodeID message : GoString}
    {cooldown : Duration} {now : Time} (hpos : 0 < cooldown) (h : nodeID ∈ ids nodes) :
    (nodeID, some (now + cooldown)) ∈
      cooldowns (markNodeFailure nodes nodeID message cooldown now) := by
  induction nodes with
  | nil => simp at h
  | cons n rest ih =>
    unfold markNodeFailure
    split_ifs with hn
    · simp [failNode, hpos, hn]
    · rcases List.mem_cons.mp h with heq | hr
      · exact absurd heq.symm hn
      · exact List.mem_cons_of_mem _ (ih hr)

theorem cooldowns_markNodeFailure_zero {nodes : List VpnNode} {nodeID message : GoString}
    {cooldown : Duration} {now : Time} (hpos : ¬0 < cooldown) :
    cooldowns (markNodeFailure nodes nodeID message cooldown now) = cooldowns nodes := by
  induction nodes with
  | nil => rfl
  | cons n rest ih =>
    unfold markNodeFailure
    split_ifs
    · simp [failNode, hpos]
    · simp [ih]

/-- The map built by `preserveNodeCooldowns`: a later entry replaces an earlier one. -/
def coolingByID (previous : List VpnNode) (now : Time) (id : GoString) : Option VpnNode :=
  previous.reverse.find? (fun n => n.id = id ∧ n.cooldownUntil.any (fun limit => now < limit))

def preserveCooldown (previous : List VpnNode) (now : Time) (n : VpnNode) : VpnNode :=
  match coolingByID previous now n.id with
  | some old =>
    { n with
      status := .cooldown
      cooldownUntil := old.cooldownUntil
      lastError := old.lastError }
  | none => n

def preserveNodeCooldowns (nodes previous : List VpnNode) (now : Time) : List VpnNode :=
  nodes.map (preserveCooldown previous now)

@[simp] theorem preserveCooldown_id (previous : List VpnNode) (now : Time) (n : VpnNode) :
    (preserveCooldown previous now n).id = n.id := by
  unfold preserveCooldown
  split <;> rfl

@[simp] theorem ids_preserveNodeCooldowns (nodes previous : List VpnNode) (now : Time) :
    ids (preserveNodeCooldowns nodes previous now) = ids nodes := by
  simp [ids, preserveNodeCooldowns]

/-- With distinct IDs, the map holds every node that is cooling. -/
theorem coolingByID_of_nodup {previous : List VpnNode} {n : VpnNode} {now limit : Time}
    (hd : (ids previous).Nodup) (hn : n ∈ previous) (hc : n.cooldownUntil = some limit)
    (hl : now < limit) : coolingByID previous now n.id = some n := by
  have hsome : (coolingByID previous now n.id).isSome = true := by
    simp only [coolingByID, List.find?_isSome, List.mem_reverse, decide_eq_true_eq]
    exact ⟨n, hn, rfl, by simpa [hc] using hl⟩
  obtain ⟨m, hm⟩ := Option.isSome_iff_exists.mp hsome
  have hmem := List.mem_of_find?_eq_some hm
  have hprop := List.find?_some hm
  simp only [decide_eq_true_eq] at hprop
  rw [hm, List.inj_on_of_nodup_map hd (List.mem_reverse.mp hmem) hn hprop.1]

theorem coolingByID_eq {previous : NodeCache} {n : VpnNode} {now limit : Time}
    (hn : n ∈ previous.nodes) (hc : n.cooldownUntil = some limit) (hl : now < limit) :
    coolingByID previous.nodes now n.id = some n :=
  coolingByID_of_nodup previous.nodup hn hc hl

/-- A cooldown that is still running survives in every list that has the node. -/
theorem cooldowns_preserveNodeCooldowns {nodes : List VpnNode} {previous : NodeCache}
    {now limit : Time} {id : GoString} (hid : id ∈ ids nodes)
    (hc : (id, some limit) ∈ cooldowns previous.nodes) (hl : now < limit) :
    (id, some limit) ∈ cooldowns (preserveNodeCooldowns nodes previous.nodes now) := by
  obtain ⟨n, hn, rfl⟩ := mem_ids.mp hid
  obtain ⟨old, hold, hidold, hlimit⟩ := mem_cooldowns.mp hc
  refine mem_cooldowns.mpr ⟨_, List.mem_map_of_mem hn, preserveCooldown_id _ _ _, ?_⟩
  have heq := coolingByID_eq hold hlimit hl
  rw [hidold] at heq
  simp [preserveCooldown, heq, hlimit]

end ResidentialIPManager.Web
