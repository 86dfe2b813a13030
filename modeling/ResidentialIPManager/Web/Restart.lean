import ResidentialIPManager.Storage.State
import ResidentialIPManager.Tunnel.Endpoint
import ResidentialIPManager.Web.Operations

/-! # Candidates after a restart

The state file has no profiles. Ranking, cooldowns and connectability do not read the
profile, so the restored list offers the candidates of the saved one; `connect` does,
and fails on every one of them.
-/
namespace ResidentialIPManager.Web
open Text Domain Storage Tunnel

section Selection

variable (nodes : List VpnNode) (requestedID : GoString) (k : Int) (now : Time)

theorem candidateLess_savedNode (a b : VpnNode) :
    candidateLess (savedNode a) (savedNode b) = candidateLess a b := rfl

theorem rankedCandidates_savedNode :
    rankedCandidates (nodes.map savedNode) now = (rankedCandidates nodes now).map savedNode := by
  unfold rankedCandidates
  rw [List.filter_map]
  symm
  apply List.map_insertionSort
  intro a _ b _
  rw [candidateLess_savedNode]

/-- The restored list offers the same candidates, without their profiles. -/
theorem connectionCandidates_savedNode :
    connectionCandidates (nodes.map savedNode) requestedID k now =
      (connectionCandidates nodes requestedID k now).map savedNode := by
  unfold connectionCandidates
  by_cases hid : requestedID = []
  · simp only [hid, ne_eq, not_true_eq_false, if_false, rankedCandidates_savedNode, List.length_map]
    split_ifs
    · rfl
    · rw [List.map_take]
  · simp only [ne_eq, hid, not_false_eq_true, if_true, List.find?_map]
    have hsame : ((fun n => decide (n.id = requestedID ∧ connectable n now = true)) ∘ savedNode) =
        fun n => decide (n.id = requestedID ∧ connectable n now = true) := by
      funext n
      rfl
    rw [hsame]
    cases nodes.find? fun n => decide (n.id = requestedID ∧ connectable n now = true) with
    | none => rfl
    | some n => rfl

end Selection

section Profiles

variable {cfg : Config} {nodes previous : List VpnNode}

def Profiled (nodes : List VpnNode) : Prop := ∀ n ∈ nodes, n.openVPNConfig ≠ []

theorem profiled_fetch {maxNodes : Int} {answer : Except GoString (List (List GoString))}
    (h : Source.fetch maxNodes answer = .ok nodes) : Profiled nodes := by
  intro n hn
  obtain ⟨row, index, hrow⟩ := Source.mem_fetch h hn
  exact Source.rowToNode_profile hrow

theorem Profiled.classify (h : Profiled nodes)
    (answer : Except GoString (List Classify.IpApiRecord)) (now : Time) :
    Profiled (Classify.classify answer now nodes) := by
  intro n hn
  obtain ⟨m, hm, rfl⟩ := List.mem_map.mp hn
  have hsame := congrArg (·.openVPNConfig) (Classify.regrade_eq answer now m)
  exact fun hempty => h m hm (hsame.symm.trans hempty)

theorem Profiled.probe (h : Profiled nodes) (pcfg : ProbeConfig) (logs : Nat → Probe.DialLog) :
    Profiled (Probe.probe pcfg logs nodes) := by
  intro n hn
  obtain ⟨m, hm, log, hcase⟩ := Probe.mem_probe hn
  have hprobed := congrArg (·.openVPNConfig)
    (Probe.probeNode_eq (Probe.effectiveSamples pcfg) log m)
  rcases hcase with rfl | rfl
  · exact fun hempty => h m hm (hprobed.symm.trans hempty)
  · have hmarked := congrArg (·.openVPNConfig)
      (Probe.markSuspicious_eq (Probe.probeNode (Probe.effectiveSamples pcfg) log m))
    exact fun hempty => h m hm (hprobed.symm.trans (hmarked.symm.trans hempty))

theorem Profiled.preserveNodeCooldowns (h : Profiled nodes) (now : Time) :
    Profiled (preserveNodeCooldowns nodes previous now) := by
  intro n hn
  obtain ⟨m, hm, rfl⟩ := List.mem_map.mp hn
  unfold preserveCooldown
  split <;> exact h m hm

theorem Profiled.markNodeFailure {nodeID message : GoString} {cooldown : Duration} {now : Time}
    (h : Profiled nodes) : Profiled (markNodeFailure nodes nodeID message cooldown now) := by
  intro n hn
  obtain ⟨m, hm, rfl | rfl⟩ := mem_markNodeFailure hn
  · exact h n hm
  · exact h m hm

theorem Profiled.apply (h : Profiled nodes) (op : Operation) : Profiled (op.apply cfg nodes) := by
  cases op with
  | refreshNodes maxNodes answer now =>
    cases hf : Source.fetch maxNodes answer with
    | error err =>
      simp only [Operation.apply, hf]
      exact h
    | ok fetched =>
      simp only [Operation.apply, hf]
      exact (profiled_fetch hf).preserveNodeCooldowns now
  | classifyNodes answer now => exact h.classify answer now
  | probeNodes logs now => exact h.probe cfg.probe logs
  | prepare maxNodes answer graded gradedAt logs now =>
    cases hf : Source.fetch maxNodes answer with
    | error err =>
      simp only [Operation.apply, hf]
      exact h
    | ok fetched =>
      simp only [Operation.apply, hf, Operation.prepareNodes]
      apply Profiled.preserveNodeCooldowns
      apply Profiled.probe
      split_ifs
      · exact (profiled_fetch hf).classify graded gradedAt
      · exact profiled_fetch hf
  | cooldownNode nodeID message now => exact h.markNodeFailure

theorem Profiled.applyAll (h : Profiled nodes) (ops : List Operation) :
    Profiled (Operation.applyAll cfg nodes ops) := by
  induction ops generalizing nodes with
  | nil => exact h
  | cons op rest ih => exact ih (h.apply op)

end Profiles

def missingProfile : Fault := .error (lit "node does not contain OpenVPN config")

section Connecting

variable {ovpn : OpenVPNConfig} {files : Files} {n : VpnNode}

theorem connectOptions_savedNode (n : VpnNode) :
    connectOptions ovpn files (savedNode n) = .error missingProfile := rfl

theorem profileOptions_ne_missing (h : n.openVPNConfig ≠ []) :
    profileOptions ovpn files n ≠ .error missingProfile := by
  intro herr
  unfold profileOptions missingProfile at herr
  rw [if_neg h] at herr
  unfold sanitizeOpenVPNConfig at herr
  split at herr
  · next message hclean =>
    split_ifs at hclean
    rw [← Except.error.inj hclean] at herr
    exact absurd herr (by decide)
  · next cleaned hclean =>
    split at herr
    · next message _ =>
      -- the two messages differ in their first letter
      have hhead : (lit "parse VPNGate profile: " ++ message).head? = some (.scalar 'p') := rfl
      rw [Fault.error.inj (Except.error.inj herr)] at hhead
      exact absurd hhead (by decide)
    · cases herr
    · split_ifs at herr
      exact absurd herr (by decide)

/-- A node that has its profile can fail, but not for want of it. -/
theorem connectOptions_ne_missing (h : n.openVPNConfig ≠ []) :
    connectOptions ovpn files n ≠ .error missingProfile := by
  intro herr
  unfold connectOptions at herr
  split at herr
  · next fault hread =>
    rw [Except.error.inj herr] at hread
    exact profileOptions_ne_missing h hread
  · split_ifs at herr <;> exact absurd herr (by decide)

end Connecting

/-- What a pass does with a candidate: the node and the outcome of `connect` up to the
handshake. -/
def attempt (ovpn : OpenVPNConfig) (files : Files) (n : VpnNode) :
    GoString × Except Fault OpenVPNOptions :=
  (n.id, connectOptions ovpn files n)

/-- Selection and `connect` behave on one list as on the other. -/
def SameAttempts (ovpn : OpenVPNConfig) (files : Files) (now : Time)
    (saved restored : List VpnNode) : Prop :=
  ∀ requestedID k, (connectionCandidates restored requestedID k now).map (attempt ovpn files) =
    (connectionCandidates saved requestedID k now).map (attempt ovpn files)

def NeverMissing (ovpn : OpenVPNConfig) (files : Files) (now : Time) (restored : List VpnNode) :
    Prop :=
  ∀ requestedID k, ∀ n ∈ connectionCandidates restored requestedID k now,
    connectOptions ovpn files n ≠ .error missingProfile

section Restored

variable {ovpn : OpenVPNConfig} {files : Files} {now : Time} {nodes : List VpnNode}

theorem connectionCandidates_eq_nil (h : ∀ n ∈ nodes, connectable n now = false)
    (requestedID : GoString) (k : Int) : connectionCandidates nodes requestedID k now = [] := by
  rw [List.eq_nil_iff_forall_not_mem]
  intro n hn
  obtain ⟨hmem, hc⟩ := mem_connectionCandidates hn
  simp [h n hmem] at hc

theorem sameAttempts_of_none (h : ∀ n ∈ nodes, connectable n now = false) :
    SameAttempts ovpn files now nodes (nodes.map savedNode) := by
  intro requestedID k
  rw [connectionCandidates_savedNode, connectionCandidates_eq_nil h]
  rfl

theorem neverMissing_of_none (h : ∀ n ∈ nodes, connectable n now = false) :
    NeverMissing ovpn files now (nodes.map savedNode) := by
  intro requestedID k n hn
  rw [connectionCandidates_savedNode, connectionCandidates_eq_nil h] at hn
  cases hn

/-- A request for a candidate of the saved list shows the difference. -/
theorem not_sameAttempts {n : VpnNode} (hp : Profiled nodes) (hn : n ∈ nodes) (hid : n.id ≠ [])
    (hc : connectable n now = true) :
    ¬ SameAttempts ovpn files now nodes (nodes.map savedNode) := by
  intro hsame
  obtain ⟨m, hm, -, heq⟩ := connectionCandidates_byID hn hid hc 1
  have hpair := hsame n.id 1
  rw [connectionCandidates_savedNode, heq] at hpair
  have hconnect : connectOptions ovpn files (savedNode m) = connectOptions ovpn files m :=
    congrArg Prod.snd (List.cons.inj hpair).1
  exact connectOptions_ne_missing (hp m hm) (hconnect.symm.trans (connectOptions_savedNode m))

theorem not_neverMissing {n : VpnNode} (hn : n ∈ nodes) (hid : n.id ≠ [])
    (hc : connectable n now = true) : ¬ NeverMissing ovpn files now (nodes.map savedNode) := by
  intro hnever
  obtain ⟨m, -, -, heq⟩ := connectionCandidates_byID hn hid hc 1
  refine hnever n.id 1 (savedNode m) ?_ (connectOptions_savedNode m)
  rw [connectionCandidates_savedNode, heq]
  exact List.mem_singleton_self _

end Restored

/-- A list fetched from VPNGate and worked on in any way behaves after a restart as
before only if it has no node to offer, and only then no candidate fails for want of its
profile. -/
theorem restart_iff {cfg : Config} {rows : List (List GoString)} {nodes : List VpnNode}
    {ops : List Operation} {saved : NodeCache} (hrows : Source.parseRecords rows = .ok nodes)
    (hsaved : saved.nodes = Operation.applyAll cfg nodes ops) (ovpn : OpenVPNConfig)
    (files : Files) (snapshot : ConnectionSnapshot) (now : Time) :
    let restored := (load (some (save saved snapshot))).nodes.nodes
    (SameAttempts ovpn files now saved.nodes restored ↔
        ∀ n ∈ saved.nodes, connectable n now = false) ∧
      (NeverMissing ovpn files now restored ↔ ∀ n ∈ saved.nodes, connectable n now = false) := by
  have hprofiled : Profiled saved.nodes := by
    rw [hsaved]
    apply Profiled.applyAll
    intro n hn
    obtain ⟨row, index, hrow⟩ := Source.mem_parseRecords hrows hn
    exact Source.rowToNode_profile hrow
  simp only [load_save_nodes]
  constructor
  · refine ⟨fun h n hn => ?_, sameAttempts_of_none⟩
    by_contra hc
    exact not_sameAttempts hprofiled hn (saved.id_ne_nil hn) (Bool.eq_true_of_not_eq_false hc) h
  · refine ⟨fun h n hn => ?_, neverMissing_of_none⟩
    by_contra hc
    exact not_neverMissing hn (saved.id_ne_nil hn) (Bool.eq_true_of_not_eq_false hc) h

def oneRowNodes : List VpnNode :=
  match Source.parseRecords oneRow with
  | .ok nodes => nodes
  | .error _ => []

theorem parseRecords_oneRow : Source.parseRecords oneRow = .ok oneRowNodes := by
  have hok : (Source.parseRecords oneRow).toBool = true := by decide +kernel
  unfold oneRowNodes
  cases h : Source.parseRecords oneRow with
  | ok nodes => rfl
  | error err => simp [h, Except.toBool] at hok

/-- While its only node is cooling, the list behaves after a restart as before. -/
theorem restart_while_cooling : ∃ saved : NodeCache,
    saved.nodes = Operation.applyAll {} oneRowNodes [.cooldownNode oneRowID (lit "timeout") 10] ∧
    saved.nodes ≠ [] ∧
    SameAttempts {} noFiles 20 saved.nodes (load (some (save saved initialSnapshot))).nodes.nodes := by
  obtain ⟨fresh, hfresh⟩ := Source.parseRecords_cache parseRecords_oneRow
  obtain ⟨saved, hsaved⟩ :=
    Operation.applyAll_cache {} fresh [.cooldownNode oneRowID (lit "timeout") 10]
  rw [hfresh] at hsaved
  have hall : Operation.applyAll {} oneRowNodes [.cooldownNode oneRowID (lit "timeout") 10] ≠ [] ∧
      ∀ n ∈ Operation.applyAll {} oneRowNodes [.cooldownNode oneRowID (lit "timeout") 10],
        connectable n 20 = false := by decide +kernel
  rw [← hsaved] at hall
  exact ⟨saved, hsaved, hall.1,
    (restart_iff parseRecords_oneRow hsaved {} noFiles initialSnapshot 20).1.mpr hall.2⟩

/-- The freshly fetched list, saved and restored: its node is offered, and fails. -/
theorem restored_node_without_profile :
    ¬ ∀ (cfg : Config) (rows : List (List GoString)) (nodes : List VpnNode) (ops : List Operation)
      (saved : NodeCache), Source.parseRecords rows = .ok nodes →
      saved.nodes = Operation.applyAll cfg nodes ops →
      ∀ (ovpn : OpenVPNConfig) (files : Files) (snapshot : ConnectionSnapshot) (now : Time),
        SameAttempts ovpn files now saved.nodes (load (some (save saved snapshot))).nodes.nodes ∧
          NeverMissing ovpn files now (load (some (save saved snapshot))).nodes.nodes := by
  intro hclaim
  obtain ⟨saved, hsaved⟩ := Source.parseRecords_cache parseRecords_oneRow
  have hnever := (hclaim {} oneRow oneRowNodes [] saved parseRecords_oneRow hsaved {} noFiles
    initialSnapshot 0).2
  have hsome : ∃ n ∈ oneRowNodes, connectable n 0 = true := by decide +kernel
  obtain ⟨n, hn, hc⟩ := hsome
  rw [← hsaved] at hn
  rw [load_save_nodes] at hnever
  exact not_neverMissing hn (saved.id_ne_nil hn) hc hnever

end ResidentialIPManager.Web
