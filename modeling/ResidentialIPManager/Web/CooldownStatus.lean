import ResidentialIPManager.Web.Operations

/-! # Cooldown status and cooldown deadline

A node that is cooling is to have the status `cooldown`. Refreshing, preparing and
failing a node establish the link and classification keeps it. A probe gives every node
a status of its own, so it breaks the link exactly at the nodes that are cooling.
-/
namespace ResidentialIPManager.Web
open Text Domain

def cooling (now : Time) (n : VpnNode) : Bool :=
  n.cooldownUntil.any fun limit => decide (now < limit)

def CooldownsShown (now : Time) (nodes : List VpnNode) : Prop :=
  ∀ n ∈ nodes, cooling now n = true → n.status = .cooldown

instance (now : Time) (nodes : List VpnNode) : Decidable (CooldownsShown now nodes) :=
  inferInstanceAs (Decidable (∀ n ∈ nodes, _))

theorem cooling_earlier {now later : Time} {n : VpnNode} (hle : now ≤ later)
    (h : cooling later n = true) : cooling now n = true := by
  unfold cooling at *
  cases hc : n.cooldownUntil with
  | none => simp [hc] at h
  | some limit =>
    simp only [hc, Option.any_some, decide_eq_true_eq] at h ⊢
    exact lt_of_le_of_lt hle h

theorem CooldownsShown.later {now later : Time} {nodes : List VpnNode}
    (h : CooldownsShown now nodes) (hle : now ≤ later) : CooldownsShown later nodes :=
  fun n hn hc => h n hn (cooling_earlier hle hc)

theorem exists_cooling_of_cooldowns {now : Time} {nodes nodes' : List VpnNode}
    (h : cooldowns nodes' = cooldowns nodes) {n : VpnNode} (hn : n ∈ nodes')
    (hc : cooling now n = true) : ∃ m ∈ nodes, cooling now m = true := by
  have hmem : (n.id, n.cooldownUntil) ∈ cooldowns nodes :=
    h ▸ mem_cooldowns.mpr ⟨n, hn, rfl, rfl⟩
  obtain ⟨m, hm, -, heq⟩ := mem_cooldowns.mp hmem
  refine ⟨m, hm, ?_⟩
  rw [cooling, heq]
  exact hc

section Operations

variable {cfg : Config} {nodes previous : List VpnNode} {now : Time}

theorem CooldownsShown.classify {answer : Except GoString (List Classify.IpApiRecord)}
    {gradedAt : Time} (h : CooldownsShown now nodes) :
    CooldownsShown now (Classify.classify answer gradedAt nodes) := by
  intro n hn hc
  obtain ⟨m, hm, rfl⟩ := List.mem_map.mp hn
  rw [cooling, (Classify.regrade_frame answer gradedAt m).2] at hc
  have hstatus := congrArg (·.status) (Classify.regrade_eq answer gradedAt m)
  exact hstatus.trans (h m hm hc)

theorem CooldownsShown.markNodeFailure {nodeID message : GoString} {cooldown : Duration}
    {failedAt : Time} (h : CooldownsShown now nodes) :
    CooldownsShown now (markNodeFailure nodes nodeID message cooldown failedAt) := by
  induction nodes with
  | nil => exact h
  | cons m rest ih =>
    unfold Web.markNodeFailure
    intro n hn hc
    split_ifs at hn
    · rcases List.mem_cons.mp hn with rfl | hr
      · rfl
      · exact h n (List.mem_cons_of_mem _ hr) hc
    · rcases List.mem_cons.mp hn with rfl | hr
      · exact h n List.mem_cons_self hc
      · exact ih (fun m hm => h m (List.mem_cons_of_mem _ hm)) n hr hc

/-- On a list without deadlines of its own, the preserved deadlines are all shown. -/
theorem cooldownsShown_preserve {preservedAt : Time}
    (h : ∀ n ∈ nodes, n.cooldownUntil = none) :
    CooldownsShown now (preserveNodeCooldowns nodes previous preservedAt) := by
  intro n hn hc
  obtain ⟨m, hm, rfl⟩ := List.mem_map.mp hn
  unfold preserveCooldown at hc ⊢
  cases hby : coolingByID previous preservedAt m.id with
  | some old => rfl
  | none => simp [hby, cooling, h m hm] at hc

theorem cooldownUntil_none_of_cooldowns {nodes' : List VpnNode}
    (h : cooldowns nodes' = cooldowns nodes) (hnone : ∀ n ∈ nodes, n.cooldownUntil = none) :
    ∀ n ∈ nodes', n.cooldownUntil = none := by
  intro n hn
  have hmem : (n.id, n.cooldownUntil) ∈ cooldowns nodes :=
    h ▸ mem_cooldowns.mpr ⟨n, hn, rfl, rfl⟩
  obtain ⟨m, hm, -, heq⟩ := mem_cooldowns.mp hmem
  rw [← heq, hnone m hm]

theorem cooldowns_prepareNodes (graded : Except GoString (List Classify.IpApiRecord))
    (gradedAt : Time) (logs : Nat → Probe.DialLog) (fetched : List VpnNode) :
    cooldowns (Operation.prepareNodes cfg graded gradedAt logs fetched) = cooldowns fetched := by
  rw [Operation.prepareNodes, Probe.cooldowns_probe]
  split_ifs
  · exact Classify.cooldowns_classify _ _ _
  · rfl

theorem fetch_cooldownUntil {maxNodes : Int} {answer : Except GoString (List (List GoString))}
    {fetched : List VpnNode} (h : Source.fetch maxNodes answer = .ok fetched) :
    ∀ n ∈ fetched, n.cooldownUntil = none := by
  intro n hn
  obtain ⟨row, index, hrow⟩ := Source.mem_fetch h hn
  exact Source.rowToNode_cooldownUntil hrow

theorem probe_status_ne (logs : Nat → Probe.DialLog) {n : VpnNode}
    (hn : n ∈ Probe.probe cfg.probe logs nodes) : n.status ≠ .cooldown := by
  have hprobed : ∀ samples log m, (Probe.probeNode samples log m).status ≠ .cooldown := by
    intro samples log m
    unfold Probe.probeNode
    dsimp only
    split
    · simp
    · split <;> simp
  obtain ⟨m, -, log, rfl | rfl⟩ := Probe.mem_probe hn
  · exact hprobed _ _ _
  · have hstatus := congrArg (·.status) (Probe.markSuspicious_eq
      (Probe.probeNode (Probe.effectiveSamples cfg.probe) log m))
    exact fun h => hprobed _ _ _ (hstatus.symm.trans h)

/-- After a probe the link holds only if nothing is cooling. -/
theorem cooldownsShown_probe_iff (logs : Nat → Probe.DialLog) :
    CooldownsShown now (Probe.probe cfg.probe logs nodes) ↔
      ∀ n ∈ nodes, cooling now n = false := by
  have hcd := Probe.cooldowns_probe cfg.probe logs nodes
  constructor
  · intro h n hn
    by_contra hc
    obtain ⟨m, hm, hcm⟩ := exists_cooling_of_cooldowns hcd.symm hn (Bool.eq_true_of_not_eq_false hc)
    exact probe_status_ne logs hm (h m hm hcm)
  · intro h n hn hc
    obtain ⟨m, hm, hcm⟩ := exists_cooling_of_cooldowns hcd hn hc
    simp [h m hm] at hcm

end Operations

def Operation.ProbesAtRest (nodes : List VpnNode) : Operation → Prop
  | .probeNodes _ now => ∀ n ∈ nodes, cooling now n = false
  | _ => True

theorem Operation.cooldownsShown_iff (cfg : Config) {nodes : List VpnNode} {op : Operation}
    (h : CooldownsShown op.time nodes) :
    CooldownsShown op.time (op.apply cfg nodes) ↔ op.ProbesAtRest nodes := by
  cases op with
  | refreshNodes maxNodes answer now =>
    refine iff_of_true ?_ trivial
    cases hf : Source.fetch maxNodes answer with
    | error err =>
      simp only [Operation.apply, hf]
      exact h
    | ok fetched =>
      simp only [Operation.apply, hf]
      exact cooldownsShown_preserve (fetch_cooldownUntil hf)
  | classifyNodes answer now => exact iff_of_true h.classify trivial
  | probeNodes logs now => exact cooldownsShown_probe_iff logs
  | prepare maxNodes answer graded gradedAt logs now =>
    refine iff_of_true ?_ trivial
    cases hf : Source.fetch maxNodes answer with
    | error err =>
      simp only [Operation.apply, hf]
      exact h
    | ok fetched =>
      simp only [Operation.apply, hf]
      exact cooldownsShown_preserve (cooldownUntil_none_of_cooldowns
        (cooldowns_prepareNodes graded gradedAt logs _) (fetch_cooldownUntil hf))
  | cooldownNode nodeID message now => exact iff_of_true h.markNodeFailure trivial

/-- The operations end in this order, none before `start`. -/
def Chronological (start : Time) : List Operation → Prop
  | [] => True
  | op :: rest => start ≤ op.time ∧ Chronological op.time rest

def ShownThroughout (cfg : Config) (nodes : List VpnNode) : List Operation → Prop
  | [] => True
  | op :: rest =>
    CooldownsShown op.time (op.apply cfg nodes) ∧ ShownThroughout cfg (op.apply cfg nodes) rest

def ProbesAtRestThroughout (cfg : Config) (nodes : List VpnNode) : List Operation → Prop
  | [] => True
  | op :: rest => op.ProbesAtRest nodes ∧ ProbesAtRestThroughout cfg (op.apply cfg nodes) rest

/-- Status and deadline agree after every operation exactly if each probe runs while no
node is cooling. -/
theorem shownThroughout_iff {cfg : Config} {start : Time} {nodes : List VpnNode}
    {ops : List Operation} (hstart : CooldownsShown start nodes) (hops : Chronological start ops) :
    ShownThroughout cfg nodes ops ↔ ProbesAtRestThroughout cfg nodes ops := by
  induction ops generalizing start nodes with
  | nil => exact Iff.rfl
  | cons op rest ih =>
    have hstep := Operation.cooldownsShown_iff cfg (hstart.later hops.1)
    constructor
    · intro h
      exact ⟨hstep.mp h.1, (ih h.1 hops.2).mp h.2⟩
    · intro h
      have hshown := hstep.mpr h.1
      exact ⟨hshown, (ih hshown hops.2).mpr h.2⟩

/-- A list is fetched, its node fails, and a probe follows while the node is cooling. -/
def probeWhileCooling : List Operation :=
  [.refreshNodes 0 (.ok oneRow) 0, .cooldownNode oneRowID (lit "timeout") 10,
    .probeNodes (fun _ => ⟨15, fun _ => .ok 20000000⟩) 20]

/-- The probe shows the cooling node as available. -/
theorem probe_hides_cooldown :
    ¬ ∀ (cfg : Config) (start : Time) (nodes : List VpnNode) (ops : List Operation),
      0 < cfg.failover.cooldownSeconds → CooldownsShown start nodes → Chronological start ops →
      ShownThroughout cfg nodes ops := by
  intro h
  have hshown := (h {} 0 [] probeWhileCooling (by decide) (by decide)
    ⟨by decide, by decide, by decide, trivial⟩).2.2.1
  revert hshown
  decide +kernel

def probeAfterCooldown : List Operation :=
  [.refreshNodes 0 (.ok oneRow) 0, .cooldownNode oneRowID (lit "timeout") 10,
    .classifyNodes (.error (lit "timeout")) 20,
    .probeNodes (fun _ => ⟨300000000010, fun _ => .ok 20000000⟩) 300000000010]

theorem shownThroughout_probe_after_cooldown :
    CooldownsShown 0 [] ∧ Chronological 0 probeAfterCooldown ∧
      ShownThroughout {} [] probeAfterCooldown := by
  have hstart : CooldownsShown 0 [] := by decide
  have hops : Chronological 0 probeAfterCooldown :=
    ⟨by decide, by decide, by decide, by decide, trivial⟩
  refine ⟨hstart, hops, (shownThroughout_iff hstart hops).mpr ?_⟩
  refine ⟨trivial, trivial, trivial, ?_, trivial⟩
  change ∀ n ∈ _, _
  decide +kernel

end ResidentialIPManager.Web
