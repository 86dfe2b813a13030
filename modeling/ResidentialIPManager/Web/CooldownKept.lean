import ResidentialIPManager.Web.Sessions

/-! # No cooldown is lost

The maintenance handlers and the startup connection copy the node list, work for
seconds without the lock and install a list derived from the copy. A cooldown set
in between is overwritten. Cooldowns are kept in the runs in which no node enters
cooldown while such a copy is held, and in which no cooldown replaces one that ends
later.
-/
namespace ResidentialIPManager.Web
open Text Domain Tunnel Transition

/-- `cooldownNode` gave node `id` the deadline `limit`, and every list installed
since has the node. -/
def InForce (h : History) (id : GoString) (limit : Time) : Prop :=
  ∃ tid newer older, h = newer ++ Event.cooldownNode tid id (some limit) :: older ∧
    ∀ installed, Event.installed installed ∈ newer → id ∈ installed

def CooldownsKept (w : World) : Prop :=
  ∀ id limit, InForce w.history id limit → ∀ t, w.shared.clock ≤ t → t < limit →
    ∀ requestedID k, id ∉ ids (connectionCandidates w.shared.nodes.nodes requestedID k t)

/-- The copy of the node list from which a goroutine will take the cooldowns. -/
def Thread.copy : Thread → Option NodeCache
  | .maintenance _ (.announce _ copied) => some copied
  | .maintenance _ (.work _ copied) => some copied
  | .autoConnectExit (.announce previousNodes) => some previousNodes
  | .autoConnectExit (.fetch previousNodes) => some previousNodes
  | .autoConnectExit (.classify previousNodes _) => some previousNodes
  | .autoConnectExit (.probe previousNodes _) => some previousNodes
  | _ => none

def Thread.cools : Thread → Option GoString
  | .loop l (.cool _) => some l.node.id
  | .monitor (.recoverCool _ failedNodeID) => if failedNodeID ≠ [] then some failedNodeID else none
  | _ => none

/-- A cooldown of node `id` set with the clock reading of `input` ends no earlier
than one that is running. -/
def Shared.extendsCooldown (cfg : Config) (s : Shared) (id : GoString) (input : Input) : Bool :=
  match input with
  | .time now =>
    decide (Shared.cooldownOf cfg ≤ 0) || (cooldowns s.nodes.nodes).all fun c =>
      decide (c.1 ≠ id) || c.2.all fun limit =>
        decide (limit ≤ s.clock) || decide (limit ≤ now + Shared.cooldownOf cfg)
  | _ => true

/-- A node enters cooldown only while no copy of the list is held, and never for a
shorter time than before. -/
def World.cooldownsOutsideWindows (cfg : Config) : World.Guard := fun w a =>
  match a with
  | .run tid input =>
    match (w.threads[tid]?).bind Thread.cools with
    | some id => !w.threads.any (·.copy.isSome) && w.shared.extendsCooldown cfg id input
    | none => true
  | _ => true

variable {cfg : Config} {s : Shared} {tid : Nat} {t : Thread} {input : Input} {o : Result}

def Cooling (clock : Time) (nodes : List VpnNode) (id : GoString) (limit : Time) : Prop :=
  limit ≤ clock ∨ ∃ later, limit ≤ later ∧ (id, some later) ∈ cooldowns nodes

theorem Cooling.clock_le {clock clock' : Time} {nodes : List VpnNode} {id : GoString}
    {limit : Time} (h : Cooling clock nodes id limit) (hc : clock ≤ clock') :
    Cooling clock' nodes id limit :=
  h.imp (fun hl => hl.trans hc) (fun hl => hl)

theorem Cooling.not_candidate {clock limit t : Time} {nodes : NodeCache} {id requestedID : GoString}
    {k : Int} (h : Cooling clock nodes.nodes id limit) (hc : clock ≤ t) (ht : t < limit) :
    id ∉ ids (connectionCandidates nodes.nodes requestedID k t) := by
  intro hmem
  obtain ⟨m, hm, hid⟩ := mem_ids.mp hmem
  obtain ⟨hin, hconn⟩ := mem_connectionCandidates hm
  rcases h with hover | ⟨later, hle, hcool⟩
  · exact absurd (lt_of_le_of_lt (hover.trans hc) ht) (lt_irrefl _)
  · obtain ⟨n, hn, hnid, hlater⟩ := mem_cooldowns.mp hcool
    have heq : m = n := nodes.eq_of_id hin hn (hid.trans hnid.symm)
    rw [not_connectable_of_cooling (heq ▸ hlater) (lt_of_lt_of_le ht hle)] at hconn
    simp at hconn

/-- A cooldown in force was set by the new events, or was in force before. -/
theorem InForce.cases {l h : History} {id : GoString} {limit : Time}
    (hf : InForce (l ++ h) id limit) :
    (∃ tid, Event.cooldownNode tid id (some limit) ∈ l) ∨
      InForce h id limit ∧ ∀ installed, Event.installed installed ∈ l → id ∈ installed := by
  obtain ⟨tid, newer, older, heq, hall⟩ := hf
  rcases List.append_eq_append_iff.mp heq with ⟨mid, rfl, hh⟩ | ⟨mid, rfl, hcons⟩
  · exact .inr ⟨⟨tid, mid, older, hh, fun i hi => hall i (List.mem_append_right _ hi)⟩,
      fun i hi => hall i (List.mem_append_left _ hi)⟩
  · cases mid with
    | nil =>
      exact .inr ⟨⟨tid, [], older, by simpa using hcons.symm, by simp⟩,
        fun i hi => hall i (by simpa using hi)⟩
    | cons e rest =>
      obtain ⟨rfl, -⟩ := List.cons.inj hcons
      exact .inl ⟨tid, by simp⟩

theorem InForce.of_not_cooled {l h : History} {id : GoString} {limit : Time}
    (hf : InForce (l ++ h) id limit) (hc : ∀ tid id d, Event.cooldownNode tid id d ∉ l) :
    InForce h id limit := by
  rcases hf.cases with ⟨tid, hmem⟩ | ⟨hold, -⟩
  · exact absurd hmem (hc _ _ _)
  · exact hold

/-- The list after `cooldownNode` has every cooldown that was in force, if none was
shortened. -/
theorem Cooling.cooldownNode {id nodeID message : GoString} {limit now : Time}
    (h : Cooling s.clock s.nodes.nodes id limit)
    (hext : s.extendsCooldown cfg nodeID (.time now) = true) :
    Cooling s.clock (s.cooldownNode cfg nodeID message now).nodes.nodes id limit := by
  rcases h with hover | ⟨later, hle, hcool⟩
  · exact .inl hover
  · rw [Shared.cooldownNode_nodes]
    by_cases hid : id = nodeID
    · subst hid
      by_cases hpos : 0 < Shared.cooldownOf cfg
      · simp only [Shared.extendsCooldown, not_le.mpr hpos, decide_false, Bool.false_or,
          List.all_eq_true] at hext
        have hone := hext _ hcool
        simp only [ne_eq, not_true_eq_false, decide_false, Bool.false_or, Option.all_some,
          Bool.or_eq_true, decide_eq_true_eq] at hone
        rcases hone with hover | hlater
        · exact .inl (hle.trans hover)
        · exact .inr ⟨_, hle.trans hlater, cooldowns_markNodeFailure_self hpos
            (mem_ids.mpr ((mem_cooldowns.mp hcool).imp fun n hn => ⟨hn.1, hn.2.1⟩))⟩
      · exact .inr ⟨later, hle, by rwa [cooldowns_markNodeFailure_zero hpos]⟩
    · exact .inr ⟨later, hle, cooldowns_markNodeFailure_other hid hcool⟩

/-- The event of `cooldownNode` names the deadline that the node has afterwards. -/
theorem cooling_of_deadline {id message : GoString} {limit now : Time}
    (h : s.deadline cfg id now = some limit) :
    Cooling s.clock (s.cooldownNode cfg id message now).nodes.nodes id limit := by
  unfold Shared.deadline at h
  split_ifs at h with hpos
  obtain rfl := Option.some.inj h
  rw [Shared.cooldownNode_nodes]
  exact .inr ⟨_, le_refl _, cooldowns_markNodeFailure_self hpos.1 hpos.2⟩

/-- `preserveNodeCooldowns` carries over what the copy had. -/
theorem Cooling.preserve {clock limit now : Time} {copied : NodeCache} {nodes : List VpnNode}
    {id : GoString} (h : Cooling clock copied.nodes id limit) (hn : now ≤ clock)
    (hid : id ∈ ids nodes) :
    Cooling clock (preserveNodeCooldowns nodes copied.nodes now) id limit := by
  rcases h with hover | ⟨later, hle, hcool⟩
  · exact .inl hover
  · rcases lt_or_ge now later with hlt | hge
    · exact .inr ⟨later, hle, cooldowns_preserveNodeCooldowns hid hcool hlt⟩
    · exact .inl (hle.trans (hge.trans hn))

theorem Cooling.maintained {kind : Maintenance} {copied nodes : NodeCache} {id : GoString}
    {limit : Time} (h : Cooling s.clock copied.nodes id limit)
    (hm : maintained cfg kind copied s input = some nodes) (hid : id ∈ ids nodes.nodes) :
    Cooling s.clock nodes.nodes id limit := by
  unfold Web.maintained at hm
  split at hm
  · split_ifs at hm with hn
    obtain rfl := Option.some.inj hm
    exact h.preserve hn (by simpa using hid)
  · obtain rfl := Option.some.inj hm
    refine h.imp (fun hl => hl) ?_
    rintro ⟨later, hle, hcool⟩
    exact ⟨later, hle, by rwa [NodeCache.withNodes_nodes, Classify.cooldowns_classify]⟩
  · obtain rfl := Option.some.inj hm
    refine h.imp (fun hl => hl) ?_
    rintro ⟨later, hle, hcool⟩
    exact ⟨later, hle, by rwa [NodeCache.withNodes_nodes, Probe.cooldowns_probe]⟩
  · simp at hm

inductive ListChange (cfg : Config) (s : Shared) (t : Thread) (input : Input) (o : Result) : Prop
  | none (hn : o.shared.nodes = s.nodes) (hk : o.shared.clock = s.clock)
      (hc : ∀ tid id d, Event.cooldownNode tid id d ∉ o.events)
      (hcopy : ∀ c, o.thread.copy = some c → t.copy = some c ∨ c = s.nodes)
  | cooled (id message : GoString) (now : Time) (hin : input = .time now)
      (ht : t.cools = some id) (ho : o.shared = s.cooldownNode cfg id message now)
      (hc : ∀ tid id' d, Event.cooldownNode tid id' d ∈ o.events →
        id' = id ∧ d = s.deadline cfg id now)
      (hcopy : o.thread.copy = .none)
  | installed (copied : NodeCache) (hcopied : t.copy = some copied)
      (hk : o.shared.clock = s.clock)
      (hi : Event.installed (ids o.shared.nodes.nodes) ∈ o.events)
      (hc : ∀ tid id d, Event.cooldownNode tid id d ∉ o.events)
      (hcopy : o.thread.copy = .none)
      (hkeep : ∀ id limit, id ∈ ids o.shared.nodes.nodes → Cooling s.clock copied.nodes id limit →
        Cooling s.clock o.shared.nodes.nodes id limit)

theorem copy_of_between (h : t.between = true) : t.copy = none := by
  rcases Thread.between_cases h with rfl | ⟨l, rfl⟩ | ⟨origin, total, err, rfl⟩ | ⟨hf, rfl⟩ |
    ⟨reason, rfl⟩ <;> rfl

theorem ListChange.of_none (hn : o.shared.nodes = s.nodes) (hk : o.shared.clock = s.clock)
    (hc : ∀ tid id d, Event.cooldownNode tid id d ∉ o.events) (hcopy : o.thread.copy = .none) :
    ListChange cfg s t input o :=
  .none hn hk hc fun c h => by simp [hcopy] at h

theorem not_cooldown_removal (cause : Removal) (tid : Nat) (id : GoString) (d : Option Time) :
    Event.cooldownNode tid id d ∉ s.removal cause := by
  intro h
  obtain ⟨S, -, heq⟩ := Shared.mem_removal h
  cases heq

theorem MaintenanceSection.listChange {kind : Maintenance} {pc : MaintenancePc}
    (h : MaintenanceSection cfg kind s tid pc input o) :
    ListChange cfg s (.maintenance kind pc) input o := by
  cases h with
  | copy => exact .none rfl rfl (by simp) fun c hc => .inr (Option.some.inj hc).symm
  | announce => exact .none rfl rfl (by simp) fun c hc => .inl hc
  | commit hm =>
    exact .installed _ rfl rfl (by simp) (by simp) rfl fun id limit hid hcool =>
      hcool.maintained hm hid
  | _ => exact .of_none rfl rfl (by simp) rfl

theorem AutoSection.listChange {pc : AutoPc} (h : AutoSection cfg s tid pc input o) :
    ListChange cfg s (.autoConnectExit pc) input o := by
  cases h with
  | start => exact .none rfl rfl (by simp) fun c hc => .inr (Option.some.inj hc).symm
  | fetchFailed => exact .of_none rfl rfl (by simp) rfl
  | commit hi hn =>
    refine .installed _ rfl rfl (by simp) (by simp) (copy_of_between (between_enterLoop rfl)) ?_
    intro id limit hid hcool
    subst hi
    exact hcool.preserve hn (by simpa [prepared] using hid)
  | _ => exact .none rfl rfl (by simp) fun c hc => .inl hc

theorem LoopSection.listChange {l : Loop} {phase : Phase}
    (h : LoopSection cfg s tid l phase input o) : ListChange cfg s (.loop l phase) input o := by
  cases h with
  | cool =>
    refine .cooled _ _ _ rfl rfl rfl ?_ (copy_of_between (between_nextAttempt _ _))
    intro tid id' d hmem
    obtain ⟨-, rfl, rfl⟩ := Event.cooldownNode.inj (List.mem_singleton.mp hmem)
    exact ⟨rfl, rfl⟩
  | unverified => exact .of_none rfl rfl (by simp) (copy_of_between (between_loopReturn _))
  | publish => exact .of_none rfl rfl (by simp) (copy_of_between (between_loopReturn _))
  | reject => exact .of_none rfl rfl (not_cooldown_removal _) rfl
  | _ => exact .of_none rfl rfl (by simp) rfl

theorem MonitorSection.listChange {pc : MonitorPc} (h : MonitorSection cfg s tid pc input o) :
    ListChange cfg s (.monitor pc) input o := by
  cases h with
  | recoverCool ht hf =>
    refine .cooled _ _ _ rfl (by simp [Thread.cools, hf]) rfl ?_ rfl
    intro tid id' d hmem
    obtain ⟨-, rfl, rfl⟩ := Event.cooldownNode.inj (List.mem_singleton.mp hmem)
    exact ⟨rfl, rfl⟩
  | recoverSelect => exact .of_none rfl rfl (by simp) (copy_of_between (between_enterLoop rfl))
  | healthMissing => exact .of_none rfl rfl (by simp) (copy_of_between (between_healthFailed _ _ _))
  | healthNotPassed => exact .of_none rfl rfl (by simp) (copy_of_between (between_healthFailed _ _ _))
  | healthReachFailed => exact .of_none rfl rfl (by simp) (copy_of_between (between_healthFailed _ _ _))
  | healthNotReached => exact .of_none rfl rfl (by simp) (copy_of_between (between_healthFailed _ _ _))
  | healthDrop => exact .of_none rfl rfl (not_cooldown_removal _) rfl
  | _ => exact .of_none rfl rfl (by simp) rfl

theorem Section.listChange (h : Section cfg s tid t input o) : ListChange cfg s t input o := by
  cases h with
  | maintenance h => exact h.listChange
  | verifyExit h => cases h <;> exact .of_none rfl rfl (by simp) rfl
  | connect h =>
    cases h with
    | select => exact .of_none rfl rfl (by simp) (copy_of_between (between_enterLoop rfl))
    | _ => exact .of_none rfl rfl (by simp) rfl
  | disconnect h =>
    cases h with
    | start => exact .of_none rfl rfl (not_cooldown_removal _) rfl
    | _ => exact .of_none rfl rfl (by simp) rfl
  | auto h => exact h.listChange
  | loop h => exact h.listChange
  | exhausted => exact .of_none rfl rfl (by simp) (copy_of_between (between_loopReturn _))
  | monitor h => exact h.listChange
  | watchCurrent => exact .of_none rfl rfl (not_cooldown_removal _) rfl
  | watchOther => exact .of_none rfl rfl (by simp) rfl
  | watchClosed => exact .of_none rfl rfl (by simp) rfl
  | closing => exact .of_none rfl rfl (by simp) rfl

/-- The invariant: the list and every copy of it have the cooldowns in force. -/
structure KeptInv (w : World) : Prop where
  listed : ∀ id limit, InForce w.history id limit →
    Cooling w.shared.clock w.shared.nodes.nodes id limit
  copies : Pool.Each (fun _ u => ∀ c, u.copy = some c → ∀ id limit, InForce w.history id limit →
    Cooling w.shared.clock c.nodes id limit) w.threads

namespace KeptInv

variable {w : World}

theorem of_copy_none {h : History} {clock : Time} (ht : t.copy = none) :
    ∀ c, t.copy = some c → ∀ id limit, InForce h id limit → Cooling clock c.nodes id limit := by
  intro c hc
  simp [ht] at hc

theorem listed_move (hw : KeptInv w)
    (hg : World.cooldownsOutsideWindows cfg w (.run tid input) = true)
    (ht : w.threads[tid]? = some t) (h : Section cfg w.shared tid t input o) {id : GoString}
    {limit : Time} (hf : InForce (o.events ++ w.history) id limit) :
    Cooling o.shared.clock o.shared.nodes.nodes id limit := by
  cases h.listChange with
  | none hn hk hc _ =>
    rw [hn, hk]
    exact hw.listed id limit (hf.of_not_cooled hc)
  | cooled nodeID message now hin hcools ho hc _ =>
    subst hin
    simp only [World.cooldownsOutsideWindows, ht, Option.bind_some, hcools, Bool.and_eq_true] at hg
    rw [ho]
    rcases hf.cases with ⟨tid', hmem⟩ | ⟨hold, -⟩
    · obtain ⟨rfl, hd⟩ := hc _ _ _ hmem
      exact cooling_of_deadline hd.symm
    · exact (hw.listed id limit hold).cooldownNode hg.2
  | installed copied hcopied hk hi hc _ hkeep =>
    rcases hf.cases with ⟨tid', hmem⟩ | ⟨hold, hall⟩
    · exact absurd hmem (hc _ _ _)
    · rw [hk]
      exact hkeep id limit (hall _ hi) (hw.copies tid t ht copied hcopied id limit hold)

theorem copies_move (hw : KeptInv w)
    (hg : World.cooldownsOutsideWindows cfg w (.run tid input) = true)
    (ht : w.threads[tid]? = some t) (h : Section cfg w.shared tid t input o) :
    Pool.Each (fun _ u => ∀ c, u.copy = some c → ∀ id limit,
      InForce (o.events ++ w.history) id limit → Cooling o.shared.clock c.nodes id limit)
      (w.move tid o).threads := by
  have hnew : ∀ (j : Nat) (u : Thread), w.threads.length ≤ j → u ∈ o.spawned → ∀ c,
      u.copy = some c → ∀ id limit, InForce (o.events ++ w.history) id limit →
      Cooling o.shared.clock c.nodes id limit := by
    intro j u _ hu
    rw [h.spawned_cases hu]
    exact of_copy_none rfl
  cases h.listChange with
  | none hn hk hc hcopy =>
    refine hw.copies.move ?_ ?_ hnew
    · intro c hcp id limit hf
      have hold := hf.of_not_cooled hc
      rw [hk]
      rcases hcopy c hcp with hsame | rfl
      · exact hw.copies tid t ht c hsame id limit hold
      · exact hw.listed id limit hold
    · intro j u _ _ hu c hcp id limit hf
      rw [hk]
      exact hu c hcp id limit (hf.of_not_cooled hc)
  | cooled nodeID message now hin hcools ho hc hcopy =>
    simp only [World.cooldownsOutsideWindows, ht, Option.bind_some, hcools, Bool.and_eq_true,
      Bool.not_eq_true', List.any_eq_false] at hg
    refine hw.copies.move (of_copy_none hcopy) ?_ hnew
    intro j u _ hu _
    exact of_copy_none (by simpa using hg.1 u (List.mem_of_getElem? hu))
  | installed copied _ hk _ hc hcopy _ =>
    refine hw.copies.move (of_copy_none hcopy) ?_ hnew
    intro j u _ _ hu c hcp id limit hf
    rw [hk]
    exact hu c hcp id limit (hf.of_not_cooled hc)

theorem receive (hw : KeptInv w) (r : Request) : KeptInv (w.receive r) := by
  have hold : ∀ id limit, InForce (r.events w.threads.length ++ w.history) id limit →
      InForce w.history id limit := by
    intro id limit hf
    refine hf.of_not_cooled fun tid id' d hmem => ?_
    cases r <;> simp [Request.events] at hmem
  refine ⟨fun id limit hf => hw.listed id limit (hold id limit hf), ?_⟩
  refine Pool.Each.push (hw.copies.imp fun j u hu c hc id limit hf =>
    hu c hc id limit (hold id limit hf)) (of_copy_none ?_)
  cases r <;> rfl

end KeptInv

/-- In every run in which nodes enter cooldown outside the windows of stale copies,
no cooldown is lost. -/
theorem cooldowns_kept {file : Option Storage.State} {w : World}
    (hr : World.Reachable cfg file (World.cooldownsOutsideWindows cfg) w) : CooldownsKept w := by
  have hinv : KeptInv w := by
    refine World.invariant hr ⟨?_, ?_⟩ ?_ ?_ ?_
    · rintro id limit ⟨tid, newer, older, heq, -⟩
      simp [World.boot] at heq
    · intro j u hu
      rcases World.mem_automation (List.mem_of_getElem? hu) with rfl | rfl <;>
        exact KeptInv.of_copy_none rfl
    · exact fun w r hw _ => hw.receive r
    · intro w tid t input o hw hg ht hsec
      exact ⟨fun id limit hf => hw.listed_move hg ht hsec hf, hw.copies_move hg ht hsec⟩
    · intro w s hw hp
      refine ⟨fun id limit hf => ?_, hw.copies.imp fun j u hu c hc id limit hf => ?_⟩
      · change Cooling s.clock s.nodes.nodes id limit
        rw [hp.nodes]
        exact (hw.listed id limit hf).clock_le hp.clock
      · exact (hu c hc id limit hf).clock_le hp.clock
  intro id limit hf t hclock ht requestedID k
  exact (hinv.listed id limit hf).not_candidate hclock ht

def failureRun (tid : Nat) : List Action :=
  [.run tid (.handshake (.error (lit "timeout"))), .run tid (.time 0)]

/-- A node enters cooldown and a refresh follows. -/
theorem cooldowns_kept_run : ∃ w : World,
    World.Reachable manual none (World.cooldownsOutsideWindows manual) w ∧
      Event.cooldownNode 1 idA (some (300 * second)) ∈ w.history ∧
      Event.installed [idA, idB] ∈ w.history ∧ CooldownsKept w := by
  obtain ⟨w, hr, hcool, hinst⟩ := World.exists_reachable manual none
    (World.cooldownsOutsideWindows manual)
    (fun w => Event.cooldownNode 1 idA (some (300 * second)) ∈ w.history ∧
      Event.installed [idA, idB] ∈ w.history)
    (refreshRun 0 twoNodes ++ connectRun 1 idA ++ failureRun 1 ++ refreshRun 2 twoNodes)
    (by decide +kernel)
  exact ⟨w, hr, hcool, hinst, cooldowns_kept hr⟩

/-- A probe holds its copy while a connect request fails, and installs the list from
before the failure. -/
theorem cooldown_lost :
    ¬ ∀ (cfg : Config) (file : Option Storage.State) (w : World),
      World.Reachable cfg file World.unrestricted w → CooldownsKept w := by
  intro hall
  obtain ⟨w, hr, hnew, hclock, hcand⟩ := World.exists_reachable manual none World.unrestricted
    (fun w => w.history.take 3 = [.wrote 1 .maintained, .installed [idA, idB],
        .cooldownNode 2 idA (some (300 * second))] ∧ w.shared.clock = 0 ∧
      idA ∈ ids (connectionCandidates w.shared.nodes.nodes [] 5 0))
    (refreshRun 0 twoNodes ++ [.request (.maintenance .probe), .run 1 .go, .run 1 .go,
      .run 1 .go] ++ connectRun 2 idA ++ failureRun 2 ++
      [.run 1 (.probed (fun _ => ⟨0, fun _ => .ok 0⟩) 0 0)]) (by decide +kernel)
  have hforce : InForce w.history idA (300 * second) := by
    refine ⟨2, [.wrote 1 .maintained, .installed [idA, idB]], w.history.drop 3, ?_, ?_⟩
    · conv_lhs => rw [← List.take_append_drop 3 w.history, hnew]
      rfl
    · intro installed hmem
      simp only [List.mem_cons, reduceCtorEq, Event.installed.injEq, List.not_mem_nil, or_false,
        false_or] at hmem
      simp [hmem]
  exact hall manual none w hr idA _ hforce 0 (le_of_eq hclock) (by decide) [] 5 hcand

end ResidentialIPManager.Web
