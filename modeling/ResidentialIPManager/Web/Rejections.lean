import ResidentialIPManager.Transition.Calls
import ResidentialIPManager.Transition.Observer
import ResidentialIPManager.Web.Sessions

/-! # Rejected nodes stay out

An observer of the server notes which nodes the last evidence rejected: a node is barred
when a classification gets a successful record that denies it, and cleared when one gets a
successful record that does not. The grade in the list says less: a fetched list and a
missing record reset it, an older copy of the list can be installed over it, the startup
connection classifies long before it installs, and a candidate loop keeps the nodes it has
selected. The condition is on what comes in: fetched lists, copies, answers of the service
and the list in memory.
-/
namespace ResidentialIPManager.Web
open Text Domain Tunnel Transition

/-- The barred nodes, and the calls of `tunnel.Connect` with whether the node was barred. -/
structure Ledger where
  barred : GoString → Bool := fun _ => false
  calls : List (GoString × Bool) := []

section Positions

/-- The classification that ends with the next section: its answer and its nodes. -/
def Thread.classifies : Thread → Input →
    Option (Except GoString (List Classify.IpApiRecord) × NodeCache)
  | .maintenance .classify (.work _ copied), .classified answer _ => some (answer, copied)
  | .autoConnectExit (.classify _ nodes), .classified answer _ => some (answer, nodes)
  | _, _ => none

def Thread.calls : Thread → Input → Option GoString
  | .loop l .connect, .go => some l.node.id
  | _, _ => none

/-- The list that the next section takes over with the grades it has: a fetched list that is not
classified, or the copy that a probe works on. -/
def Thread.adopts (cfg : Config) : Thread → Input → Option NodeCache
  | .maintenance .refresh (.work _ _), .fetched (.ok fetched) _ => some fetched
  | .maintenance .probe (.work _ copied), _ => some copied
  | .autoConnectExit (.fetch _), .fetched (.ok fetched) _ =>
    if cfg.classifier.enabled then none else some fetched
  | _, _ => none

def Thread.selecting : Thread → Input → Bool
  | .connect (.select _), .time _ => true
  | .monitor .recoverSelect, .time _ => true
  | _, _ => false

def Thread.pending : Thread → List VpnNode
  | .loop l .announce => l.node :: l.rest
  | .loop l .connect => l.node :: l.rest
  | .loop l _ => l.rest
  | _ => []

/-- The list that the startup connection has graded and not installed. -/
def Thread.prepares : Thread → Option NodeCache
  | .autoConnectExit (.probe _ nodes) => some nodes
  | _ => none

end Positions

/-- What the next section learns about a node: whether a successful record denies it. -/
def Thread.learns (t : Thread) (input : Input) (id : GoString) : Option Bool :=
  (t.classifies input).bind fun c =>
    (c.2.nodes.find? (fun n => n.id = id)).bind (Classify.evidenceOn c.1)

def Ledger.after (k : Ledger) (t : Thread) (input : Input) : Ledger where
  barred id := (t.learns input id).getD (k.barred id)
  calls := (t.calls input).toList.map (fun id => (id, k.barred id)) ++ k.calls

def Ledger.note (w : World) (a : Action) (k : Ledger) : Ledger :=
  match a with
  | .run tid input =>
    match w.threads[tid]? with
    | some t => k.after t input
    | none => k
  | _ => k

abbrev Watched := World × Ledger

def Watched.step (cfg : Config) : Watched → Action → Option Watched :=
  observe (World.step cfg) Ledger.note

def Watched.boot (cfg : Config) (file : Option Storage.State) : Watched := (World.boot cfg file, {})

/-- The observer sees every run of the server. -/
theorem Watched.reaches_iff (cfg : Config) (file : Option Storage.State) (w : World) :
    (∃ k, Reaches (Watched.step cfg) anyStep (Watched.boot cfg file) (w, k)) ↔
      Reaches (World.step cfg) anyStep (World.boot cfg file) w :=
  reaches_observe_iff _

/-- A classification leaves the node Rejected for which it has no record: the service failed, and
the node was Rejected before. -/
def keepsGrade (answer : Except GoString (List Classify.IpApiRecord)) (n : VpnNode) : Bool :=
  match answer with
  | .error _ => decide (n.purityGrade = .rejected)
  | .ok _ => false

def Ledger.graded (k : Ledger) (nodes : List VpnNode) : Bool :=
  nodes.all fun n => !k.barred n.id || decide (n.purityGrade = .rejected)

/-- A list that is taken over has its barred nodes Rejected; a classification has a successful
record for every barred node of its list, or keeps the grade; no loop is still to try a node that
the section learns to be rejected, and no startup connection has prepared it with another grade;
and while a startup connection prepares its list, candidates are selected only from a list that
has its barred nodes Rejected. -/
def Thread.keepsRejections (cfg : Config) (w : World) (k : Ledger) (t : Thread) (input : Input) :
    Bool :=
  ((t.adopts cfg input).all fun nodes => k.graded nodes.nodes) &&
  ((t.classifies input).all fun c => c.2.nodes.all fun n =>
    !k.barred n.id || (Classify.evidenceOn c.1 n).isSome || keepsGrade c.1 n) &&
  (w.threads.all fun u => u.pending.all fun n => decide (t.learns input n.id ≠ some true)) &&
  (w.threads.all fun u => u.prepares.all fun nodes => nodes.nodes.all fun n =>
    decide (t.learns input n.id ≠ some true) || decide (n.purityGrade = .rejected)) &&
  (!w.threads.any (fun u => u.prepares.isSome) || !t.selecting input ||
    k.graded w.shared.nodes.nodes)

def Watched.keepsRejections (cfg : Config) (p : Watched) : Action → Bool
  | .run tid input =>
    match p.1.threads[tid]? with
    | some t => t.keepsRejections cfg p.1 p.2 input
    | none => true
  | _ => true

variable {cfg : Config} {s : Shared} {tid : Nat} {t : Thread} {input : Input} {o : Result}

theorem pending_enterLoop {origin : Origin} {candidates : List VpnNode} {empty : Thread}
    (he : empty.pending = []) : (enterLoop origin candidates empty).pending = candidates := by
  cases candidates with
  | nil => exact he
  | cons node rest => rfl

theorem pending_nextAttempt (l : Loop) (err : GoString) : (nextAttempt l err).pending = l.rest := by
  unfold nextAttempt
  split
  · next h => rw [h]; rfl
  · next node rest h => rw [h]; rfl

@[simp] theorem pending_loopReturn (origin : Origin) : (loopReturn origin).pending = [] := by
  cases origin <;> rfl

@[simp] theorem pending_healthFailed (hf : Nat) (reason : GoString) :
    (healthFailed cfg hf reason).pending = [] := by
  unfold healthFailed
  split_ifs <;> rfl

theorem prepares_loopReturn (origin : Origin) : (loopReturn origin).prepares = none := by
  cases origin <;> rfl

theorem prepares_nextAttempt (l : Loop) (err : GoString) : (nextAttempt l err).prepares = none := by
  unfold nextAttempt
  split <;> rfl

/-- Where the nodes come from that a goroutine is still to try. -/
theorem Section.pending_cases (h : Section cfg s tid t input o) {n : VpnNode}
    (hn : n ∈ o.thread.pending) :
    n ∈ t.pending ∨
      (t.selecting input = true ∨ t.prepares.isSome = true) ∧ n ∈ o.shared.nodes.nodes ∧
        ∃ now, connectable n now = true := by
  cases h with
  | maintenance h => cases h <;> cases hn
  | verifyExit h => cases h <;> cases hn
  | connect h =>
    cases h with
    | select ht =>
      rw [goTo_thread, pending_enterLoop rfl] at hn
      obtain ⟨hmem, hconn⟩ := mem_connectionCandidates hn
      exact .inr ⟨.inl rfl, hmem, _, hconn⟩
    | _ => cases hn
  | disconnect h => cases h <;> cases hn
  | auto h =>
    cases h with
    | commit hi hnow hl =>
      rw [goTo_thread, pending_enterLoop rfl] at hn
      obtain ⟨hmem, hconn⟩ := mem_connectionCandidates hn
      exact .inr ⟨.inr rfl, hmem, _, hconn⟩
    | _ => cases hn
  | loop h =>
    left
    cases h with
    | announce => exact hn
    | refused => exact List.mem_cons_of_mem _ hn
    | accepted => exact List.mem_cons_of_mem _ hn
    | unverified => simp at hn
    | publish => simp at hn
    | cool =>
      rw [goTo_thread, pending_nextAttempt] at hn
      exact hn
    | _ => exact hn
  | exhausted => simp at hn
  | monitor h =>
    cases h with
    | recoverSelect ht =>
      rw [goTo_thread, pending_enterLoop rfl] at hn
      obtain ⟨hmem, hconn⟩ := mem_connectionCandidates hn
      exact .inr ⟨.inl rfl, hmem, _, hconn⟩
    | healthMissing => simp at hn
    | healthNotPassed => simp at hn
    | healthReachFailed => simp at hn
    | healthNotReached => simp at hn
    | _ => cases hn
  | watchCurrent => cases hn
  | watchOther => cases hn
  | watchClosed => cases hn
  | closing => cases hn

/-- Every node of the first list has its ID and its grade from a node of the second. -/
def GradesFrom (new old : List VpnNode) : Prop :=
  ∀ n ∈ new, ∃ m ∈ old, m.id = n.id ∧ m.purityGrade = n.purityGrade

namespace GradesFrom

theorem refl (nodes : List VpnNode) : GradesFrom nodes nodes := fun n hn => ⟨n, hn, rfl, rfl⟩

theorem trans {a b c : List VpnNode} (hab : GradesFrom a b) (hbc : GradesFrom b c) :
    GradesFrom a c := by
  intro n hn
  obtain ⟨m, hm, hid, hgrade⟩ := hab n hn
  obtain ⟨l, hl, hid', hgrade'⟩ := hbc m hm
  exact ⟨l, hl, hid'.trans hid, hgrade'.trans hgrade⟩

theorem markNodeFailure (nodes : List VpnNode) (id message : GoString) (cooldown : Duration)
    (now : Time) : GradesFrom (Web.markNodeFailure nodes id message cooldown now) nodes := by
  intro n hn
  obtain ⟨m, hm, rfl | rfl⟩ := mem_markNodeFailure hn
  · exact ⟨n, hm, rfl, rfl⟩
  · exact ⟨m, hm, rfl, rfl⟩

theorem preserveNodeCooldowns (nodes previous : List VpnNode) (now : Time) :
    GradesFrom (Web.preserveNodeCooldowns nodes previous now) nodes := by
  intro n hn
  obtain ⟨m, hm, rfl⟩ := List.mem_map.mp hn
  refine ⟨m, hm, (preserveCooldown_id _ _ _).symm, ?_⟩
  unfold preserveCooldown
  split <;> rfl

theorem probe (cfg : ProbeConfig) (logs : Nat → Probe.DialLog) (nodes : List VpnNode) :
    GradesFrom (Probe.probe cfg logs nodes) nodes := by
  intro n hn
  obtain ⟨m, hm, log, hprobed⟩ := Probe.mem_probe hn
  have hnode := Probe.probeNode_eq (Probe.effectiveSamples cfg) log m
  refine ⟨m, hm, ?_⟩
  rcases hprobed with rfl | rfl
  · exact ⟨(congrArg (·.id) hnode).symm, (congrArg (·.purityGrade) hnode).symm⟩
  · have hmark := Probe.markSuspicious_eq (Probe.probeNode (Probe.effectiveSamples cfg) log m)
    exact ⟨((congrArg (·.id) hmark).trans (congrArg (·.id) hnode)).symm,
      ((congrArg (·.purityGrade) hmark).trans (congrArg (·.purityGrade) hnode)).symm⟩

theorem graded {k : Ledger} {new old : List VpnNode} (h : GradesFrom new old)
    (hold : k.graded old = true) {n : VpnNode} (hn : n ∈ new) (hb : k.barred n.id = true) :
    n.purityGrade = .rejected := by
  obtain ⟨m, hm, hid, hgrade⟩ := h n hn
  have hnode := List.all_eq_true.mp hold m hm
  simp only [hid, hb, Bool.not_true, Bool.false_or, decide_eq_true_eq] at hnode
  exact hgrade ▸ hnode

end GradesFrom

inductive Section.ListOrigin (cfg : Config) (s : Shared) (t : Thread) (input : Input)
    (o : Result) : Prop
  | adopted (nodes : NodeCache) (h : t.adopts cfg input = some nodes)
      (hfrom : GradesFrom o.shared.nodes.nodes nodes.nodes)
  | classified (answer : Except GoString (List Classify.IpApiRecord)) (nodes : NodeCache)
      (now : Time) (h : t.classifies input = some (answer, nodes))
      (heq : o.shared.nodes.nodes = Classify.classify answer now nodes.nodes)
  | prepared (nodes : NodeCache) (h : t.prepares = some nodes)
      (hfrom : GradesFrom o.shared.nodes.nodes nodes.nodes)
  | kept (h : t.prepares = none) (hfrom : GradesFrom o.shared.nodes.nodes s.nodes.nodes)
      (hc : (t.classifies input).isSome = true → o.thread.prepares.isSome = true)

theorem Section.ListOrigin.of_same (h : t.prepares = none) (hs : o.shared.nodes = s.nodes)
    (hc : (t.classifies input).isSome = true → o.thread.prepares.isSome = true) :
    Section.ListOrigin cfg s t input o :=
  .kept h (hs ▸ GradesFrom.refl _) hc

theorem maintained_origin {kind : Maintenance} {previous : ConnectionSnapshot}
    {copied nodes : NodeCache} (h : maintained cfg kind copied s input = some nodes) :
    (∃ adopted, (Thread.maintenance kind (.work previous copied)).adopts cfg input = some adopted ∧
      GradesFrom nodes.nodes adopted.nodes) ∨
    ∃ answer now,
      (Thread.maintenance kind (.work previous copied)).classifies input = some (answer, copied) ∧
      nodes.nodes = Classify.classify answer now copied.nodes := by
  unfold maintained at h
  split at h
  · next fetched now =>
    split_ifs at h
    obtain rfl := Option.some.inj h
    exact .inl ⟨fetched, rfl, .preserveNodeCooldowns _ _ _⟩
  · next answer now =>
    obtain rfl := Option.some.inj h
    exact .inr ⟨answer, now, rfl, rfl⟩
  · obtain rfl := Option.some.inj h
    exact .inl ⟨copied, rfl, .probe _ _ _⟩
  · cases h

theorem MaintenanceSection.listOrigin {kind : Maintenance} {pc : MaintenancePc}
    (h : MaintenanceSection cfg kind s tid pc input o) :
    Section.ListOrigin cfg s (.maintenance kind pc) input o := by
  cases h with
  | commit hm =>
    rcases maintained_origin hm with ⟨adopted, hadopts, hfrom⟩ | ⟨answer, now, hc, heq⟩
    · exact .adopted adopted hadopts hfrom
    · exact .classified answer _ now hc heq
  | @fetchFailed previous copied _ err he =>
    refine .of_same rfl rfl fun hc => ?_
    unfold fetchError at he
    split at he
    · cases hc
    · cases he
  | _ => exact .of_same rfl rfl fun hc => by cases kind <;> cases hc

theorem Section.listOrigin (h : Section cfg s tid t input o) :
    Section.ListOrigin cfg s t input o := by
  cases h with
  | maintenance h => exact h.listOrigin
  | verifyExit h => cases h <;> exact .of_same rfl rfl fun hc => by cases hc
  | connect h => cases h <;> exact .of_same rfl rfl fun hc => by cases hc
  | disconnect h => cases h <;> exact .of_same rfl rfl fun hc => by cases hc
  | auto h =>
    cases h with
    | commit hi =>
      subst hi
      exact .prepared _ rfl ((GradesFrom.preserveNodeCooldowns _ _ _).trans (.probe _ _ _))
    | classified => exact .of_same rfl rfl fun _ => rfl
    | _ => exact .of_same rfl rfl fun hc => by cases hc
  | loop h =>
    cases h with
    | cool => exact .kept rfl (.markNodeFailure _ _ _ _ _) fun hc => by cases hc
    | _ => exact .of_same rfl rfl fun hc => by cases hc
  | exhausted => exact .of_same rfl rfl fun hc => by cases hc
  | monitor h =>
    cases h with
    | recoverCool => exact .kept rfl (.markNodeFailure _ _ _ _ _) fun hc => by cases hc
    | _ => exact .of_same rfl rfl fun hc => by cases hc
  | watchCurrent => exact .of_same rfl rfl fun hc => by cases hc
  | watchOther => exact .of_same rfl rfl fun hc => by cases hc
  | watchClosed => exact .of_same rfl rfl fun hc => by cases hc
  | closing => exact .of_same rfl rfl fun hc => by cases hc

/-- Where the startup connection has the list from that it prepares. -/
theorem Section.prepares_cases (h : Section cfg s tid t input o) {nodes : NodeCache}
    (hp : o.thread.prepares = some nodes) :
    t.adopts cfg input = some nodes ∨
      ∃ answer old now, t.classifies input = some (answer, old) ∧
        nodes.nodes = Classify.classify answer now old.nodes := by
  have hf : t.family = .auto := by
    rcases h.family with hf | hd
    · rw [← hf]
      unfold Thread.prepares at hp
      split at hp
      · next heq =>
        rw [heq]
        rfl
      · cases hp
    · simp [hd, Thread.prepares] at hp
  cases h with
  | auto h =>
    cases h with
    | fetchedProbe hc =>
      obtain rfl := Option.some.inj hp
      exact .inl (if_neg (by simp [hc]))
    | @classified previousNodes old answer now =>
      obtain rfl := Option.some.inj hp
      exact .inr ⟨answer, old, now, rfl, rfl⟩
    | commit =>
      rw [goTo_thread] at hp
      unfold enterLoop at hp
      split at hp <;> cases hp
    | _ => cases hp
  | @loop l phase _ _ h =>
    have hnone : o.thread.prepares = none := by
      cases h with
      | unverified => exact prepares_loopReturn _
      | publish => exact prepares_loopReturn _
      | cool => exact prepares_nextAttempt _ _
      | _ => rfl
    cases hnone.symm.trans hp
  | @exhausted origin => cases (prepares_loopReturn origin).symm.trans hp
  | _ => cases hf

theorem Thread.learns_of_none (h : t.classifies input = none) (id : GoString) :
    t.learns input id = none := by
  simp [Thread.learns, h]

theorem Thread.classifies_of_adopts {nodes : NodeCache} (h : t.adopts cfg input = some nodes) :
    t.classifies input = none := by
  unfold Thread.adopts at h
  split at h
  · rfl
  · cases input <;> rfl
  · rfl
  · cases h

theorem Thread.classifies_of_prepares (h : t.prepares.isSome = true) (input : Input) :
    t.classifies input = none := by
  unfold Thread.prepares at h
  split at h
  · rfl
  · cases h

theorem Thread.classifies_of_selecting (h : t.selecting input = true) :
    t.classifies input = none := by
  unfold Thread.selecting at h
  split at h
  · rfl
  · rfl
  · cases h

theorem grade_of_connectable {n : VpnNode} {now : Time} (h : connectable n now = true) :
    n.purityGrade ≠ .rejected := by
  intro hgrade
  simp [connectable, hgrade] at h

theorem Thread.learns_of_mem {answer : Except GoString (List Classify.IpApiRecord)}
    {nodes : NodeCache} (hc : t.classifies input = some (answer, nodes)) {m : VpnNode}
    (hm : m ∈ nodes.nodes) : t.learns input m.id = Classify.evidenceOn answer m := by
  have hsome : (nodes.nodes.find? fun n => n.id = m.id).isSome = true :=
    List.find?_isSome.mpr ⟨m, hm, by simp⟩
  obtain ⟨found, hfound⟩ := Option.isSome_iff_exists.mp hsome
  have hid : found.id = m.id := by simpa using List.find?_some hfound
  -- the IDs of the list are distinct
  obtain rfl := nodes.eq_of_id (List.mem_of_find?_eq_some hfound) hm hid
  rw [Thread.learns, hc, Option.bind_some, hfound, Option.bind_some]

/-- A classification under the condition leaves the barred nodes of its list Rejected. -/
theorem rejected_of_classifies {k : Ledger} {answer : Except GoString (List Classify.IpApiRecord)}
    {nodes : NodeCache} (hc : t.classifies input = some (answer, nodes))
    (hg : ∀ m ∈ nodes.nodes, k.barred m.id = true →
      (Classify.evidenceOn answer m).isSome = true ∨ keepsGrade answer m = true)
    {now : Time} {n : VpnNode} (hn : n ∈ Classify.classify answer now nodes.nodes)
    (hb : (k.after t input).barred n.id = true) : n.purityGrade = .rejected := by
  obtain ⟨m, hm, rfl⟩ := List.mem_map.mp hn
  change (t.learns input (Classify.regrade answer now m).id).getD
    (k.barred (Classify.regrade answer now m).id) = true at hb
  rw [(Classify.regrade_frame answer now m).1, Thread.learns_of_mem hc hm] at hb
  cases hevidence : Classify.evidenceOn answer m with
  | some d =>
    rw [hevidence] at hb
    obtain rfl : d = true := hb
    exact Classify.regrade_of_denied hevidence now
  | none =>
    rw [hevidence] at hb
    rcases hg m hm hb with hsome | hkeeps
    · rw [hevidence] at hsome
      cases hsome
    · cases answer with
      | error err =>
        have hgrade : m.purityGrade = .rejected := of_decide_eq_true hkeeps
        simp [Classify.regrade, Classify.gradeUnavailable, hgrade]
      | ok records => cases hkeeps

/-- No loop is to try a barred node, the barred nodes of a prepared list are Rejected, and so are
those of the list in memory unless a startup connection prepares its list; and `tunnel.Connect`
was called for no barred node. -/
structure RejectionsKept (p : Watched) : Prop where
  pending : Pool.Each (fun _ t => ∀ n ∈ t.pending, p.2.barred n.id = false) p.1.threads
  prepared : Pool.Each (fun _ t => ∀ nodes, t.prepares = some nodes → ∀ n ∈ nodes.nodes,
    p.2.barred n.id = true → n.purityGrade = .rejected) p.1.threads
  listed : ∀ n ∈ p.1.shared.nodes.nodes, p.2.barred n.id = true →
    n.purityGrade = .rejected ∨ Pool.Some (fun t => t.prepares.isSome = true) p.1.threads
  calls : ∀ id, (id, true) ∉ p.2.calls

structure Kept (cfg : Config) (w : World) (k : Ledger) (t : Thread) (input : Input) : Prop where
  adopts : ∀ nodes, t.adopts cfg input = some nodes → k.graded nodes.nodes = true
  classifies : ∀ answer nodes, t.classifies input = some (answer, nodes) → ∀ m ∈ nodes.nodes,
    k.barred m.id = true → (Classify.evidenceOn answer m).isSome = true ∨ keepsGrade answer m = true
  pending : ∀ u ∈ w.threads, ∀ n ∈ u.pending, t.learns input n.id ≠ some true
  prepared : ∀ u ∈ w.threads, ∀ nodes, u.prepares = some nodes → ∀ n ∈ nodes.nodes,
    t.learns input n.id ≠ some true ∨ n.purityGrade = .rejected
  selecting : Pool.Some (fun u => u.prepares.isSome = true) w.threads →
    t.selecting input = true → k.graded w.shared.nodes.nodes = true

theorem kept_of_keepsRejections {w : World} {k : Ledger}
    (h : t.keepsRejections cfg w k input = true) : Kept cfg w k t input := by
  unfold Thread.keepsRejections at h
  simp only [Bool.and_eq_true] at h
  obtain ⟨⟨⟨⟨hadopts, hclassifies⟩, hpending⟩, hprepared⟩, hselecting⟩ := h
  refine ⟨fun nodes hn => ?_, fun answer nodes hc m hm hb => ?_, fun u hu n hn => ?_,
    fun u hu nodes hn n hmem => ?_, fun hsome hsel => ?_⟩
  · simpa [hn] using hadopts
  · rw [hc, Option.all_some, List.all_eq_true] at hclassifies
    simpa [hb] using hclassifies m hm
  · have hall := List.all_eq_true.mp (List.all_eq_true.mp hpending u hu) n hn
    exact of_decide_eq_true hall
  · have hall := List.all_eq_true.mp hprepared u hu
    rw [hn, Option.all_some, List.all_eq_true] at hall
    simpa using hall n hmem
  · simpa [hsome.any, hsel] using hselecting

namespace RejectionsKept

variable {w : World} {k : Ledger}

theorem barred_of_not_learned {id : GoString} (hold : k.barred id = false)
    (hnot : t.learns input id ≠ some true) : (k.after t input).barred id = false := by
  change (t.learns input id).getD (k.barred id) = false
  cases hl : t.learns input id with
  | none => exact hold
  | some d =>
    cases d with
    | false => rfl
    | true => exact absurd hl hnot

theorem barred_of_none (h : t.classifies input = none) (id : GoString) :
    (k.after t input).barred id = k.barred id := by
  change (t.learns input id).getD (k.barred id) = k.barred id
  rw [Thread.learns_of_none h]
  rfl

/-- A node is barred after a section because it was, or because the section learns it. -/
theorem barred_cases {id : GoString} (h : (k.after t input).barred id = true) :
    t.learns input id = some true ∨ k.barred id = true := by
  change (t.learns input id).getD (k.barred id) = true at h
  cases hl : t.learns input id with
  | none =>
    rw [hl] at h
    exact .inr h
  | some d =>
    rw [hl] at h
    exact .inl (congrArg some h)

theorem listed_move (hp : RejectionsKept (w, k)) (hg : Kept cfg w k t input)
    (ht : w.threads[tid]? = some t) (h : Section cfg w.shared tid t input o) :
    ∀ n ∈ o.shared.nodes.nodes, (k.after t input).barred n.id = true →
      n.purityGrade = .rejected ∨
        Pool.Some (fun t => t.prepares.isSome = true) (w.move tid o).threads := by
  intro n hn hb
  cases h.listOrigin with
  | adopted nodes hadopts hfrom =>
    rw [barred_of_none (Thread.classifies_of_adopts hadopts)] at hb
    exact .inl (hfrom.graded (hg.adopts nodes hadopts) hn hb)
  | classified answer nodes now hc heq =>
    rw [heq] at hn
    exact .inl (rejected_of_classifies hc (hg.classifies answer nodes hc) hn hb)
  | prepared nodes hprepares hfrom =>
    rw [barred_of_none (Thread.classifies_of_prepares (by rw [hprepares]; rfl) input)] at hb
    obtain ⟨m, hm, hid, hgrade⟩ := hfrom n hn
    exact .inl (hgrade ▸ hp.prepared tid t ht nodes hprepares m hm (hid ▸ hb))
  | kept hnot hfrom hc =>
    rcases barred_cases hb with hl | hold
    · obtain ⟨c, hclassifies, -⟩ := Option.bind_eq_some_iff.mp hl
      exact .inr (.of_thread ht (hc (by rw [hclassifies]; rfl)))
    · obtain ⟨m, hm, hid, hgrade⟩ := hfrom n hn
      rcases hp.listed m hm (hid ▸ hold) with hrej | hsome
      · exact .inl (hgrade ▸ hrej)
      · exact .inr (hsome.move_of_ne ht (by simp [hnot]))

/-- A section bars no node that a loop is still to try. -/
theorem pending_kept (hp : RejectionsKept (w, k)) (hg : Kept cfg w k t input)
    {j : Nat} {u : Thread} (hu : w.threads[j]? = some u) {n : VpnNode} (hn : n ∈ u.pending) :
    (k.after t input).barred n.id = false :=
  barred_of_not_learned (hp.pending j u hu n hn) (hg.pending u (List.mem_of_getElem? hu) n hn)

theorem pending_self (hp : RejectionsKept (w, k)) (hg : Kept cfg w k t input)
    (ht : w.threads[tid]? = some t) (h : Section cfg w.shared tid t input o) {n : VpnNode}
    (hn : n ∈ o.thread.pending) : (k.after t input).barred n.id = false := by
  rcases h.pending_cases hn with hold | ⟨hsource, hmem, now, hconn⟩
  · exact hp.pending_kept hg ht hold
  · by_contra hne
    have hb : (k.after t input).barred n.id = true := Bool.eq_true_of_not_eq_false hne
    apply grade_of_connectable hconn
    cases h.listOrigin with
    | adopted nodes hadopts hfrom =>
      rw [barred_of_none (Thread.classifies_of_adopts hadopts)] at hb
      exact hfrom.graded (hg.adopts nodes hadopts) hmem hb
    | classified answer nodes _ hc heq =>
      rw [heq] at hmem
      exact rejected_of_classifies hc (hg.classifies answer nodes hc) hmem hb
    | prepared nodes hprepares hfrom =>
      rw [barred_of_none (Thread.classifies_of_prepares (by rw [hprepares]; rfl) input)] at hb
      obtain ⟨m, hm, hid, hgrade⟩ := hfrom n hmem
      exact hgrade ▸ hp.prepared tid t ht nodes hprepares m hm (hid ▸ hb)
    | kept hnot hfrom _ =>
      have hsel : t.selecting input = true := by simpa [hnot] using hsource
      rw [barred_of_none (Thread.classifies_of_selecting hsel)] at hb
      obtain ⟨m, hm, hid, hgrade⟩ := hfrom n hmem
      rcases hp.listed m hm (hid ▸ hb) with hrej | hsome
      · exact hgrade ▸ hrej
      · exact hfrom.graded (hg.selecting hsome hsel) hmem hb

theorem prepared_kept (hp : RejectionsKept (w, k)) (hg : Kept cfg w k t input) {j : Nat}
    {u : Thread} (hu : w.threads[j]? = some u) {nodes : NodeCache} (hn : u.prepares = some nodes)
    {n : VpnNode} (hmem : n ∈ nodes.nodes) (hb : (k.after t input).barred n.id = true) :
    n.purityGrade = .rejected := by
  rcases barred_cases hb with hl | hold
  · exact (hg.prepared u (List.mem_of_getElem? hu) nodes hn n hmem).resolve_left (absurd hl)
  · exact hp.prepared j u hu nodes hn n hmem hold

theorem prepared_self (hg : Kept cfg w k t input) (h : Section cfg w.shared tid t input o)
    {nodes : NodeCache} (hn : o.thread.prepares = some nodes) {n : VpnNode}
    (hmem : n ∈ nodes.nodes) (hb : (k.after t input).barred n.id = true) :
    n.purityGrade = .rejected := by
  rcases h.prepares_cases hn with hadopts | ⟨answer, old, now, hc, heq⟩
  · rw [barred_of_none (Thread.classifies_of_adopts hadopts)] at hb
    exact (GradesFrom.refl _).graded (hg.adopts nodes hadopts) hmem hb
  · rw [heq] at hmem
    exact rejected_of_classifies hc (hg.classifies answer old hc) hmem hb

theorem calls_move (hp : RejectionsKept (w, k)) (ht : w.threads[tid]? = some t) (id : GoString) :
    (id, true) ∉ (k.after t input).calls := by
  intro hmem
  rcases List.mem_append.mp hmem with hnew | hold
  · obtain ⟨called, hcalled, heq⟩ := List.mem_map.mp hnew
    obtain ⟨rfl, hbarred⟩ := Prod.mk.inj heq
    have hcall := Option.mem_toList.mp hcalled
    unfold Thread.calls at hcall
    split at hcall
    · next l =>
      obtain rfl := Option.some.inj hcall
      have hfree := hp.pending tid _ ht l.node List.mem_cons_self
      exact absurd (hfree.symm.trans hbarred) (by decide)
    · cases hcall
  · exact hp.calls id hold

theorem move (hp : RejectionsKept (w, k)) (hg : Kept cfg w k t input)
    (ht : w.threads[tid]? = some t) (h : Section cfg w.shared tid t input o) :
    RejectionsKept (w.move tid o, k.after t input) where
  pending := by
    refine hp.pending.move ?_ ?_ ?_
    · exact fun n hn => hp.pending_self hg ht h hn
    · exact fun j u _ hu _ n hn => hp.pending_kept hg hu hn
    · intro j u _ hu n hn
      rw [h.spawned_cases hu] at hn
      cases hn
  prepared := by
    refine hp.prepared.move ?_ ?_ ?_
    · exact fun nodes hn n hmem hb => prepared_self hg h hn hmem hb
    · exact fun j u _ hu _ nodes hn n hmem hb => hp.prepared_kept hg hu hn hmem hb
    · intro j u _ hu nodes hn
      rw [h.spawned_cases hu] at hn
      cases hn
  listed := hp.listed_move hg ht h
  calls := fun id => hp.calls_move ht id

theorem receive (hp : RejectionsKept (w, k)) (r : Request) : RejectionsKept (w.receive r, k) where
  pending := hp.pending.push fun n hn => by cases r <;> cases hn
  prepared := hp.prepared.push fun nodes hn => by cases r <;> cases hn
  listed n hn hb := (hp.listed n hn hb).imp_right fun hsome => hsome.push
  calls := hp.calls

theorem withShared (hp : RejectionsKept (w, k)) (hnodes : s.nodes = w.shared.nodes) :
    RejectionsKept (w.withShared s, k) where
  pending := hp.pending
  prepared := hp.prepared
  listed n hn hb := hp.listed n (hnodes ▸ hn) hb
  calls := hp.calls

theorem boot (cfg : Config) (file : Option Storage.State) :
    RejectionsKept (Watched.boot cfg file) where
  pending := fun _ _ _ _ _ => rfl
  prepared := fun _ _ _ _ _ _ _ hb => by cases hb
  listed := fun _ _ hb => by cases hb
  calls := fun _ hmem => by cases hmem

theorem step {p q : Watched} {a : Action} (hp : RejectionsKept p)
    (hg : p.keepsRejections cfg a = true) (hs : Watched.step cfg p a = some q) :
    RejectionsKept q := by
  obtain ⟨w, k⟩ := p
  obtain ⟨v, k'⟩ := q
  obtain ⟨hstep, hnote⟩ := observe_eq_some.mp hs
  change World.step cfg w a = some v at hstep
  change k' = Ledger.note w a k at hnote
  subst hnote
  cases a with
  | request r =>
    obtain rfl := Option.some.inj hstep
    exact hp.receive r
  | run tid input =>
    obtain ⟨t, o, ht, hsec, rfl⟩ := World.step_run hstep
    have hkeeps : t.keepsRejections cfg w k input = true := by
      simpa only [Watched.keepsRejections, ht] using hg
    simp only [Ledger.note, ht]
    exact hp.move (kept_of_keepsRejections hkeeps) ht hsec
  | advance elapsed =>
    obtain rfl := Option.some.inj hstep
    exact hp.withShared rfl
  | cancel tid =>
    obtain rfl := Option.some.inj hstep
    exact hp.withShared rfl
  | stop =>
    obtain rfl := Option.some.inj hstep
    exact hp.withShared rfl

end RejectionsKept

/-- In every run whose steps keep the rejections, `tunnel.Connect` is never called for a
barred node. -/
theorem rejected_nodes_stay_out {file : Option Storage.State} {p : Watched}
    (h : Reaches (Watched.step cfg) (fun p a => p.keepsRejections cfg a = true)
      (Watched.boot cfg file) p) (id : GoString) : (id, true) ∉ p.2.calls := by
  have hinv : RejectionsKept p :=
    h.invariant (.boot cfg file) fun _ _ _ hp hg hs => hp.step hg hs
  exact hinv.calls id

def classifyRun (tid : Nat) (records : List Classify.IpApiRecord) : List Action :=
  [.request (.maintenance .classify), .run tid .go, .run tid .go, .run tid .go,
    .run tid (.classified (.ok records) 0)]

def proxyRecord : Classify.IpApiRecord := { query := lit "1.1.1.1", proxy := true }

/-- After a rejection, a connect request tries the other node. -/
theorem rejected_nodes_stay_out_run :
    ∃ p, Reaches (Watched.step manual) (fun p a => p.keepsRejections manual a = true)
      (Watched.boot manual none) p ∧
      (p.2.barred idA = true ∧ p.2.calls = [(idB, false)]) ∧ ∀ id, (id, true) ∉ p.2.calls := by
  have hrun : ∃ p, Reaches (Watched.step manual) (fun p a => p.keepsRejections manual a = true)
      (Watched.boot manual none) p ∧
      (p.2.barred idA = true ∧ p.2.calls = [(idB, false)]) :=
    exists_reaches _ _ (refreshRun 0 twoNodes ++ classifyRun 1 [proxyRecord] ++ connectRun 2 [])
      (by decide +kernel)
  obtain ⟨p, hp, hfacts⟩ := hrun
  exact ⟨p, hp, hfacts, fun id => rejected_nodes_stay_out hp id⟩

/-- A second classification without a record for the node makes it a candidate again, and a
connect request tries it. -/
theorem rejected_node_connected :
    ∃ p, Reaches (Watched.step manual) anyStep (Watched.boot manual none) p ∧
      (idA, true) ∈ p.2.calls :=
  exists_reaches _ _ (refreshRun 0 twoNodes ++ classifyRun 1 [proxyRecord] ++ classifyRun 2 [] ++
    connectRun 3 idA) (by decide +kernel)

end ResidentialIPManager.Web
