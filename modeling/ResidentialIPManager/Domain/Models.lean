import ResidentialIPManager.Text.Strings

/-! # Nodes, snapshots and the cached node list

The record types of package domain. Enumerations of string constants are
inductive types; a restored node may lack its purity grade, which is the extra
constructor `unset`. Times and durations are counted in nanoseconds.

A `NodeCache` is a node list as the program keeps it: IDs are non-empty and
pairwise distinct. Every list the server installs is one, so later proofs never
have to establish either fact again.
-/
namespace ResidentialIPManager.Domain
open Text

abbrev Time := Int
abbrev Duration := Int

inductive ConnectionState where
  | idle
  | fetchingNodes
  | probingNodes
  | connecting
  | verifying
  | connected
  | failingOver
  | disconnecting
  | error
  deriving DecidableEq, Repr

inductive NodeStatus where
  | unknown
  | checking
  | available
  | unavailable
  | cooldown
  deriving DecidableEq, Repr

inductive PurityGrade where
  | unset
  | rejected
  | candidate
  | strictHome
  deriving DecidableEq, Repr

structure ResidentialEvidence where
  provider : GoString
  passed : Bool
  summary : GoString
  checkedAt : Time
  deriving DecidableEq, Repr

structure VpnNode where
  id : GoString
  ip : GoString := []
  remoteHost : GoString := []
  remotePort : Int := 0
  protocol : GoString := []
  countryCode : GoString := []
  country : GoString := []
  city : GoString := []
  isp : GoString := []
  asn : GoString := []
  reverseDNS : GoString := []
  score : Int := 0
  advertisedPingMS : Int := 0
  speedBPS : Int := 0
  sessions : Int := 0
  latencyMS : Option Int := none
  latencySuspicious : Bool := false
  probeAttempts : Int := 0
  probeSuccesses : Int := 0
  purityGrade : PurityGrade := .unset
  purityScore : Int := 0
  status : NodeStatus := .unknown
  evidence : List ResidentialEvidence := []
  lastCheckedAt : Option Time := none
  lastError : GoString := []
  cooldownUntil : Option Time := none
  openVPNConfig : GoString := []
  deriving DecidableEq, Repr

/-- A `map[string]string`, kept as an association list. -/
abbrev Metadata := List (GoString × GoString)

def Metadata.set (m : Metadata) (key value : GoString) : Metadata :=
  (key, value) :: m.filter (fun p => p.1 ≠ key)

structure ConnectionSnapshot where
  state : ConnectionState
  message : GoString := []
  activeNodeID : GoString := []
  exitIP : GoString := []
  connectedSince : Option Time := none
  lastVerifiedAt : Option Time := none
  consecutiveFailures : Int := 0
  metadata : Metadata := []
  deriving DecidableEq, Repr

def initialSnapshot : ConnectionSnapshot where
  state := .idle
  message := lit "准备就绪"

@[simp] theorem initialSnapshot_state : initialSnapshot.state = .idle := rfl
@[simp] theorem initialSnapshot_activeNodeID : initialSnapshot.activeNodeID = [] := rfl
@[simp] theorem initialSnapshot_exitIP : initialSnapshot.exitIP = [] := rfl

def ids (nodes : List VpnNode) : List GoString := nodes.map (·.id)

@[simp] theorem ids_nil : ids [] = [] := rfl
@[simp] theorem ids_cons (n : VpnNode) (l : List VpnNode) : ids (n :: l) = n.id :: ids l := rfl

theorem mem_ids {l : List VpnNode} {id : GoString} : id ∈ ids l ↔ ∃ n ∈ l, n.id = id := by
  simp [ids]

def cooldowns (nodes : List VpnNode) : List (GoString × Option Time) :=
  nodes.map (fun n => (n.id, n.cooldownUntil))

@[simp] theorem cooldowns_cons (n : VpnNode) (l : List VpnNode) :
    cooldowns (n :: l) = (n.id, n.cooldownUntil) :: cooldowns l := rfl

theorem mem_cooldowns {l : List VpnNode} {id : GoString} {c : Option Time} :
    (id, c) ∈ cooldowns l ↔ ∃ n ∈ l, n.id = id ∧ n.cooldownUntil = c := by
  simp [cooldowns]

/-- A node list with pairwise distinct, non-empty IDs. -/
structure NodeCache where
  nodes : List VpnNode
  nodup : (ids nodes).Nodup
  named : [] ∉ ids nodes

namespace NodeCache

def empty : NodeCache := ⟨[], by simp, by simp⟩

def withNodes (c : NodeCache) (l : List VpnNode) (h : ids l = ids c.nodes) : NodeCache :=
  ⟨l, h ▸ c.nodup, h ▸ c.named⟩

@[simp] theorem withNodes_nodes (c : NodeCache) (l : List VpnNode) (h : ids l = ids c.nodes) :
    (c.withNodes l h).nodes = l := rfl

theorem eq_of_id (c : NodeCache) {m n : VpnNode} (hm : m ∈ c.nodes) (hn : n ∈ c.nodes)
    (h : m.id = n.id) : m = n :=
  List.inj_on_of_nodup_map c.nodup hm hn h

theorem id_ne_nil (c : NodeCache) {n : VpnNode} (hn : n ∈ c.nodes) : n.id ≠ [] := by
  intro h
  exact c.named (mem_ids.mpr ⟨n, hn, h⟩)

end NodeCache

end ResidentialIPManager.Domain
