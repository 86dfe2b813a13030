import ResidentialIPManager.Domain.Models

/-! # The persisted state

`JSONStore.Save` before encoding and `JSONStore.Load` after decoding. The profile of a node,
whose field has the tag `-`, is neither written nor read; the encoding is taken to restore
every other field. A missing file gives the initial snapshot, and a stored snapshot survives
only if it is idle.
-/
namespace ResidentialIPManager.Storage
open Text Domain

structure State where
  nodes : NodeCache
  snapshot : ConnectionSnapshot

def savedNode (n : VpnNode) : VpnNode := { n with openVPNConfig := [] }

@[simp] theorem ids_map_savedNode (nodes : List VpnNode) :
    ids (nodes.map savedNode) = ids nodes := by
  simp [ids, savedNode]

def save (nodes : NodeCache) (snapshot : ConnectionSnapshot) : State :=
  ⟨nodes.withNodes (nodes.nodes.map savedNode) (ids_map_savedNode _), snapshot⟩

def load (file : Option State) : State :=
  match file with
  | none => ⟨NodeCache.empty, initialSnapshot⟩
  | some state =>
    let nodes := state.nodes.withNodes (state.nodes.nodes.map savedNode) (ids_map_savedNode _)
    if state.snapshot.state ≠ .idle then
      ⟨nodes, { initialSnapshot with message := lit "已恢复节点缓存，请重新连接" }⟩
    else ⟨nodes, state.snapshot⟩

theorem load_nodes (state : State) :
    (load (some state)).nodes.nodes = state.nodes.nodes.map savedNode := by
  unfold load
  dsimp only
  split_ifs <;> rfl

/-- No restored snapshot claims a connection. -/
theorem load_idle (file : Option State) : (load file).snapshot.state = .idle := by
  cases file with
  | none => rfl
  | some state =>
    unfold load
    by_cases h : state.snapshot.state = .idle
    · simp [h]
    · simp [h]

theorem load_save_nodes (nodes : NodeCache) (snapshot : ConnectionSnapshot) :
    (load (some (save nodes snapshot))).nodes.nodes = nodes.nodes.map savedNode := by
  rw [load_nodes, save, NodeCache.withNodes_nodes, List.map_map]
  rfl

/-- `save` depends on what the file keeps of the list. -/
theorem save_eq_of_nodes {a b : NodeCache} (h : a.nodes.map savedNode = b.nodes.map savedNode)
    (snapshot : ConnectionSnapshot) : save a snapshot = save b snapshot := by
  simp only [save, NodeCache.withNodes, h]

theorem save_load (nodes : NodeCache) (snapshot : ConnectionSnapshot) :
    save (load (some (save nodes snapshot))).nodes snapshot = save nodes snapshot := by
  apply save_eq_of_nodes
  rw [load_save_nodes, List.map_map]
  rfl

end ResidentialIPManager.Storage
