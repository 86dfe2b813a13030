import ResidentialIPManager.Source.Endpoints
import ResidentialIPManager.Text.Paths

/-! # The files that profiles are written to

`connect` writes the cleaned profile of a node to a file named after the ID. Whatever the
ID, the name is one entry of the runtime directory. The IDs that rows get are left as they
are, so nodes with different IDs have different files.
-/
namespace ResidentialIPManager.Tunnel
open Text Domain Source

def keptInFilename : Rune → Bool
  | .scalar char =>
    ('a' ≤ char && char ≤ 'z') || ('A' ≤ char && char ≤ 'Z') || ('0' ≤ char && char ≤ '9') ||
      char == '-' || char == '_' || char == '.'
  | .invalid _ => false

def safeFilename (value : GoString) : GoString :=
  if value = [] then lit "node"
  else value.map fun char => if keptInFilename char then char else .scalar '_'

def runtimeDir (dataDir : GoString) : GoString := joinPaths [dataDir, lit "runtime"]

def configPath (dataDir id : GoString) : GoString :=
  joinPaths [runtimeDir dataDir, safeFilename id ++ lit ".ovpn"]

theorem keptInFilename_eq : keptInFilename = isSafeID := by
  funext r
  cases r with
  | invalid b => rfl
  | scalar c =>
    simp only [keptInFilename, isSafeID]
    ac_rfl

theorem mem_safeFilename {value : GoString} {r : Rune} (h : r ∈ safeFilename value) :
    isSafeID r = true := by
  unfold safeFilename at h
  split_ifs at h with hempty
  · revert r
    decide
  · obtain ⟨char, -, rfl⟩ := List.mem_map.mp h
    rw [keptInFilename_eq]
    split_ifs with hsafe
    · exact hsafe
    · decide

theorem pathComponent_safeFilename (value : GoString) :
    PathComponent (safeFilename value ++ lit ".ovpn") := by
  have hsuffix : ∀ r ∈ lit ".ovpn", isSafeID r = true := by decide
  have hsafe : ∀ r ∈ safeFilename value ++ lit ".ovpn", isSafeID r = true := by
    intro r hr
    exact (List.mem_append.mp hr).elim mem_safeFilename (hsuffix r)
  have hlength : 5 ≤ (safeFilename value ++ lit ".ovpn").length := by
    rw [List.length_append]
    exact Nat.le_add_left _ _
  refine ⟨by simp [lit], ?_, ?_, ?_, ?_, ?_⟩
  · exact fun h => absurd (hsafe _ h) (by decide)
  · exact fun h => absurd (hsafe _ h) (by decide)
  · exact fun h => absurd (hsafe _ h) (by decide)
  · exact fun h => absurd (h ▸ hlength) (by decide)
  · exact fun h => absurd (h ▸ hlength) (by decide)

theorem configPath_eq (dataDir id : GoString) :
    configPath dataDir id = runtimeDir dataDir ++ lit "/" ++ (safeFilename id ++ lit ".ovpn") := by
  have hruntime : PathComponent (lit "runtime") :=
    ⟨by decide, by decide, by decide, by decide, by decide, by decide⟩
  obtain ⟨hclean, hparts⟩ := joinPaths_clean dataDir hruntime
  exact joinPaths_component (pathComponent_safeFilename id) hclean hparts

theorem safeFilename_of_safe {id : GoString} (hne : id ≠ []) (h : ∀ r ∈ id, isSafeID r = true) :
    safeFilename id = id := by
  rw [safeFilename, if_neg hne, keptInFilename_eq]
  conv_rhs => rw [← List.map_id id]
  exact List.map_congr_left fun r hr => if_pos (h r hr)

section Rows

variable {row row' : List GoString} {index index' : GoString → Option Nat} {node node' : VpnNode}

theorem isSafeID_rowToNode (h : rowToNode row index = some node) :
    node.id ≠ [] ∧ ∀ r ∈ node.id, isSafeID r = true := by
  obtain ⟨ip, hv⟩ := rowToNode_validated h
  rw [hv.id]
  exact ⟨endpointID_ne_nil hv.known, fun r hr => isSafeID_endpointID hr⟩

theorem safeFilename_rowToNode (h : rowToNode row index = some node) :
    safeFilename node.id = node.id :=
  safeFilename_of_safe (isSafeID_rowToNode h).1 (isSafeID_rowToNode h).2

/-- A rune of an ID is one byte, its code. -/
theorem bytes_of_isSafeID {r : Rune} (h : isSafeID r = true) :
    ∃ c, r = .scalar c ∧ c.val.toNat < 128 ∧ r.bytes = [UInt8.ofNat c.val.toNat] := by
  cases r with
  | invalid b => cases h
  | scalar c =>
    have hc : c.val.toNat < 128 := by
      simp only [isSafeID, Bool.or_eq_true, Bool.and_eq_true, decide_eq_true_eq, beq_iff_eq,
        Char.le_def, UInt32.le_iff_toNat_le] at h
      rcases h with ((((⟨-, h⟩ | ⟨-, h⟩) | ⟨-, h⟩) | rfl) | rfl) | rfl
      · exact h.trans_lt (by decide)
      · exact h.trans_lt (by decide)
      · exact h.trans_lt (by decide)
      · decide
      · decide
      · decide
    refine ⟨c, rfl, hc, ?_⟩
    unfold Rune.bytes String.utf8EncodeChar
    exact if_pos (Nat.le_of_lt_succ hc)

theorem bytes_injOn_safe {s t : GoString} (hs : ∀ r ∈ s, isSafeID r = true)
    (ht : ∀ r ∈ t, isSafeID r = true) (h : GoString.bytes s = GoString.bytes t) : s = t := by
  induction s generalizing t with
  | nil =>
    cases t with
    | nil => rfl
    | cons b t =>
      obtain ⟨c, -, -, hb⟩ := bytes_of_isSafeID (ht b List.mem_cons_self)
      simp [GoString.bytes, hb] at h
  | cons a s ih =>
    obtain ⟨c, rfl, hc, ha⟩ := bytes_of_isSafeID (hs a List.mem_cons_self)
    cases t with
    | nil => simp [GoString.bytes, ha] at h
    | cons b t =>
      obtain ⟨d, rfl, hd, hb⟩ := bytes_of_isSafeID (ht b List.mem_cons_self)
      simp only [GoString.bytes, List.flatMap_cons, ha, hb, List.cons_append, List.nil_append,
        List.cons.injEq] at h
      have hcode : c.val.toNat = d.val.toNat := by
        have hbyte := congrArg UInt8.toNat h.1
        simp only [UInt8.toNat_ofNat'] at hbyte
        omega
      have htail : s = t := ih (fun r hr => hs r (List.mem_cons_of_mem _ hr))
        (fun r hr => ht r (List.mem_cons_of_mem _ hr)) h.2
      rw [htail, Char.ext (UInt32.toNat_inj.mp hcode)]

theorem configPath_inj (h : rowToNode row index = some node)
    (h' : rowToNode row' index' = some node') {dataDir : GoString}
    (heq : GoString.bytes (configPath dataDir node.id) =
      GoString.bytes (configPath dataDir node'.id)) : node.id = node'.id := by
  rw [configPath_eq, configPath_eq, safeFilename_rowToNode h, safeFilename_rowToNode h'] at heq
  simp only [GoString.bytes, List.flatMap_append, List.append_assoc, List.append_cancel_left_eq,
    List.append_cancel_right_eq] at heq
  exact bytes_injOn_safe (isSafeID_rowToNode h).2 (isSafeID_rowToNode h').2 heq

end Rows

structure FilesApart (dataDir : GoString) : Prop where
  component : ∀ id, PathComponent (safeFilename id ++ lit ".ovpn")
  inside : ∀ id, configPath dataDir id =
    runtimeDir dataDir ++ lit "/" ++ (safeFilename id ++ lit ".ovpn")
  identity : ∀ row index node, rowToNode row index = some node → safeFilename node.id = node.id
  apart : ∀ row index node row' index' node', rowToNode row index = some node →
    rowToNode row' index' = some node' → node.id ≠ node'.id →
    GoString.bytes (configPath dataDir node.id) ≠ GoString.bytes (configPath dataDir node'.id)
  fetched : ∀ maxNodes answer nodes, fetch maxNodes answer = .ok nodes →
    (nodes.map fun node => GoString.bytes (configPath dataDir node.id)).Nodup

/-- Every ID gives one entry of the runtime directory, and nodes that were fetched have
files of their own. -/
theorem profile_files_apart (dataDir : GoString) : FilesApart dataDir where
  component := pathComponent_safeFilename
  inside := configPath_eq dataDir
  identity row index node h := safeFilename_rowToNode h
  apart row index node row' index' node' h h' hne heq := hne (configPath_inj h h' heq)
  fetched maxNodes answer nodes h := by
    obtain ⟨cache, rfl⟩ := fetch_cache h
    have hids : cache.nodes.Pairwise fun a b => a.id ≠ b.id :=
      List.pairwise_map.mp cache.nodup
    refine List.pairwise_map.mpr (hids.imp_of_mem ?_)
    intro a b ha hb hne heq
    obtain ⟨row, index, hrow⟩ := mem_fetch h ha
    obtain ⟨row', index', hrow'⟩ := mem_fetch h hb
    exact hne (configPath_inj hrow hrow' heq)

/-- An ID that is no file name, and one of a row. -/
example : configPath (lit "data/../srv") (lit "../a\\b") = lit "srv/runtime/.._a_b.ovpn" ∧
    configPath [] (lit "JP_1.1.1.1_443_tcp") = lit "runtime/JP_1.1.1.1_443_tcp.ovpn" := by
  decide

end ResidentialIPManager.Tunnel
