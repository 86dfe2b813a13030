import ResidentialIPManager.Source.Payload
import ResidentialIPManager.Text.Decimal

/-! # Node IDs and endpoints

An ID is the country, the address, the port and the protocol, with everything outside its
alphabet squeezed into underscores. Port and protocol can always be read back from its
end, and so can an IPv4 address. The colons of an IPv6 address are lost: two addresses that
differ only in where `::` stands get the same ID, and the second of them is dropped.
-/
namespace ResidentialIPManager.Source
open Text Domain CSV

def underscore : Rune := .scalar '_'

/-- The part after the last separator is determined. -/
theorem append_separator_inj {α : Type*} {c : α} {u v p q : List α} (hp : c ∉ p) (hq : c ∉ q)
    (h : u ++ c :: p = v ++ c :: q) : u = v ∧ p = q := by
  rcases List.append_eq_append_iff.mp h with ⟨mid, rfl, hmid⟩ | ⟨mid, rfl, hmid⟩
  · cases mid with
    | nil => simpa using hmid
    | cons a mid =>
      have hmem : c ∈ p := by
        rw [(List.cons.inj hmid).2]
        simp
      exact absurd hmem hp
  · cases mid with
    | nil => simpa using hmid.symm
    | cons a mid =>
      have hmem : c ∈ q := by
        rw [(List.cons.inj hmid).2]
        simp
      exact absurd hmem hq

section Alphabet

theorem isSafeID_underscore : isSafeID underscore = true := by decide

theorem isSafeID_of_isDigit {r : Rune} (h : r.isDigit = true) :
    isSafeID r = true ∧ r ≠ underscore := by
  cases r with
  | invalid b => cases h
  | scalar c =>
    constructor
    · simp only [Rune.isDigit, Bool.and_eq_true, decide_eq_true_eq] at h
      simp [isSafeID, h.1, h.2]
    · rintro hc
      rw [hc] at h
      exact absurd h (by decide)

theorem mem_replaceUnsafe {inRun : Bool} {s : GoString} {r : Rune}
    (h : r ∈ replaceUnsafe inRun s) : isSafeID r = true ∧ (r ∈ s ∨ r = underscore) := by
  induction s generalizing inRun with
  | nil => cases h
  | cons a s ih =>
    rw [replaceUnsafe] at h
    split_ifs at h with ha hrun
    · rcases List.mem_cons.mp h with rfl | hm
      · exact ⟨ha, .inl List.mem_cons_self⟩
      · exact (ih hm).imp_right (Or.imp_left (List.mem_cons_of_mem _))
    · exact (ih h).imp_right (Or.imp_left (List.mem_cons_of_mem _))
    · rcases List.mem_cons.mp h with rfl | hm
      · exact ⟨isSafeID_underscore, .inr rfl⟩
      · exact (ih hm).imp_right (Or.imp_left (List.mem_cons_of_mem _))

theorem replaceUnsafe_of_safe {inRun : Bool} {s : GoString} (h : ∀ r ∈ s, isSafeID r = true) :
    replaceUnsafe inRun s = s := by
  induction s generalizing inRun with
  | nil => rfl
  | cons a s ih =>
    rw [replaceUnsafe, if_pos (h a List.mem_cons_self), ih fun r hr => h r (List.mem_cons_of_mem _ hr)]

/-- An underscore ends a run of unsafe characters. -/
theorem replaceUnsafe_underscore (inRun : Bool) (s t : GoString) :
    replaceUnsafe inRun (s ++ underscore :: t) =
      replaceUnsafe inRun s ++ underscore :: replaceUnsafe false t := by
  induction s generalizing inRun with
  | nil =>
    rw [List.nil_append, replaceUnsafe.eq_2, if_pos isSafeID_underscore]
    rfl
  | cons a s ih =>
    rw [List.cons_append, replaceUnsafe, replaceUnsafe]
    split_ifs
    · rw [ih, List.cons_append]
    · rw [ih]
    · rw [ih, List.cons_append]

theorem underscore_mem_replaceUnsafe {s : GoString} {r : Rune} (hr : r ∈ s)
    (hbad : isSafeID r = false) : underscore ∈ replaceUnsafe false s := by
  induction s with
  | nil => cases hr
  | cons a s ih =>
    rw [replaceUnsafe]
    by_cases ha : isSafeID a = true
    · rw [if_pos ha]
      rcases List.mem_cons.mp hr with rfl | hm
      · exact absurd ha (by simp [hbad])
      · exact List.mem_cons_of_mem _ (ih hm)
    · rw [if_neg ha, if_neg Bool.false_ne_true]
      exact List.mem_cons_self

end Alphabet

section Parts

theorem dot_mem_string {ip : IP} (h : ip.to4 ≠ none) : .scalar '.' ∈ ip.string := by
  obtain ⟨⟨a, b, c, d⟩, h4⟩ := Option.ne_none_iff_exists'.mp h
  simp [IP.string, h4, join, lit, List.intercalate]

/-- What the replacement makes of an address with colons ends in a part without dots. -/
theorem replaceUnsafe_colons {ip : IP} (h : ip.to4 = none) :
    ∃ front tail, replaceUnsafe false ip.string = front ++ underscore :: tail ∧
      underscore ∉ tail ∧ .scalar '.' ∉ tail := by
  obtain ⟨-, hmarks, hcolon⟩ := IP.parseIPv6_string rfl h
  obtain ⟨tail, front, heq, htail⟩ := List.eq_append_cons_of_mem
    (List.mem_reverse.mpr (underscore_mem_replaceUnsafe hcolon (by decide)))
  have hsplit : replaceUnsafe false ip.string = front.reverse ++ underscore :: tail.reverse := by
    rw [← List.reverse_reverse (replaceUnsafe false ip.string), heq]
    simp
  refine ⟨_, _, hsplit, by simpa using htail, fun hdot => ?_⟩
  have hmem : .scalar '.' ∈ replaceUnsafe false ip.string := by
    rw [hsplit]
    exact List.mem_append_right _ (List.mem_cons_of_mem _ hdot)
  rcases (mem_replaceUnsafe hmem).2 with hs | hs
  · rcases hmarks _ hs with he | he
    · cases he
    · cases he
  · cases hs

end Parts

section Identity

def untrimmedID (countryCode : GoString) (ip : IP) (port : Int) (protocol : GoString) : GoString :=
  ((replaceUnsafe false countryCode ++ underscore :: replaceUnsafe false ip.string) ++
    underscore :: itoa port) ++ underscore :: protocol

variable {countryCode countryCode' protocol protocol' : GoString} {ip ip' : IP} {port port' : Int}

theorem isSafeID_protocol (h : protocol = lit "tcp" ∨ protocol = lit "udp") :
    (∀ r ∈ protocol, isSafeID r = true) ∧ underscore ∉ protocol := by
  rcases h with rfl | rfl <;> decide

theorem underscore_not_mem_itoa (hport : 0 ≤ port) : underscore ∉ itoa port :=
  fun h => (isSafeID_of_isDigit (mem_itoa hport h)).2 rfl

theorem replaceUnsafe_endpoint (hport : 0 ≤ port)
    (hprotocol : protocol = lit "tcp" ∨ protocol = lit "udp") :
    replaceUnsafe false (countryCode ++ lit "_" ++ ip.string ++ lit "_" ++ itoa port ++ lit "_" ++
      protocol) = untrimmedID countryCode ip port protocol := by
  have hlit : lit "_" = [underscore] := rfl
  simp only [hlit, List.append_assoc, List.cons_append, List.nil_append, replaceUnsafe_underscore,
    replaceUnsafe_of_safe (isSafeID_protocol hprotocol).1,
    replaceUnsafe_of_safe fun r hr => (isSafeID_of_isDigit (mem_itoa hport hr)).1, untrimmedID]

theorem trimSet_concat {cut front : GoString} {r : Rune} (hr : r ∉ cut) :
    trimSet cut (front ++ [r]) = front.dropWhile (fun a => cut.contains a) ++ [r] := by
  have hcut : ¬cut.contains r = true := by simpa using hr
  have hfront : (front ++ [r]).dropWhile (fun a => cut.contains a) =
      front.dropWhile (fun a => cut.contains a) ++ [r] := by
    rw [List.dropWhile_append]
    split_ifs with hempty
    · rw [List.isEmpty_iff.mp hempty, List.dropWhile_cons_of_neg hcut, List.nil_append]
    · rfl
  rw [trimSet, hfront, List.rdropWhile_concat_neg _ _ _ hcut]

theorem endpointID_eq (countryCode : GoString) (ip : IP) (hport : 0 ≤ port)
    (hprotocol : protocol = lit "tcp" ∨ protocol = lit "udp") :
    ∃ k, untrimmedID countryCode ip port protocol =
      List.replicate k underscore ++ endpointID countryCode ip port protocol := by
  obtain ⟨front, hbody⟩ : ∃ front, untrimmedID countryCode ip port protocol =
      front ++ [.scalar 'p'] := by
    rcases hprotocol with rfl | rfl
    · exact ⟨_, (List.append_assoc _ (underscore :: lit "tc") [.scalar 'p']).symm⟩
    · exact ⟨_, (List.append_assoc _ (underscore :: lit "ud") [.scalar 'p']).symm⟩
  rw [endpointID, replaceUnsafe_endpoint hport hprotocol, hbody, trimSet_concat (by decide)]
  refine ⟨(front.takeWhile fun a => (lit "_").contains a).length, ?_⟩
  have htake : front.takeWhile (fun a => (lit "_").contains a) =
      List.replicate (front.takeWhile fun a => (lit "_").contains a).length underscore := by
    refine List.eq_replicate_of_mem fun r hr => ?_
    simpa [lit, underscore] using List.mem_takeWhile_imp hr
  rw [← htake, ← List.append_assoc, List.takeWhile_append_dropWhile]

/-- Port and protocol are read back from the end of an ID; what remains ends in the
address. -/
theorem endpointID_parts (hport : 0 ≤ port) (hport' : 0 ≤ port')
    (hprotocol : protocol = lit "tcp" ∨ protocol = lit "udp")
    (hprotocol' : protocol' = lit "tcp" ∨ protocol' = lit "udp")
    (h : endpointID countryCode ip port protocol = endpointID countryCode' ip' port' protocol') :
    port = port' ∧ protocol = protocol' ∧
      ∃ u v, u ++ underscore :: replaceUnsafe false ip.string =
        v ++ underscore :: replaceUnsafe false ip'.string := by
  obtain ⟨k, hk⟩ := endpointID_eq countryCode ip hport hprotocol
  obtain ⟨k', hk'⟩ := endpointID_eq countryCode' ip' hport' hprotocol'
  -- as many underscores again on each side make the untrimmed IDs equal
  have hbodies : List.replicate k' underscore ++ untrimmedID countryCode ip port protocol =
      List.replicate k underscore ++ untrimmedID countryCode' ip' port' protocol' := by
    rw [hk, hk', h, ← List.append_assoc, ← List.append_assoc, List.replicate_append_replicate,
      List.replicate_append_replicate, Nat.add_comm]
  simp only [untrimmedID, ← List.append_assoc] at hbodies
  obtain ⟨hrest, hprotocols⟩ := append_separator_inj (isSafeID_protocol hprotocol).2
    (isSafeID_protocol hprotocol').2 hbodies
  obtain ⟨hrest, hports⟩ := append_separator_inj (underscore_not_mem_itoa hport)
    (underscore_not_mem_itoa hport') hrest
  exact ⟨itoa_injective hports, hprotocols, _, _, hrest⟩

theorem replaceUnsafe_string (h4 : ip.to4 ≠ none) :
    replaceUnsafe false ip.string = ip.string ∧ underscore ∉ ip.string := by
  constructor
  · refine replaceUnsafe_of_safe fun r hr => ?_
    rcases mem_string_of_to4 h4 hr with rfl | hdigit
    · decide
    · exact (isSafeID_of_isDigit hdigit).1
  · intro hmem
    rcases mem_string_of_to4 h4 hmem with hdot | hdigit
    · exact absurd hdot (by decide)
    · exact (isSafeID_of_isDigit hdigit).2 rfl

/-- An ID with a dotted address determines its endpoint. -/
theorem endpointID_inj (h4 : ip.to4 ≠ none) (hport : 0 ≤ port) (hport' : 0 ≤ port')
    (hprotocol : protocol = lit "tcp" ∨ protocol = lit "udp")
    (hprotocol' : protocol' = lit "tcp" ∨ protocol' = lit "udp")
    (h : endpointID countryCode ip port protocol = endpointID countryCode' ip' port' protocol') :
    ip.string = ip'.string ∧ port = port' ∧ protocol = protocol' := by
  obtain ⟨hports, hprotocols, u, v, hrest⟩ := endpointID_parts hport hport' hprotocol hprotocol' h
  refine ⟨?_, hports, hprotocols⟩
  obtain ⟨hsafe, hnot⟩ := replaceUnsafe_string h4
  rw [hsafe] at hrest
  by_cases h4' : ip'.to4 = none
  · obtain ⟨front, tail, heq, htail, hdot⟩ := replaceUnsafe_colons h4'
    rw [heq, ← List.cons_append, ← List.append_assoc] at hrest
    have hsame := (append_separator_inj hnot htail hrest).2
    exact absurd (hsame ▸ dot_mem_string h4) hdot
  · obtain ⟨hsafe', hnot'⟩ := replaceUnsafe_string h4'
    rw [hsafe'] at hrest
    exact (append_separator_inj hnot hnot' hrest).2

end Identity

variable {index : GoString → Option Nat}

theorem isSafeID_endpointID {countryCode protocol : GoString} {ip : IP} {port : Int} {r : Rune}
    (h : r ∈ endpointID countryCode ip port protocol) : isSafeID r = true := by
  have hsub : (endpointID countryCode ip port protocol).Sublist (replaceUnsafe false
      (countryCode ++ lit "_" ++ ip.string ++ lit "_" ++ itoa port ++ lit "_" ++ protocol)) :=
    (List.rdropWhile_prefix _ _).sublist.trans (List.dropWhile_sublist _)
  exact (mem_replaceUnsafe (hsub.subset h)).1

section Collected

/-- The nodes of the accepted rows, before duplicates are dropped. -/
def acceptedNodes (index : GoString → Option Nat) (rows : List Record) : List VpnNode :=
  rows.filterMap (rowToNode · index)

theorem mem_acceptedNodes {rows : List Record} {node : VpnNode} :
    node ∈ acceptedNodes index rows ↔ ∃ row ∈ rows, rowToNode row index = some node :=
  List.mem_filterMap

/-- A collected node is the first accepted one with its ID. -/
theorem collectNodes_first {rows : List Record} {seen : List GoString} {node : VpnNode}
    (h : node ∈ collectNodes index seen rows) :
    ∃ front back, acceptedNodes index rows = front ++ node :: back ∧
      ∀ other ∈ front, other.id ≠ node.id := by
  induction rows generalizing seen with
  | nil => cases h
  | cons row rest ih =>
    have hnew := (mem_collectNodes h).1
    rw [collectNodes] at h
    cases hrow : rowToNode row index with
    | none =>
      simp only [hrow] at h
      simpa [acceptedNodes, hrow] using ih h
    | some first =>
      have hcons : acceptedNodes index (row :: rest) = first :: acceptedNodes index rest := by
        simp [acceptedNodes, hrow]
      -- the rest of the loop has seen the ID of this row
      have hlater {seen' : List GoString} (hmem : node ∈ collectNodes index seen' rest)
          (hne : first.id ≠ node.id) : ∃ front back, acceptedNodes index (row :: rest) =
            front ++ node :: back ∧ ∀ other ∈ front, other.id ≠ node.id := by
        obtain ⟨front, back, heq, hfront⟩ := ih hmem
        refine ⟨first :: front, back, by rw [hcons, heq, List.cons_append], ?_⟩
        intro other hother
        rcases List.mem_cons.mp hother with rfl | hother
        · exact hne
        · exact hfront other hother
      simp only [hrow] at h
      split_ifs at h with hseen
      · exact hlater h fun heq => hnew (heq ▸ hseen)
      · rcases List.mem_cons.mp h with rfl | hmem
        · exact ⟨[], acceptedNodes index rest, hcons, by simp⟩
        · exact hlater hmem fun heq => (mem_collectNodes hmem).1 (heq ▸ List.mem_cons_self)

theorem exists_mem_collectNodes {rows : List Record} {seen : List GoString} {node : VpnNode}
    (h : node ∈ acceptedNodes index rows) (hseen : node.id ∉ seen) :
    ∃ kept ∈ collectNodes index seen rows, kept.id = node.id := by
  induction rows generalizing seen with
  | nil => cases h
  | cons row rest ih =>
    rw [collectNodes]
    cases hrow : rowToNode row index with
    | none => exact ih (by simpa [acceptedNodes, hrow] using h) hseen
    | some first =>
      have hcases : node = first ∨ node ∈ acceptedNodes index rest := by
        simpa [acceptedNodes, hrow] using h
      simp only []
      split_ifs with hfirst
      · rcases hcases with rfl | hrest
        · exact absurd hfirst hseen
        · exact ih hrest hseen
      · by_cases hid : first.id = node.id
        · exact ⟨first, List.mem_cons_self, hid⟩
        · have hrest : node ∈ acceptedNodes index rest :=
            hcases.resolve_left fun heq => hid (congrArg (·.id) heq.symm)
          have hseen' : node.id ∉ first.id :: seen := by simp [hseen, Ne.symm hid]
          obtain ⟨kept, hkept, hkid⟩ := ih hrest hseen'
          exact ⟨kept, List.mem_cons_of_mem _ hkept, hkid⟩

end Collected

def SameEndpoint (a b : VpnNode) : Prop :=
  a.ip = b.ip ∧ a.remotePort = b.remotePort ∧ a.protocol = b.protocol

def IsIPv6 (node : VpnNode) : Prop := .scalar ':' ∈ node.ip

/-- Accepted rows with one ID have one endpoint, unless their IPv6 addresses differ. -/
theorem sameEndpoint_of_id {rows : List Record} {a b : VpnNode}
    (ha : a ∈ acceptedNodes index rows) (hb : b ∈ acceptedNodes index rows) (hid : a.id = b.id)
    (hcolons : IsIPv6 b → a.ip = b.ip) : SameEndpoint a b := by
  obtain ⟨row, -, ha⟩ := mem_acceptedNodes.mp ha
  obtain ⟨row', -, hb⟩ := mem_acceptedNodes.mp hb
  obtain ⟨ip, decoded, hrow, rfl⟩ := rowToNode_accepted ha
  obtain ⟨ip', decoded', hrow', rfl⟩ := rowToNode_accepted hb
  have hport : 0 ≤ (parseRemote decoded).2.1 := Int.le_trans (by decide) hrow.portRange.1
  have hport' : 0 ≤ (parseRemote decoded').2.1 := Int.le_trans (by decide) hrow'.portRange.1
  by_cases h4 : ip'.to4 = none
  · obtain ⟨hports, hprotocols, -⟩ := endpointID_parts hport hport' hrow.known hrow'.known hid
    exact ⟨hcolons (IP.parseIPv6_string rfl h4).2.2, hports, hprotocols⟩
  · obtain ⟨hips, hports, hprotocols⟩ := endpointID_inj h4 hport' hport hrow'.known hrow.known
      hid.symm
    exact ⟨hips.symm, hports.symm, hprotocols.symm⟩

structure EndpointsKept (header : Record) (rows : List Record) (nodes : List VpnNode) : Prop where
  distinct : (ids nodes).Nodup
  alphabet : ∀ node ∈ nodes, ∀ r ∈ node.id, isSafeID r = true
  covered : ∀ row ∈ rows, ∀ accepted, rowToNode row (columnIndex header) = some accepted →
    ∃ node ∈ nodes, SameEndpoint node accepted

/-- Every accepted IPv6 row has the endpoint of one whose ID no earlier row gave to another
address. -/
def ColonsDistinct (accepted : List VpnNode) : Prop :=
  ∀ node ∈ accepted, IsIPv6 node → ∃ front kept back, accepted = front ++ kept :: back ∧
    SameEndpoint kept node ∧ ∀ other ∈ front, other.id = kept.id → other.ip = kept.ip

theorem colonsDistinct_of_covered {rows : List Record}
    (h : ∀ accepted ∈ acceptedNodes index rows,
      ∃ node ∈ collectNodes index [] rows, SameEndpoint node accepted) :
    ColonsDistinct (acceptedNodes index rows) := by
  intro accepted haccepted _
  obtain ⟨node, hnode, hsame⟩ := h accepted haccepted
  obtain ⟨front, back, heq, hfirst⟩ := collectNodes_first hnode
  exact ⟨front, node, back, heq, hsame, fun other hother hid => absurd hid (hfirst other hother)⟩

theorem mem_front_of_first {accepted front back front' back' : List VpnNode} {first kept : VpnNode}
    (heq : accepted = front ++ kept :: back) (heq' : accepted = front' ++ first :: back')
    (hid : first.id = kept.id) (hfirst : ∀ other ∈ front', other.id ≠ first.id) :
    first = kept ∨ first ∈ front := by
  rcases List.append_eq_append_iff.mp (heq.symm.trans heq') with ⟨mid, hmid, hrest⟩ | ⟨mid, hmid, hrest⟩
  · cases mid with
    | nil => exact .inl (List.cons.inj hrest).1.symm
    | cons a mid =>
      obtain ⟨rfl, -⟩ := List.cons.inj hrest
      exact absurd hid.symm (hfirst kept (by simp [hmid]))
  · cases mid with
    | nil => exact .inl (List.cons.inj hrest).1
    | cons a mid =>
      obtain ⟨rfl, -⟩ := List.cons.inj hrest
      exact .inr (by simp [hmid])

theorem covered_of_colonsDistinct {rows : List Record}
    (h : ColonsDistinct (acceptedNodes index rows)) {accepted : VpnNode}
    (haccepted : accepted ∈ acceptedNodes index rows) :
    ∃ node ∈ collectNodes index [] rows, SameEndpoint node accepted := by
  by_cases hcolons : IsIPv6 accepted
  · obtain ⟨front, kept, back, heq, hsame, hearlier⟩ := h accepted haccepted hcolons
    have hkept : kept ∈ acceptedNodes index rows := by simp [heq]
    obtain ⟨node, hnode, hid⟩ := exists_mem_collectNodes hkept (List.not_mem_nil)
    obtain ⟨front', back', heq', hfirst⟩ := collectNodes_first hnode
    have hmem : node ∈ acceptedNodes index rows := by simp [heq']
    have hip : node.ip = kept.ip := by
      rcases mem_front_of_first heq heq' hid hfirst with rfl | hfront
      · rfl
      · exact hearlier node hfront hid
    have hnodekept := sameEndpoint_of_id hmem hkept hid fun _ => hip
    exact ⟨node, hnode, hnodekept.1.trans hsame.1, hnodekept.2.1.trans hsame.2.1,
      hnodekept.2.2.trans hsame.2.2⟩
  · obtain ⟨node, hnode, hid⟩ := exists_mem_collectNodes haccepted (List.not_mem_nil)
    obtain ⟨front, back, heq, -⟩ := collectNodes_first hnode
    have hmem : node ∈ acceptedNodes index rows := by simp [heq]
    exact ⟨node, hnode, sameEndpoint_of_id hmem haccepted hid fun h6 => absurd h6 hcolons⟩

/-- No endpoint is lost, exactly if IPv6 rows keep their IDs apart. -/
theorem endpointsKept_iff {text : GoString} {header : Record} {rows : List Record}
    {nodes : List VpnNode} (hread : readRecords text = .ok (header :: rows))
    (hok : parseVPNGateCSV text = .ok nodes) :
    EndpointsKept header rows nodes ↔
      ColonsDistinct (acceptedNodes (columnIndex header) rows) := by
  rw [parseVPNGateCSV, hread] at hok
  obtain ⟨_, _, heq, rfl⟩ := parseRecords_ok hok
  obtain ⟨rfl, rfl⟩ := List.cons.inj heq
  constructor
  · intro hkept
    refine colonsDistinct_of_covered fun accepted haccepted => ?_
    obtain ⟨row, hrow, hnode⟩ := mem_acceptedNodes.mp haccepted
    exact hkept.covered row hrow accepted hnode
  · intro hdistinct
    refine ⟨nodup_collectNodes _ _, fun node hnode r hr => ?_, fun row hrow accepted hnode => ?_⟩
    · obtain ⟨-, row, -, hrow⟩ := mem_collectNodes hnode
      obtain ⟨ip, decoded, -, rfl⟩ := rowToNode_accepted hrow
      exact isSafeID_endpointID hr
    · exact covered_of_colonsDistinct hdistinct (mem_acceptedNodes.mpr ⟨row, hrow, hnode⟩)

section Addresses

def endpointHeader : Record := [lit "HostName", lit "IP", lit "OpenVPN_ConfigData_Base64"]

/-- Two rows on port 443 over TCP whose addresses differ in the place of their zeros. -/
def zerosRow : Record :=
  [lit "a", lit "2606:4700::1:2", lit "cHJvdG8gdGNwCnJlbW90ZSAyNjA2OjQ3MDA6OjE6MiA0NDMK"]

def shiftedZerosRow : Record :=
  [lit "b", lit "2606:4700:1::2", lit "cHJvdG8gdGNwCnJlbW90ZSAyNjA2OjQ3MDA6MTo6MiA0NDMK"]

def dottedRow : Record := [lit "c", lit "1.1.1.1", lit "cHJvdG8gdGNwCnJlbW90ZSAxLjEuMS4xIDQ0Mwo="]

def listText (rows : List Record) : GoString :=
  join (lit "\n") ((endpointHeader :: rows).map (join (lit ",")))

theorem parseVPNGateCSV_listText {rows : List Record}
    (hread : readRecords (listText rows) = .ok (endpointHeader :: rows))
    (hne : collectNodes (columnIndex endpointHeader) [] rows ≠ []) :
    parseVPNGateCSV (listText rows) = .ok (collectNodes (columnIndex endpointHeader) [] rows) :=
  parseVPNGateCSV_collected hread (by decide +kernel) (by decide +kernel) hne

theorem colonsDistinct_of_nodup {accepted : List VpnNode} (h : (ids accepted).Nodup) :
    ColonsDistinct accepted := by
  intro node hnode _
  obtain ⟨front, back, rfl⟩ := List.append_of_mem hnode
  refine ⟨front, node, back, rfl, ⟨rfl, rfl, rfl⟩, fun other hother hid => ?_⟩
  have hdisjoint := List.disjoint_of_nodup_append (by simpa [ids] using h)
  exact absurd (List.mem_map_of_mem hother) fun hmem =>
    hdisjoint hmem (hid ▸ List.mem_map_of_mem List.mem_cons_self)

theorem endpointsKept_dotted :
    EndpointsKept endpointHeader [zerosRow, dottedRow]
      (collectNodes (columnIndex endpointHeader) [] [zerosRow, dottedRow]) := by
  have hread : readRecords (listText [zerosRow, dottedRow]) =
      .ok [endpointHeader, zerosRow, dottedRow] := by decide +kernel
  exact (endpointsKept_iff hread (parseVPNGateCSV_listText hread (by decide +kernel))).mpr
    (colonsDistinct_of_nodup (by decide +kernel))

/-- The two addresses get one ID, and the second endpoint is lost. -/
theorem shifted_zeros_lost :
    ¬ ∀ (text : GoString) (header : Record) (rows : List Record) (nodes : List VpnNode),
      readRecords text = .ok (header :: rows) → parseVPNGateCSV text = .ok nodes →
      EndpointsKept header rows nodes := by
  intro hclaim
  have hread : readRecords (listText [zerosRow, shiftedZerosRow]) =
      .ok [endpointHeader, zerosRow, shiftedZerosRow] := by decide +kernel
  have hkept := hclaim _ _ _ _ hread (parseVPNGateCSV_listText hread (by decide +kernel))
  obtain ⟨accepted, hrow⟩ := Option.isSome_iff_exists.mp
    (show (rowToNode shiftedZerosRow (columnIndex endpointHeader)).isSome = true by decide +kernel)
  obtain ⟨node, hnode, hip, -⟩ := hkept.covered shiftedZerosRow (by simp) accepted hrow
  have hlost : ∀ n ∈ collectNodes (columnIndex endpointHeader) [] [zerosRow, shiftedZerosRow],
      ∀ m ∈ rowToNode shiftedZerosRow (columnIndex endpointHeader), n.ip ≠ m.ip := by
    decide +kernel
  exact hlost node hnode accepted hrow hip

end Addresses

end ResidentialIPManager.Source
