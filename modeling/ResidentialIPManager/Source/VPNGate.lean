import ResidentialIPManager.Domain.Models
import ResidentialIPManager.Text.AddressText
import ResidentialIPManager.Text.Encoding

/-! # The VPNGate list

How package source turns the records of the VPNGate CSV into nodes. `decodeConfig` and
`rowToNode` drop the texts of their errors, as the callers do. A list that is accepted
has distinct, non-empty IDs: it is a node cache.
-/
namespace ResidentialIPManager.Source
open Text Domain

/-- `decodeConfig`: blanks are dropped, missing padding is supplied, and a byte order
mark in front of the profile is removed. -/
def decodeConfig (encoded : GoString) : Option GoString :=
  let compact := (fields encoded).flatten
  if compact = [] then none
  else
    let rem := GoString.byteLen compact % 4
    let padded := if rem ≠ 0 then compact ++ List.replicate (4 - rem) (.scalar '=') else compact
    (decodeBase64 padded).map fun raw => trimPrefix (decodeUTF8 raw) [.scalar '\uFEFF']

def normalizeProtocol (value : GoString) : GoString :=
  let value := toLower (trimSpace value)
  if contains value (lit "tcp") then lit "tcp"
  else if contains value (lit "udp") then lit "udp"
  else lit "unknown"

/-- The loop of `parseRemote`, with the protocol read so far. -/
def parseRemoteFrom (protocol : GoString) : List GoString → GoString × Int × GoString
  | [] => ([], 0, protocol)
  | rawLine :: rest =>
    let line := trimSpace rawLine
    if line = [] ∨ hasPrefix line (lit "#") ∨ hasPrefix line (lit ";") then
      parseRemoteFrom protocol rest
    else
      match fields line with
      | [] => parseRemoteFrom protocol rest
      | first :: args =>
        let name := trimPrefix (toLower first) (lit "--")
        let protocol := match args with
          | value :: _ => if name = lit "proto" then normalizeProtocol value else protocol
          | [] => protocol
        match args with
        | host :: port :: more =>
          if name = lit "remote" then
            (trimSet (lit "\"'") host, (atoi port).1, match more with
              | value :: _ => normalizeProtocol value
              | [] => protocol)
          else parseRemoteFrom protocol rest
        | _ => parseRemoteFrom protocol rest

def parseRemote (configText : GoString) : GoString × Int × GoString :=
  parseRemoteFrom (lit "unknown") (split '\n' configText)

def safeInt (value : GoString) : Int :=
  match atoi (trimSpace value) with
  | (n, none) => n
  | (_, some _) => 0

def isPrivateOrLoopback (ip : IP) : Bool := ip.isLoopback || ip.isPrivate || ip.isUnspecified

/-- The characters that `unsafeID` does not match. -/
def isSafeID : Rune → Bool
  | .scalar c =>
    ('A' ≤ c && c ≤ 'Z') || ('a' ≤ c && c ≤ 'z') || ('0' ≤ c && c ≤ '9') || c == '_' || c == '.' ||
      c == '-'
  | .invalid _ => false

/-- Each run of unsafe characters becomes one underscore; `inRun` tells that the run has
its underscore. -/
def replaceUnsafe (inRun : Bool) : GoString → GoString
  | [] => []
  | r :: rest =>
    if isSafeID r then r :: replaceUnsafe false rest
    else if inRun then replaceUnsafe true rest
    else .scalar '_' :: replaceUnsafe true rest

def endpointID (countryCode : GoString) (ip : IP) (port : Int) (protocol : GoString) : GoString :=
  trimSet (lit "_") (replaceUnsafe false
    (countryCode ++ lit "_" ++ ip.string ++ lit "_" ++ itoa port ++ lit "_" ++ protocol))

/-- The columns of the header by name; a later column replaces an earlier one. -/
def columnIndex (header : List GoString) (name : GoString) : Option Nat :=
  (header.zipIdx.reverse.find? fun p => trimPrefix (trimSpace p.1) (lit "#") = name).map (·.2)

/-- The closure `value` of `rowToNode`. -/
def columnValue (row : List GoString) (index : GoString → Option Nat) (name : GoString) :
    GoString :=
  match (index name).bind (row[·]?) with
  | some field => trimSpace field
  | none => []

def countryOrUnknown (code : GoString) : GoString := if code = [] then lit "XX" else code

def rowToNode (row : List GoString) (index : GoString → Option Nat) : Option VpnNode := do
  let value := columnValue row index
  let publicIP ← parseIP (value (lit "IP"))
  if !publicIP.isGlobalUnicast || isPrivateOrLoopback publicIP then none
  else
    let decoded ← decodeConfig (value (lit "OpenVPN_ConfigData_Base64"))
    let (remoteHost, remotePort, protocol) := parseRemote decoded
    let remoteIP ← parseIP remoteHost
    if remoteIP ≠ publicIP ∨ remotePort < 1 ∨ 65535 < remotePort then none
    else if protocol ≠ lit "tcp" ∧ protocol ≠ lit "udp" then none
    else
      let countryCode := countryOrUnknown (toUpper (value (lit "CountryShort")))
      some
        { id := endpointID countryCode publicIP remotePort protocol
          ip := publicIP.string
          remoteHost := remoteIP.string
          remotePort := remotePort
          protocol := protocol
          countryCode := countryCode
          country := value (lit "CountryLong")
          score := safeInt (value (lit "Score"))
          advertisedPingMS := safeInt (value (lit "Ping"))
          speedBPS := safeInt (value (lit "Speed"))
          sessions := safeInt (value (lit "NumVpnSessions"))
          purityGrade := .candidate
          status := .unknown
          openVPNConfig := decoded }

/-- The loop over the rows, with the IDs seen so far. -/
def collectNodes (index : GoString → Option Nat) (seen : List GoString) :
    List (List GoString) → List VpnNode
  | [] => []
  | row :: rest =>
    match rowToNode row index with
    | none => collectNodes index seen rest
    | some node =>
      if node.id ∈ seen then collectNodes index seen rest
      else node :: collectNodes index (node.id :: seen) rest

/-- `ParseVPNGateCSV` once the records are read. -/
def parseRecords (rows : List (List GoString)) : Except GoString (List VpnNode) :=
  match rows with
  | header :: row :: rest =>
    let index := columnIndex header
    if index (lit "IP") = none then .error (lit "vpngate CSV missing IP")
    else if index (lit "OpenVPN_ConfigData_Base64") = none then
      .error (lit "vpngate CSV missing OpenVPN_ConfigData_Base64")
    else
      match collectNodes index [] (row :: rest) with
      | [] => .error (lit "vpngate CSV contains no safe public OpenVPN nodes")
      | node :: nodes => .ok (node :: nodes)
  | _ => .error (lit "vpngate CSV has no rows")

def words (rawLine : GoString) : List GoString :=
  let line := trimSpace rawLine
  if line = [] ∨ hasPrefix line (lit "#") ∨ hasPrefix line (lit ";") then [] else fields line

/-- The line as a remote directive: host, port and the protocol it may name. -/
def remoteDirective (rawLine : GoString) : Option (GoString × GoString × Option GoString) :=
  match words rawLine with
  | first :: host :: port :: more =>
    if trimPrefix (toLower first) (lit "--") = lit "remote" then some (host, port, more.head?)
    else none
  | _ => none

def protoDirective (rawLine : GoString) : Option GoString :=
  match words rawLine with
  | first :: value :: _ =>
    if trimPrefix (toLower first) (lit "--") = lit "proto" then some (normalizeProtocol value)
    else none
  | _ => none

def protoInForce (protocol : GoString) (lines : List GoString) : GoString :=
  ((lines.takeWhile fun l => (remoteDirective l).isNone).filterMap protoDirective).getLast?.getD
    protocol

theorem protoInForce_cons {protocol rawLine : GoString} {rest : List GoString}
    (h : remoteDirective rawLine = none) :
    protoInForce protocol (rawLine :: rest) =
      protoInForce ((protoDirective rawLine).getD protocol) rest := by
  unfold protoInForce
  rw [List.takeWhile_cons_of_pos (by simp [h]), List.filterMap_cons]
  cases protoDirective rawLine with
  | none => rfl
  | some value => simp [List.getLast?_cons]

/-- The lines that are no remote directive only set the protocol. -/
theorem parseRemoteFrom_cons {protocol rawLine : GoString} {rest : List GoString}
    (h : remoteDirective rawLine = none) :
    parseRemoteFrom protocol (rawLine :: rest) =
      parseRemoteFrom ((protoDirective rawLine).getD protocol) rest := by
  unfold remoteDirective protoDirective words at *
  rw [parseRemoteFrom]
  simp only [] at h ⊢
  split_ifs at h ⊢ with hblank
  · rfl
  · rcases hf : fields (trimSpace rawLine) with - | ⟨first, - | ⟨host, - | ⟨port, more⟩⟩⟩ <;>
      simp only [hf] at h ⊢
    · rfl
    · rfl
    · split_ifs <;> rfl
    · simp only [ite_eq_right_iff, reduceCtorEq, imp_false] at h
      rw [if_neg h]
      split_ifs <;> rfl

theorem parseRemoteFrom_remote {protocol rawLine host port : GoString} {explicit : Option GoString}
    {rest : List GoString} (h : remoteDirective rawLine = some (host, port, explicit)) :
    parseRemoteFrom protocol (rawLine :: rest) =
      (trimSet (lit "\"'") host, (atoi port).1,
        (explicit.map normalizeProtocol).getD protocol) := by
  unfold remoteDirective words at h
  rw [parseRemoteFrom]
  simp only [] at h ⊢
  split_ifs at h ⊢ with hblank
  rcases hf : fields (trimSpace rawLine) with - | ⟨first, - | ⟨a, - | ⟨b, more⟩⟩⟩ <;>
    simp only [hf, reduceCtorEq] at h
  split_ifs at h with hname
  obtain ⟨rfl, rfl, rfl⟩ : a = host ∧ b = port ∧ more.head? = explicit := by simpa using h
  have hproto : lit "remote" ≠ lit "proto" := by decide
  cases more with
  | nil => simp [hname, hproto]
  | cons value more => simp [hname]

/-- `parseRemote` in terms of the first remote directive. -/
theorem parseRemoteFrom_eq (protocol : GoString) (lines : List GoString) :
    parseRemoteFrom protocol lines =
      match lines.findSome? remoteDirective with
      | some (host, port, explicit) => (trimSet (lit "\"'") host, (atoi port).1,
          (explicit.map normalizeProtocol).getD (protoInForce protocol lines))
      | none => ([], 0, protoInForce protocol lines) := by
  induction lines generalizing protocol with
  | nil => rfl
  | cons rawLine rest ih =>
    rw [List.findSome?_cons]
    cases h : remoteDirective rawLine with
    | none => rw [parseRemoteFrom_cons h, ih, protoInForce_cons h]
    | some directive =>
      obtain ⟨host, port, explicit⟩ := directive
      rw [parseRemoteFrom_remote h]
      simp [protoInForce, h]

def acceptedNode (value : GoString → GoString) (ip : IP) (decoded : GoString) : VpnNode :=
  let countryCode := countryOrUnknown (toUpper (value (lit "CountryShort")))
  { id := endpointID countryCode ip (parseRemote decoded).2.1 (parseRemote decoded).2.2
    ip := ip.string
    remoteHost := ip.string
    remotePort := (parseRemote decoded).2.1
    protocol := (parseRemote decoded).2.2
    countryCode := countryCode
    country := value (lit "CountryLong")
    score := safeInt (value (lit "Score"))
    advertisedPingMS := safeInt (value (lit "Ping"))
    speedBPS := safeInt (value (lit "Speed"))
    sessions := safeInt (value (lit "NumVpnSessions"))
    purityGrade := .candidate
    status := .unknown
    openVPNConfig := decoded }

structure Accepted (row : List GoString) (index : GoString → Option Nat) (ip : IP)
    (decoded : GoString) : Prop where
  address : parseIP (columnValue row index (lit "IP")) = some ip
  global : ip.isGlobalUnicast = true
  notPrivate : isPrivateOrLoopback ip = false
  profile : decodeConfig (columnValue row index (lit "OpenVPN_ConfigData_Base64")) = some decoded
  host : parseIP (parseRemote decoded).1 = some ip
  portRange : 1 ≤ (parseRemote decoded).2.1 ∧ (parseRemote decoded).2.1 ≤ 65535
  known : (parseRemote decoded).2.2 = lit "tcp" ∨ (parseRemote decoded).2.2 = lit "udp"

theorem rowToNode_accepted {row : List GoString} {index : GoString → Option Nat} {node : VpnNode}
    (h : rowToNode row index = some node) :
    ∃ ip decoded, Accepted row index ip decoded ∧
      node = acceptedNode (columnValue row index) ip decoded := by
  simp only [rowToNode, Option.bind_eq_bind, Option.bind_eq_some_iff] at h
  obtain ⟨publicIP, haddress, h⟩ := h
  split_ifs at h with hpublic
  obtain ⟨decoded, hdecoded, h⟩ := Option.bind_eq_some_iff.mp h
  obtain ⟨remoteIP, hremote, h⟩ := Option.bind_eq_some_iff.mp h
  split_ifs at h with hendpoint hprotocol
  obtain rfl := Option.some.inj h
  simp only [not_or, not_lt, ne_eq, not_not] at hendpoint
  obtain ⟨rfl, hports⟩ := hendpoint
  rw [not_and_or, not_ne_iff, not_ne_iff] at hprotocol
  simp only [Bool.or_eq_true, Bool.not_eq_true', not_or, Bool.not_eq_false,
    Bool.not_eq_true] at hpublic
  exact ⟨remoteIP, decoded,
    ⟨haddress, hpublic.1, hpublic.2, hdecoded, hremote, hports, hprotocol⟩, rfl⟩

/-- What an accepted row guarantees: the node carries the endpoint that `parseRemote`
found in its profile. -/
structure Validated (node : VpnNode) (ip : IP) : Prop where
  host : parseIP (parseRemote node.openVPNConfig).1 = some ip
  remoteHost : node.remoteHost = ip.string
  remotePort : node.remotePort = (parseRemote node.openVPNConfig).2.1
  portRange : 1 ≤ node.remotePort ∧ node.remotePort ≤ 65535
  protocol : node.protocol = (parseRemote node.openVPNConfig).2.2
  known : node.protocol = lit "tcp" ∨ node.protocol = lit "udp"
  id : node.id = endpointID node.countryCode ip node.remotePort node.protocol

theorem rowToNode_validated {row : List GoString} {index : GoString → Option Nat}
    {node : VpnNode} (h : rowToNode row index = some node) : ∃ ip, Validated node ip := by
  obtain ⟨ip, decoded, hrow, rfl⟩ := rowToNode_accepted h
  exact ⟨ip, hrow.host, rfl, rfl, hrow.portRange, rfl, hrow.known, rfl⟩

section Identifiers

theorem replaceUnsafe_append (inRun : Bool) (s t : GoString) :
    ∃ inRun', replaceUnsafe inRun (s ++ t) = replaceUnsafe inRun s ++ replaceUnsafe inRun' t := by
  induction s generalizing inRun with
  | nil => exact ⟨inRun, rfl⟩
  | cons r s ih =>
    simp only [List.cons_append, replaceUnsafe]
    split_ifs with hr hrun
    · exact (ih false).imp fun _ heq => by rw [heq, List.cons_append]
    · exact ih true
    · exact (ih true).imp fun _ heq => by rw [heq, List.cons_append]

theorem mem_dropWhile_of_not {p : Rune → Bool} {s : GoString} {r : Rune} (hr : p r = false)
    (h : r ∈ s) : r ∈ s.dropWhile p := by
  induction s with
  | nil => simp at h
  | cons a s ih =>
    rw [List.dropWhile_cons]
    split_ifs with ha
    · rcases List.mem_cons.mp h with rfl | hm
      · simp [hr] at ha
      · exact ih hm
    · exact h

theorem mem_trimSet {cut s : GoString} {r : Rune} (hr : r ∉ cut) (h : r ∈ s) :
    r ∈ trimSet cut s := by
  have hcut : cut.contains r = false := by simpa using hr
  unfold trimSet List.rdropWhile
  rw [List.mem_reverse]
  refine mem_dropWhile_of_not hcut (List.mem_reverse.mpr ?_)
  exact mem_dropWhile_of_not hcut h

/-- The protocol at the end of an ID survives the replacement and the trimming. -/
theorem endpointID_ne_nil {countryCode protocol : GoString} {ip : IP} {port : Int}
    (h : protocol = lit "tcp" ∨ protocol = lit "udp") :
    endpointID countryCode ip port protocol ≠ [] := by
  unfold endpointID
  obtain ⟨inRun, heq⟩ := replaceUnsafe_append false
    (countryCode ++ lit "_" ++ ip.string ++ lit "_" ++ itoa port ++ lit "_") protocol
  have hp : (.scalar 'p' : Rune) ∈ replaceUnsafe inRun protocol := by
    rcases h with rfl | rfl <;> cases inRun <;> decide
  rw [heq]
  exact List.ne_nil_of_mem (mem_trimSet (by decide) (List.mem_append_right _ hp))

end Identifiers

variable {index : GoString → Option Nat}

theorem mem_collectNodes {rows : List (List GoString)} {seen : List GoString} {node : VpnNode}
    (h : node ∈ collectNodes index seen rows) :
    node.id ∉ seen ∧ ∃ row ∈ rows, rowToNode row index = some node := by
  induction rows generalizing seen with
  | nil => simp [collectNodes] at h
  | cons row rest ih =>
    rw [collectNodes] at h
    split at h
    · exact (ih h).imp_right fun ⟨r, hr, heq⟩ => ⟨r, List.mem_cons_of_mem _ hr, heq⟩
    · next first hrow =>
      split_ifs at h with hseen
      · exact (ih h).imp_right fun ⟨r, hr, heq⟩ => ⟨r, List.mem_cons_of_mem _ hr, heq⟩
      · rcases List.mem_cons.mp h with rfl | hm
        · exact ⟨hseen, row, List.mem_cons_self, hrow⟩
        · obtain ⟨hnot, r, hr, heq⟩ := ih hm
          exact ⟨fun hmem => hnot (List.mem_cons_of_mem _ hmem), r, List.mem_cons_of_mem _ hr, heq⟩

theorem nodup_collectNodes (rows : List (List GoString)) (seen : List GoString) :
    (ids (collectNodes index seen rows)).Nodup := by
  induction rows generalizing seen with
  | nil => simp [collectNodes]
  | cons row rest ih =>
    rw [collectNodes]
    split
    · exact ih seen
    · next node _ =>
      split_ifs with hseen
      · exact ih seen
      · rw [ids_cons, List.nodup_cons]
        refine ⟨fun hmem => ?_, ih _⟩
        obtain ⟨other, hother, hid⟩ := mem_ids.mp hmem
        exact (mem_collectNodes hother).1 (hid ▸ List.mem_cons_self)

/-- A list is accepted if both columns are there and a node is collected. -/
theorem parseRecords_eq_ok {header : List GoString} {rows : List (List GoString)} {nodes : List VpnNode} :
    parseRecords (header :: rows) = .ok nodes ↔
      columnIndex header (lit "IP") ≠ none ∧
        columnIndex header (lit "OpenVPN_ConfigData_Base64") ≠ none ∧
        collectNodes (columnIndex header) [] rows = nodes ∧ nodes ≠ [] := by
  cases rows with
  | nil =>
    simp only [parseRecords, collectNodes, reduceCtorEq, ne_eq, false_iff, not_and, not_not]
    rintro - - rfl
    rfl
  | cons row rest =>
    simp only [parseRecords]
    split_ifs with hip hconfig
    · simp [hip]
    · simp [hconfig]
    · cases hnodes : collectNodes (columnIndex header) [] (row :: rest) with
      | nil =>
        simp only [reduceCtorEq, ne_eq, false_iff, not_and, not_not]
        rintro - - rfl
        rfl
      | cons node tail =>
        simp only [Except.ok.injEq]
        constructor
        · rintro rfl
          exact ⟨hip, hconfig, rfl, List.cons_ne_nil _ _⟩
        · exact fun h => h.2.2.1

theorem parseRecords_ok {rows : List (List GoString)} {nodes : List VpnNode}
    (h : parseRecords rows = .ok nodes) :
    ∃ header rest, rows = header :: rest ∧ collectNodes (columnIndex header) [] rest = nodes := by
  cases rows with
  | nil => cases h
  | cons header rest => exact ⟨header, rest, rfl, (parseRecords_eq_ok.mp h).2.2.1⟩

theorem parseRecords_cache {rows : List (List GoString)} {nodes : List VpnNode}
    (h : parseRecords rows = .ok nodes) : ∃ cache : NodeCache, cache.nodes = nodes := by
  obtain ⟨header, rest, -, hnodes⟩ := parseRecords_ok h
  refine ⟨⟨nodes, hnodes ▸ nodup_collectNodes _ _, ?_⟩, rfl⟩
  intro hmem
  obtain ⟨node, hnode, hid⟩ := mem_ids.mp hmem
  rw [← hnodes] at hnode
  obtain ⟨-, r, -, hrow⟩ := mem_collectNodes hnode
  obtain ⟨ip, hv⟩ := rowToNode_validated hrow
  exact endpointID_ne_nil hv.known (hv.id.symm.trans hid)

theorem mem_parseRecords {rows : List (List GoString)} {nodes : List VpnNode} {node : VpnNode}
    (h : parseRecords rows = .ok nodes) (hn : node ∈ nodes) :
    ∃ row index, rowToNode row index = some node := by
  obtain ⟨header, rest, -, rfl⟩ := parseRecords_ok h
  obtain ⟨-, row, -, hrow⟩ := mem_collectNodes hn
  exact ⟨row, columnIndex header, hrow⟩

/-- No address can be read from an empty profile. -/
theorem rowToNode_profile {row : List GoString} {node : VpnNode}
    (h : rowToNode row index = some node) : node.openVPNConfig ≠ [] := by
  obtain ⟨ip, hv⟩ := rowToNode_validated h
  intro hempty
  have hhost := hv.host
  rw [hempty] at hhost
  have hnone : parseIP (parseRemote []).1 = none := by decide
  simp [hnone] at hhost

theorem rowToNode_cooldownUntil {row : List GoString} {node : VpnNode}
    (h : rowToNode row index = some node) : node.cooldownUntil = none := by
  obtain ⟨ip, decoded, -, rfl⟩ := rowToNode_accepted h
  rfl

/-- `Fetch` once the records are read: they are parsed and the list is cut. -/
def fetch (maxNodes : Int) (answer : Except GoString (List (List GoString))) :
    Except GoString (List VpnNode) :=
  match answer with
  | .error err => .error err
  | .ok rows =>
    match parseRecords rows with
    | .error err => .error err
    | .ok nodes =>
      .ok (if 0 < maxNodes ∧ maxNodes < nodes.length then nodes.take maxNodes.toNat else nodes)

theorem mem_fetch {maxNodes : Int} {answer : Except GoString (List (List GoString))}
    {nodes : List VpnNode} {node : VpnNode} (h : fetch maxNodes answer = .ok nodes)
    (hn : node ∈ nodes) : ∃ row index, rowToNode row index = some node := by
  unfold fetch at h
  split at h
  · cases h
  · split at h
    · cases h
    · next heq =>
      obtain rfl := Except.ok.inj h
      split_ifs at hn
      · exact mem_parseRecords heq (List.mem_of_mem_take hn)
      · exact mem_parseRecords heq hn

theorem fetch_cache {maxNodes : Int} {answer : Except GoString (List (List GoString))}
    {nodes : List VpnNode} (h : fetch maxNodes answer = .ok nodes) :
    ∃ cache : NodeCache, cache.nodes = nodes := by
  unfold fetch at h
  split at h
  · cases h
  · split at h
    · cases h
    · next parsed heq =>
      obtain rfl := Except.ok.inj h
      obtain ⟨cache, rfl⟩ := parseRecords_cache heq
      split_ifs
      · have hsub : (ids (cache.nodes.take maxNodes.toNat)).Sublist (ids cache.nodes) :=
          (List.take_sublist _ _).map _
        exact ⟨⟨_, cache.nodup.sublist hsub, fun hmem => cache.named (hsub.subset hmem)⟩, rfl⟩
      · exact ⟨cache, rfl⟩

end ResidentialIPManager.Source
