import ResidentialIPManager.Source.VPNGate
import ResidentialIPManager.Tunnel.OptionEffects

/-! # The endpoint that is validated and the endpoint that is dialed

A row is validated against the first remote directive of its profile, read leniently.
The option reader dials the last remote line among those the sanitizer keeps, read
strictly. Both characterisations are exact, so the two endpoints agree exactly for the
profiles whose first and last remote lines say the same.
-/
namespace ResidentialIPManager.Tunnel
open Text Domain

structure OpenVPNConfig where
  username : GoString := lit "vpn"
  password : GoString := lit "vpn"

def valueOr (value fallback : GoString) : GoString := if value = [] then fallback else value

/-- `connect` up to its check of the remote. Creating the directory and writing the file
succeed. -/
def profileOptions (cfg : OpenVPNConfig) (files : Files) (node : VpnNode) :
    Except Fault OpenVPNOptions :=
  if node.openVPNConfig = [] then
    .error (.error (lit "node does not contain OpenVPN config"))
  else
    match sanitizeOpenVPNConfig node.openVPNConfig with
    | .error message => .error (.error message)
    | .ok cleaned =>
      match readConfigFile files cleaned with
      | .error (.error message) => .error (.error (lit "parse VPNGate profile: " ++ message))
      | .error (.crash message) => .error (.crash message)
      | .ok options =>
        if options.remote = [] ∨ options.port = [] then
          .error (.error (lit "VPNGate profile does not contain a valid remote"))
        else
          .ok { options with
            username := valueOr cfg.username (lit "vpn")
            password := valueOr cfg.password (lit "vpn") }

def connectOptions (cfg : OpenVPNConfig) (files : Files) (node : VpnNode) :
    Except Fault OpenVPNOptions :=
  match profileOptions cfg files node with
  | .error fault => .error fault
  | .ok options =>
    if options.cipher = [] then
      .error (.error (lit "VPNGate profile does not declare a supported cipher"))
    else if options.auth = [] then
      .error (.error (lit "VPNGate profile does not declare a supported auth digest"))
    else if !options.hasAuthInfo then
      .error (.error (lit "VPNGate profile does not contain usable credentials or certificates"))
    else .ok options

/-- What passes the later checks is what the profile says. -/
theorem profileOptions_of_connectOptions {cfg : OpenVPNConfig} {files : Files} {node : VpnNode}
    {options : OpenVPNOptions} (h : connectOptions cfg files node = .ok options) :
    profileOptions cfg files node = .ok options := by
  unfold connectOptions at h
  split at h
  · cases h
  · split_ifs at h
    cases h
    assumption

/-- The reader's view of a line: whether it is then inside a block, and the line itself
if it is dispatched. -/
def dispatched (inBlock : Bool) (l : GoString) : Bool × Option GoString :=
  if hasPrefix l (lit "#") then (inBlock, none)
  else if isClosingTag (trimSpace l) then (false, none)
  else if inBlock then (true, none)
  else if (openingTag (trimSpace l)).isSome then (true, none)
  else (false, some (trimSpace l))

def directiveLines (inBlock : Bool) : List GoString → List GoString
  | [] => []
  | l :: rest =>
    (dispatched inBlock l).2.toList ++ directiveLines (dispatched inBlock l).1 rest

def remoteLine (l : GoString) : Option (GoString × GoString) :=
  match split ' ' l with
  | [key, host, port] => if key = lit "remote" then some (host, port) else none
  | _ => none

def protoLine (l : GoString) : Option Proto :=
  match split ' ' l with
  | [key, m] =>
    if key = lit "proto" then
      if m = lit "udp" then some .udp else if m = lit "tcp" then some .tcp else none
    else none
  | _ => none

def lastRemote (lines : List GoString) : Option (GoString × GoString) :=
  (lines.filterMap remoteLine).getLast?

def lastProto (lines : List GoString) : Proto := ((lines.filterMap protoLine).getLast?).getD .tcp

/-- The last remote line the reader dispatches names the address and the port of the
first remote directive, under the same protocol. -/
def sameEndpoint (configText : GoString) : Bool :=
  let lines := split '\n' configText
  let read := directiveLines false (sanitizedLines configText)
  match lines.findSome? Source.remoteDirective, lastRemote read with
  | some (host, port, explicit), some (host', port') =>
    decide (parseIP host' = parseIP (trimSet (lit "\"'") host)) &&
      decide (atoi port' = ((atoi port).1, none)) &&
      decide ((lastProto read).string =
        (explicit.map Source.normalizeProtocol).getD (Source.protoInForce (lit "unknown") lines))
  | _, _ => false

section Reading

variable {files : Files} {o o' : OpenVPNOptions} {p : List GoString}

theorem parseInlineTag_sameRemote {tag : Option InlineTag} {buf : GoString}
    (h : parseInlineTag o tag buf = .ok o') : SameRemote o o' := by
  unfold parseInlineTag at h
  split_ifs at h
  split at h <;> cases h <;> exact ⟨rfl, rfl⟩

structure Follows (o : OpenVPNOptions) (l : GoString) (o' : OpenVPNOptions) : Prop where
  remote : (o'.remote, o'.port) = (remoteLine l).getD (o.remote, o.port)
  proto : o'.proto = (protoLine l).getD o.proto

theorem Follows.of_other {l key : GoString} (hl : split ' ' l = key :: p)
    (hr : key ≠ lit "remote") (hp : key ≠ lit "proto") (h : SameRemote o o') :
    Follows o l o' := by
  have hremote : remoteLine l = none := by
    unfold remoteLine
    rw [hl]
    split
    · next heq =>
      obtain ⟨rfl, -⟩ := List.cons.inj heq
      exact if_neg hr
    · rfl
  have hproto : protoLine l = none := by
    unfold protoLine
    rw [hl]
    split
    · next heq =>
      obtain ⟨rfl, -⟩ := List.cons.inj heq
      exact if_neg hp
    · rfl
  exact ⟨by rw [hremote]; exact h.1, by rw [hproto]; exact h.2⟩

theorem parseRemote_follows {l : GoString} (hl : split ' ' l = lit "remote" :: p)
    (h : parseRemote p o = .ok o') : Follows o l o' := by
  unfold parseRemote at h
  split at h
  · cases h
    exact ⟨by simp [remoteLine, hl], by simp [protoLine, hl]⟩
  · cases h

theorem parseProto_follows {l : GoString} (hl : split ' ' l = lit "proto" :: p)
    (h : parseProto p o = .ok o') : Follows o l o' := by
  unfold parseProto at h
  split at h
  · split_ifs at h with hudp htcp
    · cases h
      exact ⟨by simp [remoteLine, hl], by simp [protoLine, hl, hudp]⟩
    · cases h
      have hne : lit "tcp" ≠ lit "udp" := by decide
      exact ⟨by simp [remoteLine, hl], by simp [protoLine, hl, htcp, hne]⟩
  · cases h

theorem parseOption_follows {l key : GoString} (hl : split ' ' l = key :: p)
    (h : parseOption files o key p = .ok o') : Follows o l o' := by
  by_cases hproto : key = lit "proto"
  · rw [parseOption, if_pos hproto] at h
    exact parseProto_follows (hproto ▸ hl) h
  by_cases hremote : key = lit "remote"
  · rw [parseOption, if_neg hproto, if_pos hremote] at h
    exact parseRemote_follows (hremote ▸ hl) h
  · have hother := (effect_parseOption_aside files p hproto hremote).rel h
    exact .of_other hl hremote hproto hother.sameRemote

theorem readLine_follows {k k' : Reading} {l : GoString} (h : readLine files k l = .ok k') :
    (dispatched k.tag.isSome l).1 = k'.tag.isSome ∧
      ((dispatched k.tag.isSome l).2 = none ∧ SameRemote k.options k'.options ∨
        ∃ line, (dispatched k.tag.isSome l).2 = some line ∧ Follows k.options line k'.options) := by
  unfold readLine at h
  unfold dispatched
  by_cases hcomment : hasPrefix l (lit "#") = true
  · rw [if_pos hcomment] at h ⊢
    cases h
    exact ⟨rfl, .inl ⟨rfl, rfl, rfl⟩⟩
  rw [if_neg hcomment] at h ⊢
  by_cases hclose : isClosingTag (trimSpace l) = true
  · simp only [if_pos hclose] at h
    rw [if_pos hclose]
    cases hinline : parseInlineTag k.options k.tag k.inlineBuf with
    | error fault => simp [hinline, Except.map] at h
    | ok o =>
      rw [hinline] at h
      cases h
      exact ⟨rfl, .inl ⟨rfl, parseInlineTag_sameRemote hinline⟩⟩
  simp only [if_neg hclose] at h ⊢
  cases htag : k.tag with
  | some tag =>
    simp only [htag] at h
    cases h
    exact ⟨by simp, .inl ⟨rfl, rfl, rfl⟩⟩
  | none =>
    simp only [htag] at h
    cases hopen : openingTag (trimSpace l) with
    | some tag =>
      simp only [hopen] at h
      split_ifs at h
      cases h
      exact ⟨rfl, .inl ⟨rfl, rfl, rfl⟩⟩
    | none =>
      simp only [hopen] at h
      cases hparts : split ' ' (trimSpace l) with
      | nil => exact absurd hparts (List.splitOn_ne_nil _ _)
      | cons key parts =>
        simp only [hparts] at h
        cases hoption : parseOption files k.options key parts with
        | error fault => simp [hoption, Except.map] at h
        | ok o =>
          rw [hoption] at h
          cases h
          exact ⟨by simp, .inr ⟨_, rfl, parseOption_follows hparts hoption⟩⟩

theorem getD_getLast?_filterMap_append {α β : Type} (f : α → Option β) (l : Option α)
    (rest : List α) (d : β) :
    ((l.toList ++ rest).filterMap f).getLast?.getD d =
      (rest.filterMap f).getLast?.getD ((l.bind f).getD d) := by
  rw [List.filterMap_append, List.getLast?_append]
  cases l with
  | none => simp
  | some a => cases hf : f a <;> cases (rest.filterMap f).getLast? <;> simp [hf]

/-- The reader ends with the last remote line and the last proto line. -/
theorem readFrom_last {k : Reading} {lines : List GoString} (h : readFrom files k lines = .ok o) :
    (o.remote, o.port) = (lastRemote (directiveLines k.tag.isSome lines)).getD
        (k.options.remote, k.options.port) ∧
      o.proto = ((directiveLines k.tag.isSome lines).filterMap protoLine).getLast?.getD
        k.options.proto := by
  induction lines generalizing k with
  | nil =>
    cases h
    exact ⟨rfl, rfl⟩
  | cons l rest ih =>
    rw [readFrom] at h
    split at h
    · next k' hline =>
      obtain ⟨htag, hcases⟩ := readLine_follows hline
      obtain ⟨hremote, hproto⟩ := ih h
      rw [hremote, hproto]
      unfold lastRemote
      rw [directiveLines, getD_getLast?_filterMap_append, getD_getLast?_filterMap_append, htag]
      rcases hcases with ⟨hnone, hsame⟩ | ⟨line, hsome, hfollows⟩
      · rw [hnone, Option.bind_none, Option.bind_none, Option.getD_none, Option.getD_none, hsame.1,
          hsame.2]
        exact ⟨rfl, rfl⟩
      · rw [hsome, Option.bind_some, Option.bind_some, hfollows.remote, hfollows.proto]
        exact ⟨rfl, rfl⟩
    · cases h

end Reading

theorem profileOptions_last {cfg : OpenVPNConfig} {files : Files} {node : VpnNode}
    {options : OpenVPNOptions} (h : profileOptions cfg files node = .ok options) :
    lastRemote (directiveLines false (sanitizedLines node.openVPNConfig)) =
        some (options.remote, options.port) ∧
      options.proto = lastProto (directiveLines false (sanitizedLines node.openVPNConfig)) := by
  unfold profileOptions at h
  split_ifs at h
  split at h
  · cases h
  · next cleaned hclean =>
    split at h
    · cases h
    · cases h
    · next read hread =>
      split_ifs at h with hempty
      cases h
      rw [not_or] at hempty
      unfold readConfigFile at hread
      split at hread
      · next lines hlines =>
        rw [getLinesFromFile_sanitized hclean hlines] at hread
        obtain ⟨hremote, hproto⟩ := readFrom_last hread
        refine ⟨?_, hproto⟩
        cases hlast : lastRemote (directiveLines false (sanitizedLines node.openVPNConfig)) with
        | none => simp_all
        | some endpoint => simp_all
      · cases hread

/-- The endpoint that `connect` dials is the one the row was validated against. -/
structure DialsValidated (node : VpnNode) (options : OpenVPNOptions) : Prop where
  host : ∃ ip, parseIP node.remoteHost = some ip ∧ parseIP options.remote = some ip
  port : atoi options.port = (node.remotePort, none)
  proto : options.proto.string = node.protocol

theorem validated_directive {node : VpnNode} {ip : IP} (h : Source.Validated node ip) :
    ∃ host port explicit,
      (split '\n' node.openVPNConfig).findSome? Source.remoteDirective =
        some (host, port, explicit) ∧
      parseIP (trimSet (lit "\"'") host) = some ip ∧ node.remotePort = (atoi port).1 ∧
      node.protocol = (explicit.map Source.normalizeProtocol).getD
        (Source.protoInForce (lit "unknown") (split '\n' node.openVPNConfig)) := by
  have hhost := h.host
  have hport := h.remotePort
  have hproto := h.protocol
  unfold Source.parseRemote at hhost hport hproto
  rw [Source.parseRemoteFrom_eq] at hhost hport hproto
  cases hfirst : (split '\n' node.openVPNConfig).findSome? Source.remoteDirective with
  | none =>
    rw [hfirst] at hhost
    cases hhost
  | some directive =>
    rw [hfirst] at hhost hport hproto
    exact ⟨directive.1, directive.2.1, directive.2.2, rfl, hhost, hport, hproto⟩

/-- For every accepted row whose profile is read, the dialed endpoint is the validated one
exactly if the first remote directive and the last lines of the reader say the same. -/
theorem dialsValidated_iff {row : List GoString} {index : GoString → Option Nat} {node : VpnNode}
    {cfg : OpenVPNConfig} {files : Files} {options : OpenVPNOptions}
    (hrow : Source.rowToNode row index = some node)
    (hread : profileOptions cfg files node = .ok options) :
    DialsValidated node options ↔ sameEndpoint node.openVPNConfig = true := by
  obtain ⟨ip, hvalid⟩ := Source.rowToNode_validated hrow
  obtain ⟨host, port, explicit, hfirst, hip, hport, hproto⟩ := validated_directive hvalid
  obtain ⟨hlast, hlastProto⟩ := profileOptions_last hread
  have hnode : parseIP node.remoteHost = some ip := by rw [hvalid.remoteHost, IP.parseIP_string]
  unfold sameEndpoint
  simp only [hfirst, hlast, hip, ← hport, ← hproto, ← hlastProto, Bool.and_eq_true,
    decide_eq_true_eq]
  constructor
  · rintro ⟨⟨ip', hnode', hdialed⟩, hp, hpr⟩
    obtain rfl : ip = ip' := Option.some.inj (hnode.symm.trans hnode')
    exact ⟨⟨hdialed, hp⟩, hpr⟩
  · rintro ⟨⟨hdialed, hp⟩, hpr⟩
    exact ⟨⟨ip, hnode, hdialed⟩, hp, hpr⟩

/-- The columns of the VPNGate list, and a row with the given profile. -/
def vpngateHeader : List GoString :=
  [lit "HostName", lit "IP", lit "Score", lit "Ping", lit "Speed", lit "CountryLong",
    lit "CountryShort", lit "NumVpnSessions", lit "Uptime", lit "TotalUsers", lit "TotalTraffic",
    lit "LogType", lit "Operator", lit "Message", lit "OpenVPN_ConfigData_Base64"]

def vpngateRow (profile : GoString) : List GoString :=
  [lit "public-vpn-1", lit "1.1.1.1", lit "900000", lit "12", lit "80000000", lit "Japan",
    lit "JP", lit "25", lit "86400", lit "1200", lit "123456789", lit "2weeks", lit "host", [],
    profile]

def noFiles : Files := ⟨fun _ => .missing, fun _ => .error (.error (lit "no such file"))⟩

/-- Two encoded profiles: `proto tcp`, `remote 1.1.1.1 443`, `cipher AES-128-CBC` and
`auth SHA1`, and the same with `remote 10.0.0.1 22` as fifth line. -/
def oneRemote : GoString :=
  lit "cHJvdG8gdGNwCnJlbW90ZSAxLjEuMS4xIDQ0MwpjaXBoZXIgQUVTLTEyOC1DQkMKYXV0aCBTSEExCg=="

def twoRemotes : GoString :=
  lit "cHJvdG8gdGNwCnJlbW90ZSAxLjEuMS4xIDQ0MwpjaXBoZXIgQUVTLTEyOC1DQkMKYXV0aCBTSEEx" ++
    lit "CnJlbW90ZSAxMC4wLjAuMSAyMgo="

/-- A profile with one remote line is dialed where it was validated. -/
theorem dialsValidated_one_remote : ∃ node options,
    Source.rowToNode (vpngateRow oneRemote) (Source.columnIndex vpngateHeader) = some node ∧
    profileOptions {} noFiles node = .ok options ∧ DialsValidated node options := by
  have hall : ((Source.rowToNode (vpngateRow oneRemote)
      (Source.columnIndex vpngateHeader)).any fun node => sameEndpoint node.openVPNConfig &&
        (profileOptions {} noFiles node).toBool) = true := by decide +kernel
  obtain ⟨node, hrow, hnode⟩ := (Option.any_eq_true _ _).mp hall
  rw [Bool.and_eq_true] at hnode
  cases hread : profileOptions {} noFiles node with
  | error fault => simp [hread, Except.toBool] at hnode
  | ok options => exact ⟨node, options, hrow, hread, (dialsValidated_iff hrow hread).mpr hnode.1⟩

/-- The profile has a second remote line. The row is validated against the first, and
`connect`, with its other checks passed as well, dials the second: a private address. -/
theorem dials_second_remote :
    ¬ ∀ (row : List GoString) (index : GoString → Option Nat) (node : VpnNode)
      (cfg : OpenVPNConfig) (files : Files) (options : OpenVPNOptions),
      Source.rowToNode row index = some node → profileOptions cfg files node = .ok options →
      DialsValidated node options := by
  intro hclaim
  have hall : ((Source.rowToNode (vpngateRow twoRemotes)
      (Source.columnIndex vpngateHeader)).any fun node =>
        decide (node.remoteHost = lit "1.1.1.1") &&
        match connectOptions {} noFiles node with
        | .ok options => decide (options.remote = lit "10.0.0.1")
        | .error _ => false) = true := by decide +kernel
  obtain ⟨node, hrow, hnode⟩ := (Option.any_eq_true _ _).mp hall
  rw [Bool.and_eq_true, decide_eq_true_eq] at hnode
  obtain ⟨hhost, hoptions⟩ := hnode
  split at hoptions
  · next options hconnect =>
    have hread := profileOptions_of_connectOptions hconnect
    obtain ⟨ip, hnodeIP, hdialed⟩ := (hclaim _ _ _ _ _ _ hrow hread).host
    rw [hhost] at hnodeIP
    rw [of_decide_eq_true hoptions, ← hnodeIP] at hdialed
    exact absurd hdialed (by decide +kernel)
  · cases hoptions

end ResidentialIPManager.Tunnel
