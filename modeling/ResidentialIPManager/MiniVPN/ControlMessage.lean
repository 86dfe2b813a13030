import ResidentialIPManager.MiniVPN.Session
import ResidentialIPManager.Text.Encoding
import ResidentialIPManager.Text.Strings
import ResidentialIPManager.Tunnel.ProfileReader

/-! # Control messages

What the server says through the TLS session before there are keys for data: its key material and
options, and the options that it pushes. Option strings have their length in front and a zero byte
at the end. The length that a server announces is checked and then not used: the options are all
that comes behind it.
-/
namespace ResidentialIPManager.MiniVPN
open Bytes Text
open Tunnel (OpenVPNOptions Fault)

structure KeySource where
  r1 : List.Vector UInt8 32
  r2 : List.Vector UInt8 32
  preMaster : List.Vector UInt8 48

/-! ## Option strings -/

def decodeOptionError (message : GoString) : GoString := lit "can't decode option: " ++ message

def decodeOptionStringFromBytes : List UInt8 → Except GoString GoString
  | high :: low :: b =>
    let length := ofBigEndian [high, low]
    if b.length < length then
      .error (decodeOptionError (lit "got " ++ itoa b.length ++ lit ", expected " ++ itoa length))
    else if b.length = 0 ∨ length = 0 then
      .error (decodeOptionError (lit "zero length encoded option is not possible: " ++
        lit "we need at least one byte for the trailing \\0"))
    else if b[length - 1]? ≠ some 0 then
      .error (decodeOptionError (lit "missing trailing \\0"))
    else .ok (decodeUTF8 b.dropLast)
  | _ => .error (decodeOptionError (lit "expected at least two bytes"))

/-! ## The first message of each side -/

def controlMessageHeader : List UInt8 := [0, 0, 0, 0]

def parseServerControlMessage (message : List UInt8) : Except GoString (KeySource × GoString) :=
  if message.length < 4 then .error (lit "missing four-byte all-zero header")
  else if message.take 4 ≠ controlMessageHeader then
    .error (lit "expected four-byte all-zero header")
  else if h : message.length < 71 then
    .error (lit "cannot parse control message: bad len from server:" ++ itoa message.length)
  else
    have hkey : 4 < message.length := by omega
    let keyMethod := message[4]
    if keyMethod ≠ 2 then .error (lit "unsupported key method: " ++ itoa keyMethod.toNat)
    else match decodeOptionStringFromBytes (message.drop 69) with
      | .error _ => .error (lit "cannot parse control message:bad options string")
      | .ok options =>
        .ok ({ r1 := ⟨(message.drop 5).take 32, by simp; omega⟩
               r2 := ⟨(message.drop 37).take 32, by simp; omega⟩
               preMaster := zeroArray 48 }, options)

/-! ## Pushed options -/

/-- `remoteOptions`: the assignments to the map, in their order. -/
abbrev RemoteOptions := List (GoString × List GoString)

/-- What the map has under a key after all assignments; a key that is missing has no values. -/
def RemoteOptions.get (opts : RemoteOptions) (key : GoString) : List GoString :=
  ((opts.reverse.find? fun entry => entry.1 = key).map Prod.snd).getD []

/-- `pushedOptionsAsMap`. The last byte is taken for the terminator. -/
def pushedOptionsAsMap (pushedOptions : List UInt8) : RemoteOptions :=
  if pushedOptions = [] then []
  else (split ',' (decodeUTF8 pushedOptions.dropLast)).map fun opt =>
    match split ' ' opt with
    | [] => ([], [])
    | k :: v => (k, v)

def newTunnelInfoFromPushedOptions (opts : RemoteOptions) : TunnelInfo :=
  let gw := match opts.get (lit "route") with
    | r :: _ => r
    | [] => (opts.get (lit "route-gateway")).headD []
  let ifconfig := opts.get (lit "ifconfig")
  let t : TunnelInfo := { gw, ip := ifconfig.headD [], netMask := (ifconfig.drop 1).headD [] }
  match opts.get (lit "peer-id") with
  | [peerID] =>
    match atoi peerID with
    | (peer, none) => { t with peerID := peer, usePeerID := true }
    | (_, some _) => t
  | _ => t

def parseServerPushReply (resp : List UInt8) : Except GoString TunnelInfo :=
  if (GoString.bytes (lit "AUTH_FAILED")).isPrefixOf resp then .error (lit "server says: bad auth")
  else if (GoString.bytes (lit "PUSH_REPLY")).isPrefixOf resp = false then
    .error (lit "bad server reply:expected push reply")
  else .ok (newTunnelInfoFromPushedOptions (pushedOptionsAsMap resp))

/-- The loop of `newTunnelInfoFromRemoteOptionsString`. -/
def readTunnelMTU (t : TunnelInfo) : List GoString → Except NumError TunnelInfo
  | [] => .ok t
  | opt :: rest =>
    match split ' ' opt with
    | k :: v :: _ =>
      if k = lit "tun-mtu" then
        match atoi v with
        | (mtu, none) => readTunnelMTU { t with mtu } rest
        | (_, some err) => .error err
      else readTunnelMTU t rest
    | _ => readTunnelMTU t rest

def newTunnelInfoFromRemoteOptionsString (remoteOpts : GoString) : Except NumError TunnelInfo :=
  readTunnelMTU {} (split ',' remoteOpts)

/-! ## What is accepted -/

section Accepted

theorem decodeOptionStringFromBytes_eq_ok {b : List UInt8} {s : GoString} :
    decodeOptionStringFromBytes b = .ok s ↔ ∃ high low text, b = high :: low :: text ∧
      0 < ofBigEndian [high, low] ∧ ofBigEndian [high, low] ≤ text.length ∧
      text[ofBigEndian [high, low] - 1]? = some 0 ∧ s = decodeUTF8 text.dropLast := by
  match b with
  | [] => simp [decodeOptionStringFromBytes]
  | [_] => simp [decodeOptionStringFromBytes]
  | high :: low :: text =>
    have hcons : ∀ P : UInt8 → UInt8 → List UInt8 → Prop,
        (∃ h l t, high :: low :: text = h :: l :: t ∧ P h l t) ↔ P high low text := by
      intro P
      constructor
      · rintro ⟨h, l, t, heq, hp⟩
        obtain ⟨rfl, rfl, rfl⟩ : high = h ∧ low = l ∧ text = t := by simpa using heq
        exact hp
      · exact fun hp => ⟨high, low, text, rfl, hp⟩
    rw [hcons]
    unfold decodeOptionStringFromBytes
    dsimp only
    split_ifs with hshort hzero hlast
    · simp only [false_iff]
      omega
    · simp only [false_iff]
      omega
    · simp only [false_iff]
      exact fun ⟨_, _, htext, _⟩ => hlast htext
    · have hpos : 0 < ofBigEndian [high, low] := by omega
      have hlong : ofBigEndian [high, low] ≤ text.length := not_lt.mp hshort
      simp only [Except.ok.injEq, hpos, hlong, not_not.mp hlast, true_and]
      exact eq_comm

/-- The server's message is accepted exactly if it has this form. What is taken for the options
runs to the end of the message, whatever length was announced. -/
theorem parseServerControlMessage_eq_ok_iff {message : List UInt8} {key : KeySource}
    {options : GoString} :
    parseServerControlMessage message = .ok (key, options) ↔ key.preMaster = zeroArray 48 ∧
      ∃ high low text, message = controlMessageHeader ++ 2 :: (key.r1.toList ++ (key.r2.toList ++
          high :: low :: text)) ∧
        0 < ofBigEndian [high, low] ∧ ofBigEndian [high, low] ≤ text.length ∧
        text[ofBigEndian [high, low] - 1]? = some 0 ∧ options = decodeUTF8 text.dropLast := by
  constructor
  · intro h
    unfold parseServerControlMessage at h
    dsimp only at h
    split_ifs at h with hshort hheader hlen hmethod
    cases hdecode : decodeOptionStringFromBytes (message.drop 69) with
    | error err => rw [hdecode] at h; cases h
    | ok decoded =>
      rw [hdecode] at h
      obtain ⟨hk, rfl⟩ := Prod.mk.inj (Except.ok.inj h)
      obtain ⟨high, low, text, hrest, hpos, hle, hzero, hs⟩ :=
        decodeOptionStringFromBytes_eq_ok.mp hdecode
      subst hk
      refine ⟨rfl, high, low, text, ?_, hpos, hle, hzero, hs⟩
      -- the message is cut where the parser reads
      have hfour : 4 < message.length := by omega
      rw [← not_not.mp hheader, ← hrest, ← not_not.mp hmethod]
      change message = message.take 4 ++ message[4] ::
        ((message.drop 5).take 32 ++ ((message.drop 37).take 32 ++ message.drop 69))
      rw [take_append_drop_add message 37 32, take_append_drop_add message 5 32,
        ← List.drop_eq_getElem_cons hfour, List.take_append_drop]
  · rintro ⟨hpre, high, low, text, rfl, hpos, hle, hzero, rfl⟩
    obtain ⟨r1, r2, preMaster⟩ := key
    obtain rfl : preMaster = zeroArray 48 := hpre
    generalize hmessage : controlMessageHeader ++ 2 :: (r1.toList ++ (r2.toList ++
      high :: low :: text)) = message
    have hlength : message.length = 71 + text.length := by
      simp only [← hmessage, controlMessageHeader, List.length_append, List.length_cons,
        List.length_nil, List.Vector.toList_length]
      omega
    have hheader : message.take 4 = controlMessageHeader := by rw [← hmessage]; rfl
    have hmethod : message[4]? = some 2 := by rw [← hmessage]; rfl
    have hr1 : message.drop 5 = r1.toList ++ (r2.toList ++ high :: low :: text) := by
      rw [← hmessage]; rfl
    have hr2 : message.drop 37 = r2.toList ++ high :: low :: text := by
      rw [← List.drop_drop (i := 32) (j := 5), hr1, List.drop_left' r1.toList_length]
    have hrest : message.drop 69 = high :: low :: text := by
      rw [← List.drop_drop (i := 32) (j := 37), hr2, List.drop_left' r2.toList_length]
    have hdecode := decodeOptionStringFromBytes_eq_ok.mpr
      ⟨high, low, text, hrest, hpos, hle, hzero, rfl⟩
    unfold parseServerControlMessage
    rw [if_neg (by omega), if_neg (not_not.mpr hheader), dif_neg (by omega)]
    have hfour : 4 < message.length := by omega
    have hmethod' : message[4] = 2 := by
      rw [List.getElem?_eq_getElem hfour] at hmethod
      exact Option.some.inj hmethod
    simp only [hmethod', hdecode]
    simp only [hr1, hr2, List.take_left' r1.toList_length, List.take_left' r2.toList_length]
    rfl

/-- A message with the options `V4` and one byte behind them. -/
theorem parseServerControlMessage_eq_ok_iff_padded :
    parseServerControlMessage (controlMessageHeader ++ 2 :: ((zeroArray 32).toList ++
      ((zeroArray 32).toList ++ [0, 3, 86, 52, 0, 7]))) =
        .ok (⟨zeroArray 32, zeroArray 32, zeroArray 48⟩, decodeUTF8 [86, 52, 0]) :=
  parseServerControlMessage_eq_ok_iff.mpr
    ⟨rfl, 0, 3, [86, 52, 0, 7], rfl, by decide, by decide, by decide, rfl⟩

end Accepted

/-! ## What is pushed -/

/-- A push reply as a server writes it, without the byte at the end. -/
def pushText (options : RemoteOptions) : GoString :=
  join [.scalar ','] (lit "PUSH_REPLY" :: options.map fun o => join [.scalar ' '] (o.1 :: o.2))

def PlainWord (w : GoString) : Prop := .scalar ',' ∉ w ∧ .scalar ' ' ∉ w

instance (w : GoString) : Decidable (PlainWord w) := inferInstanceAs (Decidable (_ ∧ _))

theorem get_cons_of_ne {entry : GoString × List GoString} {key : GoString} (h : entry.1 ≠ key)
    (opts : RemoteOptions) : RemoteOptions.get (entry :: opts) key = opts.get key := by
  unfold RemoteOptions.get
  rw [List.reverse_cons, List.find?_append]
  simp [h]

/-- The assignments are those that were written, behind one for the reply itself. -/
theorem pushedOptionsAsMap_pushText {options : RemoteOptions}
    (hplain : ∀ o ∈ options, ∀ w ∈ o.1 :: o.2, PlainWord w) {resp : List UInt8}
    (htext : decodeUTF8 resp.dropLast = pushText options) (hne : resp ≠ []) :
    pushedOptionsAsMap resp = (lit "PUSH_REPLY", []) :: options := by
  have hcommas : ∀ part ∈ lit "PUSH_REPLY" :: options.map fun o => join [.scalar ' '] (o.1 :: o.2),
      .scalar ',' ∉ part := by
    intro part hpart
    rcases List.mem_cons.mp hpart with rfl | hpart
    · decide
    · obtain ⟨o, ho, rfl⟩ := List.mem_map.mp hpart
      intro hcomma
      rcases mem_join hcomma with hspace | ⟨w, hw, hin⟩
      · exact absurd hspace (by decide)
      · exact (hplain o ho w hw).1 hin
  unfold pushedOptionsAsMap
  rw [if_neg hne, htext, pushText, split_join hcommas (by simp), List.map_cons, List.map_map]
  refine congrArg₂ List.cons (by decide) ?_
  conv_rhs => rw [← List.map_id options]
  refine List.map_congr_left fun o ho => ?_
  have hsplit := split_join (fun w hw => (hplain o ho w hw).2) (List.cons_ne_nil o.1 o.2)
  simp only [Function.comp_apply, hsplit]
  rfl

/-- The options of a push reply are read as they were written. Of an option that is pushed more than
once the last one counts, for a route too, whose network is taken for the gateway. -/
theorem parseServerPushReply_pushText {options : RemoteOptions}
    (hplain : ∀ o ∈ options, ∀ w ∈ o.1 :: o.2, PlainWord w) {resp : List UInt8}
    (htext : decodeUTF8 resp.dropLast = pushText options) :
    parseServerPushReply resp = .ok (newTunnelInfoFromPushedOptions options) := by
  obtain ⟨rest, hrest⟩ : ∃ rest, pushText options = lit "PUSH_REPLY" ++ rest := by
    cases options with
    | nil => exact ⟨[], by simp [pushText, join]⟩
    | cons o options => exact ⟨_, by simp only [pushText, join, List.map_cons]; rfl⟩
  have hbytes : resp.dropLast = GoString.bytes (lit "PUSH_REPLY") ++ GoString.bytes rest := by
    rw [← bytes_decodeUTF8 resp.dropLast, htext, hrest]
    simp [GoString.bytes]
  have hne : resp ≠ [] := by
    rintro rfl
    exact absurd (List.append_eq_nil_iff.mp hbytes.symm).1 (by decide)
  have hresp : resp = GoString.bytes (lit "PUSH_REPLY") ++ (GoString.bytes rest ++
      [resp.getLast hne]) := by
    rw [← List.append_assoc, ← hbytes, List.dropLast_append_getLast hne]
  have hpush : (GoString.bytes (lit "PUSH_REPLY")).isPrefixOf resp = true := by
    rw [hresp]
    exact List.isPrefixOf_iff_prefix.mpr (List.prefix_append _ _)
  have hauth : (GoString.bytes (lit "AUTH_FAILED")).isPrefixOf resp = false := by
    rw [hresp]
    rfl
  have hget : ∀ key, lit "PUSH_REPLY" ≠ key →
      RemoteOptions.get ((lit "PUSH_REPLY", []) :: options) key = options.get key :=
    fun key h => get_cons_of_ne h options
  unfold parseServerPushReply
  rw [if_neg (by simp [hauth]), if_neg (by simp [hpush]),
    pushedOptionsAsMap_pushText hplain htext hne]
  unfold newTunnelInfoFromPushedOptions
  rw [hget (lit "route") (by decide), hget (lit "route-gateway") (by decide),
    hget (lit "ifconfig") (by decide), hget (lit "peer-id") (by decide)]

def twoRoutes : RemoteOptions :=
  [(lit "route", [lit "10.1.0.0"]), (lit "ifconfig", [lit "10.0.0.2", lit "255.255.255.0"]),
    (lit "route", [lit "10.2.0.0"]), (lit "peer-id", [lit "3"])]

theorem parseServerPushReply_pushText_routes :
    (∀ o ∈ twoRoutes, ∀ w ∈ o.1 :: o.2, PlainWord w) ∧
      parseServerPushReply (GoString.bytes (pushText twoRoutes) ++ [0]) =
        .ok (newTunnelInfoFromPushedOptions twoRoutes) :=
  ⟨by decide, parseServerPushReply_pushText (by decide) (by decide +kernel)⟩

end ResidentialIPManager.MiniVPN
