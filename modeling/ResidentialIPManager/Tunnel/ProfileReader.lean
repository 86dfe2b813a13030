import ResidentialIPManager.Tunnel.Sanitizer

/-! # The option reader of the VPN library

The vendored reader takes the file line by line: lines that start with `#` are skipped,
`<ca>`, `<cert>` and `<key>` blocks are collected, and every other line is split at single
spaces into a key and its arguments. Keys are compared as they are written. Whether a
path of the profile names a file below the profile's directory is the business of
`Files`.
-/
namespace ResidentialIPManager.Tunnel
open Text

/-- Why a profile is not read: an error, or an index out of range. -/
inductive Fault where
  | error (message : GoString)
  | crash (message : GoString)
  deriving DecidableEq, Repr

def badConfig (message : GoString) : Fault := .error (lit "openvpn: bad config: " ++ message)

inductive Proto where
  | tcp
  | udp
  deriving DecidableEq, Repr

def Proto.string : Proto → GoString
  | .tcp => lit "tcp"
  | .udp => lit "udp"

inductive Compression where
  | stub
  | empty
  | lzoNo
  deriving DecidableEq, Repr

def supportedCiphers : List GoString :=
  [lit "AES-128-CBC", lit "AES-192-CBC", lit "AES-256-CBC", lit "AES-128-GCM",
    lit "AES-192-GCM", lit "AES-256-GCM"]

def supportedAuth : List GoString := [lit "SHA1", lit "SHA256", lit "SHA512"]

/-- `OpenVPNOptions`, with the values the reader starts from. -/
structure OpenVPNOptions where
  remote : GoString := []
  port : GoString := []
  proto : Proto := .tcp
  username : GoString := []
  password : GoString := []
  caPath : GoString := []
  certPath : GoString := []
  keyPath : GoString := []
  ca : GoString := []
  cert : GoString := []
  key : GoString := []
  cipher : GoString := []
  auth : GoString := []
  tlsMaxVer : GoString := []
  compress : Compression := .empty
  proxyOBFS4 : GoString := []
  deriving DecidableEq, Repr

def OpenVPNOptions.hasAuthInfo (o : OpenVPNOptions) : Bool :=
  decide (o.certPath ≠ [] ∧ o.keyPath ≠ [] ∧ o.caPath ≠ []) ||
    decide (o.cert ≠ [] ∧ o.key ≠ [] ∧ o.ca ≠ []) || decide (o.username ≠ [] ∧ o.password ≠ [])

inductive FileLookup where
  | outside
  | missing
  | found (path : GoString)

structure Files where
  lookup : GoString → FileLookup
  credentials : GoString → Except Fault (GoString × GoString)

def parseProto (p : List GoString) (o : OpenVPNOptions) : Except Fault OpenVPNOptions :=
  match p with
  | [m] =>
    if m = lit "udp" then .ok { o with proto := .udp }
    else if m = lit "tcp" then .ok { o with proto := .tcp }
    else .error (badConfig (lit "bad proto: " ++ m))
  | _ => .error (badConfig (lit "proto needs one arg"))

def parseRemote (p : List GoString) (o : OpenVPNOptions) : Except Fault OpenVPNOptions :=
  match p with
  | [remote, port] => .ok { o with remote := remote, port := port }
  | _ => .error (badConfig (lit "remote needs two args"))

def parseCipher (p : List GoString) (o : OpenVPNOptions) : Except Fault OpenVPNOptions :=
  match p with
  | [cipher] =>
    if cipher ∈ supportedCiphers then .ok { o with cipher := cipher }
    else .error (badConfig (lit "unsupported cipher: " ++ cipher))
  | _ => .error (badConfig (lit "cipher expects one arg"))

def parseAuth (p : List GoString) (o : OpenVPNOptions) : Except Fault OpenVPNOptions :=
  match p with
  | [auth] =>
    if auth ∈ supportedAuth then .ok { o with auth := auth }
    else .error (badConfig (lit "unsupported auth: " ++ auth))
  | _ => .error (badConfig (lit "invalid auth entry"))

/-- The common part of `parseCA`, `parseCert` and `parseKey`. -/
def parseFile (files : Files) (name : GoString) (p : List GoString) : Except Fault GoString :=
  match p with
  | [path] =>
    match files.lookup path with
    | .outside => .error (badConfig (name ++ lit " must be below config path"))
    | .missing => .error (badConfig (name ++ lit " expects a valid file"))
    | .found absolute => .ok absolute
  | _ => .error (badConfig (name ++ lit " expects a valid file"))

def parseCA (files : Files) (p : List GoString) (o : OpenVPNOptions) :
    Except Fault OpenVPNOptions :=
  (parseFile files (lit "ca") p).map fun path => { o with caPath := path }

def parseCert (files : Files) (p : List GoString) (o : OpenVPNOptions) :
    Except Fault OpenVPNOptions :=
  (parseFile files (lit "cert") p).map fun path => { o with certPath := path }

def parseKey (files : Files) (p : List GoString) (o : OpenVPNOptions) :
    Except Fault OpenVPNOptions :=
  (parseFile files (lit "key") p).map fun path => { o with keyPath := path }

/-- Unlike the others, this option also reads the file it names. -/
def parseAuthUser (files : Files) (p : List GoString) (o : OpenVPNOptions) :
    Except Fault OpenVPNOptions :=
  match p with
  | [path] =>
    match files.lookup path with
    | .outside => .error (badConfig (lit "auth must be below config path"))
    | .missing => .error (badConfig (lit "auth-user-pass expects a valid file"))
    | .found absolute =>
      (files.credentials absolute).map fun c => { o with username := c.1, password := c.2 }
  | _ => .error (badConfig (lit "auth-user-pass expects a valid file"))

def parseCompress (p : List GoString) (o : OpenVPNOptions) : Except Fault OpenVPNOptions :=
  match p with
  | [] => .ok { o with compress := .empty }
  | [arg] =>
    if arg = lit "stub" then .ok { o with compress := .stub }
    else .error (badConfig (lit "compress: only empty/stub options supported"))
  | _ => .error (badConfig (lit "compress: only empty/stub options supported"))

/-- The argument is read without looking whether there is one. -/
def parseCompLZO (p : List GoString) (o : OpenVPNOptions) : Except Fault OpenVPNOptions :=
  match p with
  | [] => .error (.crash (lit "index out of range [0] with length 0"))
  | arg :: _ =>
    if arg = lit "no" then .ok { o with compress := .lzoNo }
    else .error (badConfig (lit "comp-lzo: compression not supported"))

def parseTLSVerMax (p : List GoString) (o : OpenVPNOptions) : Except Fault OpenVPNOptions :=
  match p with
  | [] => .ok { o with tlsMaxVer := lit "1.3" }
  | arg :: _ => if arg = lit "1.2" then .ok { o with tlsMaxVer := lit "1.2" } else .ok o

def parseProxyOBFS4 (p : List GoString) (o : OpenVPNOptions) : Except Fault OpenVPNOptions :=
  match p with
  | [proxy] => .ok { o with proxyOBFS4 := proxy }
  | _ => .error (badConfig (lit "proto-obfs4: need a properly configured proxy"))

def parseOption (files : Files) (o : OpenVPNOptions) (key : GoString) (p : List GoString) :
    Except Fault OpenVPNOptions :=
  if key = lit "proto" then parseProto p o
  else if key = lit "remote" then parseRemote p o
  else if key = lit "cipher" then parseCipher p o
  else if key = lit "auth" then parseAuth p o
  else if key = lit "compress" then parseCompress p o
  else if key = lit "comp-lzo" then parseCompLZO p o
  else if key = lit "tls-version-max" then parseTLSVerMax p o
  else if key = lit "proxy-obfs4" then parseProxyOBFS4 p o
  else if key = lit "ca" then parseCA files p o
  else if key = lit "cert" then parseCert files p o
  else if key = lit "key" then parseKey files p o
  else if key = lit "auth-user-pass" then parseAuthUser files p o
  else .ok o

inductive InlineTag where
  | ca
  | cert
  | key
  deriving DecidableEq, Repr

/-- `isOpeningTag` and `parseTag`. -/
def openingTag (l : GoString) : Option InlineTag :=
  if l = lit "<ca>" then some .ca
  else if l = lit "<cert>" then some .cert
  else if l = lit "<key>" then some .key
  else none

def isClosingTag (l : GoString) : Bool :=
  decide (l = lit "</ca>") || decide (l = lit "</cert>") || decide (l = lit "</key>")

/-- The block is stored under the tag that opened it, whichever tag closes it. -/
def parseInlineTag (o : OpenVPNOptions) (tag : Option InlineTag) (buf : GoString) :
    Except Fault OpenVPNOptions :=
  if buf = [] then .error (badConfig (lit "empty inline tag: 0"))
  else
    match tag with
    | some .ca => .ok { o with ca := buf }
    | some .cert => .ok { o with cert := buf }
    | some .key => .ok { o with key := buf }
    | none => .error (badConfig (lit "unknown tag: "))

/-- The local variables of `getOptionsFromLines`. -/
structure Reading where
  options : OpenVPNOptions := {}
  tag : Option InlineTag := none
  inlineBuf : GoString := []

def readLine (files : Files) (k : Reading) (l : GoString) : Except Fault Reading :=
  if hasPrefix l (lit "#") then .ok k
  else
    let l := trimSpace l
    if isClosingTag l then
      (parseInlineTag k.options k.tag k.inlineBuf).map fun o => { options := o }
    else
      match k.tag with
      | some _ => .ok { k with inlineBuf := k.inlineBuf ++ l ++ lit "\n" }
      | none =>
        match openingTag l with
        | some tag =>
          if k.inlineBuf ≠ [] then .error (badConfig (lit "tag not closed"))
          else .ok { k with tag := some tag }
        | none =>
          match split ' ' l with
          | [] => .ok k
          | key :: parts =>
            (parseOption files k.options key parts).map fun o => { k with options := o }

def readFrom (files : Files) (k : Reading) : List GoString → Except Fault OpenVPNOptions
  | [] => .ok k.options
  | l :: rest =>
    match readLine files k l with
    | .ok k' => readFrom files k' rest
    | .error fault => .error fault

def getOptionsFromLines (files : Files) (lines : List GoString) : Except Fault OpenVPNOptions :=
  readFrom files {} lines

def maxScanTokenSize : Nat := 65536

def dropCR (line : GoString) : GoString :=
  if line.getLast? = some (.scalar '\r') then line.dropLast else line

/-- `getLinesFromFile` on the content of the file: the default scanner, which gives up on
a line that does not fit its buffer. -/
def getLinesFromFile (content : GoString) : Except Fault (List GoString) :=
  let parts := split '\n' content
  let lines := if parts.getLast? = some [] then parts.dropLast else parts
  if lines.any fun line => decide (maxScanTokenSize ≤ GoString.byteLen line) then
    .error (.error (lit "bufio.Scanner: token too long"))
  else .ok (lines.map dropCR)

def readConfigFile (files : Files) (content : GoString) : Except Fault OpenVPNOptions :=
  match getLinesFromFile content with
  | .ok lines => getOptionsFromLines files lines
  | .error fault => .error fault

theorem map_dropCR {lines : List GoString} (h : ∀ l ∈ lines, .scalar '\r' ∉ l) :
    lines.map dropCR = lines := by
  conv_rhs => rw [← List.map_id lines]
  refine List.map_congr_left fun l hl => if_neg fun hlast => ?_
  exact h l hl (List.mem_of_getLast? hlast)

/-- The reader sees the lines the sanitizer kept. -/
theorem getLinesFromFile_sanitized {configText cleaned : GoString} {lines : List GoString}
    (hclean : sanitizeOpenVPNConfig configText = .ok cleaned)
    (hlines : getLinesFromFile cleaned = .ok lines) : lines = sanitizedLines configText := by
  obtain ⟨hne, rfl⟩ := sanitizeOpenVPNConfig_ok hclean
  have hsplit := split_join_lines (fun line hl => (mem_sanitizedLines hl).1) hne
  have hcr : (sanitizedLines configText).map dropCR = sanitizedLines configText :=
    map_dropCR fun line hl => (mem_sanitizedLines hl).2
  unfold getLinesFromFile at hlines
  rw [show lit "\n" = [.scalar '\n'] from rfl, hsplit] at hlines
  simp only [List.getLast?_append, List.getLast?_singleton, Option.some_or, if_true,
    List.dropLast_concat, hcr] at hlines
  split_ifs at hlines
  exact (Except.ok.inj hlines).symm

end ResidentialIPManager.Tunnel
