import ResidentialIPManager.Domain.Config

/-! # Residential classification

The grading half of `StrictClassifier.Classify`: what it does to a node list
once the intelligence service has answered, or has failed. The grade, the score
and the evidence are rewritten; IDs and cooldowns are not.
-/
namespace ResidentialIPManager.Classify
open Text Domain

def allowKeywords : List GoString :=
  ["ais fibre", "ais-fibre", "biglobe", "cable", "chubu telecommunications", "cnci",
    "comcast", "community network center", "fios", "frontier", "k-opticom", "kddi",
    "korea telecom", "kornet", "lg powercomm", "ntt", "open computer network", "optage",
    "qtnet", "residential", "rostelecom", "sk broadband", "softbank", "sony network",
    "telecom", "verizon", "xfinity", "xpeed"].map lit

def denyKeywords : List GoString :=
  ["backbone", "cloud", "colo", "colocation", "data center", "datacenter", "digitalocean",
    "hosting", "internet initiative japan", "leaseweb", "linode", "proxy", "server",
    "servers", "transit", "vps", "vpn", "amazon", "aws", "azure", "google cloud",
    "microsoft", "oracle", "ovh", "hetzner"].map lit

/-- The fields of `ipAPIRecord` that grading reads. -/
structure IpApiRecord where
  status : GoString := lit "success"
  query : GoString := []
  country : GoString := []
  countryCode : GoString := []
  city : GoString := []
  isp : GoString := []
  org : GoString := []
  as : GoString := []
  asName : GoString := []
  proxy : Bool := false
  hosting : Bool := false
  mobile : Bool := false
  deriving DecidableEq, Repr

def containsAny (value : GoString) (keywords : List GoString) : Bool := keywords.any (contains value)

/-- The leading `n` bytes of a string, cut inside a rune if need be. -/
def leadingBytes : Nat → GoString → GoString
  | 0, _ => []
  | _, [] => []
  | n, r :: rest =>
    if r.bytes.length ≤ n then r :: leadingBytes (n - r.bytes.length) rest
    else (r.bytes.take n).map .invalid

def compact (value : GoString) : GoString :=
  let joined := join (lit " ") (fields value)
  if 180 < GoString.byteLen joined then leadingBytes 180 joined ++ lit "..." else joined

def valueOr (value fallback : GoString) : GoString :=
  if trimSpace value = [] then fallback else value

def boolText (b : Bool) : GoString := if b then lit "true" else lit "false"

def evidence (passed : Bool) (summary : GoString) (now : Time) : ResidentialEvidence :=
  ⟨lit "ip-api", passed, summary, now⟩

/-- The lower-cased text in which the keywords are looked for. -/
def identity (record : IpApiRecord) (node : VpnNode) : GoString :=
  toLower (join (lit " ") [record.isp, record.org, record.as, record.asName, node.reverseDNS])

def denied (record : IpApiRecord) (node : VpnNode) : Bool :=
  record.proxy || record.hosting || record.mobile ||
    containsAny (identity record node) denyKeywords

def allowed (record : IpApiRecord) (node : VpnNode) : Bool :=
  containsAny (identity record node) allowKeywords

def gradeUnavailable (err : GoString) (now : Time) (n : VpnNode) : VpnNode :=
  { n with
    evidence := n.evidence ++ [evidence false (lit "分类源不可用: " ++ err) now]
    purityGrade := if n.purityGrade = .unset then .candidate else n.purityGrade }

def gradeMissing (now : Time) (n : VpnNode) : VpnNode :=
  { n with
    purityGrade := .candidate
    evidence := n.evidence ++ [evidence false (lit "未返回可用分类结果") now] }

def withRecord (record : IpApiRecord) (n : VpnNode) : VpnNode :=
  { n with
    country := valueOr record.country n.country
    countryCode := valueOr record.countryCode n.countryCode
    city := valueOr record.city n.city
    isp := valueOr record.isp n.isp
    asn := valueOr record.as n.asn }

/-- The switch over deny and allow evidence: grade, score and the evidence entry. -/
def verdict (record : IpApiRecord) (now : Time) (n : VpnNode) :
    PurityGrade × Int × ResidentialEvidence :=
  let text := compact (identity record n)
  if denied record n then
    (.rejected, 0, evidence false
      (lit "拒绝证据 proxy=" ++ boolText record.proxy ++ lit " hosting=" ++
        boolText record.hosting ++ lit " mobile=" ++ boolText record.mobile ++
        lit " identity=" ++ text) now)
  else if allowed record n then
    (.strictHome, 90, evidence true (lit "命中家庭宽带运营商证据: " ++ text) now)
  else (.candidate, 40, evidence false (lit "无明确家庭宽带证据: " ++ text) now)

def gradeRecord (record : IpApiRecord) (now : Time) (node : VpnNode) : VpnNode :=
  let n := withRecord record node
  { n with
    purityGrade := (verdict record now n).1
    purityScore := (verdict record now n).2.1
    evidence := n.evidence ++ [(verdict record now n).2.2] }

/-- The map keyed on the echoed query: the last record for an address counts. -/
def recordFor (records : List IpApiRecord) (ip : GoString) : Option IpApiRecord :=
  records.reverse.find? (fun r => r.query = ip)

def gradeNode (records : List IpApiRecord) (now : Time) (n : VpnNode) : VpnNode :=
  match recordFor records n.ip with
  | some record => if record.status = lit "success" then gradeRecord record now n else gradeMissing now n
  | none => gradeMissing now n

/-- What one classification does to a node, given the service's answer. -/
def regrade (answer : Except GoString (List IpApiRecord)) (now : Time) : VpnNode → VpnNode :=
  match answer with
  | .error err => gradeUnavailable err now
  | .ok records => gradeNode records now

def classify (answer : Except GoString (List IpApiRecord)) (now : Time) (nodes : List VpnNode) :
    List VpnNode :=
  nodes.map (regrade answer now)

/-- What the answer says about a node: whether a successful record denies it. -/
def evidenceOn (answer : Except GoString (List IpApiRecord)) (n : VpnNode) : Option Bool :=
  match answer with
  | .error _ => none
  | .ok records =>
    match recordFor records n.ip with
    | some record => if record.status = lit "success" then some (denied record n) else none
    | none => none

theorem regrade_of_denied {answer : Except GoString (List IpApiRecord)} {n : VpnNode}
    (h : evidenceOn answer n = some true) (now : Time) :
    (regrade answer now n).purityGrade = .rejected := by
  unfold evidenceOn at h
  split at h
  · cases h
  · next records =>
    split at h
    · next record hrecord =>
      split_ifs at h with hstatus
      have hdenied : denied record (withRecord record n) = true := Option.some.inj h
      simp [regrade, gradeNode, hrecord, hstatus, gradeRecord, verdict, hdenied]
    · cases h

theorem regrade_eq (answer : Except GoString (List IpApiRecord)) (now : Time) (n : VpnNode) :
    let m := regrade answer now n
    m = { n with
      country := m.country
      countryCode := m.countryCode
      city := m.city
      isp := m.isp
      asn := m.asn
      purityGrade := m.purityGrade
      purityScore := m.purityScore
      evidence := m.evidence } := by
  cases answer with
  | error err => rfl
  | ok records =>
    simp only [regrade, gradeNode]
    split
    · split_ifs <;> rfl
    · rfl

theorem regrade_frame (answer : Except GoString (List IpApiRecord)) (now : Time) (n : VpnNode) :
    (regrade answer now n).id = n.id ∧ (regrade answer now n).cooldownUntil = n.cooldownUntil :=
  ⟨congrArg (·.id) (regrade_eq answer now n), congrArg (·.cooldownUntil) (regrade_eq answer now n)⟩

theorem cooldowns_classify (answer : Except GoString (List IpApiRecord)) (now : Time)
    (nodes : List VpnNode) : cooldowns (classify answer now nodes) = cooldowns nodes := by
  simp only [classify, cooldowns, List.map_map]
  apply List.map_congr_left
  intro n _
  exact Prod.ext (regrade_frame answer now n).1 (regrade_frame answer now n).2

@[simp] theorem ids_classify (answer : Except GoString (List IpApiRecord)) (now : Time)
    (nodes : List VpnNode) : ids (classify answer now nodes) = ids nodes := by
  simp [classify, ids, (regrade_frame answer now _).1]

end ResidentialIPManager.Classify
