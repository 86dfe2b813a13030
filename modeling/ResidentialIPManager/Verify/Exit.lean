import ResidentialIPManager.Classify.Residential
import ResidentialIPManager.Text.Folding

/-! # Exit verification

`verify.Result`, and `ExitVerifier.Verify` from the decoded answer on: the result is filled
in and compared with the node. The pattern for AS numbers is matched as the regular
expression `(?i)\bAS\s*(\d+)\b`, leftmost match first.
-/
namespace ResidentialIPManager.Verify
open Text Domain Classify

structure Result where
  passed : Bool
  exitIP : GoString := []
  country : GoString := []
  countryCode : GoString := []
  isp : GoString := []
  asn : GoString := []
  proxy : Bool := false
  hosting : Bool := false
  mobile : Bool := false
  message : GoString := []
  deriving DecidableEq, Repr

def requestURL (apiURL : GoString) : GoString :=
  if apiURL = [] then
    lit "http://ip-api.com/json/?fields=status,message,query,country," ++
      lit "countryCode,isp,as,asname,proxy,hosting,mobile"
  else apiURL

/-- The error of a request that finds no tunnel, as the HTTP client reports it for an address
that it prints as it is. -/
def notConnected (url : GoString) : GoString :=
  lit "Get \"" ++ url ++ lit "\": VPNGate exit is not connected"

/-- A word character of the pattern; its word boundaries know ASCII only. -/
def isWordRune : Rune → Bool
  | .scalar c =>
    ('0' ≤ c && c ≤ '9') || ('A' ≤ c && c ≤ 'Z') || ('a' ≤ c && c ≤ 'z') || c == '_'
  | .invalid _ => false

def isPatternBlank (r : Rune) : Bool :=
  r = .scalar '\t' || r = .scalar '\n' || r = .scalar '\x0c' || r = .scalar '\r' || r = .scalar ' '

/-- The digits after the letters, if nothing of a word follows them. Fewer blanks or fewer
digits never match, so there is nothing to backtrack to. -/
def asnDigits (rest : GoString) : Option GoString :=
  let number := rest.dropWhile isPatternBlank
  if number.takeWhile Rune.isDigit ≠ [] ∧ !(number.dropWhile Rune.isDigit).head?.any isWordRune then
    some (number.takeWhile Rune.isDigit)
  else none

/-- The search from the left; `boundary` tells that no word character comes before. -/
def asnSearch (boundary : Bool) : GoString → GoString
  | [] => []
  | [_] => []
  | a :: s :: rest =>
    let found := if boundary ∧ a.fold = .scalar 'a' ∧ s.fold = .scalar 's' then asnDigits rest
      else none
    match found with
    | some digits => digits
    | none => asnSearch (!isWordRune a) (s :: rest)

def asnNumber (value : GoString) : GoString := asnSearch true value

def flagReasons (result : Result) : List GoString :=
  if result.proxy || result.hosting || result.mobile then
    [lit "出口情报包含代理/托管/移动标记 proxy=" ++ boolText result.proxy ++ lit " hosting=" ++
      boolText result.hosting ++ lit " mobile=" ++ boolText result.mobile]
  else []

def countryReasons (node : VpnNode) (result : Result) : List GoString :=
  if node.countryCode ≠ [] ∧ result.countryCode ≠ [] ∧
      !equalFold node.countryCode result.countryCode then
    [lit "国家不匹配：节点 " ++ node.countryCode ++ lit "，出口 " ++ result.countryCode]
  else []

def asnReasons (node : VpnNode) (result : Result) : List GoString :=
  let nodeASN := asnNumber node.asn
  let exitASN := asnNumber result.asn
  if nodeASN ≠ [] ∧ exitASN ≠ [] ∧ nodeASN ≠ exitASN then
    [lit "ASN 不匹配：节点 AS" ++ nodeASN ++ lit "，出口 AS" ++ exitASN]
  else []

def compare (node : VpnNode) (result : Result) : Bool × GoString :=
  let reasons := flagReasons result ++ countryReasons node result ++ asnReasons node result
  if reasons ≠ [] then (false, join (lit "；") reasons)
  else (true, lit "出口 IP、国家和 ASN 复核通过")

structure IpApiResponse where
  status : GoString
  message : GoString := []
  query : GoString := []
  country : GoString := []
  countryCode : GoString := []
  isp : GoString := []
  as : GoString := []
  proxy : Bool := false
  hosting : Bool := false
  mobile : Bool := false

def IpApiResponse.result (payload : IpApiResponse) : Result where
  passed := false
  exitIP := payload.query
  country := payload.country
  countryCode := toUpper payload.countryCode
  isp := payload.isp
  asn := payload.as
  proxy := payload.proxy
  hosting := payload.hosting
  mobile := payload.mobile

/-- `Verify` once the answer is decoded. -/
def verify (node : VpnNode) (payload : IpApiResponse) : Except GoString Result :=
  if payload.status ≠ lit "success" then
    .error (lit "exit verifier failed: " ++ payload.message)
  else
    .ok { payload.result with
      passed := (compare node payload.result).1
      message := (compare node payload.result).2 }

theorem compare_passes_iff {node : VpnNode} {result : Result} :
    (compare node result).1 = true ↔
      flagReasons result = [] ∧ countryReasons node result = [] ∧ asnReasons node result = [] := by
  rw [← and_assoc, ← List.append_eq_nil_iff, ← List.append_eq_nil_iff, compare]
  generalize flagReasons result ++ countryReasons node result ++ asnReasons node result = reasons
  cases reasons <;> simp

theorem flagReasons_eq_nil {result : Result} :
    flagReasons result = [] ↔
      result.proxy = false ∧ result.hosting = false ∧ result.mobile = false := by
  simp [flagReasons, and_assoc]

theorem countryReasons_eq_nil {node : VpnNode} {result : Result} :
    countryReasons node result = [] ↔ node.countryCode = [] ∨ result.countryCode = [] ∨
      equalFold node.countryCode result.countryCode = true := by
  simp only [countryReasons, ite_eq_right_iff, reduceCtorEq, imp_false, not_and_or, not_not, ne_eq,
    Bool.not_eq_true', Bool.not_eq_false]

theorem asnReasons_eq_nil {node : VpnNode} {result : Result} :
    asnReasons node result = [] ↔ asnNumber node.asn = [] ∨ asnNumber result.asn = [] ∨
      asnNumber node.asn = asnNumber result.asn := by
  simp only [asnReasons, ite_eq_right_iff, reduceCtorEq, imp_false, not_and_or, not_not, ne_eq]

example : asnNumber (lit "AS2516 KDDI") = lit "2516" ∧ asnNumber (lit "xAS1 a\u017F \t22") = lit "22" ∧
    asnNumber (lit "AS12a") = [] := by
  decide

end ResidentialIPManager.Verify
