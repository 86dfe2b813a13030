import ResidentialIPManager.Domain.Settings
import ResidentialIPManager.Text.AddressText
import ResidentialIPManager.Text.Folding
import ResidentialIPManager.Text.YAML

/-! # The Clash subscription

`clashYAML` writes one proxy as a flow mapping. `yamlQuote` escapes the quotes of a value and
leaves its backslashes and line breaks as they are, so the reader of the document takes them
for escapes and folded lines.
-/
namespace ResidentialIPManager.Subscription
open Text Domain
open YAML (Document Mapping Reader Scalar Separated Verbatim escapeQuotes quote)

def valueOr (value fallback : GoString) : GoString := if value = [] then fallback else value

/-- `strings.ReplaceAll` with a quote and an escaped quote. -/
def yamlQuote (value : GoString) : GoString :=
  value.flatMap fun r => if r = .scalar '"' then lit "\\\"" else [r]

def subscriptionName (nodes : List VpnNode) : GoString :=
  let strict := nodes.countP fun n => n.purityGrade = .strictHome
  let available := nodes.countP fun n => n.status = .available
  if 0 < strict ∨ 0 < available then
    lit "Residential IP Manager " ++ itoa strict ++ lit " strict " ++ itoa available ++
      lit " available"
  else lit "Residential IP Manager"

def resolveHostFromCandidates (priv pub : GoString) : GoString :=
  if priv ≠ [] then priv else if pub ≠ [] then pub else lit "127.0.0.1"

/-- One address of an interface, with the candidates so far; `none` is an address of
another kind. -/
def hostCandidate (found : GoString × GoString) (ip : Option IP) : GoString × GoString :=
  match ip with
  | none => found
  | some ip =>
    if !ip.isGlobalUnicast || ip.isLoopback || ip.isUnspecified || ip.to4.isNone then found
    else if ip.isPrivate then (if found.1 = [] then (ip.string, found.2) else found)
    else if found.2 = [] then (found.1, ip.string)
    else found

/-- The addresses are those of `net.InterfaceAddrs`, which may fail. -/
def detectLocalHostCandidates (addrs : Option (List (Option IP))) : GoString × GoString :=
  match addrs with
  | none => ([], [])
  | some addrs => addrs.foldl hostCandidate ([], [])

def resolveHost (addrs : Option (List (Option IP))) (host : GoString) : GoString :=
  if trimSpace host ≠ [] ∧ equalFold (trimSpace host) (lit "auto") = false then trimSpace host
  else
    resolveHostFromCandidates (detectLocalHostCandidates addrs).1
      (detectLocalHostCandidates addrs).2

def clashYAML (cfg : SubscriptionConfig) (nodes : List VpnNode)
    (addrs : Option (List (Option IP))) : Except GoString GoString :=
  if cfg.enabled = false then .error (lit "subscription is disabled")
  else
    .ok (lit "proxies:\n" ++
      (lit "  - \x7b name: \"" ++ yamlQuote (subscriptionName nodes) ++
        lit "\", type: vmess, server: \"" ++ yamlQuote (resolveHost addrs cfg.host) ++
        lit "\", port: " ++ itoa cfg.port ++
        lit ", uuid: \"" ++ yamlQuote cfg.uuid ++
        lit "\", alterId: " ++ itoa cfg.alterID ++
        lit ", cipher: \"" ++ yamlQuote (valueOr cfg.security (lit "auto")) ++
        lit "\", network: \"" ++ yamlQuote (valueOr cfg.network (lit "tcp")) ++
        lit "\", udp: true \x7d\n"))

structure ProxySays (cfg : SubscriptionConfig) (host : GoString) (proxy : Mapping) : Prop where
  server : (proxy.lookup (lit "server")).bind Scalar.text? = some host
  port : (proxy.lookup (lit "port")).bind Scalar.int? = some cfg.port
  uuid : (proxy.lookup (lit "uuid")).bind Scalar.text? = some cfg.uuid
  alterID : (proxy.lookup (lit "alterId")).bind Scalar.int? = some cfg.alterID
  cipher : (proxy.lookup (lit "cipher")).bind Scalar.text? =
    some (valueOr cfg.security (lit "auto"))
  network : (proxy.lookup (lit "network")).bind Scalar.text? =
    some (valueOr cfg.network (lit "tcp"))

/-- The text is a document with one proxy, which says what the configuration says. -/
def SaysConfiguration (cfg : SubscriptionConfig) (nodes : List VpnNode)
    (addrs : Option (List (Option IP))) : Prop :=
  ∃ text doc proxy, clashYAML cfg nodes addrs = .ok text ∧ YAML.read text = some doc ∧
    doc.key = lit "proxies" ∧ doc.items = [proxy] ∧
    ProxySays cfg (resolveHost addrs cfg.host) proxy

section Verbatim

theorem yamlQuote_eq (value : GoString) : yamlQuote value = escapeQuotes value := rfl

theorem isVerbatim_scalar {c : Char} (hlow : 32 ≤ c.toNat) (hne : c ≠ '\\') :
    YAML.isVerbatim (.scalar c) = true := by
  simp [YAML.isVerbatim, YAML.isJson, YAML.backslash, hne, hlow]

theorem isVerbatim_of_isDigit {r : Rune} (h : r.isDigit = true) : YAML.isVerbatim r = true := by
  cases r with
  | scalar c =>
    simp only [Rune.isDigit, Bool.and_eq_true, decide_eq_true_eq] at h
    have hlow : 48 ≤ c.toNat := h.1
    apply isVerbatim_scalar (by omega)
    rintro rfl
    exact absurd h.2 (by decide)
  | invalid b => cases h

theorem verbatim_itoa (n : Int) : Verbatim (itoa n) ∧ quote ∉ itoa n := by
  have hdigits (k : Nat) : Verbatim (lit (Nat.repr k)) ∧ quote ∉ lit (Nat.repr k) := by
    obtain ⟨-, hdigits, -⟩ := digits_repr k
    exact ⟨fun r hr => isVerbatim_of_isDigit (hdigits r hr),
      fun hquote => absurd (hdigits _ hquote) (by decide)⟩
  obtain ⟨k, ⟨-, htext⟩ | ⟨-, htext⟩⟩ := itoa_cases n
  · rw [htext]
    exact hdigits k
  · obtain ⟨hv, hquote⟩ := hdigits k
    rw [htext]
    refine ⟨?_, by simpa [quote] using hquote⟩
    exact List.forall_mem_cons.mpr ⟨rfl, hv⟩

theorem verbatim_subscriptionName (nodes : List VpnNode) : Verbatim (subscriptionName nodes) := by
  simp only [subscriptionName]
  split_ifs
  · simp only [YAML.verbatim_append]
    exact ⟨⟨⟨⟨by decide, (verbatim_itoa _).1⟩, by decide⟩, (verbatim_itoa _).1⟩, by decide⟩
  · decide

theorem verbatim_string {ip : IP} (h : ip.to4.isNone = false) : Verbatim ip.string := by
  intro r hr
  rcases mem_string_of_to4 (Option.isNone_eq_false_iff.mp h |> Option.isSome_iff_ne_none.mp) hr
    with rfl | hdigit
  · rfl
  · exact isVerbatim_of_isDigit hdigit

theorem verbatim_hostCandidate {found : GoString × GoString}
    (h : Verbatim found.1 ∧ Verbatim found.2) (ip : Option IP) :
    Verbatim (hostCandidate found ip).1 ∧ Verbatim (hostCandidate found ip).2 := by
  cases ip with
  | none => exact h
  | some ip =>
    simp only [hostCandidate]
    split_ifs with hskip hprivate hfirst hfirst
    · exact h
    · simp only [Bool.or_eq_true, not_or, Bool.not_eq_true] at hskip
      exact ⟨verbatim_string hskip.2, h.2⟩
    · exact h
    · simp only [Bool.or_eq_true, not_or, Bool.not_eq_true] at hskip
      exact ⟨h.1, verbatim_string hskip.2⟩
    · exact h

theorem verbatim_detected (addrs : Option (List (Option IP))) :
    Verbatim (detectLocalHostCandidates addrs).1 ∧
      Verbatim (detectLocalHostCandidates addrs).2 := by
  have hnil : Verbatim ([] : GoString) := by decide
  cases addrs with
  | none => exact ⟨hnil, hnil⟩
  | some addrs =>
    have hfold : ∀ found : GoString × GoString, Verbatim found.1 ∧ Verbatim found.2 →
        Verbatim (addrs.foldl hostCandidate found).1 ∧
          Verbatim (addrs.foldl hostCandidate found).2 := by
      induction addrs with
      | nil => exact fun _ h => h
      | cons ip addrs ih => exact fun found h => ih _ (verbatim_hostCandidate h ip)
    exact hfold ([], []) ⟨hnil, hnil⟩

theorem isVerbatim_of_fold {r : Rune} (h : r.fold ∈ (lit "auto").map Rune.fold) :
    YAML.isVerbatim r = true := by
  have hauto : (lit "auto").map Rune.fold = lit "auto" := by decide
  rw [hauto] at h
  cases r with
  | scalar c =>
    simp only [Rune.fold] at h
    split_ifs at h with hupper hkelvin hlong
    · have hlow : 65 ≤ c.toNat := hupper.1
      apply isVerbatim_scalar (by omega)
      rintro rfl
      exact absurd hupper.2 (by decide)
    · exact absurd h (by decide)
    · exact absurd h (by decide)
    · have hletters : ∀ r ∈ lit "auto", YAML.isVerbatim r = true := by decide
      exact hletters _ h
  | invalid b => exact absurd h (by simp [Rune.fold, lit])

theorem verbatim_of_equalFold {s : GoString} (h : equalFold s (lit "auto") = true) :
    Verbatim s := by
  have hfold : s.map Rune.fold = (lit "auto").map Rune.fold := by simpa [equalFold] using h
  intro r hr
  apply isVerbatim_of_fold
  rw [← hfold]
  exact List.mem_map_of_mem hr

theorem verbatim_resolveHost (addrs : Option (List (Option IP))) (host : GoString) :
    Verbatim (resolveHost addrs host) ↔ Verbatim (trimSpace host) := by
  unfold resolveHost
  split_ifs with hgiven
  · rfl
  · have hresolved : Verbatim (resolveHostFromCandidates (detectLocalHostCandidates addrs).1
        (detectLocalHostCandidates addrs).2) := by
      unfold resolveHostFromCandidates
      split_ifs
      · exact (verbatim_detected addrs).1
      · exact (verbatim_detected addrs).2
      · decide
    refine iff_of_true hresolved ?_
    by_cases hempty : trimSpace host = []
    · rw [hempty]
      decide
    · apply verbatim_of_equalFold
      simpa [hempty] using hgiven

theorem verbatim_valueOr {value fallback : GoString} (h : Verbatim fallback) :
    Verbatim (valueOr value fallback) ↔ Verbatim value := by
  unfold valueOr
  split_ifs with hempty
  · subst hempty
    exact iff_of_true h (by simp [Verbatim])
  · rfl

end Verbatim

def networkText (network : GoString) : GoString :=
  lit ", network: " ++ quote :: (escapeQuotes network ++ quote :: lit ", udp: true \x7d\n")

def cipherText (alterID : Int) (cipher network : GoString) : GoString :=
  lit ", alterId: " ++ (itoa alterID ++ .scalar ',' ::
    (lit " cipher: " ++ quote :: (escapeQuotes cipher ++ quote :: networkText network)))

def uuidText (port : Int) (uuid rest : GoString) : GoString :=
  lit ", port: " ++ (itoa port ++ .scalar ',' ::
    (lit " uuid: " ++ quote :: (escapeQuotes uuid ++ quote :: rest)))

def serverText (name host rest : GoString) : GoString :=
  lit "proxies:\n  - \x7b name: " ++ quote :: (escapeQuotes name ++ quote ::
    (lit ", type: vmess, server: " ++ quote :: (escapeQuotes host ++ quote :: rest)))

theorem clashYAML_eq {cfg : SubscriptionConfig} (henabled : cfg.enabled = true)
    (nodes : List VpnNode) (addrs : Option (List (Option IP))) :
    clashYAML cfg nodes addrs =
      .ok (serverText (subscriptionName nodes) (resolveHost addrs cfg.host)
        (uuidText cfg.port cfg.uuid
          (cipherText cfg.alterID (valueOr cfg.security (lit "auto"))
            (valueOr cfg.network (lit "tcp"))))) := by
  rw [clashYAML, if_neg (by simp [henabled])]
  -- the literals of the format are cut at the quotes and commas
  have hname (t : GoString) : lit "proxies:\n" ++ (lit "  - \x7b name: \"" ++ t) =
      lit "proxies:\n  - \x7b name: " ++ quote :: t := rfl
  have hserver (t : GoString) : lit "\", type: vmess, server: \"" ++ t =
      quote :: (lit ", type: vmess, server: " ++ quote :: t) := rfl
  have hport (t : GoString) : lit "\", port: " ++ t = quote :: (lit ", port: " ++ t) := rfl
  have huuid (t : GoString) : lit ", uuid: \"" ++ t =
      .scalar ',' :: (lit " uuid: " ++ quote :: t) := rfl
  have halter (t : GoString) : lit "\", alterId: " ++ t = quote :: (lit ", alterId: " ++ t) := rfl
  have hcipher (t : GoString) : lit ", cipher: \"" ++ t =
      .scalar ',' :: (lit " cipher: " ++ quote :: t) := rfl
  have hnetwork (t : GoString) : lit "\", network: \"" ++ t =
      quote :: (lit ", network: " ++ quote :: t) := rfl
  have hudp : lit "\", udp: true \x7d\n" = quote :: lit ", udp: true \x7d\n" := rfl
  simp only [yamlQuote_eq, List.append_assoc, List.cons_append, hname, hserver, hport, huuid,
    halter, hcipher, hnetwork, hudp, serverText, uuidText, cipherText, networkText]

/-- What stands between two quoted values separates them. -/
theorem separated_integer (before after : GoString) (n : Int)
    (hbefore : before ≠ [] ∧ Verbatim before ∧ quote ∉ before)
    (hafter : Verbatim after ∧ quote ∉ after) (more : GoString) :
    Separated (before ++ (itoa n ++ (after ++ quote :: more))) := by
  obtain ⟨hv, hquote⟩ := verbatim_itoa n
  refine .inr ⟨before ++ itoa n ++ after, more, by simp [hbefore.1], ?_, ?_, by simp⟩
  · simp only [YAML.verbatim_append]
    exact ⟨⟨hbefore.2.1, hv⟩, hafter.1⟩
  · simp only [List.mem_append, not_or]
    exact ⟨⟨hbefore.2.2, hquote⟩, hafter.2⟩

theorem separated_uuidText (port : Int) (uuid rest : GoString) :
    Separated (uuidText port uuid rest) :=
  separated_integer (lit ", port: ") (lit ", uuid: ") port (by decide) (by decide) _

theorem separated_cipherText (alterID : Int) (cipher network : GoString) :
    Separated (cipherText alterID cipher network) :=
  separated_integer (lit ", alterId: ") (lit ", cipher: ") alterID (by decide) (by decide) _

theorem separated_networkText (network : GoString) : Separated (networkText network) :=
  .inr ⟨lit ", network: ", _, by decide, by decide, by decide, rfl⟩

/-! ### Reading the parts -/

/-- The reader after the value of `server`, and after those of `uuid`, `cipher` and `network`. -/
def afterServer (name host : GoString) : Reader :=
  ((({ key := lit "proxies", column := some 2 } : Reader).add (lit "name") (.quoted name)).add
    (lit "type") (.plain (lit "vmess"))).add (lit "server") (.quoted host)

def afterUUID (R : Reader) (port : Int) (uuid : GoString) : Reader :=
  (R.add (lit "port") (.plain (itoa port))).add (lit "uuid") (.quoted uuid)

def afterCipher (R : Reader) (alterID : Int) (cipher : GoString) : Reader :=
  (R.add (lit "alterId") (.plain (itoa alterID))).add (lit "cipher") (.quoted cipher)

def proxyEntries (name host : GoString) (port : Int) (uuid : GoString) (alterID : Int)
    (cipher network : GoString) : Mapping :=
  [(lit "name", .quoted name), (lit "type", .plain (lit "vmess")), (lit "server", .quoted host),
    (lit "port", .plain (itoa port)), (lit "uuid", .quoted uuid),
    (lit "alterId", .plain (itoa alterID)), (lit "cipher", .quoted cipher),
    (lit "network", .quoted network), (lit "udp", .plain (lit "true"))]

section Parts

variable {P : Document → Mapping → Prop} {name host uuid cipher network rest : GoString}
  {port alterID : Int}

theorem reads_serverText (hname : Verbatim name) (hrest : Separated rest)
    (hP : ∀ doc proxy, P doc proxy →
      (proxy.lookup (lit "server")).bind Scalar.text? = some host) :
    Reader.Reads {} (serverText name host rest) P ↔
      Verbatim host ∧ (afterServer name host).Reads rest P := by
  let R : Reader := { key := lit "proxies", column := some 2 }
  let named : Reader := R.add (lit "name") (.quoted name)
  have hstart : Reader.run {} (lit "proxies:\n  - \x7b name: ") =
      some (R.goTo (.beforeValue (lit "name"))) := rfl
  have hserver : named.run (lit ", type: vmess, server: ") =
      some ((named.add (lit "type") (.plain (lit "vmess"))).goTo
        (.beforeValue (lit "server"))) := rfl
  rw [serverText, Reader.reads_of_run hstart, Reader.reads_verbatim hname,
    Reader.reads_of_run hserver]
  exact Reader.reads_quoted rfl rfl hrest hP

theorem reads_uuidText (hrest : Separated rest)
    (hP : ∀ doc proxy, P doc proxy →
      (proxy.lookup (lit "uuid")).bind Scalar.text? = some uuid) :
    (afterServer name host).Reads (uuidText port uuid rest) P ↔
      Verbatim uuid ∧ (afterUUID (afterServer name host) port uuid).Reads rest P := by
  let R : Reader := afterServer name host
  let numbered : Reader := R.add (lit "port") (.plain (itoa port))
  have hport : R.run (lit ", port: ") = some (R.goTo (.beforeValue (lit "port"))) := rfl
  have huuid : (numbered.goTo .beforeKey).run (lit " uuid: ") =
      some (numbered.goTo (.beforeValue (lit "uuid"))) := rfl
  exact Reader.reads_numbered hport huuid rfl rfl hrest hP

theorem reads_cipherText
    (hP : ∀ doc proxy, P doc proxy →
      (proxy.lookup (lit "cipher")).bind Scalar.text? = some cipher) :
    (afterUUID (afterServer name host) port uuid).Reads (cipherText alterID cipher network) P ↔
      Verbatim cipher ∧ (afterCipher (afterUUID (afterServer name host) port uuid) alterID
        cipher).Reads (networkText network) P := by
  let R : Reader := afterUUID (afterServer name host) port uuid
  let numbered : Reader := R.add (lit "alterId") (.plain (itoa alterID))
  have halter : R.run (lit ", alterId: ") = some (R.goTo (.beforeValue (lit "alterId"))) := rfl
  have hcipher : (numbered.goTo .beforeKey).run (lit " cipher: ") =
      some (numbered.goTo (.beforeValue (lit "cipher"))) := rfl
  exact Reader.reads_numbered halter hcipher rfl rfl (separated_networkText network) hP

theorem reads_networkText
    (hP : ∀ doc proxy, P doc proxy →
      (proxy.lookup (lit "network")).bind Scalar.text? = some network) :
    (afterCipher (afterUUID (afterServer name host) port uuid) alterID cipher).Reads
        (networkText network) P ↔
      Verbatim network ∧
        P ⟨lit "proxies", [proxyEntries name host port uuid alterID cipher network]⟩
          (proxyEntries name host port uuid alterID cipher network) := by
  let R : Reader := afterCipher (afterUUID (afterServer name host) port uuid) alterID cipher
  have hkey : R.run (lit ", network: ") = some (R.goTo (.beforeValue (lit "network"))) := rfl
  have hrest : Separated (lit ", udp: true \x7d\n") := .inl (by decide)
  have hend : ((R.add (lit "network") (.quoted network)).run (lit ", udp: true \x7d\n")).bind
      Reader.finish =
      some ⟨lit "proxies", [proxyEntries name host port uuid alterID cipher network]⟩ := rfl
  rw [networkText, Reader.reads_of_run hkey, Reader.reads_quoted rfl rfl hrest hP]
  apply and_congr_right'
  rw [Reader.Reads, hend]
  constructor
  · rintro ⟨doc, proxy, hdoc, hitems, hp⟩
    obtain rfl := Option.some.inj hdoc
    obtain rfl := List.singleton_inj.mp hitems
    exact hp
  · intro hp
    exact ⟨_, _, rfl, rfl, hp⟩

end Parts

/-- The text says what the configuration says exactly if its strings hold no backslash, no
control character but tabs and no stray byte. -/
theorem says_configuration_iff {cfg : SubscriptionConfig} (henabled : cfg.enabled = true)
    (nodes : List VpnNode) (addrs : Option (List (Option IP))) :
    SaysConfiguration cfg nodes addrs ↔
      Verbatim (trimSpace cfg.host) ∧ Verbatim cfg.uuid ∧ Verbatim cfg.security ∧
        Verbatim cfg.network := by
  let host : GoString := resolveHost addrs cfg.host
  let P : Document → Mapping → Prop := fun doc proxy =>
    doc.key = lit "proxies" ∧ ProxySays cfg host proxy
  have hreads : SaysConfiguration cfg nodes addrs ↔
      Reader.Reads {} (serverText (subscriptionName nodes) host (uuidText cfg.port cfg.uuid
        (cipherText cfg.alterID (valueOr cfg.security (lit "auto"))
          (valueOr cfg.network (lit "tcp"))))) P := by
    rw [SaysConfiguration, clashYAML_eq henabled]
    constructor
    · rintro ⟨text, doc, proxy, htext, hread, hkey, hitems, hproxy⟩
      obtain rfl := Except.ok.inj htext
      exact ⟨doc, proxy, hread, hitems, hkey, hproxy⟩
    · rintro ⟨doc, proxy, hread, hitems, hkey, hproxy⟩
      exact ⟨_, doc, proxy, rfl, hread, hkey, hitems, hproxy⟩
  rw [hreads, reads_serverText (verbatim_subscriptionName nodes) (separated_uuidText _ _ _)
      (fun _ _ h => h.2.server),
    reads_uuidText (separated_cipherText _ _ _) (fun _ _ h => h.2.uuid),
    reads_cipherText (fun _ _ h => h.2.cipher),
    reads_networkText (fun _ _ h => h.2.network), verbatim_resolveHost,
    verbatim_valueOr (by decide), verbatim_valueOr (by decide)]
  have hproxy : P ⟨lit "proxies", [proxyEntries (subscriptionName nodes) host cfg.port cfg.uuid
      cfg.alterID (valueOr cfg.security (lit "auto")) (valueOr cfg.network (lit "tcp"))]⟩
      (proxyEntries (subscriptionName nodes) host cfg.port cfg.uuid cfg.alterID
        (valueOr cfg.security (lit "auto")) (valueOr cfg.network (lit "tcp"))) :=
    ⟨rfl, ⟨rfl, decimal?_itoa cfg.port, rfl, decimal?_itoa cfg.alterID, rfl, rfl⟩⟩
  simp only [hproxy, and_true]

/-- The default strings with a UUID, and one interface. -/
theorem says_configuration_default :
    SaysConfiguration { uuid := lit "b831381d-6324-4d53-ad4f-8cda48b30811" } []
      (some [none, parseIP (lit "192.168.1.5")]) :=
  (says_configuration_iff rfl [] _).mpr (by decide +kernel)

/-- A final backslash takes the closing quote into the value, and the document is lost. -/
example : (clashYAML { uuid := lit "a\\" } [] none).toOption.bind YAML.read = none := by
  decide +kernel

/-- A backslash before a letter is read as an escape. -/
theorem backslash_read_as_escape :
    ¬ ∀ (cfg : SubscriptionConfig) (nodes : List VpnNode) (addrs : Option (List (Option IP))),
      cfg.enabled = true → SaysConfiguration cfg nodes addrs := by
  intro hclaim
  let cfg : SubscriptionConfig := { uuid := lit "a\\tb" }
  obtain ⟨text, doc, proxy, htext, hread, -, hitems, hproxy⟩ := hclaim cfg [] none rfl
  have hescape : (clashYAML cfg [] none).toOption.any (fun text =>
      (YAML.read text).any fun doc => doc.items.all fun proxy =>
        (proxy.lookup (lit "uuid")).bind Scalar.text? = some (lit "a\tb")) = true := by
    decide +kernel
  rw [htext] at hescape
  simp only [Except.toOption, Option.any_some, hread, hitems, List.all_cons, List.all_nil,
    Bool.and_true, decide_eq_true_eq] at hescape
  have heq := hescape.symm.trans hproxy.uuid
  exact absurd heq (by decide)

end ResidentialIPManager.Subscription
