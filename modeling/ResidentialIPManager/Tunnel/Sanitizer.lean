import ResidentialIPManager.Text.Strings

/-! # The profile sanitizer

`SanitizeOpenVPNConfig` reads a profile line by line. It drops the directives that run
programs or that the manager sets itself, with their continuation lines, and two kinds
of inline blocks. The lines it keeps lose their trailing blanks only.
-/
namespace ResidentialIPManager.Tunnel
open Text

def executionDirectives : List GoString :=
  [lit "auth-user-pass-verify", lit "client-connect", lit "client-disconnect", lit "down",
    lit "engine", lit "ipchange", lit "iproute", lit "learn-address", lit "plugin",
    lit "providers", lit "pkcs11-providers", lit "route-pre-down", lit "route-up",
    lit "script-security", lit "tls-crypt-v2-verify", lit "tls-verify", lit "up"]

def replacedDirectives : List GoString :=
  [lit "auth-user-pass", lit "block-outside-dns", lit "http-proxy", lit "http-proxy-retry",
    lit "http-proxy-user-pass", lit "management", lit "management-client",
    lit "management-client-auth", lit "management-client-group", lit "management-client-pf",
    lit "management-client-user", lit "management-external-cert", lit "management-external-key",
    lit "management-hold", lit "management-log-cache", lit "management-query-passwords",
    lit "management-signal", lit "management-up-down", lit "socks-proxy",
    lit "socks-proxy-retry", lit "register-dns"]

def directiveName (line : GoString) : GoString :=
  if line = [] ∨ hasPrefix line (lit "#") ∨ hasPrefix line (lit ";") ∨
      hasPrefix line (lit "<") then []
  else
    match fields line with
    | [] => []
    | first :: _ => trimPrefix (toLower first) (lit "--")

def skippedBlockOf (lower : GoString) : Option GoString :=
  if hasPrefix lower (lit "<") && hasSuffix lower (lit ">") && !hasPrefix lower (lit "</") then
    match fields (trimSet (lit "<>") lower) with
    | name :: _ =>
      if name = lit "auth-user-pass" ∨ name = lit "http-proxy-user-pass" then some name else none
    | [] => none
  else none

def continues (rawLine : GoString) : Bool := hasSuffix (trimBlanks rawLine) (lit "\\")

/-- The local variables of the loop; an empty name means that no block is skipped. -/
structure Skipping where
  skippedBlock : GoString := []
  skipContinuation : Bool := false
  deriving DecidableEq, Repr

/-- One line: the new local variables, and the line as it is kept. -/
def sanitizeLine (k : Skipping) (rawLine : GoString) : Skipping × Option GoString :=
  let stripped := trimSpace rawLine
  let lower := toLower stripped
  if k.skippedBlock ≠ [] then
    if lower = lit "</" ++ k.skippedBlock ++ lit ">" then ({ k with skippedBlock := [] }, none)
    else (k, none)
  else
    match skippedBlockOf lower with
    | some name => ({ k with skippedBlock := name }, none)
    | none =>
      if k.skipContinuation then ({ k with skipContinuation := continues rawLine }, none)
      else if directiveName stripped ∈ executionDirectives then
        ({ k with skipContinuation := continues rawLine }, none)
      else if directiveName stripped ∈ replacedDirectives then
        ({ k with skipContinuation := continues rawLine }, none)
      else (k, some (trimBlanks rawLine))

def sanitizeFrom (k : Skipping) : List GoString → List GoString
  | [] => []
  | rawLine :: rest =>
    match sanitizeLine k rawLine with
    | (k', some line) => line :: sanitizeFrom k' rest
    | (k', none) => sanitizeFrom k' rest

/-- The lines that are kept, without the blank ones at the end. -/
def sanitizedLines (configText : GoString) : List GoString :=
  (sanitizeFrom {} (split '\n' (normalizeNewlines configText))).rdropWhile
    fun line => decide (trimSpace line = [])

def hasContent (line : GoString) : Bool :=
  decide (trimSpace line ≠ []) && !hasPrefix (trimSpace line) (lit "#") &&
    !hasPrefix (trimSpace line) (lit ";")

def sanitizeOpenVPNConfig (configText : GoString) : Except GoString GoString :=
  if (sanitizedLines configText).any hasContent then
    .ok (join (lit "\n") (sanitizedLines configText) ++ lit "\n")
  else .error (lit "OpenVPN config is empty after sanitization")

theorem sanitizeLine_kept {k k' : Skipping} {rawLine line : GoString}
    (h : sanitizeLine k rawLine = (k', some line)) : line = trimBlanks rawLine := by
  revert h
  fun_cases sanitizeLine k rawLine <;> intro h
  case case7 => exact (Option.some.inj (Prod.mk.inj h).2).symm
  all_goals cases (Prod.mk.inj h).2

theorem mem_sanitizeFrom {k : Skipping} {lines : List GoString} {line : GoString}
    (h : line ∈ sanitizeFrom k lines) : ∃ rawLine ∈ lines, line = trimBlanks rawLine := by
  induction lines generalizing k with
  | nil => simp [sanitizeFrom] at h
  | cons rawLine rest ih =>
    rw [sanitizeFrom] at h
    split at h
    · next k' kept hkept =>
      rcases List.mem_cons.mp h with rfl | hm
      · exact ⟨rawLine, List.mem_cons_self, sanitizeLine_kept hkept⟩
      · exact (ih hm).imp fun _ hr => hr.imp_left (List.mem_cons_of_mem _)
    · exact (ih h).imp fun _ hr => hr.imp_left (List.mem_cons_of_mem _)

/-- No line break of any system is left inside a line. -/
theorem mem_sanitizedLines {configText line : GoString} (h : line ∈ sanitizedLines configText) :
    .scalar '\n' ∉ line ∧ .scalar '\r' ∉ line := by
  obtain ⟨rawLine, hraw, rfl⟩ := mem_sanitizeFrom ((List.rdropWhile_prefix _ _).subset h)
  have hsub : ∀ r ∈ trimBlanks rawLine, r ∈ rawLine := fun r hr =>
    (List.rdropWhile_prefix _ _).subset hr
  refine ⟨fun hm => (mem_split hraw (hsub _ hm)).2 rfl, fun hm => ?_⟩
  exact normalizeNewlines_no_cr configText (mem_split hraw (hsub _ hm)).1

theorem sanitizeOpenVPNConfig_ok {configText cleaned : GoString}
    (h : sanitizeOpenVPNConfig configText = .ok cleaned) :
    sanitizedLines configText ≠ [] ∧
      cleaned = join (lit "\n") (sanitizedLines configText) ++ lit "\n" := by
  unfold sanitizeOpenVPNConfig at h
  split_ifs at h with hany
  refine ⟨?_, (Except.ok.inj h).symm⟩
  rintro hnil
  simp [hnil] at hany

end ResidentialIPManager.Tunnel
