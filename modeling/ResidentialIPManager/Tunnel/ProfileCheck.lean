import ResidentialIPManager.Tunnel.Endpoint
import ResidentialIPManager.Tunnel.InlineReader

/-! # Profiles that reach the handshake

`connect` refuses a node before it dials if the profile is missing, empty after
sanitization or not read, or if it lacks an endpoint, a cipher or a digest. The files of
the runtime directory matter only where a profile names one, so the most that they can
contribute is to be there.
-/
namespace ResidentialIPManager.Tunnel
open Text Domain

def allFiles : Files := ⟨.found, fun _ => .ok ([], [])⟩

/-- `connect` gets as far as the handshake if the files that the profile names are there. -/
def reachesHandshake (node : VpnNode) : Bool := (connectOptions {} allFiles node).toBool

def OpenVPNOptions.required (o : OpenVPNOptions) : GoString × GoString × GoString × GoString :=
  (o.remote, o.port, o.cipher, o.auth)

/-- What the first accepts the second accepts too, with the same required options. -/
def Admits (f g : OpenVPNOptions → Except Fault OpenVPNOptions) : Prop :=
  ∀ o o' a, o.required = o'.required → f o = .ok a →
    ∃ a', g o' = .ok a' ∧ a.required = a'.required

namespace Admits

variable {f f' g g' : OpenVPNOptions → Except Fault OpenVPNOptions}

theorem error (fault : Fault) : Admits (fun _ => .error fault) g := by
  intro o o' a _ h
  cases h

theorem update {u v : OpenVPNOptions → OpenVPNOptions}
    (h : ∀ o o', o.required = o'.required → (u o).required = (v o').required) :
    Admits (fun o => .ok (u o)) fun o => .ok (v o) := by
  intro o o' a hsame ha
  obtain rfl := Except.ok.inj ha
  exact ⟨v o', rfl, h o o' hsame⟩

theorem ite {c : Prop} [Decidable c] (h : Admits f g) (h' : Admits f' g') :
    Admits (fun o => if c then f o else f' o) fun o => if c then g o else g' o := by
  by_cases hc : c
  · simpa [hc] using h
  · simpa [hc] using h'

end Admits

section Options

variable (files : Files) (p : List GoString)

theorem admits_parseProto : Admits (parseProto p) (parseProto p) := by
  rcases p with - | ⟨m, - | ⟨second, rest⟩⟩
  · exact .error _
  · exact .ite (.update fun _ _ h => h) (.ite (.update fun _ _ h => h) (.error _))
  · exact .error _

theorem admits_parseRemote : Admits (parseRemote p) (parseRemote p) := by
  rcases p with - | ⟨remote, - | ⟨port, - | ⟨third, rest⟩⟩⟩
  · exact .error _
  · exact .error _
  · apply Admits.update
    intro o o' h
    simp only [OpenVPNOptions.required, Prod.mk.injEq, true_and] at h ⊢
    exact h.2.2
  · exact .error _

theorem admits_parseCipher : Admits (parseCipher p) (parseCipher p) := by
  rcases p with - | ⟨cipher, - | ⟨second, rest⟩⟩
  · exact .error _
  · refine .ite (.update fun o o' h => ?_) (.error _)
    simp only [OpenVPNOptions.required, Prod.mk.injEq, true_and] at h ⊢
    exact ⟨h.1, h.2.1, h.2.2.2⟩
  · exact .error _

theorem admits_parseAuth : Admits (parseAuth p) (parseAuth p) := by
  rcases p with - | ⟨auth, - | ⟨second, rest⟩⟩
  · exact .error _
  · refine .ite (.update fun o o' h => ?_) (.error _)
    simp only [OpenVPNOptions.required, Prod.mk.injEq, and_true] at h ⊢
    exact ⟨h.1, h.2.1, h.2.2.1⟩
  · exact .error _

theorem admits_parseCompress : Admits (parseCompress p) (parseCompress p) := by
  rcases p with - | ⟨arg, - | ⟨second, rest⟩⟩
  · exact .update fun _ _ h => h
  · exact .ite (.update fun _ _ h => h) (.error _)
  · exact .error _

theorem admits_parseCompLZO : Admits (parseCompLZO p) (parseCompLZO p) := by
  cases p with
  | nil => exact .error _
  | cons arg rest => exact .ite (.update fun _ _ h => h) (.error _)

theorem admits_parseTLSVerMax : Admits (parseTLSVerMax p) (parseTLSVerMax p) := by
  cases p with
  | nil => exact .update fun _ _ h => h
  | cons arg rest => exact .ite (.update fun _ _ h => h) (.update fun _ _ h => h)

theorem admits_parseProxyOBFS4 : Admits (parseProxyOBFS4 p) (parseProxyOBFS4 p) := by
  rcases p with - | ⟨proxy, - | ⟨second, rest⟩⟩
  · exact .error _
  · exact .update fun _ _ h => h
  · exact .error _

theorem parseFile_allFiles {name path : GoString} (h : parseFile files name p = .ok path) :
    ∃ path', parseFile allFiles name p = .ok path' := by
  rcases p with - | ⟨first, - | ⟨second, rest⟩⟩
  · cases h
  · exact ⟨first, rfl⟩
  · cases h

theorem admits_parseFile (name : GoString)
    {update : GoString → OpenVPNOptions → OpenVPNOptions}
    (hupdate : ∀ path o, (update path o).required = o.required) :
    Admits (fun o => (parseFile files name p).map fun path => update path o)
      fun o => (parseFile allFiles name p).map fun path => update path o := by
  intro o o' a hsame ha
  cases hfile : parseFile files name p with
  | error fault =>
    rw [hfile] at ha
    cases ha
  | ok path =>
    rw [hfile] at ha
    obtain rfl := Except.ok.inj ha
    obtain ⟨path', hfile'⟩ := parseFile_allFiles files p hfile
    exact ⟨update path' o', by rw [hfile']; rfl, by rw [hupdate, hupdate, hsame]⟩

theorem admits_parseAuthUser : Admits (parseAuthUser files p) (parseAuthUser allFiles p) := by
  rcases p with - | ⟨path, - | ⟨second, rest⟩⟩
  · exact .error _
  · intro o o' a hsame ha
    refine ⟨{ o' with username := [], password := [] }, rfl, ?_⟩
    unfold parseAuthUser at ha
    cases hfile : files.lookup path with
    | outside => simp [hfile] at ha
    | missing => simp [hfile] at ha
    | found absolute =>
      simp only [hfile] at ha
      cases hcredentials : files.credentials absolute with
      | error fault =>
        rw [hcredentials] at ha
        cases ha
      | ok credentials =>
        rw [hcredentials] at ha
        obtain rfl := Except.ok.inj ha
        exact hsame
  · exact .error _

theorem admits_parseOption (key : GoString) :
    Admits (fun o => parseOption files o key p) fun o => parseOption allFiles o key p := by
  unfold parseOption
  exact .ite (admits_parseProto p) <| .ite (admits_parseRemote p) <| .ite (admits_parseCipher p) <|
    .ite (admits_parseAuth p) <| .ite (admits_parseCompress p) <| .ite (admits_parseCompLZO p) <|
    .ite (admits_parseTLSVerMax p) <| .ite (admits_parseProxyOBFS4 p) <|
    .ite (admits_parseFile files p _ fun _ _ => rfl) <|
    .ite (admits_parseFile files p _ fun _ _ => rfl) <|
    .ite (admits_parseFile files p _ fun _ _ => rfl) <|
    .ite (admits_parseAuthUser files p) (.update fun _ _ h => h)

end Options

section Reading

variable {files : Files} {k k' m : Reading} {l : GoString}

/-- Two readings that differ at most in the files they found. -/
structure Twin (k k' : Reading) : Prop extends Agree k k' where
  required : k.options.required = k'.options.required

theorem parseInlineTag_required {o a : OpenVPNOptions} {tag : Option InlineTag} {buf : GoString}
    (h : parseInlineTag o tag buf = .ok a) : a.required = o.required := by
  unfold parseInlineTag at h
  split_ifs at h
  split at h <;> cases h <;> rfl

theorem inlineLine_required (h : inlineLine k l = .ok m) :
    m.options.required = k.options.required := by
  revert h
  fun_cases inlineLine k l <;> intro h
  case case2 =>
    cases hparse : parseInlineTag k.options k.tag k.inlineBuf with
    | error fault =>
      rw [hparse] at h
      cases h
    | ok o =>
      rw [hparse] at h
      obtain rfl := Except.ok.inj h
      exact parseInlineTag_required hparse
  all_goals cases h <;> rfl

theorem Twin.readLine (hk : Twin k k') (h : readLine files k l = .ok m) :
    ∃ m', Tunnel.readLine allFiles k' l = .ok m' ∧ Twin m m' := by
  have hsame := optionOn_congr (l := l) hk.tag
  rcases readLine_ok h with ⟨hnone, hinline⟩ | ⟨option, o, hoption, hparse, rfl⟩
  · obtain ⟨m', hinline', hagree⟩ := inlineLine_agree hk.toAgree hinline
    refine ⟨m', ?_, hagree, ?_⟩
    · rw [readLine_eq, hsame, hnone]
      exact hinline'
    · rw [inlineLine_required hinline, inlineLine_required hinline', hk.required]
  · obtain ⟨o', hparse', hrequired⟩ :=
      admits_parseOption files option.2 option.1 _ _ _ hk.required hparse
    refine ⟨_, readLine_option (hsame.trans hoption) hparse', ⟨hk.tag, hk.inlineBuf, ?_⟩,
      hrequired⟩
    have hleft := (parseOption_agree hparse k.options).1
    have hright := (parseOption_agree hparse' k'.options).1
    exact hleft.trans (hk.files.trans hright.symm)

theorem Twin.readFrom {lines : List GoString} {o : OpenVPNOptions} (hk : Twin k k')
    (h : readFrom files k lines = .ok o) :
    ∃ o', Tunnel.readFrom allFiles k' lines = .ok o' ∧ o.required = o'.required := by
  induction lines generalizing k k' with
  | nil =>
    obtain rfl := Except.ok.inj h
    exact ⟨k'.options, rfl, hk.required⟩
  | cons l rest ih =>
    rw [Tunnel.readFrom] at h
    cases hline : Tunnel.readLine files k l with
    | error fault => simp [hline] at h
    | ok m =>
      simp only [hline] at h
      obtain ⟨m', hline', hm⟩ := hk.readLine hline
      obtain ⟨o', hrest, hrequired⟩ := ih hm h
      exact ⟨o', by rw [Tunnel.readFrom, hline']; exact hrest, hrequired⟩

theorem readConfigFile_allFiles {content : GoString} {o : OpenVPNOptions}
    (h : readConfigFile files content = .ok o) :
    ∃ o', readConfigFile allFiles content = .ok o' ∧ o.required = o'.required := by
  unfold readConfigFile at h ⊢
  cases hlines : getLinesFromFile content with
  | error fault => simp [hlines] at h
  | ok lines =>
    simp only [hlines] at h
    exact Twin.readFrom ⟨.refl _, rfl⟩ h

end Reading

theorem valueOr_ne_nil {value fallback : GoString} (h : fallback ≠ []) :
    valueOr value fallback ≠ [] := by
  unfold valueOr
  split_ifs with hempty
  · exact h
  · exact hempty

theorem profileOptions_eq_ok {cfg : OpenVPNConfig} {files : Files} {node : VpnNode}
    {options : OpenVPNOptions} :
    profileOptions cfg files node = .ok options ↔
      node.openVPNConfig ≠ [] ∧ ∃ cleaned o, sanitizeOpenVPNConfig node.openVPNConfig = .ok cleaned ∧
        readConfigFile files cleaned = .ok o ∧ o.remote ≠ [] ∧ o.port ≠ [] ∧
        options = { o with
          username := valueOr cfg.username (lit "vpn")
          password := valueOr cfg.password (lit "vpn") } := by
  unfold profileOptions
  split_ifs with hempty
  · simp [hempty]
  · cases hclean : sanitizeOpenVPNConfig node.openVPNConfig with
    | error message => simp
    | ok cleaned =>
      cases hread : readConfigFile files cleaned with
      | error fault => cases fault <;> simp [hread]
      | ok o =>
        simp only [hread, ne_eq, hempty, not_false_eq_true, true_and, Except.ok.injEq,
          exists_eq_left', exists_and_left]
        split_ifs with hremote
        · grind
        · grind

/-- The credentials of the configuration are never empty, so only the profile decides. -/
theorem connectOptions_eq_ok {cfg : OpenVPNConfig} {files : Files} {node : VpnNode}
    {options : OpenVPNOptions} :
    connectOptions cfg files node = .ok options ↔
      profileOptions cfg files node = .ok options ∧ options.cipher ≠ [] ∧ options.auth ≠ [] := by
  unfold connectOptions
  cases hprofile : profileOptions cfg files node with
  | error fault => simp
  | ok o =>
    obtain ⟨-, cleaned, read, -, -, -, -, rfl⟩ := profileOptions_eq_ok.mp hprofile
    have hauth : OpenVPNOptions.hasAuthInfo { read with
        username := valueOr cfg.username (lit "vpn")
        password := valueOr cfg.password (lit "vpn") } = true := by
      simp [OpenVPNOptions.hasAuthInfo, valueOr_ne_nil (show lit "vpn" ≠ [] by decide)]
    simp only [hauth]
    grind

/-- Whatever the configuration and the files, `connect` gets to the handshake only with a
profile that reaches it. -/
theorem reachesHandshake_iff {node : VpnNode} :
    reachesHandshake node = true ↔
      ∃ cfg files options, connectOptions cfg files node = .ok options := by
  constructor
  · intro h
    unfold reachesHandshake at h
    cases hconnect : connectOptions {} allFiles node with
    | error fault => simp [hconnect, Except.toBool] at h
    | ok options => exact ⟨{}, allFiles, options, hconnect⟩
  · rintro ⟨cfg, files, options, hconnect⟩
    obtain ⟨hprofile, hcipher, hauth⟩ := connectOptions_eq_ok.mp hconnect
    obtain ⟨hne, cleaned, o, hclean, hread, hremote, hport, rfl⟩ := profileOptions_eq_ok.mp hprofile
    obtain ⟨o', hread', hrequired⟩ := readConfigFile_allFiles hread
    simp only [OpenVPNOptions.required, Prod.mk.injEq] at hrequired
    obtain ⟨hr, hp, hc, ha⟩ := hrequired
    have hall : profileOptions {} allFiles node = .ok _ := profileOptions_eq_ok.mpr
      ⟨hne, cleaned, o', hclean, hread', hr ▸ hremote, hp ▸ hport, rfl⟩
    have hcipher' : o'.cipher ≠ [] := hc ▸ hcipher
    have hauth' : o'.auth ≠ [] := ha ▸ hauth
    rw [reachesHandshake, connectOptions_eq_ok.mpr ⟨hall, hcipher', hauth'⟩]
    rfl

end ResidentialIPManager.Tunnel
