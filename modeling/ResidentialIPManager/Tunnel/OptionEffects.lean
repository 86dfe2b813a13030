import ResidentialIPManager.Tunnel.ProfileReader

/-! # What an option does to the options read so far

Whether an option is accepted depends on its arguments and the files only. If it is, it
sets fields of its own: none touches the inline files, and only `proto` and `remote` touch
the endpoint.
-/
namespace ResidentialIPManager.Tunnel
open Text

structure InlineFiles where
  ca : GoString
  cert : GoString
  key : GoString
  deriving DecidableEq, Repr

def OpenVPNOptions.inlineFiles (o : OpenVPNOptions) : InlineFiles := ⟨o.ca, o.cert, o.key⟩

def SameRemote (o o' : OpenVPNOptions) : Prop :=
  (o'.remote, o'.port) = (o.remote, o.port) ∧ o'.proto = o.proto

def SameInlineFiles (o o' : OpenVPNOptions) : Prop := o'.inlineFiles = o.inlineFiles

/-- The option fails, or succeeds and relates old and new record by `R`, whatever was read
before. -/
def Effect (R : OpenVPNOptions → OpenVPNOptions → Prop)
    (f : OpenVPNOptions → Except Fault OpenVPNOptions) : Prop :=
  (∃ fault, ∀ o, f o = .error fault) ∨
    ∃ g : OpenVPNOptions → OpenVPNOptions, (∀ o, f o = .ok (g o)) ∧ ∀ o, R o (g o)

namespace Effect

variable {R S : OpenVPNOptions → OpenVPNOptions → Prop}
  {f g : OpenVPNOptions → Except Fault OpenVPNOptions}

theorem error (fault : Fault) : Effect R fun _ => .error fault := .inl ⟨fault, fun _ => rfl⟩

theorem update {g : OpenVPNOptions → OpenVPNOptions} (h : ∀ o, R o (g o)) :
    Effect R fun o => .ok (g o) :=
  .inr ⟨g, fun _ => rfl, h⟩

theorem ite {c : Prop} [Decidable c] (hf : Effect R f) (hg : Effect R g) :
    Effect R fun o => if c then f o else g o := by
  by_cases hc : c
  · simpa [hc] using hf
  · simpa [hc] using hg

theorem map {α : Type} {update : α → OpenVPNOptions → OpenVPNOptions} (x : Except Fault α)
    (h : ∀ a o, R o (update a o)) : Effect R fun o => x.map fun a => update a o := by
  cases x with
  | error fault => exact .error fault
  | ok a => exact .update (h a)

theorem mono (h : Effect R f) (hRS : ∀ o o', R o o' → S o o') : Effect S f := by
  rcases h with hfault | ⟨g, hok, hR⟩
  · exact .inl hfault
  · exact .inr ⟨g, hok, fun o => hRS o (g o) (hR o)⟩

theorem rel (h : Effect R f) {o o' : OpenVPNOptions} (hf : f o = .ok o') : R o o' := by
  rcases h with ⟨fault, hfault⟩ | ⟨g, hok, hR⟩
  · cases hf.symm.trans (hfault o)
  · obtain rfl := Except.ok.inj (hf.symm.trans (hok o))
    exact hR o

end Effect

def Aside (o o' : OpenVPNOptions) : Prop :=
  (o'.remote, o'.port, o'.proto, o'.inlineFiles) = (o.remote, o.port, o.proto, o.inlineFiles)

theorem Aside.sameRemote {o o' : OpenVPNOptions} (h : Aside o o') : SameRemote o o' := by
  simp only [Aside, Prod.mk.injEq] at h
  exact ⟨Prod.ext h.1 h.2.1, h.2.2.1⟩

theorem Aside.sameInlineFiles {o o' : OpenVPNOptions} (h : Aside o o') : SameInlineFiles o o' := by
  simp only [Aside, Prod.mk.injEq] at h
  exact h.2.2.2

section Options

variable (files : Files) (p : List GoString)

theorem effect_parseProto : Effect SameInlineFiles (parseProto p) := by
  rcases p with - | ⟨m, - | ⟨second, rest⟩⟩
  · exact .error _
  · exact .ite (.update fun _ => rfl) (.ite (.update fun _ => rfl) (.error _))
  · exact .error _

theorem effect_parseRemote : Effect SameInlineFiles (parseRemote p) := by
  rcases p with - | ⟨remote, - | ⟨port, - | ⟨third, rest⟩⟩⟩
  · exact .error _
  · exact .error _
  · exact .update fun _ => rfl
  · exact .error _

theorem effect_parseCipher : Effect Aside (parseCipher p) := by
  rcases p with - | ⟨cipher, - | ⟨second, rest⟩⟩
  · exact .error _
  · exact .ite (.update fun _ => rfl) (.error _)
  · exact .error _

theorem effect_parseAuth : Effect Aside (parseAuth p) := by
  rcases p with - | ⟨auth, - | ⟨second, rest⟩⟩
  · exact .error _
  · exact .ite (.update fun _ => rfl) (.error _)
  · exact .error _

theorem effect_parseCompress : Effect Aside (parseCompress p) := by
  rcases p with - | ⟨arg, - | ⟨second, rest⟩⟩
  · exact .update fun _ => rfl
  · exact .ite (.update fun _ => rfl) (.error _)
  · exact .error _

theorem effect_parseCompLZO : Effect Aside (parseCompLZO p) := by
  cases p with
  | nil => exact .error _
  | cons arg rest => exact .ite (.update fun _ => rfl) (.error _)

theorem effect_parseTLSVerMax : Effect Aside (parseTLSVerMax p) := by
  cases p with
  | nil => exact .update fun _ => rfl
  | cons arg rest =>
    exact .ite (.update fun _ => rfl) (.update fun _ => rfl)

theorem effect_parseProxyOBFS4 : Effect Aside (parseProxyOBFS4 p) := by
  rcases p with - | ⟨proxy, - | ⟨second, rest⟩⟩
  · exact .error _
  · exact .update fun _ => rfl
  · exact .error _

theorem effect_parseAuthUser : Effect Aside (parseAuthUser files p) := by
  rcases p with - | ⟨path, - | ⟨second, rest⟩⟩
  · exact .error _
  · unfold parseAuthUser
    cases hfile : files.lookup path with
    | outside =>
      simp only [hfile]
      exact .error _
    | missing =>
      simp only [hfile]
      exact .error _
    | found absolute =>
      simp only [hfile]
      apply Effect.map
      intro credentials o
      rfl
  · exact .error _

theorem effect_parseOption_aside {key : GoString} (hproto : key ≠ lit "proto")
    (hremote : key ≠ lit "remote") : Effect Aside fun o => parseOption files o key p := by
  simp only [parseOption, if_neg hproto, if_neg hremote]
  refine .ite (effect_parseCipher p) <| .ite (effect_parseAuth p) <|
    .ite (effect_parseCompress p) <| .ite (effect_parseCompLZO p) <|
    .ite (effect_parseTLSVerMax p) <| .ite (effect_parseProxyOBFS4 p) <| .ite ?_ <| .ite ?_ <|
    .ite ?_ <| .ite (effect_parseAuthUser files p) (.update fun _ => rfl)
  all_goals
    apply Effect.map
    intro path o
    rfl

theorem effect_parseOption (key : GoString) :
    Effect SameInlineFiles fun o => parseOption files o key p := by
  by_cases hproto : key = lit "proto"
  · simp only [parseOption, if_pos hproto]
    exact effect_parseProto p
  by_cases hremote : key = lit "remote"
  · simp only [parseOption, if_neg hproto, if_pos hremote]
    exact effect_parseRemote p
  · exact (effect_parseOption_aside files p hproto hremote).mono fun _ _ => Aside.sameInlineFiles

end Options

end ResidentialIPManager.Tunnel
