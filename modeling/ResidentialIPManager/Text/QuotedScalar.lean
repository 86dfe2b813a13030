import ResidentialIPManager.Text.Address

/-! # Double-quoted scalars of YAML 1.2

The scalar is read rune by rune, from after its opening quote. Within a line every rune from
U+0020 on stands for itself, and so does a tab; a backslash starts an escape. A line break
ends the line without its trailing blanks: one break is read as a space, further ones as line
feeds, and an escaped break as nothing. A continuation line has to be indented.

`escapeQuotes` is a writer that escapes quotes and nothing else. It is read back exactly on
the texts that hold no backslash, no control character but tabs and no stray byte.
-/
namespace ResidentialIPManager.Text.YAML

def quote : Rune := .scalar '"'

def backslash : Rune := .scalar '\\'

def isBlank (r : Rune) : Bool := r = .scalar ' ' || r = .scalar '\t'

def isBreak (r : Rune) : Bool := r = .scalar '\n' || r = .scalar '\r'

/-- `nb-json`: what a line of a quoted scalar may hold. -/
def isJson : Rune → Bool
  | .scalar c => c = '\t' || 0x20 ≤ c.toNat
  | .invalid _ => false

/-- Where a reader of the scalar is: in a line, after some blanks; in an escape; or in the
breaks and the indentation before the next line. -/
inductive QuotedMode where
  | inLine (blanks : GoString)
  | escape
  | hex (left value : Nat)
  | newLine (escaped : Bool) (breaks spaces : Nat) (afterCR : Bool)
  deriving DecidableEq, Repr

/-- The text read so far, without the blanks at the end of a line. -/
structure Quoted where
  out : GoString := []
  mode : QuotedMode := .inLine []
  deriving DecidableEq, Repr

inductive Progress where
  | more (q : Quoted)
  | done (text : GoString)
  deriving DecidableEq, Repr

def startLine (out : GoString) (escaped : Bool) (r : Rune) : Progress :=
  .more ⟨out, .newLine escaped 1 0 (r = .scalar '\r')⟩

def inLineStep (out blanks : GoString) (r : Rune) : Option Progress :=
  if r = quote then some (.done (out ++ blanks))
  else if r = backslash then some (.more ⟨out ++ blanks, .escape⟩)
  else if isBreak r then some (startLine out false r)
  else if isBlank r then some (.more ⟨out, .inLine (blanks ++ [r])⟩)
  else if isJson r then some (.more ⟨out ++ blanks ++ [r], .inLine []⟩)
  else none

def escapeChar : Rune → Option Char
  | .scalar '0' => some '\u0000'
  | .scalar 'a' => some '\u0007'
  | .scalar 'b' => some '\u0008'
  | .scalar 't' => some '\t'
  | .scalar '\t' => some '\t'
  | .scalar 'n' => some '\n'
  | .scalar 'v' => some '\u000B'
  | .scalar 'f' => some '\u000C'
  | .scalar 'r' => some '\r'
  | .scalar 'e' => some '\u001B'
  | .scalar ' ' => some ' '
  | .scalar '"' => some '"'
  | .scalar '/' => some '/'
  | .scalar '\\' => some '\\'
  | .scalar 'N' => some '\u0085'
  | .scalar '_' => some '\u00A0'
  | .scalar 'L' => some '\u2028'
  | .scalar 'P' => some '\u2029'
  | _ => none

def hexLength : Rune → Option Nat
  | .scalar 'x' => some 2
  | .scalar 'u' => some 4
  | .scalar 'U' => some 8
  | _ => none

def escapeStep (out : GoString) (r : Rune) : Option Progress :=
  if isBreak r then some (startLine out true r)
  else
    match hexLength r, escapeChar r with
    | some n, _ => some (.more ⟨out, .hex n 0⟩)
    | none, some c => some (.more ⟨out ++ [.scalar c], .inLine []⟩)
    | none, none => none

def hexStep (out : GoString) (left value : Nat) (r : Rune) : Option Progress :=
  match hexDigit r with
  | none => none
  | some d =>
    if 1 < left then some (.more ⟨out, .hex (left - 1) (16 * value + d)⟩)
    else if (16 * value + d).isValidChar then
      some (.more ⟨out ++ [.scalar (Char.ofNat (16 * value + d))], .inLine []⟩)
    else none

def folded (escaped : Bool) (breaks : Nat) : GoString :=
  if escaped = false ∧ breaks = 1 then [.scalar ' ']
  else List.replicate (breaks - 1) (.scalar '\n')

/-- Before a continuation line, which is indented by `indent` spaces; `afterCR` says that
the last rune was a carriage return. -/
def newLineStep (indent : Nat) (out : GoString) (escaped : Bool) (breaks spaces : Nat)
    (afterCR : Bool) (r : Rune) : Option Progress :=
  if r = .scalar ' ' then some (.more ⟨out, .newLine escaped breaks (spaces + 1) false⟩)
  else if r = .scalar '\n' ∧ afterCR then some (.more ⟨out, .newLine escaped breaks 0 false⟩)
  else if isBreak r then
    some (.more ⟨out, .newLine escaped (breaks + 1) 0 (r = .scalar '\r')⟩)
  else if spaces < indent then none
  else if r = .scalar '\t' then some (.more ⟨out, .newLine escaped breaks spaces false⟩)
  else inLineStep (out ++ folded escaped breaks) [] r

def Quoted.step (indent : Nat) (q : Quoted) (r : Rune) : Option Progress :=
  match q.mode with
  | .inLine blanks => inLineStep q.out blanks r
  | .escape => escapeStep q.out r
  | .hex left value => hexStep q.out left value r
  | .newLine escaped breaks spaces afterCR =>
    newLineStep indent q.out escaped breaks spaces afterCR r

inductive Scan where
  | more (q : Quoted)
  | done (text rest : GoString)
  deriving DecidableEq, Repr

def Quoted.scan (indent : Nat) (q : Quoted) : GoString → Option Scan
  | [] => some (.more q)
  | r :: rest =>
    match q.step indent r with
    | none => none
    | some (.done text) => some (.done text rest)
    | some (.more q') => q'.scan indent rest

def escapeQuotes (s : GoString) : GoString :=
  s.flatMap fun r => if r = quote then [backslash, quote] else [r]

/-- The rune is read back as it is, or after a backslash if it is a quote. -/
def isVerbatim (r : Rune) : Bool := isJson r && r ≠ backslash

/-! ### Texts that are read back -/

section Verbatim

variable {indent : Nat}

theorem scan_cons_more {q q' : Quoted} {r : Rune} (h : q.step indent r = some (.more q'))
    (rest : GoString) : q.scan indent (r :: rest) = q'.scan indent rest := by
  rw [Quoted.scan, h]

theorem scan_cons_done {q : Quoted} {r : Rune} {text : GoString}
    (h : q.step indent r = some (.done text)) (rest : GoString) :
    q.scan indent (r :: rest) = some (.done text rest) := by
  rw [Quoted.scan, h]

theorem isVerbatim_iff {r : Rune} : isVerbatim r = true ↔ isJson r = true ∧ r ≠ backslash := by
  simp [isVerbatim]

theorem isBreak_of_isJson {r : Rune} (h : isJson r = true) : isBreak r = false := by
  have hbreaks : ∀ b ∈ [Rune.scalar '\n', Rune.scalar '\r'], isJson b = false := by decide
  apply Bool.eq_false_of_not_eq_true
  intro hr
  have hmem : r ∈ [Rune.scalar '\n', Rune.scalar '\r'] := by simpa [isBreak] using hr
  rw [hbreaks r hmem] at h
  cases h

/-- A verbatim rune other than a quote goes to the blanks or to the text. -/
theorem inLineStep_verbatim {r : Rune} (h : isVerbatim r = true) (hq : r ≠ quote)
    (out blanks : GoString) :
    ∃ out' blanks', out' ++ blanks' = out ++ blanks ++ [r] ∧
      inLineStep out blanks r = some (.more ⟨out', .inLine blanks'⟩) := by
  obtain ⟨hjson, hb⟩ := isVerbatim_iff.mp h
  unfold inLineStep
  rw [if_neg hq, if_neg hb, if_neg (by simp [isBreak_of_isJson hjson])]
  by_cases hblank : isBlank r = true
  · exact ⟨out, blanks ++ [r], by simp, by rw [if_pos hblank]⟩
  · exact ⟨out ++ blanks ++ [r], [], by simp, by rw [if_neg hblank, if_pos hjson]⟩

theorem scan_escapeQuotes_verbatim (indent : Nat) {v : GoString}
    (hv : ∀ r ∈ v, isVerbatim r = true) (out blanks rest : GoString) :
    ∃ out' blanks', out' ++ blanks' = out ++ blanks ++ v ∧
      Quoted.scan indent ⟨out, .inLine blanks⟩ (escapeQuotes v ++ rest) =
        Quoted.scan indent ⟨out', .inLine blanks'⟩ rest := by
  induction v generalizing out blanks with
  | nil => exact ⟨out, blanks, by simp, rfl⟩
  | cons r v ih =>
    have hrest : ∀ r ∈ v, isVerbatim r = true := fun r hr => hv r (List.mem_cons_of_mem _ hr)
    by_cases hq : r = quote
    · subst hq
      obtain ⟨out', blanks', htext, hscan⟩ := ih hrest (out ++ blanks ++ [quote]) []
      refine ⟨out', blanks', by simp [htext], ?_⟩
      rw [← hscan]
      rfl
    · obtain ⟨out₁, blanks₁, htext₁, hstep⟩ :=
        inLineStep_verbatim (hv r List.mem_cons_self) hq out blanks
      obtain ⟨out', blanks', htext, hscan⟩ := ih hrest out₁ blanks₁
      refine ⟨out', blanks', by simp [htext, htext₁], ?_⟩
      rw [← hscan, escapeQuotes, List.flatMap_cons, if_neg hq]
      exact scan_cons_more (show Quoted.step indent ⟨out, .inLine blanks⟩ r = _ from hstep) _

theorem scan_escapeQuotes {v : GoString} (hv : ∀ r ∈ v, isVerbatim r = true) (rest : GoString) :
    Quoted.scan indent {} (escapeQuotes v ++ quote :: rest) = some (.done v rest) := by
  obtain ⟨out, blanks, htext, hscan⟩ :=
    scan_escapeQuotes_verbatim indent hv [] [] (quote :: rest)
  have hclose : (Quoted.step indent ⟨out, .inLine blanks⟩ quote) = some (.done v) := by
    simp only [List.nil_append] at htext
    rw [← htext]
    rfl
  exact hscan.trans (scan_cons_done hclose rest)

end Verbatim

/-! ### Texts that are not read back

Every rune of the writer's input has a weight, two for a backslash or a line break. What the
reader has put out weighs no more than what it has consumed, and less as soon as an escape or
a break was consumed, so an input with one of these is not read back. -/

def weight (r : Rune) : Nat := if r = backslash ∨ isBreak r = true then 2 else 1

def weightOf (s : GoString) : Nat := (s.map weight).sum

section Weights

@[simp] theorem weightOf_nil : weightOf [] = 0 := rfl

@[simp] theorem weightOf_append (s t : GoString) : weightOf (s ++ t) = weightOf s + weightOf t := by
  simp [weightOf]

@[simp] theorem weightOf_singleton (r : Rune) : weightOf [r] = weight r := by
  simp [weightOf]

theorem weight_le (r : Rune) : 1 ≤ weight r ∧ weight r ≤ 2 := by
  unfold weight
  split_ifs <;> simp

theorem weight_backslash : weight backslash = 2 := rfl

theorem weight_break {r : Rune} (h : isBreak r = true) : weight r = 2 := by
  simp [weight, h]

theorem isVerbatim_of_isBlank {r : Rune} (h : isBlank r = true) : isVerbatim r = true := by
  have hblanks : ∀ b ∈ [Rune.scalar ' ', Rune.scalar '\t'], isVerbatim b = true := by decide
  exact hblanks r (by simpa [isBlank] using h)

theorem weightOf_folded (escaped : Bool) {breaks : Nat} (h : 1 ≤ breaks) :
    weightOf (folded escaped breaks) + 1 ≤ 2 * breaks := by
  unfold folded
  split_ifs with hone
  · obtain ⟨-, rfl⟩ := hone
    decide
  · have hweight : weight (.scalar '\n') = 2 := by decide
    simp only [weightOf, List.map_replicate, List.sum_replicate, hweight, smul_eq_mul]
    omega

end Weights

def Verbatim (s : GoString) : Prop := ∀ r ∈ s, isVerbatim r = true

instance (s : GoString) : Decidable (Verbatim s) :=
  inferInstanceAs (Decidable (∀ r ∈ s, isVerbatim r = true))

theorem verbatim_append {s t : GoString} : Verbatim (s ++ t) ↔ Verbatim s ∧ Verbatim t :=
  List.forall_mem_append

theorem verbatim_push {s : GoString} {r : Rune} (hr : isVerbatim r = true) :
    Verbatim (s ++ [r]) ↔ Verbatim s := by
  rw [verbatim_append]
  exact and_iff_left (by simpa [Verbatim] using hr)

/-- The reader has consumed what the writer made of `p` and lags behind it. -/
def Lags (p : GoString) : Quoted → Prop
  | ⟨out, .inLine blanks⟩ =>
    weightOf out + weightOf blanks ≤ weightOf p ∧
      (¬Verbatim p → weightOf out + weightOf blanks < weightOf p)
  | ⟨out, .escape⟩ => weightOf out + 2 ≤ weightOf p ∧ p.getLast? = some backslash
  | ⟨out, .hex _ _⟩ => weightOf out + 2 ≤ weightOf p
  | ⟨out, .newLine _ breaks _ _⟩ => 1 ≤ breaks ∧ weightOf out + 2 * breaks ≤ weightOf p

section Lagging

variable {indent : Nat} {p : GoString}

theorem more_inj {q q' : Quoted} (h : some (Progress.more q) = some (.more q')) : q = q' :=
  Progress.more.inj (Option.some.inj h)

theorem lags_strict {out blanks : GoString} (h : weightOf out + weightOf blanks < weightOf p) :
    Lags p ⟨out, .inLine blanks⟩ :=
  ⟨h.le, fun _ => h⟩

theorem Lags.inLine {out blanks : GoString} {r : Rune} {q : Quoted}
    (h : Lags p ⟨out, .inLine blanks⟩) (hr : r ≠ quote)
    (hstep : inLineStep out blanks r = some (.more q)) : Lags (p ++ [r]) q := by
  obtain ⟨hle, hlt⟩ := h
  unfold inLineStep at hstep
  rw [if_neg hr] at hstep
  split_ifs at hstep with hb hbreak hblank hjson
  · obtain rfl := more_inj hstep
    subst hb
    simp only [Lags, weightOf_append, weightOf_singleton, weight_backslash]
    exact ⟨by omega, by simp⟩
  · obtain rfl := more_inj hstep
    simp only [Lags, weightOf_append, weightOf_singleton, weight_break hbreak]
    omega
  · obtain rfl := more_inj hstep
    have hv := isVerbatim_of_isBlank hblank
    simp only [Lags, weightOf_append, weightOf_singleton, verbatim_push hv]
    exact ⟨by omega, fun hp => by have := hlt hp; omega⟩
  · obtain rfl := more_inj hstep
    have hv : isVerbatim r = true := isVerbatim_iff.mpr ⟨hjson, hb⟩
    simp only [Lags, weightOf_append, weightOf_singleton, weightOf_nil, verbatim_push hv]
    exact ⟨by omega, fun hp => by have := hlt hp; omega⟩

theorem Lags.escape {out : GoString} {r : Rune} {q : Quoted} (h : Lags p ⟨out, .escape⟩)
    (hstep : escapeStep out r = some (.more q)) : Lags (p ++ [r]) q := by
  obtain ⟨hle, -⟩ := h
  have hpos := (weight_le r).1
  unfold escapeStep at hstep
  split_ifs at hstep with hbreak
  · obtain rfl := more_inj hstep
    simp only [Lags, weightOf_append, weightOf_singleton, weight_break hbreak]
    omega
  · split at hstep
    · obtain rfl := more_inj hstep
      simp only [Lags, weightOf_append, weightOf_singleton]
      omega
    · next c _ _ =>
      obtain rfl := more_inj hstep
      have hc := (weight_le (.scalar c)).2
      apply lags_strict
      simp only [weightOf_append, weightOf_singleton, weightOf_nil]
      omega
    · cases hstep

theorem Lags.hex {out : GoString} {left value : Nat} {r : Rune} {q : Quoted}
    (h : Lags p ⟨out, .hex left value⟩) (hstep : hexStep out left value r = some (.more q)) :
    Lags (p ++ [r]) q := by
  have hle : weightOf out + 2 ≤ weightOf p := h
  have hpos := (weight_le r).1
  unfold hexStep at hstep
  split at hstep
  · cases hstep
  · next d _ =>
    have hc := (weight_le (.scalar (Char.ofNat (16 * value + d)))).2
    split_ifs at hstep
    · obtain rfl := more_inj hstep
      simp only [Lags, weightOf_append, weightOf_singleton]
      omega
    · obtain rfl := more_inj hstep
      apply lags_strict
      simp only [weightOf_append, weightOf_singleton, weightOf_nil]
      omega

/-- After the breaks the reader lags behind, whatever the line goes on with. -/
theorem Lags.behind {out : GoString} {escaped : Bool} {breaks spaces : Nat} {afterCR : Bool}
    (h : Lags p ⟨out, .newLine escaped breaks spaces afterCR⟩) :
    weightOf (out ++ folded escaped breaks) < weightOf p := by
  obtain ⟨hone, hle⟩ := h
  have hfolded := weightOf_folded escaped hone
  rw [weightOf_append]
  omega

theorem Lags.newLine {out : GoString} {escaped : Bool} {breaks spaces : Nat} {afterCR : Bool}
    {r : Rune} {q : Quoted} (h : Lags p ⟨out, .newLine escaped breaks spaces afterCR⟩)
    (hr : r ≠ quote)
    (hstep : newLineStep indent out escaped breaks spaces afterCR r = some (.more q)) :
    Lags (p ++ [r]) q := by
  have hfolded := h.behind
  obtain ⟨hone, hle⟩ := h
  unfold newLineStep at hstep
  split_ifs at hstep with hspace hcr hbreak hindent htab
  · obtain rfl := more_inj hstep
    simp only [Lags, weightOf_append]
    omega
  · obtain rfl := more_inj hstep
    simp only [Lags, weightOf_append]
    omega
  · obtain rfl := more_inj hstep
    simp only [Lags, weightOf_append, weightOf_singleton, weight_break hbreak]
    omega
  · obtain rfl := more_inj hstep
    simp only [Lags, weightOf_append]
    omega
  · exact Lags.inLine (lags_strict (by simpa using hfolded)) hr hstep

/-- A rune that the writer leaves as it is. -/
theorem Lags.step {q q' : Quoted} {r : Rune} (h : Lags p q) (hr : r ≠ quote)
    (hstep : q.step indent r = some (.more q')) : Lags (p ++ [r]) q' := by
  obtain ⟨out, mode⟩ := q
  cases mode with
  | inLine blanks => exact Lags.inLine h hr hstep
  | escape => exact Lags.escape h hstep
  | hex left value => exact Lags.hex h hstep
  | newLine escaped breaks spaces afterCR => exact Lags.newLine h hr hstep

/-- A quote, which the writer puts after a backslash. After a backslash of its own input
the writer's backslash is escaped, and the quote ends the scalar. -/
theorem Lags.escapedQuote {q q₁ : Quoted} (h : Lags p q)
    (hstep : q.step indent backslash = some (.more q₁)) :
    (∃ q₂, q₁.step indent quote = some (.more q₂) ∧ Lags (p ++ [quote]) q₂) ∨
      ∃ text, q₁.step indent quote = some (.done text) ∧
        weightOf text < weightOf (p ++ [quote]) := by
  have hquote : weight quote = 1 := rfl
  obtain ⟨out, mode⟩ := q
  cases mode with
  | inLine blanks =>
    obtain ⟨hle, hlt⟩ := h
    have hq₁ : inLineStep out blanks backslash = some (.more ⟨out ++ blanks, .escape⟩) := rfl
    obtain rfl := more_inj (hq₁.symm.trans hstep)
    refine .inl ⟨⟨out ++ blanks ++ [quote], .inLine []⟩, rfl, ?_⟩
    have hv : isVerbatim quote = true := rfl
    simp only [Lags, weightOf_append, weightOf_singleton, weightOf_nil, verbatim_push hv]
    exact ⟨by omega, fun hp => by have := hlt hp; omega⟩
  | escape =>
    obtain ⟨hle, -⟩ := h
    have hq₁ : escapeStep out backslash = some (.more ⟨out ++ [backslash], .inLine []⟩) := rfl
    obtain rfl := more_inj (hq₁.symm.trans hstep)
    refine .inr ⟨out ++ [backslash] ++ [], rfl, ?_⟩
    simp only [weightOf_append, weightOf_singleton, weightOf_nil, weight_backslash]
    omega
  | hex left value => cases hstep
  | newLine escaped breaks spaces afterCR =>
    have hfolded := h.behind
    have hq₁ : newLineStep indent out escaped breaks spaces afterCR backslash =
        if spaces < indent then none
        else some (.more ⟨out ++ folded escaped breaks ++ [], .escape⟩) := rfl
    have hstep' := hq₁.symm.trans hstep
    split_ifs at hstep'
    obtain rfl := more_inj hstep'
    refine .inl ⟨⟨out ++ folded escaped breaks ++ [] ++ [quote], .inLine []⟩, rfl, ?_⟩
    apply lags_strict
    simp only [weightOf_append, weightOf_singleton, weightOf_nil] at hfolded ⊢
    omega

theorem eq_quote_of_done {q : Quoted} {r : Rune} {text : GoString}
    (h : q.step indent r = some (.done text)) : r = quote := by
  have hline : ∀ out blanks, inLineStep out blanks r = some (.done text) → r = quote := by
    intro out blanks hstep
    unfold inLineStep at hstep
    by_contra hr
    rw [if_neg hr] at hstep
    split_ifs at hstep <;> cases hstep
  obtain ⟨out, mode⟩ := q
  cases mode with
  | inLine blanks => exact hline _ _ h
  | escape =>
    simp only [Quoted.step, escapeStep] at h
    split_ifs at h
    · cases h
    · split at h <;> cases h
  | hex left value =>
    simp only [Quoted.step, hexStep] at h
    split at h
    · cases h
    · split_ifs at h <;> cases h
  | newLine escaped breaks spaces afterCR =>
    simp only [Quoted.step, newLineStep] at h
    split_ifs at h
    · cases h
    · cases h
    · cases h
    · cases h
    · exact hline _ _ h

/-- The reader on what the writer makes of `v`: it fails, or still lags behind, or has
ended the scalar with a lighter text. -/
theorem scan_lags {q : Quoted} (v tail : GoString) (h : Lags p q) :
    q.scan indent (escapeQuotes v ++ tail) = none ∨
      (∃ q', Lags (p ++ v) q' ∧ q.scan indent (escapeQuotes v ++ tail) = q'.scan indent tail) ∨
      ∃ text rest, weightOf text < weightOf (p ++ v) ∧
        q.scan indent (escapeQuotes v ++ tail) = some (.done text rest) := by
  induction v generalizing p q with
  | nil => exact .inr (.inl ⟨q, by simpa using h, rfl⟩)
  | cons r v ih =>
    have happend : p ++ r :: v = p ++ [r] ++ v := by simp
    by_cases hr : r = quote
    · subst hr
      have htext : escapeQuotes (quote :: v) ++ tail =
          backslash :: quote :: (escapeQuotes v ++ tail) := rfl
      rw [htext, happend]
      cases hstep : q.step indent backslash with
      | none => exact .inl (by rw [Quoted.scan, hstep])
      | some progress =>
        cases progress with
        | done text => exact absurd (eq_quote_of_done hstep) (by decide)
        | more q₁ =>
          rw [scan_cons_more hstep]
          rcases h.escapedQuote hstep with ⟨q₂, hstep₂, hlags⟩ | ⟨text, hdone, hlt⟩
          · rw [scan_cons_more hstep₂]
            exact ih hlags
          · refine .inr (.inr ⟨text, _, ?_, scan_cons_done hdone _⟩)
            rw [weightOf_append]
            omega
    · have htext : escapeQuotes (r :: v) ++ tail = r :: (escapeQuotes v ++ tail) := by
        simp [escapeQuotes, hr]
      rw [htext, happend]
      cases hstep : q.step indent r with
      | none => exact .inl (by rw [Quoted.scan, hstep])
      | some progress =>
        cases progress with
        | done text => exact absurd (eq_quote_of_done hstep) hr
        | more q₁ =>
          rw [scan_cons_more hstep]
          exact ih (h.step hr hstep)

theorem scan_ne_done {q : Quoted} {tail text rest : GoString} (h : quote ∉ tail) :
    q.scan indent tail ≠ some (.done text rest) := by
  induction tail generalizing q with
  | nil => simp [Quoted.scan]
  | cons r tail ih =>
    obtain ⟨hr, htail⟩ := not_or.mp (List.mem_cons.not.mp h)
    intro hscan
    cases hstep : q.step indent r with
    | none => simp [Quoted.scan, hstep] at hscan
    | some progress =>
      cases progress with
      | done text => exact hr (eq_quote_of_done hstep).symm
      | more q₁ =>
        rw [scan_cons_more hstep] at hscan
        exact ih htail hscan

end Lagging

/-- What follows a quoted scalar: no quote at all, or some verbatim text before the next. -/
def Separated (rest : GoString) : Prop :=
  quote ∉ rest ∨ ∃ between more, between ≠ [] ∧ Verbatim between ∧ quote ∉ between ∧
    rest = between ++ quote :: more

theorem escapeQuotes_of_no_quote {s : GoString} (h : quote ∉ s) : escapeQuotes s = s := by
  induction s with
  | nil => rfl
  | cons r s ih =>
    obtain ⟨hr, hs⟩ := not_or.mp (List.mem_cons.not.mp h)
    have hr' : r ≠ quote := fun he => hr he.symm
    simpa [escapeQuotes, hr'] using ih hs

/-- A final backslash takes the closing quote and what follows into the text. -/
theorem scan_swallowed {indent : Nat} {out v rest text rest' : GoString}
    (hlast : v.getLast? = some backslash) (hrest : Separated rest)
    (h : Quoted.scan indent ⟨out, .escape⟩ (quote :: rest) = some (.done text rest')) :
    text ≠ v := by
  have hstep : Quoted.step indent ⟨out, .escape⟩ quote =
      some (.more ⟨out ++ [quote], .inLine []⟩) := rfl
  rw [scan_cons_more hstep] at h
  rcases hrest with hnone | ⟨between, more, hne, hv, hquote, rfl⟩
  · exact absurd h (scan_ne_done hnone)
  · obtain ⟨out', blanks', htext, hscan⟩ :=
      scan_escapeQuotes_verbatim indent hv (out ++ [quote]) [] (quote :: more)
    rw [escapeQuotes_of_no_quote hquote] at hscan
    have hdone : Quoted.step indent ⟨out', .inLine blanks'⟩ quote =
        some (.done (out' ++ blanks')) := rfl
    rw [hscan, scan_cons_done hdone] at h
    obtain ⟨rfl, -⟩ := Scan.done.inj (Option.some.inj h)
    rintro rfl
    obtain ⟨r, hr⟩ := Option.ne_none_iff_exists'.mp (List.getLast?_eq_none_iff.not.mpr hne)
    rw [htext, List.getLast?_append, hr] at hlast
    obtain rfl := Option.some.inj hlast
    exact absurd (hv _ (List.mem_of_getLast? hr)) (by decide)

/-- A text that is not verbatim is not read back. -/
theorem scan_escapeQuotes_ne {indent : Nat} {v rest text rest' : GoString} (hv : ¬Verbatim v)
    (hrest : Separated rest)
    (h : Quoted.scan indent {} (escapeQuotes v ++ quote :: rest) = some (.done text rest')) :
    text ≠ v := by
  have hstart : Lags [] {} := ⟨le_refl _, fun hnil => absurd (by simp [Verbatim]) hnil⟩
  rcases scan_lags v (quote :: rest) hstart with hnone | ⟨q, hlags, hscan⟩ | ⟨t, r, hlt, hscan⟩
  · rw [hnone] at h
    cases h
  · rw [List.nil_append] at hlags
    rw [hscan] at h
    obtain ⟨out, mode⟩ := q
    cases mode with
    | inLine blanks =>
      have hdone : Quoted.step indent ⟨out, .inLine blanks⟩ quote =
          some (.done (out ++ blanks)) := rfl
      rw [scan_cons_done hdone] at h
      obtain ⟨rfl, -⟩ := Scan.done.inj (Option.some.inj h)
      rintro rfl
      have hlt := hlags.2 hv
      simp at hlt
    | escape => exact scan_swallowed hlags.2 hrest h
    | hex left value => cases h
    | newLine escaped breaks spaces afterCR =>
      have hlt := hlags.behind
      have hstep : Quoted.step indent ⟨out, .newLine escaped breaks spaces afterCR⟩ quote =
          if spaces < indent then none
          else some (.done (out ++ folded escaped breaks ++ [])) := rfl
      split_ifs at hstep
      · rw [Quoted.scan, hstep] at h
        cases h
      · rw [scan_cons_done hstep] at h
        obtain ⟨rfl, -⟩ := Scan.done.inj (Option.some.inj h)
        rintro rfl
        simp at hlt
  · rw [hscan] at h
    obtain ⟨rfl, -⟩ := Scan.done.inj (Option.some.inj h)
    rintro rfl
    simp at hlt

end ResidentialIPManager.Text.YAML
