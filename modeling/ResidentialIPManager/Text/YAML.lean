import ResidentialIPManager.Text.Decimal
import ResidentialIPManager.Text.QuotedScalar

/-! # Lists of flow mappings in YAML 1.2

A reader for the documents of one shape: a key whose value is a block sequence, each entry of
it a flow mapping on a line of its own, from alphanumeric keys to scalars that are quoted or
are one word. Other documents are not read. Keys are unique. A quoted scalar may go on over
several lines, which are indented deeper than the dash of the entry.
-/
namespace ResidentialIPManager.Text.YAML

/-- A scalar with its style, on which the schema depends. -/
inductive Scalar where
  | plain (text : GoString)
  | quoted (text : GoString)
  deriving DecidableEq, Repr

def Scalar.int? : Scalar → Option Int
  | .plain text => decimal? text
  | .quoted _ => none

/-- A quoted scalar is a string; the strings among the plain ones are left out. -/
def Scalar.text? : Scalar → Option GoString
  | .plain _ => none
  | .quoted text => some text

abbrev Mapping := List (GoString × Scalar)

structure Document where
  key : GoString
  items : List Mapping
  deriving DecidableEq, Repr

inductive Mode where
  | topKey
  | topColon
  | newLine (spaces : Nat)
  | dash (blank : Bool)
  | beforeKey
  | key (text : GoString)
  | colon (key : GoString)
  | beforeValue (key : GoString)
  | plain (key text : GoString)
  | quoted (key : GoString) (q : Quoted)
  | afterValue
  | afterItem

/-- The key of the document, the column of the dashes, the entries of the sequence that are
complete, and the pairs of the one being read. -/
structure Reader where
  key : GoString := []
  column : Option Nat := none
  items : List Mapping := []
  entries : Mapping := []
  mode : Mode := .topKey

def isAlphanumeric : Rune → Bool
  | .scalar c => c.isAlphanum
  | .invalid _ => false

def isWord (r : Rune) : Bool :=
  isAlphanumeric r || r = .scalar '_' || r = .scalar '-' || r = .scalar '+' || r = .scalar '.'

namespace Reader

def goTo (R : Reader) (mode : Mode) : Reader := { R with mode := mode }

def add (R : Reader) (key : GoString) (value : Scalar) : Reader :=
  { R with entries := R.entries ++ [(key, value)], mode := .afterValue }

def closeItem (R : Reader) : Reader :=
  { R with items := R.items ++ [R.entries], entries := [], mode := .afterItem }

def afterScalar (R : Reader) (r : Rune) : Option Reader :=
  if isBlank r then some (R.goTo .afterValue)
  else if r = .scalar ',' then some (R.goTo .beforeKey)
  else if r = .scalar '}' then some R.closeItem
  else none

def step (R : Reader) (r : Rune) : Option Reader :=
  match R.mode with
  | .topKey =>
    if isAlphanumeric r then some { R with key := R.key ++ [r] }
    else if r = .scalar ':' ∧ R.key ≠ [] then some (R.goTo .topColon)
    else none
  | .topColon =>
    if isBlank r then some R else if isBreak r then some (R.goTo (.newLine 0)) else none
  | .newLine spaces =>
    if r = .scalar ' ' then some (R.goTo (.newLine (spaces + 1)))
    else if isBreak r then some (R.goTo (.newLine 0))
    else if r = .scalar '-' ∧ (R.column = none ∨ R.column = some spaces) then
      some { R with column := some spaces, mode := .dash false }
    else none
  | .dash blank =>
    if isBlank r then some (R.goTo (.dash true))
    else if r = .scalar '{' ∧ blank then some (R.goTo .beforeKey)
    else none
  | .beforeKey =>
    if isBlank r then some R
    else if r = .scalar '}' then some R.closeItem
    else if isAlphanumeric r then some (R.goTo (.key [r]))
    else none
  | .key text =>
    if isAlphanumeric r then some (R.goTo (.key (text ++ [r])))
    else if r = .scalar ':' ∧ R.entries.all (fun e => e.1 ≠ text) then some (R.goTo (.colon text))
    else none
  | .colon key => if isBlank r then some (R.goTo (.beforeValue key)) else none
  | .beforeValue key =>
    if isBlank r then some R
    else if r = quote then some (R.goTo (.quoted key {}))
    else if isWord r then some (R.goTo (.plain key [r]))
    else none
  | .plain key text =>
    if isWord r then some (R.goTo (.plain key (text ++ [r])))
    else if text = [.scalar '-'] then none
    else (R.add key (.plain text)).afterScalar r
  | .quoted key q =>
    match q.step (R.column.getD 0 + 1) r with
    | none => none
    | some (.more q') => some (R.goTo (.quoted key q'))
    | some (.done text) => some (R.add key (.quoted text))
  | .afterValue => R.afterScalar r
  | .afterItem =>
    if isBlank r then some R else if isBreak r then some (R.goTo (.newLine 0)) else none

def run (R : Reader) (text : GoString) : Option Reader := text.foldlM step R

def finish (R : Reader) : Option Document :=
  match R.mode with
  | .afterItem => some ⟨R.key, R.items⟩
  | .newLine _ => if R.items = [] then none else some ⟨R.key, R.items⟩
  | _ => none

end Reader

def read (text : GoString) : Option Document := (Reader.run {} text).bind Reader.finish

/-- Two entries, the second with a scalar over two lines. -/
example : read (lit "a:\n  - \x7b b: 1, c: \"x\\ty\" \x7d\n  - \x7b d: \"u\n    v\" \x7d\n") =
    some ⟨lit "a", [[(lit "b", .plain (lit "1")), (lit "c", .quoted (lit "x\ty"))],
      [(lit "d", .quoted (lit "u v"))]]⟩ := by
  decide +kernel

theorem isWord_of_isDigit {r : Rune} (h : r.isDigit = true) : isWord r = true := by
  cases r with
  | scalar c =>
    have hdigit : c.isDigit = true := by
      simpa [Rune.isDigit, Char.isDigit, Char.le_def] using h
    simp [isWord, isAlphanumeric, Char.isAlphanum, hdigit]
  | invalid b => cases h

theorem itoa_word (n : Int) :
    (∀ r ∈ itoa n, isWord r = true) ∧ itoa n ≠ [] ∧ itoa n ≠ [.scalar '-'] := by
  obtain ⟨k, ⟨rfl, htext⟩ | ⟨rfl, htext⟩⟩ := itoa_cases n
  · obtain ⟨hne, hdigits, -⟩ := digits_repr k
    rw [htext]
    refine ⟨fun r hr => isWord_of_isDigit (hdigits r hr), hne, ?_⟩
    intro hminus
    exact absurd (hdigits (.scalar '-') (by simp [hminus])) (by decide)
  · obtain ⟨hne, hdigits, -⟩ := digits_repr k
    rw [htext]
    refine ⟨?_, by simp, by simpa using hne⟩
    intro r hr
    rcases List.mem_cons.mp hr with rfl | hdigit
    · rfl
    · exact isWord_of_isDigit (hdigits r hdigit)

namespace Reader

variable {R R' : Reader}

theorem run_append (R : Reader) (s t : GoString) :
    R.run (s ++ t) = (R.run s).bind fun R' => R'.run t :=
  List.foldlM_append

theorem run_of_eq {s : GoString} (h : R.run s = some R') (t : GoString) :
    R.run (s ++ t) = R'.run t := by
  rw [run_append, h]
  rfl

theorem run_cons (R : Reader) (r : Rune) (t : GoString) :
    R.run (r :: t) = (R.step r).bind fun R' => R'.run t :=
  rfl

def first (R : Reader) : Mapping := R.items.headD R.entries

theorem first_add (R : Reader) (key : GoString) (value : Scalar) :
    R.first <+: (R.add key value).first := by
  unfold first add
  cases R.items with
  | nil => exact List.prefix_append _ _
  | cons item items => exact List.prefix_refl _

theorem first_closeItem (R : Reader) : R.closeItem.first = R.first := by
  unfold first closeItem
  cases R.items <;> rfl

theorem first_afterScalar {r : Rune} (h : R.afterScalar r = some R') : R'.first = R.first := by
  unfold afterScalar at h
  split_ifs at h
  · obtain rfl := Option.some.inj h
    rfl
  · obtain rfl := Option.some.inj h
    rfl
  · obtain rfl := Option.some.inj h
    exact first_closeItem R

/-- A step only adds to what has been read. -/
theorem first_step {r : Rune} (h : R.step r = some R') : R.first <+: R'.first := by
  unfold step at h
  split at h
  case h_9 key text hmode =>
    split_ifs at h
    · obtain rfl := Option.some.inj h
      exact List.prefix_refl _
    · rw [first_afterScalar h]
      exact first_add R key _
  case h_10 key q hmode =>
    split at h
    · cases h
    · obtain rfl := Option.some.inj h
      exact List.prefix_refl _
    · obtain rfl := Option.some.inj h
      exact first_add R key _
  case h_11 hmode =>
    rw [first_afterScalar h]
  case h_5 hmode =>
    split_ifs at h
    · obtain rfl := Option.some.inj h
      exact List.prefix_refl _
    · obtain rfl := Option.some.inj h
      rw [first_closeItem]
    · obtain rfl := Option.some.inj h
      exact List.prefix_refl _
  all_goals
    split_ifs at h <;> obtain rfl := Option.some.inj h <;> exact List.prefix_refl _

theorem first_run {text : GoString} (h : R.run text = some R') : R.first <+: R'.first := by
  induction text generalizing R with
  | nil =>
    obtain rfl := Option.some.inj h
    exact List.prefix_refl _
  | cons r text ih =>
    obtain ⟨R₁, hstep, hrun⟩ := Option.bind_eq_some_iff.mp ((run_cons R r text).symm.trans h)
    exact (first_step hstep).trans (ih hrun)

theorem finish_first {doc : Document} {item : Mapping} (h : R.finish = some doc)
    (hitems : doc.items = [item]) : item = R.first := by
  have hdoc : doc.items = R.items := by
    unfold finish at h
    split at h
    · obtain rfl := Option.some.inj h
      rfl
    · split_ifs at h
      obtain rfl := Option.some.inj h
      rfl
    · cases h
  rw [first, ← hdoc, hitems]
  rfl

/-- Inside a quoted scalar the reader is the reader of the scalar. -/
theorem run_quoted (R : Reader) (key : GoString) (q : Quoted) (text : GoString) :
    (R.goTo (.quoted key q)).run text =
      match q.scan (R.column.getD 0 + 1) text with
      | none => none
      | some (.more q') => some (R.goTo (.quoted key q'))
      | some (.done value rest) => (R.add key (.quoted value)).run rest := by
  induction text generalizing q with
  | nil => rfl
  | cons r text ih =>
    have hstep : (R.goTo (.quoted key q)).step r =
        match q.step (R.column.getD 0 + 1) r with
        | none => none
        | some (.more q') => some (R.goTo (.quoted key q'))
        | some (.done value) => some (R.add key (.quoted value)) := rfl
    rw [run_cons, hstep, Quoted.scan]
    cases q.step (R.column.getD 0 + 1) r with
    | none => rfl
    | some progress =>
      cases progress with
      | more q' => exact ih q'
      | done value => rfl

theorem run_escapeQuotes {key v : GoString} (hv : Verbatim v) (rest : GoString) :
    (R.goTo (.beforeValue key)).run (quote :: (escapeQuotes v ++ quote :: rest)) =
      (R.add key (.quoted v)).run rest := by
  have hopen : (R.goTo (.beforeValue key)).step quote = some (R.goTo (.quoted key {})) := rfl
  rw [run_cons, hopen, Option.bind_some, run_quoted, scan_escapeQuotes hv]

/-- A quoted value that is not: the document has another text under its key. -/
theorem run_escapeQuotes_ne {key v rest : GoString} (hv : ¬Verbatim v) (hrest : Separated rest)
    (hnone : R.items = []) {doc : Document} {item : Mapping} (hitems : doc.items = [item])
    (h : ((R.goTo (.beforeValue key)).run (quote :: (escapeQuotes v ++ quote :: rest))).bind
      finish = some doc) :
    ∃ text, text ≠ v ∧ R.entries ++ [(key, .quoted text)] <+: item := by
  have hopen : (R.goTo (.beforeValue key)).step quote = some (R.goTo (.quoted key {})) := rfl
  rw [run_cons, hopen, Option.bind_some, run_quoted] at h
  cases hscan : Quoted.scan (R.column.getD 0 + 1) {} (escapeQuotes v ++ quote :: rest) with
  | none => simp [hscan] at h
  | some scan =>
    cases scan with
    | more q =>
      rw [hscan] at h
      cases h
    | done text rest' =>
      rw [hscan] at h
      obtain ⟨R₁, hrun, hfinish⟩ := Option.bind_eq_some_iff.mp h
      refine ⟨text, scan_escapeQuotes_ne hv hrest hscan, ?_⟩
      rw [finish_first hfinish hitems]
      have hfirst : (R.add key (.quoted text)).first = R.entries ++ [(key, .quoted text)] := by
        simp [first, add, hnone]
      rw [← hfirst]
      exact first_run hrun

theorem run_words {key text w : GoString} (hw : ∀ r ∈ w, isWord r = true) :
    (R.goTo (.plain key text)).run w = some (R.goTo (.plain key (text ++ w))) := by
  induction w generalizing text with
  | nil =>
    rw [List.append_nil]
    rfl
  | cons r w ih =>
    have hstep : (R.goTo (.plain key text)).step r = some (R.goTo (.plain key (text ++ [r]))) :=
      if_pos (hw r List.mem_cons_self)
    rw [run_cons, hstep, Option.bind_some, ih fun r hr => hw r (List.mem_cons_of_mem _ hr),
      List.append_assoc]
    rfl

theorem step_word {key : GoString} {r : Rune} (h : isWord r = true) :
    (R.goTo (.beforeValue key)).step r = some (R.goTo (.plain key [r])) := by
  have hothers : ∀ b ∈ [Rune.scalar ' ', Rune.scalar '\t', quote], isWord b = false := by decide
  have hmem : r ∉ [Rune.scalar ' ', Rune.scalar '\t', quote] := by
    intro hr
    rw [hothers r hr] at h
    cases h
  simp only [List.mem_cons, List.not_mem_nil, or_false, not_or] at hmem
  obtain ⟨hspace, htab, hquote⟩ := hmem
  have hblank : isBlank r = false := by simp [isBlank, hspace, htab]
  simp [step, goTo, hblank, hquote, h]

/-- The text is read on to a document with one entry, of which `P` holds. -/
def Reads (R : Reader) (text : GoString) (P : Document → Mapping → Prop) : Prop :=
  ∃ doc item, (R.run text).bind finish = some doc ∧ doc.items = [item] ∧ P doc item

section Reads

variable {P : Document → Mapping → Prop} {key : GoString}

theorem reads_of_run {s : GoString} (h : R.run s = some R') (t : GoString) :
    R.Reads (s ++ t) P ↔ R'.Reads t P := by
  rw [Reads, run_of_eq h, Reads]

theorem reads_verbatim {v : GoString} (hv : Verbatim v) (rest : GoString) :
    (R.goTo (.beforeValue key)).Reads (quote :: (escapeQuotes v ++ quote :: rest)) P ↔
      (R.add key (.quoted v)).Reads rest P := by
  rw [Reads, run_escapeQuotes hv, Reads]

/-- If `P` fixes the text under the key, then it is read as it was written. -/
theorem reads_quoted {v rest : GoString} (hnone : R.items = [])
    (hkey : R.entries.lookup key = none) (hrest : Separated rest)
    (hP : ∀ doc item, P doc item → (item.lookup key).bind Scalar.text? = some v) :
    (R.goTo (.beforeValue key)).Reads (quote :: (escapeQuotes v ++ quote :: rest)) P ↔
      Verbatim v ∧ (R.add key (.quoted v)).Reads rest P := by
  by_cases hv : Verbatim v
  · rw [reads_verbatim hv, and_iff_right hv]
  · refine iff_of_false ?_ fun h => hv h.1
    rintro ⟨doc, item, hread, hitems, hp⟩
    obtain ⟨text, hne, more, rfl⟩ := run_escapeQuotes_ne hv hrest hnone hitems hread
    have hlookup := hP doc _ hp
    rw [List.append_assoc, List.lookup_append, hkey] at hlookup
    simp only [List.singleton_append, List.lookup_cons_self, Option.none_or, Option.bind_some,
      Scalar.text?, Option.some.injEq] at hlookup
    exact hne hlookup

theorem reads_integer (n : Int) (rest : GoString) :
    (R.goTo (.beforeValue key)).Reads (itoa n ++ .scalar ',' :: rest) P ↔
      ((R.add key (.plain (itoa n))).goTo .beforeKey).Reads rest P := by
  obtain ⟨hwords, hne, hminus⟩ := itoa_word n
  have hplain : (R.goTo (.beforeValue key)).run (itoa n) =
      some (R.goTo (.plain key (itoa n))) := by
    obtain ⟨r, w, htext⟩ := List.exists_cons_of_ne_nil hne
    rw [htext] at hwords ⊢
    rw [run_cons, step_word (hwords r List.mem_cons_self), Option.bind_some]
    exact run_words fun r' hr' => hwords r' (List.mem_cons_of_mem _ hr')
  have hcomma : (R.goTo (.plain key (itoa n))).step (.scalar ',') =
      some ((R.add key (.plain (itoa n))).goTo .beforeKey) :=
    if_neg hminus
  rw [reads_of_run hplain, Reads, run_cons, hcomma, Option.bind_some, Reads]

theorem reads_numbered {before after key' v rest : GoString} {n : Int}
    (hbefore : R.run before = some (R.goTo (.beforeValue key)))
    (hafter : ((R.add key (.plain (itoa n))).goTo .beforeKey).run after =
      some ((R.add key (.plain (itoa n))).goTo (.beforeValue key')))
    (hnone : R.items = []) (hkey : (R.add key (.plain (itoa n))).entries.lookup key' = none)
    (hrest : Separated rest)
    (hP : ∀ doc item, P doc item → (item.lookup key').bind Scalar.text? = some v) :
    R.Reads (before ++ (itoa n ++ .scalar ',' ::
        (after ++ quote :: (escapeQuotes v ++ quote :: rest)))) P ↔
      Verbatim v ∧ ((R.add key (.plain (itoa n))).add key' (.quoted v)).Reads rest P := by
  rw [reads_of_run hbefore, reads_integer, reads_of_run hafter]
  exact reads_quoted hnone hkey hrest hP

end Reads

end Reader

end ResidentialIPManager.Text.YAML
