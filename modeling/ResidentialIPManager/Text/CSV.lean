import ResidentialIPManager.Text.Strings

/-! # Comma separated values

`encoding/csv` with its default settings, line by line. A quoted field may go on over the
end of a line, so between two lines the reader is either between records or inside a
quoted field. Which of the two is a matter of the quotes alone: a quoted field is open
after an odd number of them.
-/
namespace ResidentialIPManager.Text.CSV

inductive Reason where
  | bareQuote
  | quote
  deriving DecidableEq, Repr

def Reason.text : Reason → GoString
  | .bareQuote => lit "bare \" in non-quoted-field"
  | .quote => lit "extraneous or missing \" in quoted-field"

/-- A `csv.ParseError`; lines are counted from 1 and columns in bytes. -/
structure ParseError where
  startLine : Nat
  line : Nat
  column : Nat
  reason : Reason
  deriving DecidableEq, Repr

def ParseError.text (e : ParseError) : GoString :=
  let position := lit "parse error on line " ++ itoa e.line ++ lit ", column " ++ itoa e.column ++
    lit ": " ++ e.reason.text
  if e.startLine ≠ e.line then lit "record on line " ++ itoa e.startLine ++ lit "; " ++ position
  else position

abbrev Record := List GoString

/-- A record that is being read: its complete fields, the field in progress, and the lines
that it has taken so far. -/
structure Pending where
  done : Record := []
  field : GoString := []
  lines : Nat := 0
  deriving DecidableEq, Repr

namespace Pending

def push (p : Pending) (r : Rune) : Pending := { p with field := p.field ++ [r] }

def fields (p : Pending) : Record := p.done ++ [p.field]

def nextField (p : Pending) : Pending := { p with done := p.fields, field := [] }

def nextLine (p : Pending) : Pending :=
  { p with field := p.field ++ [.scalar '\n'], lines := p.lines + 1 }

end Pending

inductive Mode where
  | start
  | plain
  | quoted
  | closing
  deriving DecidableEq, Repr

/-- How a line ends: the record is complete, or its last field goes on. -/
inductive LineEnd where
  | record (fields : Record)
  | pending (p : Pending)
  deriving DecidableEq, Repr

/-- Why a line cannot be read, and what is left of it from the quote on. -/
structure Stop where
  reason : Reason
  left : GoString
  deriving DecidableEq, Repr

/-- The rest of a line. In mode `closing` the last rune was a quote inside a quoted field. -/
def scan : Mode → Pending → GoString → Except Stop LineEnd
  | .start, p, [] => .ok (.record p.fields)
  | .start, p, r :: rest =>
    if r = .scalar '"' then scan .quoted p rest
    else if r = .scalar ',' then scan .start p.nextField rest
    else scan .plain (p.push r) rest
  | .plain, p, [] => .ok (.record p.fields)
  | .plain, p, r :: rest =>
    if r = .scalar '"' then .error ⟨.bareQuote, r :: rest⟩
    else if r = .scalar ',' then scan .start p.nextField rest
    else scan .plain (p.push r) rest
  | .quoted, p, [] => .ok (.pending p.nextLine)
  | .quoted, p, r :: rest =>
    if r = .scalar '"' then scan .closing p rest
    else scan .quoted (p.push r) rest
  | .closing, p, [] => .ok (.record p.fields)
  | .closing, p, r :: rest =>
    if r = .scalar '"' then scan .quoted (p.push r) rest
    else if r = .scalar ',' then scan .start p.nextField rest
    else .error ⟨.quote, .scalar '"' :: r :: rest⟩

def scanLine : Option Pending → GoString → Except Stop LineEnd
  | none, line => scan .start {} line
  | some p, line => scan .quoted p line

/-- An error among some lines: the lines of its record before it, its column, and the lines
behind it. -/
structure Fault where
  reason : Reason
  before : Nat
  column : Nat
  behind : Nat
  deriving DecidableEq, Repr

/-- The records of some lines and what is open after them; empty lines between records
are skipped. -/
def scanLines (pending : Option Pending) :
    List GoString → Except Fault (List Record × Option Pending)
  | [] => .ok ([], pending)
  | line :: rest =>
    if pending = none ∧ line = [] then scanLines none rest
    else
      match scanLine pending line with
      | .error stop =>
        .error ⟨stop.reason, (pending.map (·.lines)).getD 0,
          GoString.byteLen line - GoString.byteLen stop.left + 1, rest.length⟩
      | .ok (.record fields) =>
        match scanLines none rest with
        | .error err => .error err
        | .ok (records, last) => .ok (fields :: records, last)
      | .ok (.pending p) => scanLines (some p) rest

/-- A field that is open at the end of the text. A line break there ends a line and begins
no other. -/
def unterminated (lines : List GoString) (p : Pending) : ParseError :=
  let startLine := lines.length + 1 - p.lines
  if lines.getLast? = some [] then
    ⟨startLine, lines.length - 1, GoString.byteLen (lines.dropLast.getLast?.getD []) + 2, .quote⟩
  else ⟨startLine, lines.length, GoString.byteLen (lines.getLast?.getD []) + 1, .quote⟩

def readLines (lines : List GoString) : Except ParseError (List Record) :=
  match scanLines none lines with
  | .error fault =>
    let line := lines.length - fault.behind
    .error ⟨line - fault.before, line, fault.column, fault.reason⟩
  | .ok (records, none) => .ok records
  | .ok (_, some p) => .error (unterminated lines p)

def readAll (text : GoString) : Except ParseError (List Record) := readLines (split '\n' text)

example : (readAll (lit "a\nb,\"c\nd\"e")).mapError (·.text) =
    .error (lit "record on line 2; parse error on line 3, column 2: " ++
      lit "extraneous or missing \" in quoted-field") := by decide +kernel

def Complete (lines : List GoString) (records : List Record) : Prop :=
  scanLines none lines = .ok (records, none)

instance (lines : List GoString) (records : List Record) : Decidable (Complete lines records) :=
  inferInstanceAs (Decidable (_ = _))

theorem readLines_eq_ok {lines : List GoString} {records : List Record} :
    readLines lines = .ok records ↔ Complete lines records := by
  unfold readLines Complete
  constructor
  · intro h
    split at h
    · cases h
    · next heq => rw [heq, Except.ok.inj h]
    · cases h
  · intro h
    rw [h]

inductive Reads : Option Pending → List GoString → List Record → Option Pending → Prop
  | nil (pending) : Reads pending [] [] pending
  | blank {rest records last} (hrest : Reads none rest records last) :
      Reads none ([] :: rest) records last
  | record {pending line fields rest records last}
      (hline : scanLine pending line = .ok (.record fields)) (hne : pending = none → line ≠ [])
      (hrest : Reads none rest records last) : Reads pending (line :: rest) (fields :: records) last
  | opened {pending line p rest records last} (hline : scanLine pending line = .ok (.pending p))
      (hrest : Reads (some p) rest records last) : Reads pending (line :: rest) records last

section Lines

variable {pending last : Option Pending} {p : Pending} {line : GoString}
  {front back rest lines : List GoString} {fields : Record} {records : List Record}

theorem Reads.scanLines (h : Reads pending lines records last) :
    scanLines pending lines = .ok (records, last) := by
  induction h with
  | nil => rfl
  | blank _ ih => rwa [CSV.scanLines, if_pos ⟨rfl, rfl⟩]
  | record hline hne _ ih =>
    rw [CSV.scanLines, if_neg fun hblank => hne hblank.1 hblank.2]
    simp only [hline, ih]
  | opened hline _ ih =>
    rw [CSV.scanLines, if_neg]
    · simpa only [hline] using ih
    · rintro ⟨rfl, rfl⟩
      cases hline

/-- The reader goes on after some lines from what they leave open. -/
theorem Reads.append {middle : Option Pending} {more : List Record}
    (hfront : Reads pending front records middle) (hback : Reads middle back more last) :
    Reads pending (front ++ back) (records ++ more) last := by
  induction hfront with
  | nil => exact hback
  | blank _ ih => exact .blank (ih hback)
  | record hline hne _ ih => exact .record hline hne (ih hback)
  | opened hline _ ih => exact .opened hline (ih hback)

/-- Two parts of the lines that can be read. -/
theorem Reads.split (h : Reads pending (front ++ back) records last) :
    ∃ first middle more, Reads pending front first middle ∧ Reads middle back more last ∧
      records = first ++ more := by
  induction front generalizing pending records with
  | nil => exact ⟨[], pending, records, .nil _, h, rfl⟩
  | cons line rest ih =>
    cases h with
    | blank hrest =>
      obtain ⟨first, middle, more, hfirst, hmore, heq⟩ := ih hrest
      exact ⟨first, middle, more, .blank hfirst, hmore, heq⟩
    | @record _ _ fields _ _ _ hline hne hrest =>
      obtain ⟨first, middle, more, hfirst, hmore, rfl⟩ := ih hrest
      exact ⟨fields :: first, middle, more, .record hline hne hfirst, hmore, rfl⟩
    | opened hline hrest =>
      obtain ⟨first, middle, more, hfirst, hmore, heq⟩ := ih hrest
      exact ⟨first, middle, more, .opened hline hfirst, hmore, heq⟩

end Lines

section Quotes

/-- The control of the reader, without what it has read. -/
def Mode.next : Mode → Rune → Option Mode
  | .start, r =>
    if r = .scalar '"' then some .quoted else if r = .scalar ',' then some .start else some .plain
  | .plain, r =>
    if r = .scalar '"' then none else if r = .scalar ',' then some .start else some .plain
  | .quoted, r => if r = .scalar '"' then some .closing else some .quoted
  | .closing, r =>
    if r = .scalar '"' then some .quoted else if r = .scalar ',' then some .start else none

def Mode.run (m : Mode) (line : GoString) : Option Mode := line.foldlM Mode.next m

def leavesOpen : Except Stop LineEnd → Option Bool
  | .error _ => none
  | .ok (.record _) => some false
  | .ok (.pending _) => some true

/-- What a line leaves open depends on the mode it starts in and not on what was read before. -/
theorem leavesOpen_scan (m : Mode) (p : Pending) (line : GoString) :
    leavesOpen (scan m p line) = (m.run line).map fun last => decide (last = .quoted) := by
  induction line generalizing m p with
  | nil => cases m <;> rfl
  | cons r rest ih =>
    rw [Mode.run, List.foldlM_cons]
    cases m <;> simp only [scan, Mode.next] <;> split_ifs <;>
      first | rfl | exact ih _ _

theorem leavesOpen_scanLine (pending : Option Pending) (line : GoString) :
    leavesOpen (scanLine pending line) =
      ((if pending.isSome then Mode.quoted else .start).run line).map
        fun last => decide (last = .quoted) := by
  cases pending <;> exact leavesOpen_scan _ _ _

/-- Of the lines behind an open field only the record that closes it depends on what the field
holds. -/
theorem Reads.swap {p : Pending} {lines : List GoString} {records : List Record}
    (h : Reads (some p) lines records none) (p' : Pending) :
    ∃ record record' last, records = record :: last ∧
      Reads (some p') lines (record' :: last) none := by
  induction lines generalizing p p' records with
  | nil => cases h
  | cons line rest ih =>
    have hsame : leavesOpen (scanLine (some p) line) = leavesOpen (scanLine (some p') line) := by
      rw [leavesOpen_scanLine, leavesOpen_scanLine]
      rfl
    cases h with
    | @record _ _ fields _ records _ hline _ hrest =>
      rw [hline] at hsame
      rcases hline' : scanLine (some p') line with stop | fields' | q'
      · simp [hline', leavesOpen] at hsame
      · exact ⟨fields, fields', records, rfl, .record hline' (by simp) hrest⟩
      · simp [hline', leavesOpen] at hsame
    | @opened _ _ q _ _ _ hline hrest =>
      rw [hline] at hsame
      rcases hline' : scanLine (some p') line with stop | fields' | q'
      · simp [hline', leavesOpen] at hsame
      · simp [hline', leavesOpen] at hsame
      · obtain ⟨record, record', last, rfl, hread⟩ := ih hrest q'
        exact ⟨record, record', last, rfl, .opened hline' hread⟩

end Quotes

end ResidentialIPManager.Text.CSV
