import ResidentialIPManager.Text.Rune

/-! # The parts of package strings that the readers use

Every function is a list operation on runes. `fields` and `trimSpace` use the
Unicode blanks, `trimBlanks` the two characters of the cut set `" \t"`.
-/
namespace ResidentialIPManager.Text

def hasPrefix (s p : GoString) : Bool := p.isPrefixOf s

def hasSuffix (s p : GoString) : Bool := p.isSuffixOf s

def trimPrefix (s p : GoString) : GoString := if hasPrefix s p then s.drop p.length else s

def trimSpace (s : GoString) : GoString := (s.dropWhile Rune.isSpace).rdropWhile Rune.isSpace

/-- `strings.TrimRight(s, " \t")`. -/
def trimBlanks (s : GoString) : GoString :=
  s.rdropWhile (fun r => r = .scalar ' ' ∨ r = .scalar '\t')

/-- `strings.Trim` with a cut set. -/
def trimSet (cut : GoString) (s : GoString) : GoString :=
  (s.dropWhile (fun r => cut.contains r)).rdropWhile (fun r => cut.contains r)

def fields (s : GoString) : List GoString := (s.splitOnP Rune.isSpace).filter (fun f => !f.isEmpty)

/-- The words of a text, put together, are the text without its blanks. -/
theorem flatten_fields (s : GoString) : (fields s).flatten = s.filter fun r => !r.isSpace := by
  have hflat : ∀ parts : List GoString,
      (parts.filter fun f => !f.isEmpty).flatten = parts.flatten := by
    intro parts
    induction parts with
    | nil => rfl
    | cons f parts ih =>
      cases f with
      | nil => simpa using ih
      | cons r f => simp [ih]
  rw [fields, hflat]
  induction s with
  | nil => rfl
  | cons r s ih =>
    rw [List.splitOnP_cons_eq_if_modifyHead, List.filter_cons]
    cases hr : r.isSpace with
    | true => simpa using ih
    | false =>
      cases hparts : s.splitOnP Rune.isSpace with
      | nil => exact absurd hparts (List.splitOnP_ne_nil _ _)
      | cons first rest =>
        rw [hparts] at ih
        simpa using ih

/-- `strings.Split` at a single rune. -/
def split (sep : Char) (s : GoString) : List GoString := s.splitOn (.scalar sep)

def join (sep : GoString) (parts : List GoString) : GoString := sep.intercalate parts

theorem mem_split {sep : Char} {s part : GoString} (h : part ∈ split sep s) {r : Rune}
    (hr : r ∈ part) : r ∈ s ∧ r ≠ .scalar sep := by
  unfold split List.splitOn at h
  induction s generalizing part r with
  | nil => simp_all
  | cons a s ih =>
    rw [List.splitOnP_cons_eq_if_modifyHead] at h
    split_ifs at h with ha
    · rcases List.mem_cons.mp h with rfl | hm
      · simp at hr
      · exact (ih hm hr).imp_left (List.mem_cons_of_mem _)
    · cases hparts : s.splitOnP (· == .scalar sep) with
      | nil => simp [hparts] at h
      | cons first rest =>
        rw [hparts] at h ih
        rcases List.mem_cons.mp h with rfl | hm
        · rcases List.mem_cons.mp hr with rfl | hr
          · exact ⟨List.mem_cons_self, by simpa using ha⟩
          · exact (ih List.mem_cons_self hr).imp_left (List.mem_cons_of_mem _)
        · exact (ih (List.mem_cons_of_mem _ hm) hr).imp_left (List.mem_cons_of_mem _)

theorem mem_join {sep : GoString} {lines : List GoString} {r : Rune} (h : r ∈ join sep lines) :
    r ∈ sep ∨ ∃ line ∈ lines, r ∈ line := by
  induction lines with
  | nil => simp [join] at h
  | cons a rest ih =>
    cases rest with
    | nil => exact .inr ⟨a, List.mem_cons_self, by simpa [join] using h⟩
    | cons b rest =>
      have hsplit : join sep (a :: b :: rest) = a ++ (sep ++ join sep (b :: rest)) := by
        simp [join, List.intercalate]
      rw [hsplit, List.mem_append, List.mem_append] at h
      rcases h with ha | hsep | hrest
      · exact .inr ⟨a, List.mem_cons_self, ha⟩
      · exact .inl hsep
      · exact (ih hrest).imp_right fun ⟨line, hline, hr⟩ =>
          ⟨line, List.mem_cons_of_mem _ hline, hr⟩

/-- Joined lines with a final newline split into the lines and one empty rest. -/
theorem split_join_lines {sep : Char} {lines : List GoString}
    (hlines : ∀ line ∈ lines, .scalar sep ∉ line) (hne : lines ≠ []) :
    split sep (join [.scalar sep] lines ++ [.scalar sep]) = lines ++ [[]] := by
  have hjoin : join [.scalar sep] lines ++ [.scalar sep] =
      [.scalar sep].intercalate (lines ++ [[]]) := by
    unfold join
    induction lines with
    | nil => exact absurd rfl hne
    | cons a rest ih =>
      cases rest with
      | nil => simp [List.intercalate]
      | cons b rest =>
        have hrest := ih (fun line hl => hlines line (List.mem_cons_of_mem _ hl)) (by simp)
        simp only [List.intercalate, List.cons_append, List.intersperse_cons_cons,
          List.flatten_cons, List.append_assoc] at hrest ⊢
        rw [hrest]
  rw [split, hjoin]
  refine List.splitOn_intercalate _ ?_ (by simp)
  intro line hl
  rcases List.mem_append.mp hl with hm | hm
  · exact hlines line hm
  · simp [List.mem_singleton.mp hm]

theorem split_join {sep : Char} {parts : List GoString} (h : ∀ part ∈ parts, .scalar sep ∉ part)
    (hne : parts ≠ []) : split sep (join [.scalar sep] parts) = parts :=
  List.splitOn_intercalate _ h hne

def toLower (s : GoString) : GoString := s.map Rune.toLower

def toUpper (s : GoString) : GoString := s.map Rune.toUpper

def contains (s part : GoString) : Bool := s.tails.any (fun t => part.isPrefixOf t)

/-- `strings.ReplaceAll(s, "\r\n", "\n")`. -/
def replaceCRLF : GoString → GoString
  | .scalar '\r' :: .scalar '\n' :: rest => .scalar '\n' :: replaceCRLF rest
  | r :: rest => r :: replaceCRLF rest
  | [] => []

def replaceCR (s : GoString) : GoString :=
  s.map (fun r => if r = .scalar '\r' then .scalar '\n' else r)

def normalizeNewlines (s : GoString) : GoString := replaceCR (replaceCRLF s)

theorem normalizeNewlines_no_cr (s : GoString) : .scalar '\r' ∉ normalizeNewlines s := by
  intro h
  obtain ⟨r, -, hr⟩ := List.mem_map.mp h
  split_ifs at hr
  · cases hr
  · contradiction

theorem replaceCRLF_of_no_cr {s : GoString} (h : .scalar '\r' ∉ s) : replaceCRLF s = s := by
  induction s with
  | nil => rfl
  | cons r s ih =>
    rw [List.mem_cons, not_or] at h
    rw [replaceCRLF, ih h.2]
    rintro rest heq -
    exact h.1 heq.symm

theorem normalizeNewlines_of_no_cr {s : GoString} (h : .scalar '\r' ∉ s) :
    normalizeNewlines s = s := by
  rw [normalizeNewlines, replaceCRLF_of_no_cr h, replaceCR]
  conv_rhs => rw [← List.map_id s]
  refine List.map_congr_left fun r hr => if_neg ?_
  rintro rfl
  exact h hr

inductive NumError where
  | syntaxError
  | rangeError
  deriving DecidableEq, Repr

def maxInt64 : Int := 9223372036854775807

def minInt64 : Int := -9223372036854775808

def wrap64 (n : Int) : Int := (n + 9223372036854775808) % 18446744073709551616 - 9223372036854775808

def digitsValue (s : GoString) : Nat := s.foldl (fun n r => 10 * n + (r.codePoint - 48)) 0

/-- `strconv.Atoi`: an optional sign and decimal digits within 64 bits. The
value returned next to a range error is the bound that was passed. -/
def atoi (s : GoString) : Int × Option NumError :=
  let signed := match s with
    | .scalar '-' :: rest => (true, rest)
    | .scalar '+' :: rest => (false, rest)
    | rest => (false, rest)
  if signed.2.isEmpty || !signed.2.all Rune.isDigit then (0, some .syntaxError)
  else
    let n : Int := digitsValue signed.2
    if signed.1 then
      if -n < minInt64 then (minInt64, some .rangeError) else (-n, none)
    else if maxInt64 < n then (maxInt64, some .rangeError) else (n, none)

/-- `strconv.Itoa` and the `%d` verb. -/
def itoa (n : Int) : GoString := lit (toString n)

end ResidentialIPManager.Text
