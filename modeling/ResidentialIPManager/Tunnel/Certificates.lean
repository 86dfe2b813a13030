import ResidentialIPManager.Tunnel.InlineReader

/-! # Certificates in a sanitized profile

What the sanitizer removes outside the blocks means nothing to the collection of inline
files. So the sanitized text gives the reader the same certificates, as long as the blocks
themselves come through.
-/
namespace ResidentialIPManager.Tunnel
open Text

section Runs

theorem foldlM_cons_ok {α β ε : Type} {f : β → α → Except ε β} {b c : β} {a : α} {l : List α} :
    (a :: l).foldlM f b = .ok c ↔ ∃ b', f b a = .ok b' ∧ l.foldlM f b' = .ok c := by
  rw [List.foldlM_cons]
  cases f b a with
  | error e => simp [bind, Except.bind]
  | ok b' => simp [bind, Except.bind]

theorem foldlM_append_ok {α β ε : Type} {f : β → α → Except ε β} {b c : β} {l l' : List α} :
    (l ++ l').foldlM f b = .ok c ↔ ∃ b', l.foldlM f b = .ok b' ∧ l'.foldlM f b' = .ok c := by
  rw [List.foldlM_append]
  cases l.foldlM f b with
  | error e => simp [bind, Except.bind]
  | ok b' => simp [bind, Except.bind]

variable {files : Files} {k k' m : Reading} {lines lines' : List GoString}

theorem foldlM_readLine_agree (hk : Agree k k') (h : lines.foldlM (readLine files) k = .ok m) :
    ∃ m', lines.foldlM (readLine files) k' = .ok m' ∧ Agree m m' := by
  induction lines generalizing k k' with
  | nil =>
    obtain rfl := Except.ok.inj h
    exact ⟨k', rfl, hk⟩
  | cons l rest ih =>
    obtain ⟨k₁, hline, hrest⟩ := foldlM_cons_ok.mp h
    obtain ⟨k₂, hline', hagree⟩ := readLine_agree hk hline
    obtain ⟨m', hrest', hm⟩ := ih hagree hrest
    exact ⟨m', foldlM_cons_ok.mpr ⟨k₂, hline', hrest'⟩, hm⟩

/-- The line is accepted outside of blocks, where it changes options only. -/
def Readable (files : Files) (l : GoString) : Prop :=
  ∀ k : Reading, k.tag = none → ∃ m, readLine files k l = .ok m ∧ Agree k m

theorem foldlM_readable (hlines : ∀ l ∈ lines, Readable files l) (htag : k.tag = none) :
    ∃ m, lines.foldlM (readLine files) k = .ok m ∧ Agree k m := by
  induction lines generalizing k with
  | nil => exact ⟨k, rfl, .refl k⟩
  | cons l rest ih =>
    obtain ⟨k₁, hline, hk⟩ := hlines l List.mem_cons_self k htag
    obtain ⟨m, hrest, hm⟩ := ih (fun l' hl' => hlines l' (List.mem_cons_of_mem _ hl'))
      (hk.tag.symm.trans htag)
    exact ⟨m, foldlM_cons_ok.mpr ⟨k₁, hline, hrest⟩, hk.trans hm⟩

theorem readable_of_foldlM (hidle : ∀ l ∈ lines, Idle l) (htag : k.tag = none)
    (h : lines.foldlM (readLine files) k = .ok m) : Agree k m ∧ ∀ l ∈ lines, Readable files l := by
  induction lines generalizing k with
  | nil =>
    obtain rfl := Except.ok.inj h
    exact ⟨.refl k, by simp⟩
  | cons l rest ih =>
    obtain ⟨k₁, hline, hrest⟩ := foldlM_cons_ok.mp h
    obtain ⟨hk, hreadable⟩ := readLine_idle (hidle l List.mem_cons_self) htag hline
    obtain ⟨hm, hlater⟩ := ih (fun l' hl' => hidle l' (List.mem_cons_of_mem _ hl'))
      (hk.tag.symm.trans htag) hrest
    exact ⟨hk.trans hm, List.forall_mem_cons.mpr ⟨hreadable, hlater⟩⟩

theorem foldlM_trimBlanks {step : Reading → GoString → Except Fault Reading}
    (h : ∀ k l, step k (trimBlanks l) = step k l) (k : Reading) (lines : List GoString) :
    (lines.map trimBlanks).foldlM step k = lines.foldlM step k := by
  rw [List.foldlM_map]
  simp only [h]

theorem foldlM_inlineLine_idle (hidle : ∀ l ∈ lines, Idle l) (htag : k.tag = none) :
    lines.foldlM inlineLine k = .ok k := by
  induction lines with
  | nil => rfl
  | cons l rest ih =>
    obtain ⟨hclose, hopen⟩ := hidle l List.mem_cons_self
    refine foldlM_cons_ok.mpr ⟨k, ?_, ih fun l' hl' => hidle l' (List.mem_cons_of_mem _ hl')⟩
    simp [inlineLine, hclose, hopen, htag]

theorem isClosingTag_closing {block : Block} (h : block.name ∈ certificateNames) :
    isClosingTag (trimSpace block.closing) = true := by
  rw [(tagName_eq_some block.closes).1]
  revert h
  generalize block.name = name
  revert name
  decide

theorem tag_after_block {block : Block} (hname : block.name ∈ certificateNames)
    (h : block.lines.foldlM inlineLine k = .ok m) : m.tag = none := by
  rw [Block.lines, ← List.cons_append] at h
  obtain ⟨k₁, -, hlast⟩ := foldlM_append_ok.mp h
  obtain ⟨k₂, hclosing, hend⟩ := foldlM_cons_ok.mp hlast
  obtain rfl := Except.ok.inj hend
  exact inlineLine_closing (isClosingTag_closing hname) hclosing

theorem foldlM_inlineLine_of_readLine (hk : Agree k k')
    (h : lines.foldlM (readLine files) k = .ok m) :
    ∃ m', lines.foldlM inlineLine k' = .ok m' ∧ Agree m m' := by
  induction lines generalizing k k' with
  | nil =>
    obtain rfl := Except.ok.inj h
    exact ⟨k', rfl, hk⟩
  | cons l rest ih =>
    obtain ⟨k₁, hline, hrest⟩ := foldlM_cons_ok.mp h
    obtain ⟨k₂, hline', hagree⟩ := inlineLine_of_readLine hk hline
    obtain ⟨m', hrest', hm⟩ := ih hagree hrest
    exact ⟨m', foldlM_cons_ok.mpr ⟨k₂, hline', hrest'⟩, hm⟩

/-- The blocks are collected alike from the cleaned lines. -/
theorem Cleaned.collected (h : Cleaned lines lines') (htag : k.tag = none) :
    lines'.foldlM inlineLine k = lines.foldlM inlineLine k := by
  induction h generalizing k with
  | nil => rfl
  | @idle part kept rest rest' quiet sublist tail ih =>
    have hkept : ∀ l ∈ kept, Idle l := by
      intro l hl
      obtain ⟨raw, hraw, rfl⟩ := List.mem_map.mp (sublist.subset hl)
      rw [Idle, trimSpace_trimBlanks]
      exact quiet raw hraw
    rw [List.foldlM_append, List.foldlM_append, foldlM_inlineLine_idle quiet htag,
      foldlM_inlineLine_idle hkept htag]
    exact ih htag
  | @block rest rest' block known tail ih =>
    rw [List.foldlM_append, List.foldlM_append, foldlM_trimBlanks inlineLine_trimBlanks]
    cases hblock : block.lines.foldlM inlineLine k with
    | error fault => rfl
    | ok k₁ => exact ih (tag_after_block known hblock)

/-- If the lines are read, so are the cleaned ones, with the same certificates. -/
theorem Cleaned.read (h : Cleaned lines lines') (htag : k.tag = none) (hk : Agree k k')
    (hread : lines.foldlM (readLine files) k = .ok m) :
    ∃ m', lines'.foldlM (readLine files) k' = .ok m' ∧ Agree m m' := by
  -- the two readings agree on what is collected, not on the options
  induction h generalizing k k' with
  | nil =>
    obtain rfl := Except.ok.inj hread
    exact ⟨k', rfl, hk⟩
  | @idle part kept rest rest' quiet sublist tail ih =>
    obtain ⟨k₁, hpart, hrest⟩ := foldlM_append_ok.mp hread
    obtain ⟨hk₁, hreadable⟩ := readable_of_foldlM quiet htag hpart
    have hkept : ∀ l ∈ kept, Readable files l := by
      intro l hl
      obtain ⟨raw, hraw, rfl⟩ := List.mem_map.mp (sublist.subset hl)
      simp only [Readable, readLine_trimBlanks]
      exact hreadable raw hraw
    obtain ⟨k₂, hkeptread, hk₂⟩ := foldlM_readable hkept (hk.tag.symm.trans htag)
    obtain ⟨m', hrest', hm⟩ := ih (hk₁.tag.symm.trans htag) (hk₁.symm.trans (hk.trans hk₂)) hrest
    exact ⟨m', foldlM_append_ok.mpr ⟨k₂, hkeptread, hrest'⟩, hm⟩
  | @block rest rest' block known tail ih =>
    obtain ⟨k₁, hblock, hrest⟩ := foldlM_append_ok.mp hread
    obtain ⟨k₂, hblock', hagree⟩ := foldlM_readLine_agree hk hblock
    obtain ⟨k₃, hinline, hk₃⟩ := foldlM_inlineLine_of_readLine (.refl k) hblock
    have htag₁ : k₁.tag = none := hk₃.tag.trans (tag_after_block known hinline)
    obtain ⟨m', hrest', hm⟩ := ih htag₁ hagree hrest
    refine ⟨m', foldlM_append_ok.mpr ⟨k₂, ?_, hrest'⟩, hm⟩
    rw [foldlM_trimBlanks (readLine_trimBlanks files)]
    exact hblock'

end Runs

section Texts

variable {files : Files} {k : Reading} {content configText cleaned : GoString}

theorem foldlM_blanks {β : Type} {step : Reading → GoString → Except Fault Reading}
    {view : Reading → β} {lines blanks : List GoString}
    (hstep : ∀ k l, trimSpace l = [] → ∃ m, step k l = .ok m ∧ view m = view k)
    (hblank : ∀ l ∈ blanks, trimSpace l = []) :
    ((lines ++ blanks).foldlM step k).map view = (lines.foldlM step k).map view := by
  have hend : ∀ k, (blanks.foldlM step k).map view = .ok (view k) := by
    induction blanks with
    | nil => exact fun k => rfl
    | cons l rest ih =>
      intro k
      obtain ⟨m, hline, hview⟩ := hstep k l (hblank l List.mem_cons_self)
      rw [List.foldlM_cons, hline, ← hview]
      exact ih (fun l' hl' => hblank l' (List.mem_cons_of_mem _ hl')) m
  rw [List.foldlM_append]
  cases lines.foldlM step k with
  | error fault => rfl
  | ok k₁ => exact hend k₁

theorem not_comment_of_blank {l : GoString} (h : trimSpace l = []) : hasPrefix l (lit "#") = false := by
  by_contra hhash
  rw [Bool.not_eq_false] at hhash
  have hprefix := hasPrefix_trimSpace hhash
  rw [h] at hprefix
  cases hprefix

theorem inlineLine_blank (k : Reading) (l : GoString) (h : trimSpace l = []) :
    ∃ m, inlineLine k l = .ok m ∧ m.options = k.options := by
  have hclose : isClosingTag [] = false := by decide
  have hopen : openingTag [] = none := by decide
  rw [inlineLine, not_comment_of_blank h, h, hclose, hopen]
  cases k.tag with
  | some tag => exact ⟨_, rfl, rfl⟩
  | none => exact ⟨k, rfl, rfl⟩

theorem readLine_blank (k : Reading) (l : GoString) (h : trimSpace l = []) :
    ∃ m, readLine files k l = .ok m ∧ m.options = k.options := by
  have hoption : ∀ o, parseOption files o [] [] = .ok o := fun o => rfl
  rw [readLine_eq]
  cases hline : optionOn k l with
  | none => exact inlineLine_blank k l h
  | some option =>
    unfold optionOn at hline
    split_ifs at hline
    have hsplit : split ' ' (trimSpace l) = [[]] := by rw [h]; rfl
    simp only [hsplit] at hline
    obtain rfl := Option.some.inj hline
    simp only [hoption]
    exact ⟨_, rfl, rfl⟩

theorem inlineFiles_blanks {lines blanks : List GoString} (h : ∀ l ∈ blanks, trimSpace l = []) :
    inlineFiles (lines ++ blanks) = inlineFiles lines := by
  refine foldlM_blanks (fun k l hl => ?_) h
  obtain ⟨m, hline, hoptions⟩ := inlineLine_blank k l hl
  exact ⟨m, hline, by rw [hoptions]⟩

theorem readFrom_eq (files : Files) (k : Reading) (lines : List GoString) :
    readFrom files k lines = (lines.foldlM (readLine files) k).map fun k => k.options := by
  induction lines generalizing k with
  | nil => rfl
  | cons l rest ih =>
    rw [readFrom, List.foldlM_cons]
    cases readLine files k l with
    | error fault => rfl
    | ok k₁ => exact ih k₁

theorem readFrom_blanks {lines blanks : List GoString} (h : ∀ l ∈ blanks, trimSpace l = []) :
    readFrom files k (lines ++ blanks) = readFrom files k lines := by
  rw [readFrom_eq, readFrom_eq]
  exact foldlM_blanks readLine_blank h

/-- The scanner gives no line after the last line break. -/
theorem scanned_lines (parts : List GoString) :
    ∃ blanks, (∀ l ∈ blanks, l = []) ∧
      parts = (if parts.getLast? = some [] then parts.dropLast else parts) ++ blanks := by
  split_ifs with hlast
  · exact ⟨[[]], by simp, (List.dropLast_append_getLast? [] hlast).symm⟩
  · exact ⟨[], by simp, by simp⟩

/-- The file is read if its lines fit the buffer and are read. -/
theorem readConfigFile_eq_ok {options : OpenVPNOptions} (hcr : .scalar '\r' ∉ content) :
    readConfigFile files content = .ok options ↔
      (∀ l ∈ split '\n' content, GoString.byteLen l < maxScanTokenSize) ∧
        readFrom files {} (split '\n' content) = .ok options := by
  have hlines : ∀ l ∈ split '\n' content, .scalar '\r' ∉ l :=
    fun l hl hr => hcr (mem_split hl hr).1
  rw [readConfigFile, getLinesFromFile]
  generalize split '\n' content = parts at hlines ⊢
  obtain ⟨blanks, hblanks, hparts⟩ := scanned_lines parts
  generalize (if parts.getLast? = some [] then parts.dropLast else parts) = lines at hparts ⊢
  subst hparts
  have hempty : ∀ l ∈ blanks, GoString.byteLen l < maxScanTokenSize := by
    intro l hl
    rw [hblanks l hl]
    decide
  rw [readFrom_blanks fun l hl => by rw [hblanks l hl]; rfl, List.forall_mem_append,
    map_dropCR fun l hl => hlines l (List.mem_append_left _ hl)]
  split_ifs with hlong
  · simp only [List.any_eq_true, decide_eq_true_eq] at hlong
    obtain ⟨l, hl, hlen⟩ := hlong
    constructor
    · intro h
      cases h
    · rintro ⟨⟨hshort, -⟩, -⟩
      exact absurd (hshort l hl) (Nat.not_lt.mpr hlen)
  · have hshort : ∀ l ∈ lines, GoString.byteLen l < maxScanTokenSize := by simpa using hlong
    exact ⟨fun h => ⟨⟨hshort, hempty⟩, h⟩, fun h => h.2⟩

/-- The sanitized text and the kept lines are the same to the reader. -/
theorem split_cleaned_blanks (h : sanitizeOpenVPNConfig configText = .ok cleaned) :
    ∃ blanks, (∀ l ∈ blanks, trimSpace l = []) ∧
      sanitizeFrom {} (inputLines configText) = sanitizedLines configText ++ blanks ∧
      split '\n' cleaned = sanitizedLines configText ++ [[]] := by
  refine ⟨(sanitizeFrom {} (inputLines configText)).rtakeWhile
    fun line => decide (trimSpace line = []), ?_, ?_, split_cleaned h⟩
  · intro l hl
    simpa using List.mem_rtakeWhile_imp hl
  · exact List.rdropWhile_append_rtakeWhile.symm

end Texts

structure CertificatesSurvive (configText : GoString) (segments : List Segment) : Prop where
  /-- Every line of a block is emitted at its place. -/
  emitted : ∀ front block back, segments = front ++ .block block :: back →
    block.name ∈ certificateNames → ∃ outcomes, sanitizeEach {} (inputLines configText) =
      sanitizeEach {} (linesOf front) ++ (block.lines.map (some ∘ trimBlanks) ++ outcomes)
  /-- The text shows the block after what is kept of the lines before it. -/
  shown : ∀ front block back, segments = front ++ .block block :: back →
    block.name ∈ certificateNames → ∃ cleaned rest,
      sanitizeOpenVPNConfig configText = .ok cleaned ∧ split '\n' cleaned =
        sanitizeFrom {} (linesOf front) ++ (block.lines.map trimBlanks ++ rest)
  /-- The blocks are collected alike from both texts, whatever their options. -/
  collected : ∀ cleaned, sanitizeOpenVPNConfig configText = .ok cleaned →
    inlineFiles (split '\n' cleaned) = inlineFiles (inputLines configText)
  /-- What the reader takes from the sanitized text are the blocks of the profile. -/
  used : ∀ cleaned files options, sanitizeOpenVPNConfig configText = .ok cleaned →
    readConfigFile files cleaned = .ok options →
    inlineFiles (inputLines configText) = .ok options.inlineFiles
  /-- A profile that can be read as it is gives the same certificates once sanitized. -/
  read : ∀ cleaned files options, sanitizeOpenVPNConfig configText = .ok cleaned →
    readConfigFile files (normalizeNewlines configText) = .ok options →
    ∃ options', readConfigFile files cleaned = .ok options' ∧
      options'.inlineFiles = options.inlineFiles

section Survival

variable {configText cleaned : GoString} {segments : List Segment}

theorem inlineFiles_of_readFrom {files : Files} {lines : List GoString} {options : OpenVPNOptions}
    (h : readFrom files {} lines = .ok options) : inlineFiles lines = .ok options.inlineFiles := by
  rw [readFrom_eq] at h
  cases hrun : lines.foldlM (readLine files) {} with
  | error fault => rw [hrun] at h; cases h
  | ok m =>
    rw [hrun] at h
    obtain rfl := Except.ok.inj h
    obtain ⟨m', hinline, hm⟩ := foldlM_inlineLine_of_readLine (.refl {}) hrun
    rw [inlineFiles, hinline, hm.files]
    rfl

theorem collected_of_untouched (hsegments : inputLines configText = linesOf segments)
    (h : AllUntouched segments) (hclean : sanitizeOpenVPNConfig configText = .ok cleaned) :
    inlineFiles (split '\n' cleaned) = inlineFiles (inputLines configText) := by
  obtain ⟨blanks, hblanks, hlines, hsplit⟩ := split_cleaned_blanks hclean
  have hcleaned : Cleaned (linesOf segments) (sanitizeFrom {} (linesOf segments)) :=
    cleaned_sanitizeFrom h (List.nil_append segments).symm
  rw [hsplit, inlineFiles_blanks (by decide), ← inlineFiles_blanks hblanks, ← hlines, hsegments]
  rw [inlineFiles, inlineFiles, hcleaned.collected rfl]

theorem byteLen_trimBlanks_le (l : GoString) :
    GoString.byteLen (trimBlanks l) ≤ GoString.byteLen l := by
  obtain ⟨tail, htail⟩ : trimBlanks l <+: l := List.rdropWhile_prefix _ _
  conv_rhs => rw [← htail]
  simp [GoString.byteLen, GoString.bytes]

theorem read_of_untouched (hsegments : inputLines configText = linesOf segments)
    (h : AllUntouched segments) (hclean : sanitizeOpenVPNConfig configText = .ok cleaned)
    {files : Files} {options : OpenVPNOptions}
    (hread : readConfigFile files (normalizeNewlines configText) = .ok options) :
    ∃ options', readConfigFile files cleaned = .ok options' ∧
      options'.inlineFiles = options.inlineFiles := by
  obtain ⟨blanks, hblanks, hlines, hsplit⟩ := split_cleaned_blanks hclean
  have hcleaned : Cleaned (linesOf segments) (sanitizeFrom {} (linesOf segments)) :=
    cleaned_sanitizeFrom h (List.nil_append segments).symm
  obtain ⟨hshort, hrun⟩ := (readConfigFile_eq_ok (normalizeNewlines_no_cr configText)).mp hread
  change readFrom files {} (inputLines configText) = .ok options at hrun
  rw [hsegments, readFrom_eq] at hrun
  cases hfold : (linesOf segments).foldlM (readLine files) {} with
  | error fault => rw [hfold] at hrun; cases hrun
  | ok m =>
    rw [hfold] at hrun
    obtain rfl := Except.ok.inj hrun
    obtain ⟨m', hfold', hm⟩ := hcleaned.read rfl (.refl {}) hfold
    refine ⟨m'.options, (readConfigFile_eq_ok (cleaned_no_cr hclean)).mpr ⟨?_, ?_⟩, hm.files.symm⟩
    · rw [hsplit]
      intro l hl
      rcases List.mem_append.mp hl with hmem | hmem
      · obtain ⟨raw, hraw, rfl⟩ := List.mem_map.mp ((sanitizedLines_sublist configText).subset hmem)
        exact Nat.lt_of_le_of_lt (byteLen_trimBlanks_le raw) (hshort raw hraw)
      · rw [List.mem_singleton.mp hmem]
        decide
    · rw [hsplit, readFrom_blanks (by decide), ← readFrom_blanks hblanks, ← hlines, hsegments,
        readFrom_eq, hfold']
      rfl

theorem trimSpace_closing (block : Block) :
    trimSpace (trimBlanks block.closing) = lit "</" ++ block.name ++ lit ">" := by
  rw [trimSpace_trimBlanks]
  exact (tagName_eq_some block.closes).1

/-- The sanitizer keeps a block that it reaches. -/
theorem sanitizedLines_of_untouched (hsegments : inputLines configText = linesOf segments)
    (h : AllUntouched segments) {front back : List Segment} {block : Block}
    (hsplit : segments = front ++ .block block :: back) (hname : block.name ∈ certificateNames) :
    ∃ rest, sanitizedLines configText =
      sanitizeFrom {} (linesOf front) ++ (block.lines.map trimBlanks ++ rest) := by
  have hkept := sanitizeFrom_block hname (h front block back hsplit hname)
  have hlines : inputLines configText = linesOf front ++ (block.lines ++ linesOf back) := by
    rw [hsegments, hsplit]
    simp [linesOf, Segment.lines]
  have hend : block.lines.map trimBlanks =
      (trimBlanks block.opening :: block.body.map trimBlanks) ++ [trimBlanks block.closing] := by
    simp [Block.lines]
  -- the closing tag is not blank, so that trimming at the end stops before it
  have hblank : ¬(fun line : GoString => decide (trimSpace line = [])) (trimBlanks block.closing) =
      true := by
    simp [trimSpace_closing, lit]
  refine ⟨(sanitizeFrom (skippingAfter (skippingAfter {} (linesOf front)) block.lines)
    (linesOf back)).rdropWhile fun line => decide (trimSpace line = []), ?_⟩
  change (sanitizeFrom {} (inputLines configText)).rdropWhile _ = _
  rw [hlines, sanitizeFrom_append, sanitizeFrom_append, hkept, hend, List.append_assoc,
    List.singleton_append, ← List.append_assoc,
    rdropWhile_append_cons (p := fun line : GoString => decide (trimSpace line = [])) hblank]
  simp

theorem shown_of_untouched (hsegments : inputLines configText = linesOf segments)
    (h : AllUntouched segments) {front back : List Segment} {block : Block}
    (hsplit : segments = front ++ .block block :: back) (hname : block.name ∈ certificateNames) :
    ∃ cleaned rest, sanitizeOpenVPNConfig configText = .ok cleaned ∧ split '\n' cleaned =
      sanitizeFrom {} (linesOf front) ++ (block.lines.map trimBlanks ++ rest) := by
  obtain ⟨rest, hfrom⟩ := sanitizedLines_of_untouched hsegments h hsplit hname
  have hcontent : (sanitizedLines configText).any hasContent = true := by
    rw [List.any_eq_true]
    refine ⟨trimBlanks block.closing, ?_, ?_⟩
    · rw [hfrom]
      simp [Block.lines]
    · rw [hasContent, trimSpace_closing]
      rfl
  have hclean : sanitizeOpenVPNConfig configText =
      .ok (join (lit "\n") (sanitizedLines configText) ++ lit "\n") := by
    rw [sanitizeOpenVPNConfig, if_pos hcontent]
  refine ⟨_, rest ++ [[]], hclean, ?_⟩
  rw [split_cleaned hclean, hfrom, List.append_assoc, List.append_assoc]

end Survival

/-- Certificates survive exactly if the sanitizer reaches each of their blocks with nothing
to skip and no line inside asks for it. -/
theorem certificatesSurvive_iff {configText : GoString} {segments : List Segment}
    (hsegments : inputLines configText = linesOf segments) :
    CertificatesSurvive configText segments ↔ AllUntouched segments := by
  have hsplit : ∀ front block back, segments = front ++ .block block :: back →
      sanitizeEach {} (inputLines configText) = sanitizeEach {} (linesOf front) ++
        (sanitizeEach (skippingAfter {} (linesOf front)) block.lines ++ sanitizeEach
          (skippingAfter (skippingAfter {} (linesOf front)) block.lines) (linesOf back)) := by
    intro front block back heq
    rw [hsegments, heq, ← sanitizeEach_append, ← sanitizeEach_append]
    simp [linesOf, Segment.lines]
  constructor
  · intro h front block back heq hname
    obtain ⟨outcomes, houtcomes⟩ := h.emitted front block back heq hname
    rw [hsplit front block back heq] at houtcomes
    have hblock := List.append_inj_left (List.append_cancel_left houtcomes) (by
      rw [length_sanitizeEach, List.length_map])
    exact (sanitizeEach_block_iff hname).mp hblock
  · intro h
    refine ⟨fun front block back heq hname => ?_, fun front block back heq hname =>
      shown_of_untouched hsegments h heq hname, fun cleaned hclean =>
      collected_of_untouched hsegments h hclean, fun cleaned files options hclean hread => ?_,
      fun cleaned files options hclean hread => read_of_untouched hsegments h hclean hread⟩
    · have heach := hsplit front block back heq
      rw [(sanitizeEach_block_iff hname).mpr (h front block back heq hname)] at heach
      exact ⟨_, heach⟩
    · have hrun := ((readConfigFile_eq_ok (cleaned_no_cr hclean)).mp hread).2
      rw [← collected_of_untouched hsegments h hclean]
      exact inlineFiles_of_readFrom hrun

def caBlock (line : GoString) (plain : TagFree line) : Block where
  name := lit "ca"
  opening := lit "<ca>"
  body := [line]
  closing := lit "</ca>"
  opens := by decide
  closes := by decide
  plain := by simpa using plain

def hookedSegments : List Segment :=
  [.line (lit "up run") (by decide), .block (caBlock (lit "MIIB") (by decide)),
    .line (lit "remote 1.1.1.1 443") (by decide)]

def hookedProfile : GoString := lit "up run\n<ca>\nMIIB\n</ca>\nremote 1.1.1.1 443"

theorem certificatesSurvive_hooked : CertificatesSurvive hookedProfile hookedSegments := by
  refine (certificatesSurvive_iff (by decide +kernel)).mpr ?_
  intro front block back heq hname
  rcases front with - | ⟨first, - | ⟨second, - | ⟨third, front⟩⟩⟩
  · cases heq
  · obtain ⟨rfl, hrest⟩ := List.cons.inj heq
    obtain ⟨hblock, -⟩ := List.cons.inj hrest
    obtain rfl := Segment.block.inj hblock
    refine ⟨by decide, ?_, by decide +kernel⟩
    rintro ⟨front, directive, rest, hlines, -, hcont⟩
    have hmem : directive ∈ [lit "up run"] := by
      have hout : outsideFrom none [lit "up run"] = [lit "up run"] := by decide +kernel
      rw [← hout]
      exact hlines ▸ List.mem_append_right _ List.mem_cons_self
    have hgoes := hcont directive List.mem_cons_self
    rw [List.mem_singleton.mp hmem] at hgoes
    exact absurd hgoes (by decide)
  · cases heq
  · cases (List.append_eq_nil_iff.mp (List.cons.inj (List.cons.inj (List.cons.inj heq).2).2).2.symm).2

/-- The last line of the certificate reads like a hook. -/
def damagedSegments : List Segment := [.block (caBlock (lit "Down") (by decide))]

def damagedProfile : GoString := lit "<ca>\nDown\n</ca>"

theorem certificate_line_dropped :
    ¬ ∀ (configText : GoString) (segments : List Segment),
      inputLines configText = linesOf segments → CertificatesSurvive configText segments := by
  intro hclaim
  have hsurvive := hclaim damagedProfile damagedSegments (by decide +kernel)
  have hclean : sanitizeOpenVPNConfig damagedProfile = .ok (lit "<ca>\n</ca>\n") := by
    decide +kernel
  have hcollected := hsurvive.collected _ hclean
  revert hcollected
  decide +kernel

end ResidentialIPManager.Tunnel
