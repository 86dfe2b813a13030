import ResidentialIPManager.Tunnel.SafeProfile

/-! # A sanitized profile is sanitized already

Every line that the sanitizer emits is one that it keeps as it is, and a run over such
lines never starts to skip. The second pass therefore changes nothing, and the lines of
the result are lines of the input without their trailing blanks.
-/
namespace ResidentialIPManager.Tunnel
open Text

/-- A line that the sanitizer keeps as it is, unless it is skipping. -/
structure CleanLine (line : GoString) : Prop where
  trimmed : trimBlanks line = line
  notExecution : directiveName (trimSpace line) ∉ executionDirectives
  notReplaced : directiveName (trimSpace line) ∉ replacedDirectives
  opensNone : skippedBlockOf (toLower (trimSpace line)) = none

theorem trimBlanks_trimBlanks (s : GoString) : trimBlanks (trimBlanks s) = trimBlanks s :=
  List.rdropWhile_idempotent _ _

theorem cleanLine_of_mem {configText line : GoString} (h : line ∈ sanitizedLines configText) :
    CleanLine line := by
  obtain ⟨rawLine, -, rfl⟩ := mem_sanitizeFrom ((List.rdropWhile_prefix _ _).subset h)
  obtain ⟨⟨hexec, hrepl⟩, hopens⟩ := sanitizedLines_checked h
  exact ⟨trimBlanks_trimBlanks rawLine, hexec, hrepl, hopens⟩

theorem cleanLine_nil : CleanLine [] := ⟨rfl, by decide, by decide, by decide⟩

theorem sanitizeLine_clean {line : GoString} (h : CleanLine line) :
    sanitizeLine {} line = ({}, some line) := by
  simp [sanitizeLine, h.opensNone, h.notExecution, h.notReplaced, h.trimmed]

theorem sanitizeFrom_clean {lines : List GoString} (h : ∀ line ∈ lines, CleanLine line) :
    sanitizeFrom {} lines = lines := by
  induction lines with
  | nil => rfl
  | cons line rest ih =>
    rw [sanitizeFrom, sanitizeLine_clean (h line List.mem_cons_self)]
    simp only [ih fun l hl => h l (List.mem_cons_of_mem _ hl)]

theorem sanitizeFrom_sublist (k : Skipping) (lines : List GoString) :
    (sanitizeFrom k lines).Sublist (lines.map trimBlanks) := by
  induction lines generalizing k with
  | nil => exact .slnil
  | cons rawLine rest ih =>
    rw [sanitizeFrom, List.map_cons]
    split
    · next k' line hkept =>
      rw [sanitizeLine_kept hkept]
      exact (ih k').cons_cons _
    · next k' _ => exact (ih k').cons _

theorem sanitizedLines_sublist (configText : GoString) :
    (sanitizedLines configText).Sublist ((inputLines configText).map trimBlanks) :=
  (List.rdropWhile_prefix _ _).sublist.trans (sanitizeFrom_sublist {} _)

section Second

variable {configText cleaned : GoString}

theorem cleaned_no_cr (h : sanitizeOpenVPNConfig configText = .ok cleaned) :
    .scalar '\r' ∉ cleaned := by
  obtain ⟨-, rfl⟩ := sanitizeOpenVPNConfig_ok h
  rw [List.mem_append, not_or]
  refine ⟨fun hr => ?_, by decide⟩
  rcases mem_join hr with hsep | ⟨line, hline, hr⟩
  · exact absurd hsep (by decide)
  · exact (mem_sanitizedLines hline).2 hr

theorem sanitizedLines_cleaned (h : sanitizeOpenVPNConfig configText = .ok cleaned) :
    sanitizedLines cleaned = sanitizedLines configText := by
  have hclean : ∀ line ∈ sanitizedLines configText ++ [[]], CleanLine line := by
    intro line hline
    rcases List.mem_append.mp hline with hmem | hmem
    · exact cleanLine_of_mem hmem
    · rw [List.mem_singleton.mp hmem]
      exact cleanLine_nil
  rw [sanitizedLines, normalizeNewlines_of_no_cr (cleaned_no_cr h), split_cleaned h,
    sanitizeFrom_clean hclean, rdropWhile_append_of_all (by decide)]
  exact List.rdropWhile_idempotent _ _

end Second

/-- What a second pass makes of the result, and where the lines of the result come from. -/
structure Resanitized (configText cleaned : GoString) : Prop where
  again : sanitizeOpenVPNConfig cleaned = .ok cleaned
  lines : ∃ lines, split '\n' cleaned = lines ++ [[]] ∧
    lines.Sublist ((inputLines configText).map trimBlanks)

/-- Sanitizing is idempotent and only takes lines and trailing blanks away. -/
theorem sanitizeOpenVPNConfig_again {configText cleaned : GoString}
    (h : sanitizeOpenVPNConfig configText = .ok cleaned) : Resanitized configText cleaned where
  again := by
    have hlines := sanitizedLines_cleaned h
    unfold sanitizeOpenVPNConfig at h ⊢
    rw [hlines]
    exact h
  lines := ⟨_, split_cleaned h, sanitizedLines_sublist configText⟩

theorem sanitizeOpenVPNConfig_again_hostile :
    Resanitized hostileProfile (lit "remote 1.1.1.1 443\n") :=
  sanitizeOpenVPNConfig_again (by decide +kernel)

end ResidentialIPManager.Tunnel
