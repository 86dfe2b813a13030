import ResidentialIPManager.Tunnel.ProfileReader

/-! # What a sanitized profile cannot say

Every line the sanitizer keeps stands outside of the skipped blocks, opens none and has
no directive of the two tables. The option reader splits its lines at single spaces and
the sanitizer at any blank, but a key without blanks is the first word of its line for
both, so the reader never meets `auth-user-pass`.
-/
namespace ResidentialIPManager.Tunnel
open Text

section Text

theorem rdropWhile_append_of_all {α : Type*} {p : α → Bool} {v t : List α}
    (h : ∀ r ∈ t, p r = true) : (v ++ t).rdropWhile p = v.rdropWhile p := by
  unfold List.rdropWhile
  rw [List.reverse_append, List.dropWhile_append_of_pos]
  intro r hr
  exact h r (List.mem_reverse.mp hr)

/-- Trimming a larger set of runes makes an earlier trimming on the right invisible. -/
theorem trim_rdropWhile {p q : Rune → Bool} (h : ∀ r, q r = true → p r = true) (s : GoString) :
    ((s.rdropWhile q).dropWhile p).rdropWhile p = (s.dropWhile p).rdropWhile p := by
  have htail : ∀ r ∈ s.rtakeWhile q, p r = true := fun r hr => h r (List.mem_rtakeWhile_imp hr)
  have hs : s = s.rdropWhile q ++ s.rtakeWhile q := List.rdropWhile_append_rtakeWhile.symm
  conv_rhs => rw [hs, List.dropWhile_append]
  by_cases hempty : ((s.rdropWhile q).dropWhile p).isEmpty = true
  · rw [if_pos hempty, List.isEmpty_iff.mp hempty, List.dropWhile_eq_nil_iff.mpr htail]
  · rw [if_neg hempty, rdropWhile_append_of_all htail]

theorem trimSpace_trimBlanks (s : GoString) : trimSpace (trimBlanks s) = trimSpace s := by
  apply trim_rdropWhile
  intro r hr
  rcases of_decide_eq_true hr with rfl | rfl <;> rfl

/-- The text begins with the first part of its split. -/
theorem eq_append_of_split {s key : GoString} {parts : List GoString}
    (h : split ' ' s = key :: parts) : s = key ∨ ∃ rest, s = key ++ .scalar ' ' :: rest := by
  have hs : [Rune.scalar ' '].intercalate (key :: parts) = s := by
    rw [← h]
    exact List.intercalate_splitOn _
  cases parts with
  | nil =>
    left
    rw [← hs]
    simp [List.intercalate]
  | cons second parts =>
    right
    refine ⟨[Rune.scalar ' '].intercalate (second :: parts), ?_⟩
    rw [← hs]
    simp [List.intercalate]

/-- A first part without blanks is the first word. -/
theorem fields_of_split {s key : GoString} {parts : List GoString} (h : split ' ' s = key :: parts)
    (hne : key ≠ []) (hkey : ∀ r ∈ key, Rune.isSpace r = false) :
    ∃ words, fields s = key :: words := by
  have hkeep : (!key.isEmpty) = true := by
    cases key with
    | nil => exact absurd rfl hne
    | cons r key => rfl
  rcases eq_append_of_split h with rfl | ⟨rest, rfl⟩
  · refine ⟨[], ?_⟩
    rw [fields, List.splitOnP_eq_singleton hkey]
    simp [hkeep]
  · refine ⟨fields rest, ?_⟩
    rw [fields, List.splitOnP_append_cons_of_forall_mem hkey _ rfl]
    simp [hkeep, fields]

end Text

structure Kept (k : Skipping) (rawLine : GoString) : Prop where
  outside : k.skippedBlock = []
  opensNone : skippedBlockOf (toLower (trimSpace rawLine)) = none
  notExecution : directiveName (trimSpace rawLine) ∉ executionDirectives
  notReplaced : directiveName (trimSpace rawLine) ∉ replacedDirectives

theorem kept_of_sanitizeLine {k : Skipping} {rawLine line : GoString}
    (h : (sanitizeLine k rawLine).2 = some line) : Kept k rawLine ∧ line = trimBlanks rawLine := by
  revert h
  fun_cases sanitizeLine k rawLine <;> intro h
  case case7 stripped lower hblock hopens _ hexec hrepl =>
    exact ⟨⟨not_not.mp hblock, hopens, hexec, hrepl⟩, (Option.some.inj h).symm⟩
  all_goals cases h

def sanitizeEach (k : Skipping) : List GoString → List (Option GoString)
  | [] => []
  | rawLine :: rest => (sanitizeLine k rawLine).2 :: sanitizeEach (sanitizeLine k rawLine).1 rest

theorem sanitizeFrom_eq (k : Skipping) (lines : List GoString) :
    sanitizeFrom k lines = (sanitizeEach k lines).filterMap id := by
  induction lines generalizing k with
  | nil => rfl
  | cons rawLine rest ih =>
    rw [sanitizeFrom, sanitizeEach]
    split
    · next k' line heq => simp [heq, ih]
    · next k' heq => simp [heq, ih]

theorem kept_of_mem {k : Skipping} {lines : List GoString} {line : GoString}
    (h : line ∈ sanitizeFrom k lines) : ∃ k' rawLine, Kept k' rawLine ∧ line = trimBlanks rawLine := by
  induction lines generalizing k with
  | nil => simp [sanitizeFrom] at h
  | cons rawLine rest ih =>
    rw [sanitizeFrom] at h
    split at h
    · next k' kept heq =>
      rcases List.mem_cons.mp h with rfl | hm
      · exact ⟨k, rawLine, kept_of_sanitizeLine (congrArg Prod.snd heq)⟩
      · exact ih hm
    · exact ih h

section Blocks

/-- The skipped block that is open after a line, given the one before it. -/
def blockAfter (block : Option GoString) (rawLine : GoString) : Option GoString :=
  match block with
  | some name => if toLower (trimSpace rawLine) = lit "</" ++ name ++ lit ">" then none else some name
  | none => skippedBlockOf (toLower (trimSpace rawLine))

def blockBefore (lines : List GoString) (i : Nat) : Option GoString :=
  (lines.take i).foldl blockAfter none

/-- Line `i` lies inside a skipped block: an earlier line outside of blocks opens it, and
no line in between closes it. -/
def InsideBlock (lines : List GoString) (i : Nat) : Prop :=
  ∃ j name, j < i ∧ blockBefore lines j = none ∧
    (lines[j]?.bind fun line => skippedBlockOf (toLower (trimSpace line))) = some name ∧
    ∀ m line, j < m → m < i → lines[m]? = some line →
      toLower (trimSpace line) ≠ lit "</" ++ name ++ lit ">"

theorem blockBefore_succ {lines : List GoString} {i : Nat} {line : GoString}
    (h : lines[i]? = some line) :
    blockBefore lines (i + 1) = blockAfter (blockBefore lines i) line := by
  unfold blockBefore
  rw [List.take_add_one, h]
  simp

theorem InsideBlock.blockBefore_isSome {lines : List GoString} {i : Nat}
    (h : InsideBlock lines i) (hi : i < lines.length) : (blockBefore lines i).isSome = true := by
  obtain ⟨j, name, hj, hbefore, hopens, hopen⟩ := h
  -- from the line after the opening one, the block stays open
  have hstays : ∀ m, j < m → m ≤ i → blockBefore lines m = some name := by
    intro m hjm
    induction m, hjm using Nat.le_induction with
    | base =>
      intro _
      obtain ⟨line, hline, hname⟩ := Option.bind_eq_some_iff.mp hopens
      rw [blockBefore_succ hline, hbefore]
      exact hname
    | succ m hjm ih =>
      intro hm
      have hline : lines[m]? = some lines[m] := List.getElem?_eq_getElem (by omega)
      rw [blockBefore_succ hline, ih (by omega), blockAfter,
        if_neg (hopen m _ hjm (by omega) hline)]
  rw [hstays i hj le_rfl]
  rfl

def Skipping.block (k : Skipping) : Option GoString :=
  if k.skippedBlock = [] then none else some k.skippedBlock

theorem skippedBlockOf_ne_nil {lower name : GoString} (h : skippedBlockOf lower = some name) :
    name ≠ [] := by
  unfold skippedBlockOf at h
  split_ifs at h
  split at h
  · split_ifs at h with hname
    obtain rfl := Option.some.inj h
    rintro rfl
    revert hname
    decide
  · cases h

/-- The loop follows the blocks whatever else it skips. -/
theorem sanitizeLine_block (k : Skipping) (rawLine : GoString) :
    (sanitizeLine k rawLine).1.block = blockAfter k.block rawLine := by
  unfold sanitizeLine Skipping.block blockAfter
  by_cases hblock : k.skippedBlock = []
  · cases hopens : skippedBlockOf (toLower (trimSpace rawLine)) with
    | some name => simp [hblock, hopens, skippedBlockOf_ne_nil hopens]
    | none =>
      simp only [hblock, hopens, ne_eq, not_true_eq_false, if_false, if_true]
      split_ifs <;> simp_all
  · by_cases hclose : toLower (trimSpace rawLine) = lit "</" ++ k.skippedBlock ++ lit ">"
    · simp [hblock, hclose]
    · simp only [ne_eq, hblock, not_false_eq_true, if_true, hclose, if_false]

theorem sanitizeEach_inside {k : Skipping} {lines : List GoString} {i : Nat} (hi : i < lines.length)
    (h : ((lines.take i).foldl blockAfter k.block).isSome = true) :
    (sanitizeEach k lines)[i]? = some none := by
  induction lines generalizing k i with
  | nil => simp at hi
  | cons rawLine rest ih =>
    cases i with
    | zero =>
      cases hkept : (sanitizeLine k rawLine).2 with
      | none => simp [sanitizeEach, hkept]
      | some line =>
        have hout := (kept_of_sanitizeLine hkept).1.outside
        simp [Skipping.block, hout] at h
    | succ i =>
      rw [List.take_succ_cons, List.foldl_cons, ← sanitizeLine_block] at h
      rw [sanitizeEach, List.getElem?_cons_succ]
      exact ih (by simpa using hi) h

end Blocks

section Reader

variable {files : Files} {k : Reading}

/-- The key that `readLine` hands to `parseOption`, if it comes to that. -/
def dispatchedKey (k : Reading) (l : GoString) : Option GoString :=
  if hasPrefix l (lit "#") then none
  else if isClosingTag (trimSpace l) then none
  else if k.tag.isSome || (openingTag (trimSpace l)).isSome then none
  else (split ' ' (trimSpace l)).head?

def dispatchedKeys (files : Files) (k : Reading) : List GoString → List GoString
  | [] => []
  | l :: rest =>
    (dispatchedKey k l).toList ++
      match readLine files k l with
      | .ok k' => dispatchedKeys files k' rest
      | .error _ => []

theorem mem_dispatchedKeys {lines : List GoString} {key : GoString}
    (h : key ∈ dispatchedKeys files k lines) :
    ∃ l ∈ lines, (split ' ' (trimSpace l)).head? = some key := by
  induction lines generalizing k with
  | nil => simp [dispatchedKeys] at h
  | cons l rest ih =>
    rw [dispatchedKeys, List.mem_append] at h
    rcases h with hkey | hrest
    · rw [Option.mem_toList] at hkey
      unfold dispatchedKey at hkey
      split_ifs at hkey
      exact ⟨l, List.mem_cons_self, hkey⟩
    · split at hrest
      · obtain ⟨l', hl', heq⟩ := ih hrest
        exact ⟨l', List.mem_cons_of_mem _ hl', heq⟩
      · cases hrest

/-- Only `auth-user-pass` opens the credentials file. -/
theorem parseOption_credentials {key : GoString} (hkey : key ≠ lit "auth-user-pass")
    (o : OpenVPNOptions) (p : List GoString)
    (credentials : GoString → Except Fault (GoString × GoString)) :
    parseOption { files with credentials := credentials } o key p = parseOption files o key p := by
  unfold parseOption
  rw [if_neg hkey, if_neg hkey]
  rfl

theorem readLine_credentials {l : GoString} (h : dispatchedKey k l ≠ some (lit "auth-user-pass"))
    (credentials : GoString → Except Fault (GoString × GoString)) :
    readLine { files with credentials := credentials } k l = readLine files k l := by
  unfold dispatchedKey at h
  unfold readLine
  by_cases hcomment : hasPrefix l (lit "#") = true
  · simp only [hcomment, if_true]
  by_cases hclose : isClosingTag (trimSpace l) = true
  · simp only [hcomment, hclose, if_true]
  rw [if_neg hcomment, if_neg hclose] at h
  cases htag : k.tag with
  | some tag => simp only [hcomment, hclose]
  | none =>
    cases hopen : openingTag (trimSpace l) with
    | some tag => simp only [hcomment, hclose, hopen]
    | none =>
      cases hsplit : split ' ' (trimSpace l) with
      | nil => simp only [hcomment, hclose, hopen, hsplit]
      | cons key parts =>
        have hkey : key ≠ lit "auth-user-pass" := by
          intro heq
          simp [htag, hopen, hsplit, heq] at h
        simp only [hcomment, hclose, hopen, hsplit, parseOption_credentials hkey]

/-- A run that never dispatches the key does not look at any credentials file. -/
theorem readFrom_credentials {lines : List GoString}
    (h : lit "auth-user-pass" ∉ dispatchedKeys files k lines)
    (credentials : GoString → Except Fault (GoString × GoString)) :
    readFrom { files with credentials := credentials } k lines = readFrom files k lines := by
  induction lines generalizing k with
  | nil => rfl
  | cons l rest ih =>
    rw [dispatchedKeys, List.mem_append, not_or] at h
    have hline : dispatchedKey k l ≠ some (lit "auth-user-pass") := by
      intro heq
      exact h.1 (by simp [heq])
    rw [readFrom, readFrom, readLine_credentials hline]
    cases hread : readLine files k l with
    | error fault => rfl
    | ok k' =>
      have hrest := h.2
      rw [hread] at hrest
      exact ih hrest

end Reader

theorem directiveName_of_split {l : GoString} {parts : List GoString}
    (h : split ' ' l = lit "auth-user-pass" :: parts) : directiveName l = lit "auth-user-pass" := by
  obtain ⟨words, hfields⟩ := fields_of_split h (by decide) (by decide)
  have hstart : ∃ rest, l = lit "auth-user-pass" ++ rest := by
    rcases eq_append_of_split h with rfl | ⟨rest, rfl⟩
    · exact ⟨[], by simp⟩
    · exact ⟨_, rfl⟩
  obtain ⟨rest, hl⟩ := hstart
  have hplain : ¬(l = [] ∨ hasPrefix l (lit "#") = true ∨ hasPrefix l (lit ";") = true ∨
      hasPrefix l (lit "<") = true) := by
    rw [hl]
    rintro (hnil | hhash | hsemi | hblock)
    · cases hnil
    · cases hhash
    · cases hsemi
    · cases hblock
  unfold directiveName
  rw [if_neg hplain, hfields]
  change trimPrefix (toLower (lit "auth-user-pass")) (lit "--") = lit "auth-user-pass"
  decide

def inputLines (configText : GoString) : List GoString := split '\n' (normalizeNewlines configText)

structure SafeProfile (configText cleaned : GoString) : Prop where
  noDirective : ∀ line ∈ split '\n' cleaned,
    directiveName (trimSpace line) ∉ executionDirectives ∧
      directiveName (trimSpace line) ∉ replacedDirectives
  noBlock : ∀ line ∈ split '\n' cleaned, skippedBlockOf (toLower (trimSpace line)) = none
  emitted : cleaned = join (lit "\n")
    (((sanitizeEach {} (inputLines configText)).filterMap id).rdropWhile
      fun line => decide (trimSpace line = [])) ++ lit "\n"
  noInside : ∀ i, i < (inputLines configText).length → InsideBlock (inputLines configText) i →
    (sanitizeEach {} (inputLines configText))[i]? = some none
  notDispatched : ∀ files lines, getLinesFromFile cleaned = .ok lines →
    lit "auth-user-pass" ∉ dispatchedKeys files {} lines
  noCredentials : ∀ (files : Files) (credentials : GoString → Except Fault (GoString × GoString)),
    readConfigFile { files with credentials := credentials } cleaned = readConfigFile files cleaned

section Sanitized

variable {configText cleaned line : GoString}

/-- The checks of a kept line hold of the line as it is emitted. -/
theorem sanitizedLines_checked (h : line ∈ sanitizedLines configText) :
    (directiveName (trimSpace line) ∉ executionDirectives ∧
      directiveName (trimSpace line) ∉ replacedDirectives) ∧
      skippedBlockOf (toLower (trimSpace line)) = none := by
  obtain ⟨k, rawLine, hkept, rfl⟩ := kept_of_mem ((List.rdropWhile_prefix _ _).subset h)
  rw [trimSpace_trimBlanks]
  exact ⟨⟨hkept.notExecution, hkept.notReplaced⟩, hkept.opensNone⟩

theorem split_cleaned (h : sanitizeOpenVPNConfig configText = .ok cleaned) :
    split '\n' cleaned = sanitizedLines configText ++ [[]] := by
  obtain ⟨hne, rfl⟩ := sanitizeOpenVPNConfig_ok h
  exact split_join_lines (fun line hl => (mem_sanitizedLines hl).1) hne

theorem cleaned_checked (h : sanitizeOpenVPNConfig configText = .ok cleaned)
    (hline : line ∈ split '\n' cleaned) :
    (directiveName (trimSpace line) ∉ executionDirectives ∧
      directiveName (trimSpace line) ∉ replacedDirectives) ∧
      skippedBlockOf (toLower (trimSpace line)) = none := by
  rw [split_cleaned h, List.mem_append, List.mem_singleton] at hline
  rcases hline with hmem | rfl
  · exact sanitizedLines_checked hmem
  · decide

theorem not_dispatched (files : Files) (k : Reading) :
    lit "auth-user-pass" ∉ dispatchedKeys files k (sanitizedLines configText) := by
  intro hkey
  obtain ⟨l, hl, hhead⟩ := mem_dispatchedKeys hkey
  obtain ⟨parts, hsplit⟩ := List.head?_eq_some_iff.mp hhead
  have hname := directiveName_of_split hsplit
  have hreplaced := (sanitizedLines_checked hl).1.2
  rw [hname] at hreplaced
  exact absurd (by decide) hreplaced

end Sanitized

/-- A profile that the sanitizer accepts comes out safe. -/
theorem sanitizeOpenVPNConfig_safe {configText cleaned : GoString}
    (h : sanitizeOpenVPNConfig configText = .ok cleaned) : SafeProfile configText cleaned where
  noDirective line hline := (cleaned_checked h hline).1
  noBlock line hline := (cleaned_checked h hline).2
  emitted := by
    rw [(sanitizeOpenVPNConfig_ok h).2, sanitizedLines, sanitizeFrom_eq]
    rfl
  noInside i hi hin := sanitizeEach_inside hi (hin.blockBefore_isSome hi)
  notDispatched files lines hlines := by
    rw [getLinesFromFile_sanitized h hlines]
    exact not_dispatched files {}
  noCredentials files credentials := by
    unfold readConfigFile
    cases hlines : getLinesFromFile cleaned with
    | error fault => rfl
    | ok lines =>
      rw [getLinesFromFile_sanitized h hlines]
      exact readFrom_credentials (not_dispatched files {}) credentials

/-- Mixed line ends, letter case and indentation, a block and a continued hook. -/
def hostileProfile : GoString :=
  lit "remote 1.1.1.1 443\r\n  <Auth-User-Pass>\ruser\n</auth-user-pass>\n\t--UP run \\\n  more\n"

theorem sanitizeOpenVPNConfig_hostile :
    sanitizeOpenVPNConfig hostileProfile = .ok (lit "remote 1.1.1.1 443\n") ∧
      SafeProfile hostileProfile (lit "remote 1.1.1.1 443\n") := by
  have h : sanitizeOpenVPNConfig hostileProfile = .ok (lit "remote 1.1.1.1 443\n") := by
    decide +kernel
  exact ⟨h, sanitizeOpenVPNConfig_safe h⟩

end ResidentialIPManager.Tunnel
