import ResidentialIPManager.Tunnel.Resanitizing

/-! # Inline blocks in the sanitizer

A profile whose inline blocks are opened and closed on lines of their own is a list of
segments: plain lines and blocks. The sanitizer knows two kinds of blocks only, those it
drops. To every other line it applies its directive tables, also inside `<ca>`, `<cert>`
and `<key>`, and a continued directive takes the next line with it, also an opening tag.
-/
namespace ResidentialIPManager.Tunnel
open Text

section Segments

def isTagName (name : GoString) : Bool :=
  !name.isEmpty && name.all fun r =>
    !r.isSpace && r != .scalar '<' && r != .scalar '>' && r != .scalar '/'

/-- The name in a tag that starts with `opener` and is alone on its line. -/
def tagName (opener line : GoString) : Option GoString :=
  let name := (trimPrefix (trimSpace line) opener).dropLast
  if trimSpace line = opener ++ name ++ lit ">" ∧ isTagName name then some name else none

def TagFree (line : GoString) : Prop :=
  tagName (lit "<") line = none ∧ tagName (lit "</") line = none

instance (line : GoString) : Decidable (TagFree line) := inferInstanceAs (Decidable (_ ∧ _))

/-- An inline block, with no tag of any kind inside. -/
structure Block where
  name : GoString
  opening : GoString
  body : List GoString
  closing : GoString
  opens : tagName (lit "<") opening = some name
  closes : tagName (lit "</") closing = some name
  plain : ∀ line ∈ body, TagFree line

def Block.lines (block : Block) : List GoString := block.opening :: (block.body ++ [block.closing])

inductive Segment where
  | line (text : GoString) (plain : TagFree text)
  | block (b : Block)

def Segment.lines : Segment → List GoString
  | .line text _ => [text]
  | .block b => b.lines

/-- The blocks that the option reader collects. -/
def certificateNames : List GoString := [lit "ca", lit "cert", lit "key"]

theorem tagName_eq_some {opener line name : GoString} (h : tagName opener line = some name) :
    trimSpace line = opener ++ name ++ lit ">" ∧ isTagName name = true := by
  unfold tagName at h
  simp only [] at h
  split_ifs at h with htag
  obtain rfl := Option.some.inj h
  exact htag

theorem trimPrefix_append (s t : GoString) : trimPrefix (s ++ t) s = t := by
  have hprefix : hasPrefix (s ++ t) s = true := List.isPrefixOf_iff_prefix.mpr (List.prefix_append s t)
  rw [trimPrefix, if_pos hprefix, List.drop_left]

theorem tagName_of_eq {opener line name : GoString} (hname : isTagName name = true)
    (h : trimSpace line = opener ++ name ++ lit ">") : tagName opener line = some name := by
  have hinner : (trimPrefix (trimSpace line) opener).dropLast = name := by
    rw [h, List.append_assoc, trimPrefix_append]
    exact List.dropLast_concat
  unfold tagName
  simp only [hinner]
  rw [if_pos ⟨h, hname⟩]

end Segments

section Skipping

/-- The line has a directive of the two tables. -/
def Filtered (line : GoString) : Prop :=
  directiveName (trimSpace line) ∈ executionDirectives ∨
    directiveName (trimSpace line) ∈ replacedDirectives

instance (line : GoString) : Decidable (Filtered line) := inferInstanceAs (Decidable (_ ∨ _))

/-- The lines outside of the skipped blocks, their tags left out. -/
def outsideFrom (block : Option GoString) : List GoString → List GoString
  | [] => []
  | line :: rest =>
    if block = none ∧ skippedBlockOf (toLower (trimSpace line)) = none then
      line :: outsideFrom (blockAfter block line) rest
    else outsideFrom (blockAfter block line) rest

def EndsContinued (lines : List GoString) : Prop :=
  ∃ front directive rest, lines = front ++ directive :: rest ∧ Filtered directive ∧
    ∀ line ∈ directive :: rest, continues line = true

/-- A directive outside of the skipped blocks takes the next line with it. -/
def Continued (lines : List GoString) : Prop := EndsContinued (outsideFrom none lines)

def skippingAfter (k : Skipping) (lines : List GoString) : Skipping :=
  lines.foldl (fun k line => (sanitizeLine k line).1) k

variable {k : Skipping} {line : GoString}

theorem skippingAfter_append (k : Skipping) (a b : List GoString) :
    skippingAfter k (a ++ b) = skippingAfter (skippingAfter k a) b :=
  List.foldl_append

theorem sanitizeEach_append (k : Skipping) (a b : List GoString) :
    sanitizeEach k (a ++ b) = sanitizeEach k a ++ sanitizeEach (skippingAfter k a) b := by
  induction a generalizing k with
  | nil => rfl
  | cons line a ih =>
    rw [List.cons_append, sanitizeEach, ih, sanitizeEach, List.cons_append]
    rfl

theorem length_sanitizeEach (k : Skipping) (lines : List GoString) :
    (sanitizeEach k lines).length = lines.length := by
  induction lines generalizing k with
  | nil => rfl
  | cons line rest ih => rw [sanitizeEach, List.length_cons, ih, List.length_cons]

theorem sanitizeFrom_append (k : Skipping) (a b : List GoString) :
    sanitizeFrom k (a ++ b) = sanitizeFrom k a ++ sanitizeFrom (skippingAfter k a) b := by
  simp only [sanitizeFrom_eq, sanitizeEach_append, List.filterMap_append]

theorem block_skippingAfter (k : Skipping) (lines : List GoString) :
    (skippingAfter k lines).block = lines.foldl blockAfter k.block := by
  induction lines generalizing k with
  | nil => rfl
  | cons line rest ih => rw [List.foldl_cons, ← sanitizeLine_block, ← ih]; rfl

theorem block_eq_none : k.block = none ↔ k.skippedBlock = [] := by
  unfold Skipping.block
  split_ifs with h
  · simp [h]
  · simp [h]

/-- A line outside of the skipped blocks: only the continuation and the tables count. -/
theorem sanitizeLine_outside (hblock : k.block = none)
    (hopens : skippedBlockOf (toLower (trimSpace line)) = none) :
    sanitizeLine k line =
      if k.skipContinuation = true ∨ Filtered line then
        ({ k with skipContinuation := continues line }, none)
      else (k, some (trimBlanks line)) := by
  have hout := block_eq_none.mp hblock
  unfold sanitizeLine Filtered
  simp only [hout, hopens, ne_eq, not_true_eq_false, if_false]
  split_ifs <;> simp_all

/-- Inside a skipped block, and on its tags, the continuation waits. -/
theorem sanitizeLine_inside
    (h : ¬(k.block = none ∧ skippedBlockOf (toLower (trimSpace line)) = none)) :
    (sanitizeLine k line).1.skipContinuation = k.skipContinuation := by
  rw [block_eq_none] at h
  unfold sanitizeLine
  by_cases hblock : k.skippedBlock = []
  · cases hopens : skippedBlockOf (toLower (trimSpace line)) with
    | some name => simp [hblock, hopens]
    | none => exact absurd ⟨hblock, hopens⟩ h
  · simp only [ne_eq, hblock, not_false_eq_true, if_true]
    split_ifs <;> rfl

/-- A line is kept if nothing is being skipped and the line does not ask for it. -/
theorem sanitizeLine_keeps_iff :
    (sanitizeLine k line).2 = some (trimBlanks line) ↔
      k = {} ∧ ¬Filtered line ∧ skippedBlockOf (toLower (trimSpace line)) = none := by
  constructor
  · intro h
    obtain ⟨hkept, -⟩ := kept_of_sanitizeLine h
    rw [sanitizeLine_outside (block_eq_none.mpr hkept.outside) hkept.opensNone] at h
    split_ifs at h with hskip
    rw [not_or, Bool.not_eq_true] at hskip
    refine ⟨?_, hskip.2, hkept.opensNone⟩
    obtain ⟨skippedBlock, skipContinuation⟩ := k
    exact congrArg₂ Skipping.mk hkept.outside hskip.1
  · rintro ⟨rfl, hfiltered, hopens⟩
    rw [sanitizeLine_outside rfl hopens, if_neg (by simpa using hfiltered)]

theorem endsContinued_cons (line : GoString) (rest : List GoString) :
    EndsContinued (line :: rest) ↔
      (Filtered line ∧ ∀ l ∈ line :: rest, continues l = true) ∨ EndsContinued rest := by
  constructor
  · rintro ⟨front, directive, later, heq, hfiltered, hcont⟩
    cases front with
    | nil =>
      obtain ⟨rfl, rfl⟩ := List.cons.inj heq
      exact .inl ⟨hfiltered, hcont⟩
    | cons first front =>
      exact .inr ⟨front, directive, later, (List.cons.inj heq).2, hfiltered, hcont⟩
  · rintro (⟨hfiltered, hcont⟩ | ⟨front, directive, later, rfl, hfiltered, hcont⟩)
    · exact ⟨[], line, rest, rfl, hfiltered, hcont⟩
    · exact ⟨line :: front, directive, later, rfl, hfiltered, hcont⟩

/-- What is being continued after the lines: what was continued before them, or a filtered
directive among them. -/
theorem skipContinuation_skippingAfter (k : Skipping) (lines : List GoString) :
    (skippingAfter k lines).skipContinuation = true ↔
      (k.skipContinuation = true ∧ ∀ line ∈ outsideFrom k.block lines, continues line = true) ∨
        EndsContinued (outsideFrom k.block lines) := by
  induction lines generalizing k with
  | nil => simp [skippingAfter, outsideFrom, EndsContinued]
  | cons line rest ih =>
    have hstep : skippingAfter k (line :: rest) = skippingAfter (sanitizeLine k line).1 rest := rfl
    rw [hstep, ih, sanitizeLine_block, outsideFrom]
    by_cases hout : k.block = none ∧ skippedBlockOf (toLower (trimSpace line)) = none
    · rw [if_pos hout, sanitizeLine_outside hout.1 hout.2, endsContinued_cons, List.forall_mem_cons]
      by_cases hskip : k.skipContinuation = true ∨ Filtered line
      · rw [if_pos hskip]
        tauto
      · rw [if_neg hskip]
        tauto
    · rw [if_neg hout, sanitizeLine_inside hout]

/-- The sanitizer reaches the next line with nothing to skip. -/
theorem skippingAfter_eq_iff (lines : List GoString) :
    skippingAfter {} lines = {} ↔ lines.foldl blockAfter none = none ∧ ¬Continued lines := by
  have hblock : (skippingAfter {} lines).block = lines.foldl blockAfter none :=
    block_skippingAfter {} lines
  have hskip : (skippingAfter {} lines).skipContinuation = true ↔ Continued lines := by
    rw [skipContinuation_skippingAfter]
    exact ⟨fun h => h.resolve_left (by simp), .inr⟩
  rw [← hblock, ← hskip, block_eq_none]
  generalize skippingAfter {} lines = k
  obtain ⟨skippedBlock, skipContinuation⟩ := k
  simp

end Skipping

section Emitting

/-- Lines are all kept if nothing is being skipped and none of them asks for it. -/
theorem sanitizeEach_keeps_iff {k : Skipping} {line : GoString} {rest : List GoString} :
    sanitizeEach k (line :: rest) = (line :: rest).map (some ∘ trimBlanks) ↔
      k = {} ∧ ∀ l ∈ line :: rest, ¬Filtered l ∧ skippedBlockOf (toLower (trimSpace l)) = none := by
  induction rest generalizing k line with
  | nil => simp [sanitizeEach, sanitizeLine_keeps_iff]
  | cons next rest ih =>
    rw [sanitizeEach, List.map_cons, List.cons.injEq, ih, Function.comp_apply,
      sanitizeLine_keeps_iff]
    constructor
    · rintro ⟨⟨rfl, hline⟩, -, hrest⟩
      exact ⟨rfl, List.forall_mem_cons.mpr ⟨hline, hrest⟩⟩
    · rintro ⟨rfl, hlines⟩
      obtain ⟨hline, hrest⟩ := List.forall_mem_cons.mp hlines
      refine ⟨⟨rfl, hline⟩, ?_, hrest⟩
      rw [sanitizeLine_outside rfl hline.2, if_neg (by simpa using hline.1)]

theorem not_filtered_of_tag {line rest : GoString} (h : trimSpace line = .scalar '<' :: rest) :
    ¬Filtered line := by
  have hname : directiveName (trimSpace line) = [] := by
    rw [h, directiveName, if_pos (.inr (.inr (.inr rfl)))]
  rw [Filtered, hname]
  decide

variable {block : Block}

theorem Block.opening_kept (h : block.name ∈ certificateNames) :
    ¬Filtered block.opening ∧ skippedBlockOf (toLower (trimSpace block.opening)) = none := by
  have htag := (tagName_eq_some block.opens).1
  refine ⟨not_filtered_of_tag htag, ?_⟩
  rw [htag]
  revert h
  generalize block.name = name
  revert name
  decide

theorem Block.closing_kept :
    ¬Filtered block.closing ∧ skippedBlockOf (toLower (trimSpace block.closing)) = none := by
  have htag := (tagName_eq_some block.closes).1
  refine ⟨not_filtered_of_tag htag, ?_⟩
  have hlower : hasPrefix (toLower (lit "</" ++ block.name ++ lit ">")) (lit "</") = true := by
    rw [toLower, List.append_assoc, List.map_append]
    exact List.isPrefixOf_iff_prefix.mpr (List.prefix_append _ _)
  rw [htag, skippedBlockOf, hlower]
  simp

/-- The block is reached with nothing to skip, and no line in it asks for it. -/
structure Untouched (front : List GoString) (block : Block) : Prop where
  outside : front.foldl blockAfter none = none
  notContinued : ¬Continued front
  body : ∀ line ∈ block.body, ¬Filtered line ∧ skippedBlockOf (toLower (trimSpace line)) = none

theorem sanitizeEach_block_iff {front : List GoString} (h : block.name ∈ certificateNames) :
    sanitizeEach (skippingAfter {} front) block.lines = block.lines.map (some ∘ trimBlanks) ↔
      Untouched front block := by
  rw [Block.lines, sanitizeEach_keeps_iff, skippingAfter_eq_iff, List.forall_mem_cons,
    List.forall_mem_append, List.forall_mem_singleton]
  constructor
  · rintro ⟨⟨houtside, hcontinued⟩, -, hbody, -⟩
    exact ⟨houtside, hcontinued, hbody⟩
  · rintro ⟨houtside, hcontinued, hbody⟩
    exact ⟨⟨houtside, hcontinued⟩, block.opening_kept h, hbody, block.closing_kept⟩

end Emitting

section Cleaning

/-- A line that means nothing to the collection of blocks. -/
def Idle (line : GoString) : Prop :=
  isClosingTag (trimSpace line) = false ∧ openingTag (trimSpace line) = none

theorem exists_of_openingTag {l : GoString} (h : openingTag l ≠ none) :
    ∃ name ∈ certificateNames, l = lit "<" ++ name ++ lit ">" := by
  unfold openingTag at h
  split_ifs at h with hca hcert hkey
  · exact ⟨lit "ca", by decide, hca⟩
  · exact ⟨lit "cert", by decide, hcert⟩
  · exact ⟨lit "key", by decide, hkey⟩
  · exact absurd rfl h

theorem exists_of_isClosingTag {l : GoString} (h : isClosingTag l = true) :
    ∃ name ∈ certificateNames, l = lit "</" ++ name ++ lit ">" := by
  simp only [isClosingTag, Bool.or_eq_true, decide_eq_true_eq] at h
  rcases h with (hca | hcert) | hkey
  · exact ⟨lit "ca", by decide, hca⟩
  · exact ⟨lit "cert", by decide, hcert⟩
  · exact ⟨lit "key", by decide, hkey⟩

theorem isTagName_certificate : ∀ name ∈ certificateNames, isTagName name = true := by decide

theorem idle_of_tagName {line : GoString}
    (hopens : ∀ name ∈ certificateNames, tagName (lit "<") line ≠ some name)
    (hcloses : ∀ name ∈ certificateNames, tagName (lit "</") line ≠ some name) : Idle line := by
  constructor
  · by_contra hclosing
    rw [Bool.not_eq_false] at hclosing
    obtain ⟨name, hname, heq⟩ := exists_of_isClosingTag hclosing
    exact hcloses name hname (tagName_of_eq (isTagName_certificate name hname) heq)
  · by_contra hopening
    obtain ⟨name, hname, heq⟩ := exists_of_openingTag hopening
    exact hopens name hname (tagName_of_eq (isTagName_certificate name hname) heq)

theorem idle_of_tagFree {line : GoString} (h : TagFree line) : Idle line :=
  idle_of_tagName (fun name _ => by simp [h.1]) (fun name _ => by simp [h.2])

/-- No line is both an opening and a closing tag. -/
theorem tagName_closing_of_opening {line name : GoString}
    (h : tagName (lit "<") line = some name) : tagName (lit "</") line = none := by
  cases hclose : tagName (lit "</") line with
  | none => rfl
  | some other =>
    obtain ⟨heq, hname⟩ := tagName_eq_some h
    have heq' := (tagName_eq_some hclose).1
    have hinner : name ++ lit ">" = .scalar '/' :: (other ++ lit ">") :=
      (List.cons.inj (heq.symm.trans heq')).2
    cases name with
    | nil => cases hname
    | cons r name =>
      obtain ⟨rfl, -⟩ := List.cons.inj hinner
      simp [isTagName] at hname

theorem idle_of_block {block : Block} (h : block.name ∉ certificateNames) :
    ∀ line ∈ block.lines, Idle line := by
  intro line hline
  rw [Block.lines, List.mem_cons, List.mem_append, List.mem_singleton] at hline
  rcases hline with rfl | hbody | rfl
  · apply idle_of_tagName
    · intro name hname heq
      exact h (Option.some.inj (block.opens.symm.trans heq) ▸ hname)
    · intro name _
      simp [tagName_closing_of_opening block.opens]
  · exact idle_of_tagFree (block.plain line hbody)
  · apply idle_of_tagName
    · intro name _ heq
      simpa [block.closes] using tagName_closing_of_opening heq
    · intro name hname heq
      exact h (Option.some.inj (block.closes.symm.trans heq) ▸ hname)

/-- The second text is the first without some of the idle lines, and without trailing
blanks. -/
inductive Cleaned : List GoString → List GoString → Prop where
  | nil : Cleaned [] []
  | idle {part kept rest rest' : List GoString} (quiet : ∀ line ∈ part, Idle line)
      (sublist : kept.Sublist (part.map trimBlanks)) (tail : Cleaned rest rest') :
      Cleaned (part ++ rest) (kept ++ rest')
  | block {rest rest' : List GoString} (block : Block) (known : block.name ∈ certificateNames)
      (tail : Cleaned rest rest') :
      Cleaned (block.lines ++ rest) (block.lines.map trimBlanks ++ rest')

def linesOf (segments : List Segment) : List GoString := segments.flatMap Segment.lines

def AllUntouched (segments : List Segment) : Prop :=
  ∀ front block back, segments = front ++ .block block :: back → block.name ∈ certificateNames →
    Untouched (linesOf front) block

theorem sanitizeFrom_block {front : List GoString} {block : Block}
    (hname : block.name ∈ certificateNames) (h : Untouched front block) :
    sanitizeFrom (skippingAfter {} front) block.lines = block.lines.map trimBlanks := by
  rw [sanitizeFrom_eq, (sanitizeEach_block_iff hname).mpr h]
  simp [List.filterMap_map]

/-- What the sanitizer makes of the segments that follow `front`. -/
theorem cleaned_sanitizeFrom {segments front back : List Segment} (h : AllUntouched segments)
    (hsplit : segments = front ++ back) :
    Cleaned (linesOf back) (sanitizeFrom (skippingAfter {} (linesOf front)) (linesOf back)) := by
  -- whether a block is untouched depends on everything before it, so `front` grows
  induction back generalizing front with
  | nil => exact .nil
  | cons segment back ih =>
    have hnext : segments = (front ++ [segment]) ++ back := by simp [hsplit]
    have htail := ih hnext
    have hfront : linesOf (front ++ [segment]) = linesOf front ++ segment.lines := by
      simp [linesOf]
    have hlines : linesOf (segment :: back) = segment.lines ++ linesOf back := rfl
    rw [hfront, skippingAfter_append] at htail
    rw [hlines, sanitizeFrom_append]
    cases segment with
    | line text plain =>
      refine .idle ?_ (sanitizeFrom_sublist _ _) htail
      intro line hline
      rw [List.mem_singleton.mp hline]
      exact idle_of_tagFree plain
    | block b =>
      by_cases hname : b.name ∈ certificateNames
      · have hkept := sanitizeFrom_block hname (h front b back hsplit hname)
        rw [show Segment.lines (.block b) = b.lines from rfl] at htail ⊢
        rw [hkept]
        exact .block b hname htail
      · exact .idle (idle_of_block hname) (sanitizeFrom_sublist _ _) htail

end Cleaning

end ResidentialIPManager.Tunnel
