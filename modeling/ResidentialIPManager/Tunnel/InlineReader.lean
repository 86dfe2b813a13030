import ResidentialIPManager.Tunnel.InlineBlocks
import ResidentialIPManager.Tunnel.OptionEffects

/-! # How the option reader collects inline files

The reader collects `<ca>`, `<cert>` and `<key>` whatever stands between the blocks: an
option neither reads nor writes what is collected, and whether it is accepted does not
depend on the options before it. Blanks at the end of a line do not show.
-/
namespace ResidentialIPManager.Tunnel
open Text

section Collecting

/-- The reader without the options: comments, tags and what is inside the blocks. -/
def inlineLine (k : Reading) (l : GoString) : Except Fault Reading :=
  if hasPrefix l (lit "#") then .ok k
  else if isClosingTag (trimSpace l) then
    (parseInlineTag k.options k.tag k.inlineBuf).map fun o => { options := o }
  else
    match k.tag with
    | some _ => .ok { k with inlineBuf := k.inlineBuf ++ trimSpace l ++ lit "\n" }
    | none =>
      match openingTag (trimSpace l) with
      | some tag =>
        if k.inlineBuf ≠ [] then .error (badConfig (lit "tag not closed"))
        else .ok { k with tag := some tag }
      | none => .ok k

def inlineFiles (lines : List GoString) : Except Fault InlineFiles :=
  (lines.foldlM inlineLine {}).map fun k => k.options.inlineFiles

def optionOn (k : Reading) (l : GoString) : Option (GoString × List GoString) :=
  if hasPrefix l (lit "#") || isClosingTag (trimSpace l) || k.tag.isSome ||
      (openingTag (trimSpace l)).isSome then none
  else
    match split ' ' (trimSpace l) with
    | [] => none
    | key :: parts => some (key, parts)

variable {files : Files} {k k' m : Reading} {l : GoString}

/-- A line is an option or it is a matter of collecting. -/
theorem readLine_eq (files : Files) (k : Reading) (l : GoString) :
    readLine files k l =
      match optionOn k l with
      | some (key, parts) =>
        (parseOption files k.options key parts).map fun o => { k with options := o }
      | none => inlineLine k l := by
  unfold readLine optionOn inlineLine
  by_cases hcomment : hasPrefix l (lit "#") = true
  · simp [hcomment]
  by_cases hclose : isClosingTag (trimSpace l) = true
  · simp [hcomment, hclose]
  cases htag : k.tag with
  | some tag => simp [hcomment, hclose]
  | none =>
    cases hopen : openingTag (trimSpace l) with
    | some tag => simp [hcomment, hclose, hopen]
    | none =>
      cases hsplit : split ' ' (trimSpace l) with
      | nil => simp [hcomment, hclose, hopen, hsplit]
      | cons key parts => simp [hcomment, hclose, hopen, hsplit]

theorem readLine_option {option : GoString × List GoString} {o : OpenVPNOptions}
    (hoption : optionOn k l = some option)
    (hparse : parseOption files k.options option.1 option.2 = .ok o) :
    readLine files k l = .ok { k with options := o } := by
  rw [readLine_eq, hoption]
  simp only [hparse]
  rfl

/-- A line that is read is collected, or it is an option that is accepted. -/
theorem readLine_ok (h : readLine files k l = .ok m) :
    optionOn k l = none ∧ inlineLine k l = .ok m ∨
      ∃ option o, optionOn k l = some option ∧
        parseOption files k.options option.1 option.2 = .ok o ∧ m = { k with options := o } := by
  rw [readLine_eq] at h
  cases hoption : optionOn k l with
  | none =>
    rw [hoption] at h
    exact .inl ⟨rfl, h⟩
  | some option =>
    simp only [hoption] at h
    cases hparse : parseOption files k.options option.1 option.2 with
    | error fault => rw [hparse] at h; cases h
    | ok o =>
      rw [hparse] at h
      exact .inr ⟨option, o, rfl, hparse, (Except.ok.inj h).symm⟩

/-- What two runs of the reader share when only their options differ. -/
structure Agree (k k' : Reading) : Prop where
  tag : k.tag = k'.tag
  inlineBuf : k.inlineBuf = k'.inlineBuf
  files : k.options.inlineFiles = k'.options.inlineFiles

theorem Agree.refl (k : Reading) : Agree k k := ⟨rfl, rfl, rfl⟩

theorem Agree.trans {a b c : Reading} (hab : Agree a b) (hbc : Agree b c) : Agree a c :=
  ⟨hab.tag.trans hbc.tag, hab.inlineBuf.trans hbc.inlineBuf, hab.files.trans hbc.files⟩

theorem Agree.symm {a b : Reading} (h : Agree a b) : Agree b a :=
  ⟨h.tag.symm, h.inlineBuf.symm, h.files.symm⟩

theorem parseInlineTag_agree {o o' a : OpenVPNOptions} {tag : Option InlineTag} {buf : GoString}
    (hfiles : o.inlineFiles = o'.inlineFiles) (h : parseInlineTag o tag buf = .ok a) :
    ∃ a', parseInlineTag o' tag buf = .ok a' ∧ a.inlineFiles = a'.inlineFiles := by
  obtain ⟨hca, hcert, hkey⟩ : o.ca = o'.ca ∧ o.cert = o'.cert ∧ o.key = o'.key := by
    simpa [OpenVPNOptions.inlineFiles] using hfiles
  unfold parseInlineTag at h ⊢
  split_ifs at h ⊢ with hempty
  rcases tag with - | (_ | _ | _)
  · cases h
  all_goals
    obtain rfl := Except.ok.inj h
    exact ⟨_, rfl, by simp [OpenVPNOptions.inlineFiles, hca, hcert, hkey]⟩

theorem inlineLine_agree (hk : Agree k k') (h : inlineLine k l = .ok m) :
    ∃ m', inlineLine k' l = .ok m' ∧ Agree m m' := by
  unfold inlineLine at h ⊢
  rw [← hk.tag, ← hk.inlineBuf]
  by_cases hcomment : hasPrefix l (lit "#") = true
  · rw [if_pos hcomment] at h ⊢
    obtain rfl := Except.ok.inj h
    exact ⟨k', rfl, hk⟩
  rw [if_neg hcomment] at h ⊢
  by_cases hclose : isClosingTag (trimSpace l) = true
  · rw [if_pos hclose] at h ⊢
    cases hparse : parseInlineTag k.options k.tag k.inlineBuf with
    | error fault => rw [hparse] at h; cases h
    | ok o =>
      rw [hparse] at h
      obtain rfl := Except.ok.inj h
      obtain ⟨o', hparse', hfiles⟩ := parseInlineTag_agree hk.files hparse
      exact ⟨{ options := o' }, by rw [hparse']; rfl, rfl, rfl, hfiles⟩
  rw [if_neg hclose] at h ⊢
  cases htag : k.tag with
  | some tag =>
    rw [htag] at h
    obtain rfl := Except.ok.inj h
    exact ⟨_, rfl, rfl, rfl, hk.files⟩
  | none =>
    rw [htag] at h
    cases hopen : openingTag (trimSpace l) with
    | some tag =>
      simp only [hopen] at h ⊢
      split_ifs at h ⊢
      obtain rfl := Except.ok.inj h
      exact ⟨_, rfl, rfl, rfl, hk.files⟩
    | none =>
      simp only [hopen] at h ⊢
      obtain rfl := Except.ok.inj h
      exact ⟨k', rfl, hk⟩

theorem parseOption_agree {o o₁ : OpenVPNOptions} {key : GoString} {p : List GoString}
    (h : parseOption files o key p = .ok o₁) (o' : OpenVPNOptions) :
    o₁.inlineFiles = o.inlineFiles ∧
      ∃ o₂, parseOption files o' key p = .ok o₂ ∧ o₂.inlineFiles = o'.inlineFiles := by
  rcases effect_parseOption files p key with ⟨fault, herror⟩ | ⟨g, hok, hfiles⟩
  · cases h.symm.trans (herror o)
  · obtain rfl := Except.ok.inj (h.symm.trans (hok o))
    exact ⟨hfiles o, g o', hok o', hfiles o'⟩

theorem optionOn_congr (h : k.tag = k'.tag) : optionOn k' l = optionOn k l := by
  rw [optionOn, optionOn, h]

/-- A line that is read is read again from any state that agrees. -/
theorem readLine_agree (hk : Agree k k') (h : readLine files k l = .ok m) :
    ∃ m', readLine files k' l = .ok m' ∧ Agree m m' := by
  have hsame := optionOn_congr (l := l) hk.tag
  rcases readLine_ok h with ⟨hnone, hinline⟩ | ⟨option, o, hoption, hparse, rfl⟩
  · rw [readLine_eq, hsame, hnone]
    exact inlineLine_agree hk hinline
  · obtain ⟨hleft, o', hparse', hright⟩ := parseOption_agree hparse k'.options
    refine ⟨_, readLine_option (hsame.trans hoption) hparse', hk.tag, hk.inlineBuf, ?_⟩
    exact hleft.trans (hk.files.trans hright.symm)

/-- An idle line outside of blocks changes nothing but options. -/
theorem readLine_idle (hidle : Idle l) (htag : k.tag = none) (h : readLine files k l = .ok m) :
    Agree k m ∧ ∀ k', k'.tag = none → ∃ m', readLine files k' l = .ok m' ∧ Agree k' m' := by
  have hquiet : ∀ k' : Reading, k'.tag = none → inlineLine k' l = .ok k' := by
    intro k' htag'
    simp [inlineLine, hidle.1, hidle.2, htag']
  have hsame : ∀ k' : Reading, k'.tag = none → optionOn k' l = optionOn k l :=
    fun k' htag' => optionOn_congr (htag.trans htag'.symm)
  rcases readLine_ok h with ⟨hnone, hinline⟩ | ⟨option, o, hoption, hparse, rfl⟩
  · obtain rfl := Except.ok.inj (hinline.symm.trans (hquiet k htag))
    refine ⟨.refl _, fun k' htag' => ⟨k', ?_, .refl k'⟩⟩
    rw [readLine_eq, hsame k' htag', hnone]
    exact hquiet k' htag'
  · refine ⟨⟨rfl, rfl, (parseOption_agree hparse k.options).1.symm⟩, fun k' htag' => ?_⟩
    obtain ⟨-, o', hparse', hfiles⟩ := parseOption_agree hparse k'.options
    exact ⟨_, readLine_option ((hsame k' htag').trans hoption) hparse', rfl, rfl, hfiles.symm⟩

theorem inlineLine_of_option {option : GoString × List GoString} (h : optionOn k l = some option) :
    inlineLine k l = .ok k := by
  unfold optionOn at h
  split_ifs at h with hmark
  simp only [Bool.or_eq_true, not_or, Bool.not_eq_true, Option.isSome_eq_false_iff,
    Option.isNone_iff_eq_none] at hmark
  simp [inlineLine, hmark.1.1.1, hmark.1.1.2, hmark.1.2, hmark.2]

theorem inlineLine_of_readLine (hk : Agree k k') (h : readLine files k l = .ok m) :
    ∃ m', inlineLine k' l = .ok m' ∧ Agree m m' := by
  rcases readLine_ok h with ⟨-, hinline⟩ | ⟨option, o, hoption, hparse, rfl⟩
  · exact inlineLine_agree hk hinline
  · refine ⟨k', inlineLine_of_option ((optionOn_congr hk.tag).trans hoption), hk.tag,
      hk.inlineBuf, ?_⟩
    exact (parseOption_agree hparse k.options).1.trans hk.files

end Collecting

section Blanks

theorem rdropWhile_append_cons {α : Type*} {p : α → Bool} {a : α} (h : ¬p a = true)
    (front back : List α) :
    (front ++ a :: back).rdropWhile p = front ++ a :: back.rdropWhile p := by
  unfold List.rdropWhile
  rw [List.reverse_append, List.reverse_cons, List.append_assoc, List.dropWhile_append]
  split_ifs with hempty
  · rw [List.isEmpty_iff.mp hempty, List.singleton_append, List.dropWhile_cons_of_neg h]
    simp
  · simp

theorem rdropWhile_cons_of_neg {α : Type*} {p : α → Bool} {a : α} (h : ¬p a = true) (l : List α) :
    (a :: l).rdropWhile p = a :: l.rdropWhile p :=
  rdropWhile_append_cons h [] l

theorem hasPrefix_trimBlanks (l : GoString) :
    hasPrefix (trimBlanks l) (lit "#") = hasPrefix l (lit "#") := by
  cases l with
  | nil => rfl
  | cons r rest =>
    by_cases hr : r = .scalar '#'
    · subst hr
      rw [trimBlanks, rdropWhile_cons_of_neg (by decide)]
      rfl
    · have hnot : ∀ t : GoString, hasPrefix (r :: t) (lit "#") = false := by
        intro t
        simp [hasPrefix, lit, List.isPrefixOf, Ne.symm hr]
      obtain ⟨tail, htail⟩ : trimBlanks (r :: rest) <+: r :: rest := List.rdropWhile_prefix _ _
      cases htrim : trimBlanks (r :: rest) with
      | nil => rw [hnot]; rfl
      | cons a t =>
        rw [htrim] at htail
        obtain ⟨rfl, -⟩ := List.cons.inj htail
        rw [hnot, hnot]

theorem hasPrefix_trimSpace {l : GoString} (h : hasPrefix l (lit "#") = true) :
    hasPrefix (trimSpace l) (lit "#") = true := by
  obtain ⟨rest, rfl⟩ := List.isPrefixOf_iff_prefix.mp h
  have hcons : lit "#" ++ rest = .scalar '#' :: rest := rfl
  rw [hcons, trimSpace, List.dropWhile_cons_of_neg (by decide), rdropWhile_cons_of_neg (by decide)]
  rfl

theorem inlineLine_trimBlanks (k : Reading) (l : GoString) :
    inlineLine k (trimBlanks l) = inlineLine k l := by
  rw [inlineLine, inlineLine, hasPrefix_trimBlanks, trimSpace_trimBlanks]

theorem readLine_trimBlanks (files : Files) (k : Reading) (l : GoString) :
    readLine files k (trimBlanks l) = readLine files k l := by
  rw [readLine, readLine, hasPrefix_trimBlanks, trimSpace_trimBlanks]

theorem inlineLine_closing {k m : Reading} {l : GoString} (hclose : isClosingTag (trimSpace l) = true)
    (h : inlineLine k l = .ok m) : m.tag = none := by
  have hcomment : ¬hasPrefix l (lit "#") = true := by
    intro hhash
    obtain ⟨name, -, heq⟩ := exists_of_isClosingTag hclose
    have hprefix := hasPrefix_trimSpace hhash
    rw [heq] at hprefix
    cases hprefix
  rw [inlineLine, if_neg hcomment, if_pos hclose] at h
  cases hparse : parseInlineTag k.options k.tag k.inlineBuf with
  | error fault => rw [hparse] at h; cases h
  | ok o =>
    rw [hparse] at h
    obtain rfl := Except.ok.inj h
    rfl

end Blanks

end ResidentialIPManager.Tunnel
