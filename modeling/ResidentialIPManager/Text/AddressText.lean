import ResidentialIPManager.Text.Address

/-! # The text of an address denotes it

`net.ParseIP` undoes `net.IP.String`: in dotted form octet by octet, in hexadecimal form
group by group, with the one run of zero groups that `::` stands for restored.
-/
namespace ResidentialIPManager.Text

theorem hexDigit_hexRune : ∀ d < 16, hexDigit (IP.hexRune d) = some d := by decide

/-- The runes that decide how a text is read. -/
def Rune.isMark (r : Rune) : Bool :=
  decide (r = .scalar '.') || decide (r = .scalar ':') || decide (r = .scalar '%')

theorem isMark_hexRune : ∀ d < 16, (IP.hexRune d).isMark = false := by decide

theorem parseHexGroup_hexGroup {n : Nat} (hn : n < 65536) :
    parseHexGroup (IP.hexGroup n) = some n := by
  have hdigit := fun (d : Nat) (hd : d < 16) (rest : GoString) (acc : Nat) =>
    show hexValue (IP.hexRune d :: rest) acc = hexValue rest (16 * acc + d) by
      rw [hexValue, hexDigit_hexRune d hd, Option.bind_some]
  unfold IP.hexGroup
  split_ifs with h1 h2 h3
  · simp only [parseHexGroup, List.isEmpty_cons, List.length_cons, List.length_nil]
    rw [if_neg (by simp), hdigit _ h1]
    simp [hexValue]
  · simp only [parseHexGroup, List.isEmpty_cons, List.length_cons, List.length_nil]
    rw [if_neg (by simp), hdigit _ (by omega), hdigit _ (by omega)]
    simp only [hexValue, Option.some.injEq]
    omega
  · simp only [parseHexGroup, List.isEmpty_cons, List.length_cons, List.length_nil]
    rw [if_neg (by simp), hdigit _ (by omega), hdigit _ (by omega), hdigit _ (by omega)]
    simp only [hexValue, Option.some.injEq]
    omega
  · simp only [parseHexGroup, List.isEmpty_cons, List.length_cons, List.length_nil]
    rw [if_neg (by simp), hdigit _ (by omega), hdigit _ (by omega), hdigit _ (by omega),
      hdigit _ (by omega)]
    simp only [hexValue, Option.some.injEq]
    omega

theorem mem_hexGroup {n : Nat} (hn : n < 65536) {r : Rune} (h : r ∈ IP.hexGroup n) :
    r.isMark = false := by
  unfold IP.hexGroup at h
  split_ifs at h with h1 h2 h3 <;>
    simp only [List.mem_cons, List.not_mem_nil, or_false] at h
  · rw [h]
    exact isMark_hexRune _ h1
  · rcases h with rfl | rfl <;> exact isMark_hexRune _ (by omega)
  · rcases h with rfl | rfl | rfl <;> exact isMark_hexRune _ (by omega)
  · rcases h with rfl | rfl | rfl | rfl <;> exact isMark_hexRune _ (by omega)

theorem hexGroup_ne_nil (n : Nat) : IP.hexGroup n ≠ [] := by
  unfold IP.hexGroup
  split_ifs <;> simp

theorem not_mem_hexGroup {n : Nat} (hn : n < 65536) {r : Rune} (hr : r.isMark = true) :
    r ∉ IP.hexGroup n := by
  intro h
  simp [mem_hexGroup hn h] at hr

section Groups

variable {g : List Nat}

theorem split_joinGroups (hg : ∀ n ∈ g, n < 65536) (hne : g ≠ []) :
    split ':' (IP.joinGroups g) = g.map IP.hexGroup := by
  refine List.splitOn_intercalate _ ?_ (by simpa using hne)
  intro l hl
  obtain ⟨n, hn, rfl⟩ := List.mem_map.mp hl
  exact not_mem_hexGroup (hg n hn) rfl

theorem sideSegments_joinGroups (hg : ∀ n ∈ g, n < 65536) :
    sideSegments (IP.joinGroups g) = g.map IP.hexGroup := by
  cases g with
  | nil => rfl
  | cons a rest =>
    have hne : (IP.joinGroups (a :: rest)).isEmpty = false := by
      have hsplit := split_joinGroups hg (List.cons_ne_nil a rest)
      cases hj : IP.joinGroups (a :: rest) with
      | nil =>
        rw [hj] at hsplit
        exact absurd (List.cons.inj hsplit).1.symm (hexGroup_ne_nil a)
      | cons => rfl
    rw [sideSegments, hne, if_neg (by simp), split_joinGroups hg (List.cons_ne_nil a rest)]

theorem parseHexGroups_hexGroup (hg : ∀ n ∈ g, n < 65536) :
    parseHexGroups (g.map IP.hexGroup) = some g := by
  induction g with
  | nil => rfl
  | cons a rest ih =>
    rw [List.map_cons, parseHexGroups, parseHexGroup_hexGroup (hg a (by simp)), Option.bind_some,
      ih fun n hn => hg n (by simp [hn]), Option.map_some]

theorem parseGroups_hexGroup (hg : ∀ n ∈ g, n < 65536) :
    parseGroups (g.map IP.hexGroup) = some g := by
  induction g with
  | nil => rfl
  | cons a rest ih =>
    have ha := hg a (by simp)
    cases rest with
    | nil =>
      have hdot : (IP.hexGroup a).contains (.scalar '.') = false := by
        simpa using not_mem_hexGroup ha (r := .scalar '.') rfl
      simp only [List.map_cons, List.map_nil, parseGroups]
      rw [hdot, if_neg (by simp), parseHexGroup_hexGroup ha, Option.map_some]
    | cons b rest =>
      have hrest := ih fun n hn => hg n (by simp [hn])
      simp only [List.map_cons] at hrest ⊢
      rw [parseGroups, parseHexGroup_hexGroup ha, Option.bind_some, hrest, Option.map_some]
      simp

theorem joinGroups_singleton (a : Nat) : IP.joinGroups [a] = IP.hexGroup a := by
  simp [IP.joinGroups, join, List.intercalate]

theorem joinGroups_cons_cons (a b : Nat) (rest : List Nat) :
    IP.joinGroups (a :: b :: rest) =
      IP.hexGroup a ++ .scalar ':' :: IP.joinGroups (b :: rest) := by
  simp [IP.joinGroups, join, lit, List.intercalate]

theorem joinGroups_head {a : Nat} (ha : a < 65536) (rest : List Nat) :
    ∃ r tail, IP.joinGroups (a :: rest) = r :: tail ∧ r ≠ .scalar ':' := by
  obtain ⟨r, tail, hr⟩ := List.exists_cons_of_ne_nil (hexGroup_ne_nil a)
  have hmark : r ≠ .scalar ':' := by
    rintro rfl
    exact not_mem_hexGroup ha (r := .scalar ':') rfl (by simp [hr])
  cases rest with
  | nil => exact ⟨r, tail, by rw [joinGroups_singleton, hr], hmark⟩
  | cons b rest => exact ⟨r, _, by rw [joinGroups_cons_cons, hr, List.cons_append], hmark⟩

theorem cutEllipsis_cons {r : Rune} (h : r ≠ .scalar ':') (t : GoString) :
    cutEllipsis (r :: t) = (cutEllipsis t).map fun p => (r :: p.1, p.2) := by
  rw [cutEllipsis]
  rintro rest rfl
  exact absurd rfl h

theorem cutEllipsis_colon {r : Rune} (h : r ≠ .scalar ':') (t : GoString) :
    cutEllipsis (.scalar ':' :: r :: t) =
      (cutEllipsis (r :: t)).map fun p => (.scalar ':' :: p.1, p.2) := by
  rw [cutEllipsis]
  intro rest _ heq
  exact h (List.cons.inj heq).1

theorem cutEllipsis_append {s : GoString} (hs : .scalar ':' ∉ s) (t : GoString) :
    cutEllipsis (s ++ t) = (cutEllipsis t).map fun p => (s ++ p.1, p.2) := by
  induction s with
  | nil => simp
  | cons r s ih =>
    have hr : r ≠ .scalar ':' := fun he => hs (by simp [he])
    rw [List.cons_append, cutEllipsis_cons hr, ih fun hm => hs (by simp [hm]), Option.map_map]
    rfl

theorem cutEllipsis_joinGroups (hg : ∀ n ∈ g, n < 65536) (t : GoString) :
    cutEllipsis (IP.joinGroups g ++ t) =
      (cutEllipsis t).map fun p => (IP.joinGroups g ++ p.1, p.2) := by
  induction g with
  | nil => simp [IP.joinGroups, join]
  | cons a rest ih =>
    have ha : .scalar ':' ∉ IP.hexGroup a := not_mem_hexGroup (hg a (by simp)) rfl
    cases rest with
    | nil => rw [joinGroups_singleton, cutEllipsis_append ha]
    | cons b rest =>
      have hrest := ih fun n hn => hg n (by simp [hn])
      obtain ⟨r, tail, hj, hr⟩ := joinGroups_head (hg b (by simp)) rest
      rw [joinGroups_cons_cons, List.append_assoc, cutEllipsis_append ha]
      simp only [hj, List.cons_append] at hrest ⊢
      rw [cutEllipsis_colon hr, hrest, Option.map_map, Option.map_map]
      simp [Function.comp_def]

/-- Apart from colons the joined groups hold no mark. -/
theorem mem_joinGroups (hg : ∀ n ∈ g, n < 65536) {r : Rune} (h : r ∈ IP.joinGroups g) :
    r = .scalar ':' ∨ r.isMark = false := by
  induction g with
  | nil => simp [IP.joinGroups, join] at h
  | cons a rest ih =>
    cases rest with
    | nil =>
      rw [joinGroups_singleton] at h
      exact .inr (mem_hexGroup (hg a (by simp)) h)
    | cons b rest =>
      rw [joinGroups_cons_cons] at h
      rcases List.mem_append.mp h with hm | hm
      · exact .inr (mem_hexGroup (hg a (by simp)) hm)
      · rcases List.mem_cons.mp hm with rfl | hm
        · exact .inl rfl
        · exact ih (fun n hn => hg n (by simp [hn])) hm

end Groups

theorem parseIP_of_colons {s : GoString} (hs : ∀ r ∈ s, r = .scalar ':' ∨ r.isMark = false)
    (hc : .scalar ':' ∈ s) : parseIP s = (parseIPv6 s).bind IP.ofGroups := by
  have hfind : s.find? (fun r => r = .scalar '.' ∨ r = .scalar ':' ∨ r = .scalar '%') =
      some (.scalar ':') := by
    induction s with
    | nil => simp at hc
    | cons r s ih =>
      rcases hs r (by simp) with rfl | hr
      · simp
      · have hplain : ¬(r = .scalar '.' ∨ r = .scalar ':' ∨ r = .scalar '%') := by
          simpa [Rune.isMark, and_assoc] using hr
        rw [List.find?_cons_of_neg (by simpa using hplain)]
        refine ih (fun r hr => hs r (by simp [hr])) ?_
        rcases List.mem_cons.mp hc with rfl | hm
        · simp at hplain
        · exact hm
  have hpercent : .scalar '%' ∉ s := by
    intro hm
    rcases hs _ hm with he | he <;> simp [Rune.isMark] at he
  rw [parseIP, hfind]
  simp [hpercent]

theorem take_zeroPrefix (l : List Nat) :
    l.take (IP.zeroPrefix l) = List.replicate (IP.zeroPrefix l) 0 := by
  unfold IP.zeroPrefix
  rw [← List.prefix_iff_eq_take.mp (List.takeWhile_prefix _), List.eq_replicate_iff]
  exact ⟨rfl, fun b hb => by simpa using List.mem_takeWhile_imp hb⟩

theorem zeroPrefix_le (l : List Nat) : IP.zeroPrefix l ≤ l.length :=
  (List.takeWhile_prefix _).length_le

theorem zeroRun_spec {g : List Nat} {i l : Nat} (h : IP.zeroRun g = some (i, l)) :
    2 ≤ l ∧ i + l ≤ g.length ∧ (g.drop i).take l = List.replicate l 0 := by
  suffices hinv : ∀ i l, IP.zeroRun g = some (i, l) →
      2 ≤ l ∧ i + l ≤ g.length ∧ (g.drop i).take l = List.replicate l 0 from hinv i l h
  unfold IP.zeroRun
  refine List.foldlRecOn (motive := fun best => ∀ i l, best = some (i, l) →
    2 ≤ l ∧ i + l ≤ g.length ∧ (g.drop i).take l = List.replicate l 0) _ _ (by simp) ?_
  intro best hbest j hj i l heq
  split_ifs at heq with hc
  · obtain ⟨rfl, rfl⟩ := Prod.mk.inj (Option.some.inj heq)
    have hle := zeroPrefix_le (g.drop j)
    rw [List.length_drop] at hle
    have := List.mem_range.mp hj
    exact ⟨hc.1, by omega, take_zeroPrefix _⟩
  · exact hbest i l heq

namespace IP

theorem ofGroups_groups (ip : IP) : ofGroups ip.groups = some ip := by
  rw [ofGroups, dif_pos ⟨ip.length_eq, ip.bounded⟩]

theorem parseOctet_decimalOctet : ∀ n < 256, parseOctet (decimalOctet n) = some n := by
  decide +kernel

theorem isMark_decimalOctet : ∀ n < 256, ∀ r ∈ decimalOctet n, r.isMark = false := by
  decide +kernel

theorem parseIPv6_string {ip : IP} {s : GoString} (hs : ip.string = s) (h4 : ip.to4 = none) :
    parseIPv6 s = some ip.groups ∧ (∀ r ∈ s, r = .scalar ':' ∨ r.isMark = false) ∧
      .scalar ':' ∈ s := by
  subst hs
  have hb := ip.bounded
  have hcolons : lit "::" = [.scalar ':', .scalar ':'] := rfl
  simp only [string, h4]
  cases hz : zeroRun ip.groups with
  | none =>
    obtain ⟨a, b, rest, hg⟩ : ∃ a b rest, ip.groups = a :: b :: rest := by
      have hlen := ip.length_eq
      rcases hg : ip.groups with - | ⟨a, - | ⟨b, rest⟩⟩ <;> simp [hg] at hlen
      exact ⟨a, b, rest, rfl⟩
    refine ⟨?_, fun r hr => mem_joinGroups hb hr, ?_⟩
    · have hcut := cutEllipsis_joinGroups hb []
      rw [List.append_nil] at hcut
      simp only [parseIPv6, hcut, cutEllipsis, Option.map_none]
      rw [split_joinGroups hb (by simp [hg]), parseGroups_hexGroup hb]
    · rw [hg, joinGroups_cons_cons]
      simp
  | some run =>
    obtain ⟨i, l⟩ := run
    obtain ⟨htwo, hle, hzero⟩ := zeroRun_spec hz
    rw [ip.length_eq] at hle
    have hl : ∀ n ∈ ip.groups.take i, n < 65536 := fun n hn => hb n (List.mem_of_mem_take hn)
    have hr : ∀ n ∈ ip.groups.drop (i + l), n < 65536 := fun n hn => hb n (List.mem_of_mem_drop hn)
    simp only []
    refine ⟨?_, ?_, ?_⟩
    · have hcut := cutEllipsis_joinGroups hl (lit "::" ++ joinGroups (ip.groups.drop (i + l)))
      rw [← List.append_assoc] at hcut
      simp only [parseIPv6, hcut]
      simp only [hcolons, List.cons_append, List.nil_append, cutEllipsis, Option.map_some,
        List.append_nil]
      rw [sideSegments_joinGroups hl, sideSegments_joinGroups hr, parseHexGroups_hexGroup hl,
        Option.bind_some, parseGroups_hexGroup hr, Option.bind_some]
      have hlen : (ip.groups.take i).length + (ip.groups.drop (i + l)).length = 8 - l := by
        rw [List.length_take, List.length_drop, ip.length_eq]
        omega
      rw [hlen, if_pos (by omega), Nat.sub_sub_self (by omega), ← hzero, List.append_assoc,
        ← List.drop_drop, List.take_append_drop, List.take_append_drop]
    · intro r hmem
      rw [hcolons] at hmem
      rcases List.mem_append.mp hmem with hm | hm
      · rcases List.mem_append.mp hm with hm | hm
        · exact mem_joinGroups hl hm
        · exact .inl (by simpa using hm)
      · exact mem_joinGroups hr hm
    · simp [hcolons]

theorem parseIPv4_string {a b c d : Nat} (ha : a < 256) (hb : b < 256) (hc : c < 256)
    (hd : d < 256) :
    parseIPv4 (join (lit ".") ([a, b, c, d].map decimalOctet)) =
      some [256 * a + b, 256 * c + d] := by
  have hsplit : split '.' (join (lit ".") ([a, b, c, d].map decimalOctet)) =
      [a, b, c, d].map decimalOctet := by
    refine List.splitOn_intercalate _ ?_ (by simp)
    intro l hl hm
    obtain ⟨n, hn, rfl⟩ := List.mem_map.mp hl
    have hlt : n < 256 := by
      simp only [List.mem_cons, List.not_mem_nil, or_false] at hn
      omega
    exact absurd (isMark_decimalOctet n hlt _ hm) (by decide)
  unfold parseIPv4
  rw [hsplit]
  simp only [List.map_cons, List.map_nil, parseOctet_decimalOctet a ha,
    parseOctet_decimalOctet b hb, parseOctet_decimalOctet c hc, parseOctet_decimalOctet d hd]

theorem find?_mark_dotted {a : Nat} (ha : a < 256) (t : GoString) :
    (decimalOctet a ++ .scalar '.' :: t).find?
      (fun r => r = .scalar '.' ∨ r = .scalar ':' ∨ r = .scalar '%') = some (.scalar '.') := by
  have hnone : (decimalOctet a).find?
      (fun r => r = .scalar '.' ∨ r = .scalar ':' ∨ r = .scalar '%') = none := by
    rw [List.find?_eq_none]
    intro r hr
    simpa [Rune.isMark, and_assoc] using isMark_decimalOctet a ha r hr
  rw [List.find?_append, hnone, Option.none_or, List.find?_cons_of_pos (by simp)]

theorem to4_eq_some {ip : IP} {a b c d : Nat} (h : ip.to4 = some (a, b, c, d)) :
    a < 256 ∧ b < 256 ∧ c < 256 ∧ d < 256 ∧
      ip.groups = [0, 0, 0, 0, 0, 65535, 256 * a + b, 256 * c + d] := by
  have hb := ip.bounded
  unfold to4 at h
  split at h
  · next x y hg =>
    obtain ⟨rfl, rfl, rfl, rfl⟩ : x / 256 = a ∧ x % 256 = b ∧ y / 256 = c ∧ y % 256 = d := by
      simpa using h
    have hx := hb x (by simp [hg])
    have hy := hb y (by simp [hg])
    refine ⟨by omega, by omega, by omega, by omega, ?_⟩
    rw [hg, Nat.div_add_mod, Nat.div_add_mod]
  · cases h

/-- `net.ParseIP` undoes `net.IP.String`. -/
theorem parseIP_string (ip : IP) : parseIP ip.string = some ip := by
  cases h4 : ip.to4 with
  | none =>
    obtain ⟨hparse, hmarks, hcolon⟩ := parseIPv6_string rfl h4
    rw [parseIP_of_colons hmarks hcolon, hparse, Option.bind_some, ofGroups_groups]
  | some octets =>
    obtain ⟨a, b, c, d⟩ := octets
    obtain ⟨ha, hb, hc, hd, hg⟩ := to4_eq_some h4
    have hstring : ip.string = join (lit ".") ([a, b, c, d].map decimalOctet) := by
      simp only [string, h4]
    have hfirst : join (lit ".") ([a, b, c, d].map decimalOctet) = decimalOctet a ++
        .scalar '.' :: join (lit ".") ([b, c, d].map decimalOctet) := by
      simp [join, lit, List.intercalate]
    have hfind := find?_mark_dotted ha (join (lit ".") ([b, c, d].map decimalOctet))
    rw [hstring, parseIP, hfirst, hfind, ← hfirst]
    simp only [parseIPv4_string ha hb hc hd, Option.bind_some]
    rw [← ofGroups_groups ip, hg]
    rfl

end IP

theorem isDigit_decimalOctet : ∀ n < 256, ∀ r ∈ IP.decimalOctet n, r.isDigit = true := by
  decide +kernel

theorem mem_string_of_to4 {ip : IP} (h : ip.to4 ≠ none) {r : Rune} (hr : r ∈ ip.string) :
    r = .scalar '.' ∨ r.isDigit = true := by
  obtain ⟨⟨a, b, c, d⟩, h4⟩ := Option.ne_none_iff_exists'.mp h
  obtain ⟨ha, hb, hc, hd, -⟩ := IP.to4_eq_some h4
  simp only [IP.string, h4] at hr
  rcases mem_join hr with hdot | ⟨octet, hoctet, hr⟩
  · exact .inl (by simpa [lit] using hdot)
  · right
    obtain ⟨n, hn, rfl⟩ := List.mem_map.mp hoctet
    refine isDigit_decimalOctet n ?_ r hr
    simp only [List.mem_cons, List.not_mem_nil, or_false] at hn
    omega

end ResidentialIPManager.Text
