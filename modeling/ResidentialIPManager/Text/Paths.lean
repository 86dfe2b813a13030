import ResidentialIPManager.Text.Strings

/-! # Paths with forward slashes

`filepath.Clean` and `filepath.Join` on a system whose separator is the slash. Cleaning
pushes the parts of a path on a stack; a cleaned path is left alone, and joining a proper
name to one appends the name.
-/
namespace ResidentialIPManager.Text

/-- One part of a path on the stack of `filepath.Clean`, whose top is its head. -/
def pushPart (rooted : Bool) (stack : List GoString) (part : GoString) : List GoString :=
  if part = [] ∨ part = lit "." then stack
  else if part = lit ".." then
    match stack with
    | [] => if rooted then [] else [part]
    | top :: below => if top = lit ".." then part :: top :: below else below
  else part :: stack

def isRooted (path : GoString) : Bool := path.head? = some (.scalar '/')

def cleanParts (path : GoString) : List GoString :=
  ((split '/' path).foldl (pushPart (isRooted path)) []).reverse

def pathText (rooted : Bool) (parts : List GoString) : GoString :=
  if rooted then lit "/" ++ join (lit "/") parts
  else if parts = [] then lit "."
  else join (lit "/") parts

def cleanPath (path : GoString) : GoString := pathText (isRooted path) (cleanParts path)

/-- `filepath.Join`: leading empty elements are dropped. -/
def joinPaths : List GoString → GoString
  | [] => []
  | element :: rest =>
    if element = [] then joinPaths rest else cleanPath (join (lit "/") (element :: rest))

/-- A name for one file: neither empty nor a dot entry, and without separators. -/
structure PathComponent (name : GoString) : Prop where
  nonempty : name ≠ []
  slash : .scalar '/' ∉ name
  backslash : .scalar '\\' ∉ name
  nul : .scalar '\x00' ∉ name
  here : name ≠ lit "."
  parent : name ≠ lit ".."

/-- What a stack holds: the names of a path, and dot-dot entries only below them. -/
def NormalStack (rooted : Bool) : List GoString → Prop
  | [] => True
  | top :: below =>
    (top ≠ [] ∧ .scalar '/' ∉ top ∧ top ≠ lit ".") ∧
      (top = lit ".." → rooted = false ∧ ∀ part ∈ below, part = lit "..") ∧ NormalStack rooted below

theorem PathComponent.pushPart {name : GoString} (h : PathComponent name) (rooted : Bool)
    (stack : List GoString) : pushPart rooted stack name = name :: stack := by
  simp [Text.pushPart, h.nonempty, h.here, h.parent]

section Cleaning

variable {rooted : Bool} {stack : List GoString}

theorem NormalStack.mem (h : NormalStack rooted stack) {part : GoString} (hp : part ∈ stack) :
    part ≠ [] ∧ .scalar '/' ∉ part := by
  induction stack with
  | nil => cases hp
  | cons top below ih =>
    rcases List.mem_cons.mp hp with rfl | hm
    · exact ⟨h.1.1, h.1.2.1⟩
    · exact ih h.2.2 hm

theorem normal_pushPart {part : GoString} (h : NormalStack rooted stack) (hslash : .scalar '/' ∉ part) :
    NormalStack rooted (pushPart rooted stack part) := by
  unfold pushPart
  by_cases hskip : part = [] ∨ part = lit "."
  · rwa [if_pos hskip]
  · rw [if_neg hskip]
    obtain ⟨hne, hdot⟩ := not_or.mp hskip
    by_cases hparent : part = lit ".."
    · rw [if_pos hparent]
      cases stack with
      | nil =>
        cases rooted with
        | true => trivial
        | false => exact ⟨⟨hne, hslash, hdot⟩, fun _ => ⟨rfl, by simp⟩, trivial⟩
      | cons top below =>
        by_cases htop : top = lit ".."
        · obtain ⟨hroot, hbelow⟩ := h.2.1 htop
          simp only [if_pos htop]
          refine ⟨⟨hne, hslash, hdot⟩, fun _ => ⟨hroot, ?_⟩, h⟩
          simpa [htop] using hbelow
        · simpa only [if_neg htop] using h.2.2
    · rw [if_neg hparent]
      exact ⟨⟨hne, hslash, hdot⟩, fun heq => absurd heq hparent, h⟩

theorem normal_foldl {parts : List GoString} (h : NormalStack rooted stack)
    (hparts : ∀ part ∈ parts, .scalar '/' ∉ part) :
    NormalStack rooted (parts.foldl (pushPart rooted) stack) := by
  induction parts generalizing stack with
  | nil => exact h
  | cons part rest ih =>
    refine ih (normal_pushPart h (hparts part List.mem_cons_self)) ?_
    exact fun p hp => hparts p (List.mem_cons_of_mem _ hp)

theorem normal_cleanParts (path : GoString) : NormalStack (isRooted path) (cleanParts path).reverse := by
  rw [cleanParts, List.reverse_reverse]
  exact normal_foldl trivial fun part hp hmem => (mem_split hp hmem).2 rfl

/-- Pushing the entries of a normal stack rebuilds it. -/
theorem foldl_normal (h : NormalStack rooted stack) :
    stack.reverse.foldl (pushPart rooted) [] = stack := by
  induction stack with
  | nil => rfl
  | cons top below ih =>
    rw [List.reverse_cons, List.foldl_append, ih h.2.2, List.foldl_cons, List.foldl_nil]
    obtain ⟨⟨hne, -, hdot⟩, hparent, -⟩ := h
    unfold pushPart
    rw [if_neg (not_or.mpr ⟨hne, hdot⟩)]
    by_cases htop : top = lit ".."
    · obtain ⟨hroot, hbelow⟩ := hparent htop
      rw [if_pos htop]
      cases below with
      | nil => simp [hroot]
      | cons next rest => simp [hbelow next List.mem_cons_self]
    · rw [if_neg htop]

end Cleaning

theorem split_slash_join {parts : List GoString} (hparts : ∀ part ∈ parts, .scalar '/' ∉ part)
    (hne : parts ≠ []) : split '/' (join (lit "/") parts) = parts :=
  List.splitOn_intercalate _ (fun part hp => hparts part hp) hne

theorem split_slash_cons (s : GoString) : split '/' (lit "/" ++ s) = [] :: split '/' s := by
  have hcons : lit "/" ++ s = [] ++ .scalar '/' :: s := rfl
  rw [hcons, split, List.splitOn, List.splitOnP_append_cons _ _ (by simp)]
  rfl

theorem isRooted_join {parts : List GoString}
    (hparts : ∀ part ∈ parts, part ≠ [] ∧ .scalar '/' ∉ part) :
    isRooted (join (lit "/") parts) = false := by
  rcases parts with - | ⟨part, rest⟩
  · decide
  · obtain ⟨hne, hslash⟩ := hparts part List.mem_cons_self
    obtain ⟨r, tail, rfl⟩ := List.exists_cons_of_ne_nil hne
    have hr : r ≠ .scalar '/' := fun heq => hslash (heq ▸ List.mem_cons_self)
    have hhead : (join (lit "/") ((r :: tail) :: rest)).head? = some r := by
      cases rest <;> simp [join, List.intercalate]
    simp [isRooted, hhead, hr]

/-- The parts of the text of a path are its parts. -/
theorem cleanParts_pathText {rooted : Bool} {parts : List GoString}
    (h : NormalStack rooted parts.reverse) (hne : parts ≠ []) :
    isRooted (pathText rooted parts) = rooted ∧ cleanParts (pathText rooted parts) = parts := by
  have hmem : ∀ part ∈ parts, part ≠ [] ∧ .scalar '/' ∉ part :=
    fun part hp => h.mem (List.mem_reverse.mpr hp)
  have hsplit := split_slash_join (fun part hp => (hmem part hp).2) hne
  have hfold := foldl_normal h
  rw [List.reverse_reverse] at hfold
  cases rooted with
  | true =>
    have hrooted : isRooted (lit "/" ++ join (lit "/") parts) = true := by
      simp [isRooted, lit]
    refine ⟨hrooted, ?_⟩
    have hskip : pushPart true [] [] = [] := rfl
    simp only [pathText, if_true, cleanParts, hrooted, split_slash_cons, hsplit, List.foldl_cons,
      hskip, hfold, List.reverse_reverse]
  | false =>
    have htext : pathText false parts = join (lit "/") parts := by simp [pathText, hne]
    have hrooted := isRooted_join hmem
    rw [htext]
    exact ⟨hrooted, by rw [cleanParts, hrooted, hsplit, hfold, List.reverse_reverse]⟩

theorem pathText_append {rooted : Bool} {parts : List GoString} (name : GoString)
    (hne : parts ≠ []) :
    pathText rooted (parts ++ [name]) = pathText rooted parts ++ lit "/" ++ name := by
  have hjoin : join (lit "/") (parts ++ [name]) = join (lit "/") parts ++ (lit "/" ++ name) := by
    induction parts with
    | nil => exact absurd rfl hne
    | cons part rest ih =>
      cases rest with
      | nil => simp [join, List.intercalate]
      | cons next rest =>
        have htail := ih (by simp)
        simp only [join, List.intercalate, List.cons_append, List.intersperse_cons_cons,
          List.flatten_cons, List.append_assoc] at htail ⊢
        rw [htail]
  cases rooted with
  | true => simp [pathText, hjoin]
  | false => simp [pathText, hjoin, hne]

theorem cleanParts_append {dir name : GoString} (hname : PathComponent name) (hdir : dir ≠ []) :
    isRooted (dir ++ lit "/" ++ name) = isRooted dir ∧
      cleanParts (dir ++ lit "/" ++ name) = cleanParts dir ++ [name] := by
  have hrooted : isRooted (dir ++ lit "/" ++ name) = isRooted dir := by
    obtain ⟨r, tail, rfl⟩ := List.exists_cons_of_ne_nil hdir
    simp [isRooted]
  have hsplit : split '/' (dir ++ lit "/" ++ name) = split '/' dir ++ [name] := by
    have hshape : dir ++ lit "/" ++ name = dir ++ .scalar '/' :: name := by simp [lit]
    have hlast : List.splitOnP (· == .scalar '/') name = [name] := by
      refine List.splitOnP_eq_singleton fun r hr => ?_
      rw [beq_eq_false_iff_ne]
      rintro rfl
      exact hname.slash hr
    rw [hshape, split, List.splitOn, List.splitOnP_append_cons _ _ (by simp), hlast]
    rfl
  refine ⟨hrooted, ?_⟩
  rw [cleanParts, hrooted, hsplit, List.foldl_append, List.foldl_cons, List.foldl_nil,
    hname.pushPart, List.reverse_cons, cleanParts]

theorem joinPaths_component {dir name : GoString} (hname : PathComponent name)
    (hdir : cleanPath dir = dir) (hparts : cleanParts dir ≠ []) :
    joinPaths [dir, name] = dir ++ lit "/" ++ name := by
  have hne : dir ≠ [] := by
    rintro rfl
    exact hparts (by decide)
  have hjoin : join (lit "/") [dir, name] = dir ++ lit "/" ++ name := by
    simp [join, List.intercalate]
  obtain ⟨hrooted, happ⟩ := cleanParts_append hname hne
  rw [joinPaths, if_neg hne, hjoin, cleanPath, hrooted, happ, pathText_append name hparts]
  exact congrArg (· ++ lit "/" ++ name) hdir

/-- A path that ends in a name is clean once joined. -/
theorem joinPaths_clean (dir : GoString) {name : GoString} (hname : PathComponent name) :
    cleanPath (joinPaths [dir, name]) = joinPaths [dir, name] ∧
      cleanParts (joinPaths [dir, name]) ≠ [] := by
  have hclean : ∀ path, cleanParts path ≠ [] →
      cleanPath (cleanPath path) = cleanPath path ∧ cleanParts (cleanPath path) ≠ [] := by
    intro path hne
    obtain ⟨hrooted, hparts⟩ := cleanParts_pathText (normal_cleanParts path) hne
    refine ⟨?_, by rwa [cleanPath, hparts]⟩
    rw [cleanPath.eq_def (cleanPath path), cleanPath, hrooted, hparts]
  by_cases hdir : dir = []
  · rw [joinPaths, if_pos hdir, joinPaths, if_neg hname.nonempty]
    refine hclean _ ?_
    have hsplit := @split_slash_join [name] (by simpa using hname.slash) (by simp)
    simp [cleanParts, hsplit, hname.pushPart]
  · have hjoin : join (lit "/") [dir, name] = dir ++ lit "/" ++ name := by
      simp [join, List.intercalate]
    rw [joinPaths, if_neg hdir, hjoin]
    refine hclean _ ?_
    rw [(cleanParts_append hname hdir).2]
    simp

end ResidentialIPManager.Text
