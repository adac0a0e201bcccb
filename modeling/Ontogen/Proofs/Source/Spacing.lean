import Ontogen.Proofs.Source.Identifier
import Ontogen.Proofs.Source.ReadBack

/-!
# Empty lines in a source file

An empty line sets the parts of a source file apart: the package, the imports, the members, and
the two methods of a pair of accessors. Each part begins and ends with a line that is not empty
(`IsBlock`), so two of them with one empty line between are such a part again (`IsBlock.join`),
and a file that is put together in this way nowhere has two empty lines in a row.

* `Member.isBlock_lines`: the lines of a member, which are those of its text
  (`Member.linesOf_text`).
* `CompilationUnit.isSpaced`: a unit of such members makes a file with single empty lines.
-/

namespace Ontogen.Source

/-! ## Blocks of lines -/

/-- Of two lines in a row at most one is empty. -/
def IsSinglySpaced (ls : List String) : Prop := ls.IsChain fun k l => k ≠ "" ∨ l ≠ ""

/-- Lines without two empty ones in a row that begin and end with a line that is not empty. -/
structure IsBlock (ls : List String) : Prop where
  first : ∃ l, ls.head? = some l ∧ l ≠ ""
  last : ∃ l, ls.getLast? = some l ∧ l ≠ ""
  single : IsSinglySpaced ls

instance (ls : List String) : Decidable (IsSinglySpaced ls) :=
  inferInstanceAs (Decidable (ls.IsChain fun k l => k ≠ "" ∨ l ≠ ""))

section Blocks

variable {ls ls' : List String}

theorem isBlock_of_forall_ne (hne : ls ≠ []) (h : ∀ l ∈ ls, l ≠ "") : IsBlock ls where
  first := ⟨ls.head hne, List.head?_eq_some_head hne, h _ (List.head_mem hne)⟩
  last := ⟨ls.getLast hne, List.getLast?_eq_some_getLast hne, h _ (List.getLast_mem hne)⟩
  single := by
    exact (List.pairwise_of_forall_mem_list fun k hk _ _ => Or.inl (h k hk)).isChain

theorem isBlock_singleton {l : String} (h : l ≠ "") : IsBlock [l] :=
  isBlock_of_forall_ne (List.cons_ne_nil _ _) fun k hk => by rwa [List.mem_singleton.mp hk]

theorem IsBlock.append (h : IsBlock ls) (h' : IsBlock ls') : IsBlock (ls ++ ls') := by
  obtain ⟨first, hfirst, hne⟩ := h.first
  obtain ⟨last, hlast, hne'⟩ := h'.last
  refine ⟨⟨first, ?_, hne⟩, ⟨last, ?_, hne'⟩, ?_⟩
  · rw [List.head?_append, hfirst]
    rfl
  · rw [List.getLast?_append, hlast]
    rfl
  · refine List.IsChain.append h.single h'.single fun k _ l hl => ?_
    obtain ⟨l', hl', hne⟩ := h'.first
    rw [hl'] at hl
    exact Or.inr (Option.some.inj hl ▸ hne)

/-- One empty line between two blocks makes a block of them. -/
theorem IsBlock.join (h : IsBlock ls) (h' : IsBlock ls') : IsBlock (ls ++ "" :: ls') := by
  obtain ⟨first, hfirst, hne⟩ := h.first
  obtain ⟨last, hlast, hne'⟩ := h'.last
  refine ⟨⟨first, ?_, hne⟩, ⟨last, ?_, hne'⟩, ?_⟩
  · rw [List.head?_append, hfirst]
    rfl
  · rw [List.getLast?_append, List.getLast?_cons, hlast]
    rfl
  · refine List.IsChain.append h.single (List.isChain_cons.mpr ⟨?_, h'.single⟩) ?_
    · intro l hl
      obtain ⟨l', hl', hne⟩ := h'.first
      rw [hl'] at hl
      exact Or.inr (Option.some.inj hl ▸ hne)
    · intro k hk l _
      obtain ⟨k', hk', hne⟩ := h.last
      rw [hk'] at hk
      exact Or.inl (Option.some.inj hk ▸ hne)

/-- Blocks with an empty line after each, before one more block. -/
theorem IsBlock.flatMap {α : Type} {f : α → List String} {xs : List α}
    (hxs : ∀ x ∈ xs, IsBlock (f x)) (h : IsBlock ls) :
    IsBlock (xs.flatMap (fun x => f x ++ [""]) ++ ls) := by
  induction xs with
  | nil => exact h
  | cons x xs ih =>
    obtain ⟨hx, hxs⟩ := List.forall_mem_cons.mp hxs
    rw [List.flatMap_cons, List.append_assoc, List.append_assoc]
    exact hx.join (ih hxs)

end Blocks

/-! ## Lines of texts -/

theorem linesOf_append_newline (s t : String) :
    linesOf (s ++ "\n" ++ t) = linesOf s ++ linesOf t := by
  have hchars : (s ++ "\n" ++ t).toList = s.toList ++ '\n' :: t.toList :=
    Text.toList_between rfl s t
  rw [linesOf, hchars, List.splitOn_append_cons_self, List.map_append, linesOf, linesOf]

/-- The lines of a text, for the characters that end them. -/
def linesAt (ends : Char → Bool) (s : String) : List String :=
  (s.toList.splitOnP ends).map String.ofList

/-- Lines with line feeds between them are found again, whatever else may end a line. -/
theorem linesAt_joinLines {ends : Char → Bool} (hfeed : ends '\n' = true) {ls : List String}
    (hne : ls ≠ []) (h : ∀ l ∈ ls, Text.NoGap ends l.toList) :
    linesAt ends (joinLines ls) = ls := by
  induction ls with
  | nil => exact absurd rfl hne
  | cons l ls ih =>
    obtain ⟨hl, hls⟩ := List.forall_mem_cons.mp h
    have hline : l.toList.splitOnP ends = [l.toList] := List.splitOnP_eq_singleton hl
    by_cases hnil : ls = []
    · rw [hnil, joinLines, String.intercalate_singleton, linesAt, hline, List.map_singleton,
        String.ofList_toList]
    · have hchars : (joinLines (l :: ls)).toList = l.toList ++ '\n' :: (joinLines ls).toList := by
        rw [joinLines, String.intercalate_cons_of_ne_nil hnil]
        exact Text.toList_between rfl l (joinLines ls)
      rw [linesAt, hchars, List.splitOnP_append_cons _ _ hfeed, hline, List.singleton_append,
        List.map_cons, String.ofList_toList]
      exact congrArg (l :: ·) (ih hnil hls)

/-- A text is told by its lines. -/
theorem linesOf_joinLines {ls : List String} (hne : ls ≠ []) (h : ∀ l ∈ ls, IsLine l) :
    linesOf (joinLines ls) = ls := by
  show linesAt (· == '\n') (joinLines ls) = ls
  exact linesAt_joinLines rfl hne fun l hl => isLine_iff_noGap.mp (h l hl)

theorem IsNamePart.isLine {s : String} (h : IsNamePart s) : IsLine s := by
  intro hmem
  exact absurd (h '\n' hmem) (by decide)

theorem isLine_intercalate {s : String} (hs : IsLine s) {texts : List String}
    (h : ∀ text ∈ texts, IsLine text) : IsLine (String.intercalate s texts) := by
  induction texts with
  | nil => exact List.not_mem_nil
  | cons text texts ih =>
    obtain ⟨htext, hrest⟩ := List.forall_mem_cons.mp h
    by_cases hnil : texts = []
    · rwa [hnil, String.intercalate_singleton]
    · rw [String.intercalate_cons_of_ne_nil hnil, isLine_append_iff, isLine_append_iff]
      exact ⟨⟨htext, hs⟩, ih hrest⟩

/-! ## Members -/

namespace Member

/-- All texts that a member is made of are lines. -/
def IsLined : Member → Prop
  | .property f =>
    IsLine f.doc ∧ (∀ uri ∈ f.predicate, IsLine uri) ∧ IsLine f.javaType ∧ IsLine f.name
  | .holder f => IsLine f.typeName ∧ IsLine f.type.text ∧ IsLine f.name
  | .accessors a =>
    IsLine a.javaType ∧ IsLine a.name ∧ IsLine a.suffix
      ∧ ∀ holder, a.body = .forward holder → IsLine holder

theorem isLine_of_mem_methodLines {head l : String} {statement : Option String}
    (hhead : IsLine head) (hstatement : ∀ s ∈ statement, IsLine s)
    (h : l ∈ methodLines "\t" head statement) : IsLine l := by
  cases statement with
  | none =>
    rw [List.mem_singleton.mp h]
    simp +decide [isLine_append_iff, hhead]
  | some statement =>
    have hs : IsLine statement := hstatement statement rfl
    simp only [methodLines, List.mem_cons, List.not_mem_nil, or_false] at h
    rcases h with rfl | rfl | rfl | rfl
    all_goals simp +decide [isLine_append_iff, hhead, hs]

theorem isLine_of_mem_accessors {a : Accessors} (ha : (Member.accessors a).IsLined) {l : String}
    (h : l ∈ a.lines "\t") : IsLine l := by
  obtain ⟨htype, hname, hsuffix, hholder⟩ := ha
  have hget : ∀ s ∈ a.getStatement, IsLine s := by
    intro s hs
    unfold Accessors.getStatement at hs
    split at hs
    next => cases hs
    next =>
      obtain rfl := Option.some.inj hs
      simp +decide [isLine_append_iff, hname]
    next holder hbody =>
      obtain rfl := Option.some.inj hs
      simp +decide [isLine_append_iff, hholder holder hbody, hsuffix]
  have hset : ∀ s ∈ a.setStatement, IsLine s := by
    intro s hs
    unfold Accessors.setStatement at hs
    split at hs
    next => cases hs
    next =>
      obtain rfl := Option.some.inj hs
      simp +decide [isLine_append_iff, hname]
    next holder hbody =>
      obtain rfl := Option.some.inj hs
      simp +decide [isLine_append_iff, hholder holder hbody, hsuffix, hname]
  have hgetter : IsLine ("public " ++ a.javaType ++ " get" ++ a.suffix ++ "()") := by
    simp +decide [isLine_append_iff, htype, hsuffix]
  have hsetter : IsLine
      ("public void set" ++ a.suffix ++ "( final " ++ a.javaType ++ " " ++ a.name ++ " )") := by
    simp +decide [isLine_append_iff, hsuffix, htype, hname]
  have hdoc : ∀ front, IsLine front → IsLine ("\t" ++ front ++ a.name ++ " */") := by
    intro front hfront
    simp +decide [isLine_append_iff, hfront, hname]
  simp only [Accessors.lines, List.mem_append, List.mem_cons, List.not_mem_nil, or_false] at h
  rcases h with ((rfl | h) | rfl) | rfl | h
  · exact hdoc "/** Returns the " (by decide)
  · exact isLine_of_mem_methodLines hgetter hget h
  · decide
  · exact hdoc "/** Sets the " (by decide)
  · exact isLine_of_mem_methodLines hsetter hset h

/-- The lines of a member are lines when its texts are. -/
theorem isLine_of_mem_lines {m : Member} (hm : m.IsLined) {l : String} (h : l ∈ m.lines "\t") :
    IsLine l := by
  cases m with
  | property f =>
    obtain ⟨hdoc, hpredicate, htype, hname⟩ := hm
    simp only [lines, PropertyField.lines, List.mem_append, List.mem_singleton,
      Option.mem_toList, Option.map_eq_some_iff] at h
    rcases h with (rfl | ⟨uri, huri, rfl⟩) | rfl
    · simp +decide [isLine_append_iff, hdoc]
    · simp +decide [isLine_append_iff, hpredicate uri huri]
    · simp +decide [isLine_append_iff, htype, hname]
  | holder f =>
    obtain ⟨htypeName, htype, hname⟩ := hm
    simp only [lines, HolderField.lines, List.mem_cons, List.not_mem_nil, or_false] at h
    rcases h with rfl | rfl
    · simp +decide [isLine_append_iff, htypeName]
    · simp +decide [isLine_append_iff, htype, hname]
  | accessors a => exact isLine_of_mem_accessors hm h

theorem isBlock_methodLines (head : String) (statement : Option String) :
    IsBlock (methodLines "\t" head statement) := by
  cases statement with
  | none =>
    refine isBlock_singleton ?_
    rw [String.append_assoc]
    exact indented_ne_empty _
  | some statement =>
    refine isBlock_of_forall_ne (List.cons_ne_nil _ _) fun l hl => ?_
    simp only [methodLines, List.mem_cons, List.not_mem_nil, or_false] at hl
    rcases hl with rfl | rfl | rfl | rfl
    · exact indented_ne_empty _
    · exact indented_ne_empty _
    · rw [String.append_assoc]
      exact indented_ne_empty _
    · exact indented_ne_empty _

/-- Only between the methods of a pair of accessors a member has an empty line. -/
theorem isBlock_lines (m : Member) : IsBlock (m.lines "\t") := by
  cases m with
  | property f =>
    refine isBlock_of_forall_ne (by simp [lines, PropertyField.lines]) fun l hl => ?_
    simp only [lines, PropertyField.lines, List.mem_append, List.mem_singleton,
      Option.mem_toList, Option.map_eq_some_iff] at hl
    rcases hl with (rfl | ⟨uri, -, rfl⟩) | rfl
    all_goals
      simp only [String.append_assoc]
      exact indented_ne_empty _
  | holder f =>
    refine isBlock_of_forall_ne (List.cons_ne_nil _ _) fun l hl => ?_
    simp only [lines, HolderField.lines, List.mem_cons, List.not_mem_nil, or_false] at hl
    rcases hl with rfl | rfl
    all_goals
      simp only [String.append_assoc]
      exact indented_ne_empty _
  | accessors a =>
    have hdoc : ∀ front, IsBlock ["\t" ++ front ++ a.name ++ " */"] := by
      intro front
      refine isBlock_singleton ?_
      simp only [String.append_assoc]
      exact indented_ne_empty _
    have hgetter := (hdoc "/** Returns the ").append
      (isBlock_methodLines ("public " ++ a.javaType ++ " get" ++ a.suffix ++ "()") a.getStatement)
    have hsetter := (hdoc "/** Sets the ").append (isBlock_methodLines
      ("public void set" ++ a.suffix ++ "( final " ++ a.javaType ++ " " ++ a.name ++ " )")
      a.setStatement)
    have hpair := hgetter.join hsetter
    simp only [lines, Accessors.lines, List.append_assoc, List.cons_append, List.nil_append]
      at hpair ⊢
    exact hpair

theorem linesOf_text {m : Member} (h : m.IsLined) : linesOf (m.text "\t") = m.lines "\t" := by
  -- Joining loses only the difference between no line and an empty one.
  obtain ⟨l, hl, -⟩ := (isBlock_lines m).first
  refine linesOf_joinLines (fun hnil => ?_) fun l hl => isLine_of_mem_lines h hl
  rw [hnil] at hl
  cases hl

end Member

/-! ## Source files -/

namespace CompilationUnit

/-- A source file begins with its package and ends with a brace on a line of its own. Nowhere
in it are two empty lines in a row, and after each member, which begins and ends with lines that
are not empty, there is one empty line before the next member or the brace. -/
structure IsSpaced (u : CompilationUnit) : Prop where
  first : (linesOf u.text).head? = some ("package " ++ u.package ++ ";")
  last : ∃ front, u.text = front ++ "\x7d\n"
  single : IsSinglySpaced (linesOf u.text)
  members : linesOf u.text
    = u.head ++ u.members.flatMap (fun m => linesOf m ++ [""]) ++ ["\x7d", ""]
  blocks : ∀ m ∈ u.members, IsBlock (linesOf m)

variable {u : CompilationUnit}

theorem linesOf_body (u : CompilationUnit) : linesOf (u.body ++ "\x7d\n")
    = u.members.flatMap (fun m => linesOf m ++ [""]) ++ ["\x7d", ""] := by
  unfold body
  induction u.members with
  | nil => rfl
  | cons m members ih =>
    -- The empty line after a member is an empty text between two ends of lines.
    have hgap : m ++ "\n\n" = m ++ "\n" ++ "" ++ "\n" := by
      rw [String.append_empty, String.append_assoc]
      rfl
    rw [List.map_cons, String.join_cons, String.append_assoc, hgap, linesOf_append_newline,
      linesOf_append_newline, ih, List.flatMap_cons]
    simp only [List.append_assoc]
    rfl

/-- The lines before the members have single empty lines after the package and the imports. -/
theorem isBlock_head (u : CompilationUnit) (hdeclaration : u.declaration ≠ "") :
    IsBlock u.head := by
  have hpackage : IsBlock ["package " ++ u.package ++ ";"] := by
    refine isBlock_singleton fun hempty => ?_
    rw [String.append_assoc] at hempty
    exact absurd (String.append_eq_empty_iff.mp hempty).1 (by decide)
  have hrest : IsBlock
      ("/**" :: (u.comment.map commentLine ++ " */" :: [u.declaration, "\x7b"])) := by
    refine isBlock_of_forall_ne (List.cons_ne_nil _ _) ?_
    simp only [List.forall_mem_cons, List.forall_mem_append]
    refine ⟨by decide, fun l hl => ?_, by decide, hdeclaration, by decide, fun l hl => by cases hl⟩
    obtain ⟨line, -, rfl⟩ := List.mem_map.mp hl
    intro hempty
    exact absurd (String.append_eq_empty_iff.mp hempty).1 (by decide)
  unfold head preamble importLines
  -- The imports have an empty line of their own, and without any there is none for them.
  cases himports : u.imports with
  | nil => exact hpackage.join hrest
  | cons name names =>
    have hnames : IsBlock ((name :: names).map importLine) := by
      refine isBlock_of_forall_ne (List.cons_ne_nil _ _) fun l hl => ?_
      obtain ⟨name, -, rfl⟩ := List.mem_map.mp hl
      exact importLine_ne_empty name
    have hparts := hpackage.join (hnames.join hrest)
    simp only [List.cons_append, List.nil_append, List.append_assoc, List.isEmpty_cons,
      Bool.false_eq_true, if_false] at hparts ⊢
    exact hparts

/-- Members without empty lines at their ends make a file with single empty lines. -/
theorem isSpaced (hu : u.IsLined) (hdeclaration : u.declaration ≠ "")
    (hmembers : ∀ m ∈ u.members, IsBlock (linesOf m)) : u.IsSpaced := by
  have hlines : linesOf u.text
      = u.head ++ u.members.flatMap (fun m => linesOf m ++ [""]) ++ ["\x7d", ""] := by
    rw [linesOf_text hu, linesOf_body, List.append_assoc]
  have hend : IsBlock ["\x7d"] := isBlock_singleton (by decide)
  have hblock := (isBlock_head u hdeclaration).append (IsBlock.flatMap hmembers hend)
  refine ⟨?_, ⟨ended u.head ++ u.body, ?_⟩, ?_, hlines, hmembers⟩
  · rw [hlines, List.append_assoc, List.head?_append]
    rfl
  · rw [text_eq, String.append_assoc]
  · -- The last line is not empty, so the end of the text after it does no harm.
    have hsplit : linesOf u.text
        = (u.head ++ (u.members.flatMap (fun m => linesOf m ++ [""]) ++ ["\x7d"])) ++ [""] := by
      rw [hlines]
      simp only [List.append_assoc]
      rfl
    rw [hsplit]
    refine List.IsChain.append hblock.single (List.isChain_singleton _) fun k hk l _ => ?_
    obtain ⟨k', hk', hne⟩ := hblock.last
    rw [hk'] at hk
    exact Or.inl (Option.some.inj hk ▸ hne)

end CompilationUnit

end Ontogen.Source
