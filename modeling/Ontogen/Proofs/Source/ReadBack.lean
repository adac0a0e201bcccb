import Ontogen.Proofs.Source.Tokens
import Ontogen.Proofs.Text.Cut
import Ontogen.Proofs.Text.Lines
import Ontogen.Source.CompilationUnit

/-!
# Reading a source file back

What comes before the members of a source file is written line by line, and each line tells what
it is: a line of an import is neither the empty line after the imports nor the one that opens
the comment, and a line of the comment is never the one that closes it, because a blank stands in
it where that has a slash. So a run of such lines ends where its first stop is
(`eq_of_map_append_cons`), and the head of a file is read in one way only, whatever the texts in it
look like (`eq_of_head_append`). The members come after the head as they are.

Main result: `text_eq_iff`.
-/

namespace Ontogen.Source

variable {s t : String} {ls : List String}

/-! ## Lines -/

/-- A text that is a single line. -/
def IsLine (s : String) : Prop := '\n' ∉ s.toList

instance (s : String) : Decidable (IsLine s) := inferInstanceAs (Decidable ('\n' ∉ s.toList))

theorem isLine_append_iff : IsLine (s ++ t) ↔ IsLine s ∧ IsLine t := by
  unfold IsLine
  rw [String.toList_append, List.mem_append, not_or]

theorem isLine_iff_noGap : IsLine s ↔ Text.NoGap (· == '\n') s.toList := by
  constructor
  · intro h c hc
    exact beq_eq_false_iff_ne.mpr fun heq => h (heq ▸ hc)
  · intro h hmem
    exact absurd (h '\n' hmem) (by decide)

/-- The lines of a text. -/
def linesOf (s : String) : List String := (s.toList.splitOn '\n').map String.ofList

/-- Lines as a text, with an end after each of them. -/
def ended (ls : List String) : String := String.join (ls.map (· ++ "\n"))

theorem ended_append (ls ls' : List String) : ended (ls ++ ls') = ended ls ++ ended ls' := by
  rw [ended, List.map_append, String.join_append, ended, ended]

theorem linesOf_line_append (hs : IsLine s) (t : String) :
    linesOf (s ++ "\n" ++ t) = s :: linesOf t := by
  have hchars : (s ++ "\n" ++ t).toList = s.toList ++ '\n' :: t.toList :=
    Text.toList_between rfl s t
  have hline : s.toList.splitOn '\n' = [s.toList] :=
    List.splitOnP_eq_singleton (isLine_iff_noGap.mp hs)
  rw [linesOf, hchars, List.splitOn_append_cons_self, hline, List.singleton_append,
    List.map_cons, String.ofList_toList, linesOf]

/-- Lines with an end after each are lines of the text in front of what follows. -/
theorem linesOf_ended_append (h : ∀ l ∈ ls, IsLine l) (t : String) :
    linesOf (ended ls ++ t) = ls ++ linesOf t := by
  induction ls with
  | nil => rw [ended, List.map_nil, String.join_nil, String.empty_append, List.nil_append]
  | cons l ls ih =>
    obtain ⟨hl, hls⟩ := List.forall_mem_cons.mp h
    rw [ended, List.map_cons, String.join_cons, String.append_assoc, linesOf_line_append hl,
      List.cons_append]
    exact congrArg (l :: ·) (ih hls)

/-- The lines of a text tell the text. -/
theorem linesOf_injective : Function.Injective linesOf := by
  intro s t h
  have hsplit : s.toList.splitOn '\n' = t.toList.splitOn '\n' :=
    List.map_injective_iff.mpr (fun _ _ => String.ofList_inj.mp) h
  have hjoin : ∀ u : String, ['\n'].intercalate (u.toList.splitOn '\n') = u.toList :=
    fun _ => List.intercalate_splitOn '\n'
  rw [← String.toList_inj, ← hjoin s, hsplit, hjoin]

/-- The lines that a text is wrapped into are lines. -/
theorem isLine_of_mem_wrapComment {line : String} (h : line ∈ Text.wrapComment s) :
    IsLine line := by
  obtain ⟨chars, hchars, rfl⟩ := List.mem_map.mp h
  unfold IsLine
  rw [String.toList_ofList]
  exact (Text.isWrapping_wrapChars _ s.toList).no_controlGap chars hchars '\n' (by decide)

/-! ## Runs of lines -/

/-- A run of lines of one kind ends at the first line of another kind. -/
theorem eq_of_map_append_cons {f : String → String} {stop : String} (hf : Function.Injective f)
    (hstop : ∀ x, f x ≠ stop) {xs ys r r' : List String}
    (h : xs.map f ++ stop :: r = ys.map f ++ stop :: r') : xs = ys ∧ r = r' := by
  induction xs generalizing ys with
  | nil =>
    cases ys with
    | nil => exact ⟨rfl, (List.cons.inj h).2⟩
    | cons y ys => exact absurd (List.cons.inj h).1.symm (hstop y)
  | cons x xs ih =>
    cases ys with
    | nil => exact absurd (List.cons.inj h).1 (hstop x)
    | cons y ys =>
      obtain ⟨hx, h⟩ := List.cons.inj h
      obtain ⟨rfl, hr⟩ := ih h
      exact ⟨by rw [hf hx], hr⟩

/-- The line of an import. -/
def importLine (name : String) : String := "import " ++ name ++ ";"

theorem importLine_injective : Function.Injective importLine := by
  intro m n h
  exact (String.append_right_inj _).mp ((String.append_left_inj _).mp h)

theorem head?_importLine (name : String) : (importLine name).toList.head? = some 'i' :=
  head?_append (head?_append (by decide))

theorem importLine_ne_empty (name : String) : importLine name ≠ "" := by
  intro h
  have hhead := head?_importLine name
  rw [h] at hhead
  cases hhead

theorem importLine_ne_opening (name : String) : importLine name ≠ "/**" := by
  intro h
  have hhead := head?_importLine name
  rw [h] at hhead
  exact absurd hhead (by decide)

/-- The line of a comment. -/
def commentLine (line : String) : String := " * " ++ line

theorem commentLine_injective : Function.Injective commentLine := by
  intro l m h
  exact (String.append_right_inj _).mp h

/-- A blank stands where the line that closes a comment has a slash. -/
theorem commentLine_ne_closing (line : String) : commentLine line ≠ " */" := by
  intro h
  have hchars := congrArg String.toList h
  rw [commentLine, String.toList_append] at hchars
  obtain ⟨-, htail⟩ := List.cons.inj hchars
  obtain ⟨-, htail⟩ := List.cons.inj htail
  exact absurd (List.cons.inj htail).1 (by decide)

namespace CompilationUnit

variable {u v : CompilationUnit}

/-! ## The head of a source file -/

/-- Before the members every text of the unit is a line. -/
structure IsLined (u : CompilationUnit) : Prop where
  package : IsLine u.package
  imports : ∀ name ∈ u.imports, IsLine name
  comment : ∀ line ∈ u.comment, IsLine line
  declaration : IsLine u.declaration

/-- The lines before the doc comment. -/
def preamble (u : CompilationUnit) : List String :=
  ("package " ++ u.package ++ ";") :: "" :: importLines u.imports

/-- The lines before the members. -/
def head (u : CompilationUnit) : List String :=
  u.preamble ++ "/**" :: (u.comment.map commentLine ++ " */" :: [u.declaration, "\x7b"])

/-- The members, each with an empty line after it. -/
def body (u : CompilationUnit) : String := String.join (u.members.map (· ++ "\n\n"))

theorem ended_members (members : List String) :
    ended (members.flatMap fun m => [m, ""]) = String.join (members.map (· ++ "\n\n")) := by
  induction members with
  | nil => rfl
  | cons m members ih =>
    rw [List.flatMap_cons, ended_append, ih, List.map_cons, String.join_cons]
    congr 1
    show m ++ "\n" ++ ("" ++ "\n" ++ "") = m ++ "\n\n"
    rw [String.append_empty, String.empty_append, String.append_assoc]
    rfl

theorem text_eq (u : CompilationUnit) : u.text = ended u.head ++ (u.body ++ "\x7d\n") := by
  have hlines : u.lines = u.head ++ (u.members.flatMap fun m => [m, ""]) ++ ["\x7d"] := by
    simp only [lines, head, preamble, commentLines, List.append_assoc, List.cons_append,
      List.nil_append]
    rfl
  show ended u.lines = _
  rw [hlines, ended_append, ended_append, ended_members, String.append_assoc]
  rfl

/-- The head of a file is the first of its lines. -/
theorem linesOf_text (hu : u.IsLined) :
    linesOf u.text = u.head ++ linesOf (u.body ++ "\x7d\n") := by
  rw [text_eq]
  refine linesOf_ended_append ?_ _
  have himports : ∀ l ∈ importLines u.imports, IsLine l := by
    unfold importLines
    refine List.forall_mem_append.mpr ⟨?_, ?_⟩
    · intro l hl
      obtain ⟨name, hname, rfl⟩ := List.mem_map.mp hl
      exact isLine_append_iff.mpr
        ⟨isLine_append_iff.mpr ⟨by decide, hu.imports name hname⟩, by decide⟩
    · split
      next => exact fun l hl => by cases hl
      next =>
        intro l hl
        rw [List.mem_singleton.mp hl]
        decide
  have hcomment : ∀ l ∈ u.comment.map commentLine, IsLine l := by
    intro l hl
    obtain ⟨line, hline, rfl⟩ := List.mem_map.mp hl
    exact isLine_append_iff.mpr ⟨by decide, hu.comment line hline⟩
  have hpackage : IsLine ("package " ++ u.package ++ ";") :=
    isLine_append_iff.mpr ⟨isLine_append_iff.mpr ⟨by decide, hu.package⟩, by decide⟩
  simp only [head, preamble, List.forall_mem_append, List.forall_mem_cons]
  refine ⟨⟨hpackage, by decide, himports⟩, by decide, hcomment, by decide, hu.declaration,
    by decide, fun l hl => by cases hl⟩

/-! ## Reading the head -/

/-- The imports end where the comment opens, with or without an empty line before it. -/
theorem eq_of_importLines_append {xs ys r r' : List String}
    (h : importLines xs ++ "/**" :: r = importLines ys ++ "/**" :: r') : xs = ys ∧ r = r' := by
  unfold importLines at h
  cases xs with
  | nil =>
    cases ys with
    | nil => exact ⟨rfl, (List.cons.inj h).2⟩
    | cons y ys => exact absurd (List.cons.inj h).1.symm (importLine_ne_opening y)
  | cons x xs =>
    cases ys with
    | nil => exact absurd (List.cons.inj h).1 (importLine_ne_opening x)
    | cons y ys =>
      rw [List.append_assoc, List.append_assoc] at h
      obtain ⟨hnames, hrest⟩ :=
        eq_of_map_append_cons importLine_injective importLine_ne_empty h
      exact ⟨hnames, (List.cons.inj hrest).2⟩

/-- The head of a file is read in one way only. -/
theorem eq_of_head_append {r r' : List String} (h : u.head ++ r = v.head ++ r') :
    u.package = v.package ∧ u.imports = v.imports ∧ u.comment = v.comment
      ∧ u.declaration = v.declaration ∧ r = r' := by
  simp only [head, preamble, List.append_assoc, List.cons_append] at h
  obtain ⟨hpackage, h⟩ := List.cons.inj h
  obtain ⟨himports, h⟩ := eq_of_importLines_append (List.cons.inj h).2
  obtain ⟨hcomment, h⟩ := eq_of_map_append_cons commentLine_injective commentLine_ne_closing h
  obtain ⟨hdeclaration, h⟩ := List.cons.inj h
  refine ⟨?_, himports, hcomment, hdeclaration, (List.cons.inj h).2⟩
  exact (String.append_right_inj _).mp ((String.append_left_inj _).mp hpackage)

/-! ## The doc comment -/

theorem head?_package (package : String) :
    ("package " ++ package ++ ";").toList.head? = some 'p' :=
  head?_append (head?_append (by decide))

/-- No line before the doc comment begins as one of its lines may. -/
theorem ne_of_mem_preamble {l m : String} (hl : l ∈ u.preamble) (hm : m = "/**" ∨ m = " */") :
    l ≠ m := by
  have hnames : ∀ name, importLine name ≠ m := by
    intro name heq
    have hhead := head?_importLine name
    rw [heq] at hhead
    rcases hm with rfl | rfl <;> exact absurd hhead (by decide)
  rcases List.mem_cons.mp hl with rfl | hl
  · intro heq
    have hhead := head?_package u.package
    rw [heq] at hhead
    rcases hm with rfl | rfl <;> exact absurd hhead (by decide)
  · have hempty : "" ≠ m := by rcases hm with rfl | rfl <;> decide
    rcases List.mem_cons.mp hl with rfl | hl
    · exact hempty
    · unfold importLines at hl
      rcases List.mem_append.mp hl with hl | hl
      · obtain ⟨name, -, rfl⟩ := List.mem_map.mp hl
        exact hnames name
      · split at hl
        next => cases hl
        next =>
          rw [List.mem_singleton.mp hl]
          exact hempty

/-! ## Units and their texts -/

/-- Two units whose texts before the members are lines make the same source file exactly when
they have the same package, imports, comment and declaration and their members, with an empty
line after each, are one text. In the file the lines between the first that opens a comment and
the first that closes one are those of the doc comment, whatever stands in them; and the lines
that a text is wrapped into may always stand there. -/
theorem text_eq_iff (hu : u.IsLined) (hv : v.IsLined) :
    (u.text = v.text
        ↔ u.package = v.package ∧ u.imports = v.imports ∧ u.comment = v.comment
          ∧ u.declaration = v.declaration
          ∧ String.join (u.members.map (· ++ "\n\n")) = String.join (v.members.map (· ++ "\n\n")))
      ∧ (∃ front back,
          linesOf u.text = front ++ "/**" :: (u.comment.map (" * " ++ ·) ++ " */" :: back)
            ∧ "/**" ∉ front ∧ " */" ∉ front ++ "/**" :: u.comment.map (" * " ++ ·))
      ∧ ∀ text, ∀ line ∈ Text.wrapComment text, IsLine line := by
  refine ⟨⟨fun h => ?_, ?_⟩, ?_, fun text line hline => isLine_of_mem_wrapComment hline⟩
  · have hlines := congrArg linesOf h
    rw [linesOf_text hu, linesOf_text hv] at hlines
    obtain ⟨hpackage, himports, hcomment, hdeclaration, hrest⟩ := eq_of_head_append hlines
    have hbody := (String.append_left_inj _).mp (linesOf_injective hrest)
    exact ⟨hpackage, himports, hcomment, hdeclaration, hbody⟩
  · rintro ⟨hpackage, himports, hcomment, hdeclaration, hbody⟩
    rw [text_eq, text_eq, head, head, preamble, preamble, body, body, hpackage, himports,
      hcomment, hdeclaration, hbody]
  · refine ⟨u.preamble, [u.declaration, "\x7b"] ++ linesOf (u.body ++ "\x7d\n"), ?_, ?_, ?_⟩
    · rw [linesOf_text hu, head]
      simp only [List.append_assoc, List.cons_append]
      rfl
    · exact fun hmem => ne_of_mem_preamble hmem (.inl rfl) rfl
    · rw [List.mem_append, List.mem_cons, not_or, not_or]
      refine ⟨fun hmem => ne_of_mem_preamble hmem (.inr rfl) rfl, by decide, fun hmem => ?_⟩
      obtain ⟨line, -, heq⟩ := List.mem_map.mp hmem
      exact commentLine_ne_closing line heq

/-- A unit whose comment has lines that look like the marks of a comment, an import and a
brace. -/
def maskedUnit : CompilationUnit where
  package := "zoo"
  declaration := "public interface Dog"
  comment := ["/**", "*/", "", "import x;", "\x7b"]
  members := ["\tint age();", "\tint size();"]

/-- The same unit with one member in place of the two. -/
def joinedUnit : CompilationUnit :=
  { maskedUnit with members := ["\tint age();\n\n\tint size();"] }

theorem maskedUnit_text_eq_iff :
    maskedUnit.IsLined ∧ joinedUnit.IsLined ∧ maskedUnit ≠ joinedUnit
      ∧ maskedUnit.text = joinedUnit.text
      ∧ ∃ front back, linesOf maskedUnit.text
          = front ++ "/**" :: ([" * /**", " * */", " * ", " * import x;", " * \x7b"] ++ " */" :: back)
        ∧ "/**" ∉ front := by
  have hmasked : maskedUnit.IsLined := ⟨by decide, by decide, by decide, by decide⟩
  have hjoined : joinedUnit.IsLined := ⟨by decide, by decide, by decide, by decide⟩
  obtain ⟨hiff, ⟨front, back, hlines, hopening, -⟩, -⟩ := text_eq_iff hmasked hjoined
  refine ⟨hmasked, hjoined, by decide, hiff.mpr ⟨rfl, rfl, rfl, rfl, by decide⟩, front, back, ?_,
    hopening⟩
  exact hlines

end CompilationUnit

end Ontogen.Source
