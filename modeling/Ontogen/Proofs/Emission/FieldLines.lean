import Ontogen.Emission.Layout
import Ontogen.Proofs.Source.Spacing
import Ontogen.Proofs.Text.Squeeze

/-!
# Lines of fields

The field of a property is written as a doc comment, maybe a mark, and a declaration, each on a
line of its own. The line feed ends a line, and for some readers so do the carriage return, the
form feed, U+0085, U+2028 and others. All of these are blanks other than the space, and a text
that has no such blanks is a single line in every sense (`IsOneLine`). Squeezed comments, names
and types are such texts, so only the URI and the indent, which are written as they are, can
have more lines in them.

Main result: `field_lines`.
-/

namespace Ontogen

open Text (NoGap isBlank)

namespace Source

/-! ## Ends of lines -/

/-- Characters that end lines, in one sense or another: the line feed is one, and all of them
are blanks other than the space. -/
structure EndsLines (ends : Char → Bool) : Prop where
  feed : ends '\n' = true
  blank : ∀ c, ends c = true → isBlank c = true
  not_space : ends ' ' = false

theorem endsLines_feed : EndsLines (· == '\n') where
  feed := rfl
  blank := fun c hc => by
    rw [beq_iff_eq.mp hc]
    decide
  not_space := rfl

/-- A text that is a single line in every sense: its only blanks are spaces. -/
def IsOneLine (s : String) : Prop := ∀ c ∈ s.toList, isBlank c = true → c = ' '

variable {s : String} {ends : Char → Bool}

instance (s : String) : Decidable (IsOneLine s) :=
  List.decidableBAll (fun c => isBlank c = true → c = ' ') s.toList

theorem IsOneLine.noGap (h : IsOneLine s) (hends : EndsLines ends) : NoGap ends s.toList := by
  intro c hc
  rw [Bool.eq_false_iff]
  intro hend
  rw [h c hc (hends.blank c hend), hends.not_space] at hend
  cases hend

theorem IsOneLine.isLine (h : IsOneLine s) : IsLine s := by
  intro hmem
  exact absurd (h '\n' hmem (by decide)) (by decide)

theorem isBlank_of_isIdentifierChar {c : Char} (h : isIdentifierChar c = true) :
    isBlank c = false :=
  forall_of_ascii (P := fun c => isIdentifierChar c = true → isBlank c = false)
    (by decide +kernel) (toNat_of_isIdentifierChar h) h

theorem IsNamePart.isOneLine (h : IsNamePart s) : IsOneLine s := by
  intro c hc hblank
  rw [isBlank_of_isIdentifierChar (h c hc)] at hblank
  cases hblank

end Source

open Source (EndsLines IsOneLine)

/-! ## Texts of properties -/

theorem isOneLine_datatypeOf (range : Rdf.Term) : IsOneLine (datatypeOf range) := by
  have htable : ∀ d ∈ datatypes, IsOneLine d.2 := by decide +kernel
  unfold datatypeOf
  cases hfind : datatypes.find? fun d => range = .uri (Rdf.Vocabulary.xsd ++ d.1) with
  | none => decide
  | some d => exact htable d (List.mem_of_find?_eq_some hfind)

namespace SchemaProperty

theorem isOneLine_javaType (p : SchemaProperty) : IsOneLine p.javaType := by
  unfold javaType
  split
  next => decide
  next =>
    split
    next => decide
    next => exact (Source.isNamePart_identifier _).isOneLine
  next => decide
  next => exact isOneLine_datatypeOf _

theorem doc_of_comment {p : SchemaProperty} {comment : String} (h : p.comment = some comment)
    (hne : comment ≠ "") : p.doc = String.ofList (Text.squeeze comment.toList) := by
  rw [doc, h]
  exact if_neg hne

/-- A comment is squeezed into a line. Only the URI in its place may have more. -/
theorem noGap_doc {p : SchemaProperty} {ends : Char → Bool} (hends : EndsLines ends)
    (huri : NoGap ends p.uri.toList) : NoGap ends p.doc.toList := by
  unfold doc
  split
  next comment _ =>
    split
    next => exact huri
    next =>
      have hline : IsOneLine (String.ofList (Text.squeeze comment.toList)) := by
        intro c hc
        rw [String.toList_ofList] at hc
        exact Text.eq_space_of_mem_squeeze hc
      exact hline.noGap hends
  next => exact huri

end SchemaProperty

namespace Emission

open Source (Member linesAt joinLines)

/-! ## Lines of a field -/

/-- The lines of the field of a property: its doc comment, its URI in a mark if there are
annotations, and its declaration. -/
def fieldLines (indent : String) (annotate : Bool) (p : SchemaProperty) : List String :=
  [indent ++ "/** " ++ p.doc ++ " */"]
    ++ (if annotate then [indent ++ "@Predicate(\"" ++ p.uri ++ "\")"] else [])
    ++ [indent ++ "private " ++ p.javaType ++ " " ++ p.name ++ ";"]

variable {p : SchemaProperty} {indent : String} {annotate : Bool}

theorem text_fieldOf (indent : String) (annotate : Bool) (p : SchemaProperty) :
    Member.text indent (.property (fieldOf annotate p))
      = joinLines (fieldLines indent annotate p) := by
  cases annotate <;> rfl

theorem length_fieldLines (indent : String) (annotate : Bool) (p : SchemaProperty) :
    (fieldLines indent annotate p).length = if annotate then 3 else 2 := by
  cases annotate <;> rfl

theorem noGap_of_mem_fieldLines {ends : Char → Bool} (hends : EndsLines ends)
    (huri : NoGap ends p.uri.toList) (hindent : NoGap ends indent.toList) {line : String}
    (h : line ∈ fieldLines indent annotate p) : NoGap ends line.toList := by
  have hword : ∀ word, IsOneLine word → NoGap ends word.toList := fun _ hw => hw.noGap hends
  have hname : IsOneLine p.name := (Source.isNamePart_identifier _).isOneLine
  simp only [fieldLines, List.mem_append, List.mem_singleton] at h
  rcases h with (rfl | h) | rfl
  · simp only [String.toList_append, Text.noGap_append_iff]
    exact ⟨⟨⟨hindent, hword "/** " (by decide)⟩, p.noGap_doc hends huri⟩,
      hword " */" (by decide)⟩
  · split at h
    next =>
      rw [List.mem_singleton.mp h]
      simp only [String.toList_append, Text.noGap_append_iff]
      exact ⟨⟨⟨hindent, hword "@Predicate(\"" (by decide)⟩, huri⟩, hword "\")" (by decide)⟩
    next => cases h
  · simp only [String.toList_append, Text.noGap_append_iff]
    exact ⟨⟨⟨⟨⟨hindent, hword "private " (by decide)⟩, hword _ p.isOneLine_javaType⟩,
      hword " " (by decide)⟩, hword _ hname⟩, hword ";" (by decide)⟩

/-- A field is written with a doc comment, a mark if there are annotations, and a declaration.
If the property has a comment that is not empty, the doc comment is the words of this comment
with single spaces between them, which squeezing leaves as it is. If neither the URI nor the
indent has an end of a line in it, these are the lines of the field, two or, with the
mark, three, in whatever sense lines are ended. -/
theorem field_lines (p : SchemaProperty) (indent : String) (annotate : Bool) :
    Member.text indent (.property (fieldOf annotate p))
        = joinLines (fieldLines indent annotate p)
      ∧ (∀ comment, p.comment = some comment → comment ≠ "" →
          p.doc.toList = Text.spread (Text.words isBlank comment.toList)
            ∧ Text.squeeze p.doc.toList = p.doc.toList)
      ∧ ∀ ends, EndsLines ends → NoGap ends p.uri.toList → NoGap ends indent.toList →
          linesAt ends (Member.text indent (.property (fieldOf annotate p)))
              = fieldLines indent annotate p
            ∧ (fieldLines indent annotate p).length = if annotate then 3 else 2 := by
  refine ⟨text_fieldOf indent annotate p, ?_, ?_⟩
  · intro comment hcomment hne
    rw [p.doc_of_comment hcomment hne, String.toList_ofList]
    exact ⟨Text.squeeze_eq_spread _, Text.squeeze_squeeze _⟩
  · intro ends hends huri hindent
    have hne : fieldLines indent annotate p ≠ [] := by
      intro hnil
      have hlength := length_fieldLines indent annotate p
      rw [hnil] at hlength
      cases annotate <;> cases hlength
    rw [text_fieldOf]
    exact ⟨Source.linesAt_joinLines hends.feed hne fun _ hline =>
      noGap_of_mem_fieldLines hends huri hindent hline, length_fieldLines indent annotate p⟩

/-! ## A comment of many lines -/

/-- What ends lines in the widest sense: the line breaks of Unicode and the separators 1C to
1E. -/
def wideEnds (c : Char) : Bool :=
  Text.inRanges [(0x0A, 0x0D), (0x1C, 0x1E), (0x85, 0x85), (0x2028, 0x2029)] c.toNat

theorem endsLines_wideEnds : EndsLines wideEnds where
  feed := by decide
  blank := fun c hc => by
    simp only [wideEnds, isBlank, Text.blankRanges, Text.inRanges_cons, Text.inRanges_nil,
      Bool.or_eq_true, decide_eq_true_eq, Bool.or_false] at hc ⊢
    omega
  not_space := by decide

/-- A property whose comment is written over several lines. -/
def age : SchemaProperty where
  uri := "http://zoo/age"
  comment := some "\n Years,\u0085\u2028 or\x1f\u3000less\x0b"

theorem age_field_lines :
    EndsLines wideEnds ∧ NoGap wideEnds age.uri.toList ∧ NoGap wideEnds "\t".toList
      ∧ age.comment = some "\n Years,\u0085\u2028 or\x1f\u3000less\x0b"
      ∧ age.doc.toList = Text.spread ["Years,".toList, "or".toList, "less".toList]
      ∧ linesAt wideEnds (Member.text "\t" (.property (fieldOf true age)))
          = ["\t/** Years, or less */", "\t@Predicate(\"http://zoo/age\")",
            "\tprivate String age;"] := by
  have huri : NoGap wideEnds age.uri.toList := by decide +kernel
  have hindent : NoGap wideEnds "\t".toList := by decide
  obtain ⟨-, hdoc, hlines⟩ := field_lines age "\t" true
  refine ⟨endsLines_wideEnds, huri, hindent, rfl, ?_, ?_⟩
  · rw [(hdoc _ rfl (by decide)).1]
    decide +kernel
  · rw [(hlines wideEnds endsLines_wideEnds huri hindent).1]
    decide +kernel

end Emission

end Ontogen
