import Ontogen.Proofs.Text.Words
import Ontogen.Source.Identifier
import Ontogen.Source.Member

/-!
# Comments and literals

A comment ends at the first mark that closes it, and a literal at the first quote that is not
escaped. So a text that is put between the marks as it is stays there as long as it has none of
these in it. Members have doc comments and literals as lines of their own, and what stands in
these is told by the member alone.

* `hasDoc_property_iff`, `hasDoc_holder_iff`, `hasDoc_accessors_iff`: the doc comments of members.
* `hasLiteral_property_iff`: the literal that a field is marked with.
-/

namespace Ontogen.Source

/-! ## What ends a token -/

/-- The mark that closes a comment is in a text. -/
def ClosesComment (s : String) : Prop := ['*', '/'] <:+: s.toList

instance (s : String) : Decidable (ClosesComment s) :=
  inferInstanceAs (Decidable (['*', '/'] <:+: s.toList))

/-- In a text there is a line break, or a quote that is not escaped: an even number of
backslashes is right before it. -/
def BreaksLiteral (s : String) : Prop :=
  '\n' ∈ s.toList ∨ '\r' ∈ s.toList
    ∨ ∃ front back, s.toList = front ++ '"' :: back
      ∧ (front.reverse.takeWhile (· == '\\')).length % 2 = 0

theorem ClosesComment.slash_mem {s : String} (h : ClosesComment s) : '/' ∈ s.toList :=
  h.subset (List.mem_cons_of_mem _ (List.mem_cons_self ..))

/-- What is before a space makes no mark with what follows it. -/
theorem closesComment_append_iff (front : String) {s : String}
    (hfront : ¬ ClosesComment front) :
    ClosesComment (front ++ " " ++ s) ↔ ClosesComment s := by
  have hmark : Text.NoGap (· == ' ') ['*', '/'] := by decide
  unfold ClosesComment at hfront ⊢
  rw [String.append_assoc, String.toList_append, String.toList_append]
  show _ <:+: front.toList ++ ' ' :: s.toList ↔ _
  rw [Text.infix_append_cons_iff hmark rfl]
  exact or_iff_right hfront

theorem closesComment_append_space_iff {s : String} :
    ClosesComment (s ++ " ") ↔ ClosesComment s := by
  have hmark : Text.NoGap (· == ' ') ['*', '/'] := by decide
  unfold ClosesComment
  rw [String.toList_append]
  show _ <:+: s.toList ++ ' ' :: [] ↔ _
  rw [Text.infix_append_cons_iff hmark rfl]
  exact or_iff_left (by decide)

/-- A text closes the doc comment that it is put into exactly when it has the mark in it. -/
theorem closesComment_doc_iff {s : String} :
    ClosesComment ("* " ++ s ++ " ") ↔ ClosesComment s := by
  rw [closesComment_append_space_iff]
  exact closesComment_append_iff "*" (by decide)

/-! ## Lines of members -/

/-- A member has a doc comment with a text between its first star and its end. -/
def Member.HasDoc (indent : String) (m : Member) (body : String) : Prop :=
  indent ++ "/*" ++ body ++ "*/" ∈ m.lines indent

/-- A member is marked with a literal. -/
def Member.HasLiteral (indent : String) (m : Member) (literal : String) : Prop :=
  indent ++ "@Predicate(\"" ++ literal ++ "\")" ∈ m.lines indent

instance (indent : String) (m : Member) (body : String) : Decidable (m.HasDoc indent body) :=
  inferInstanceAs (Decidable (_ ∈ m.lines indent))

instance (indent : String) (m : Member) (literal : String) :
    Decidable (m.HasLiteral indent literal) :=
  inferInstanceAs (Decidable (_ ∈ m.lines indent))

theorem head?_append {s t : String} {c : Char} (h : s.toList.head? = some c) :
    (s ++ t).toList.head? = some c := by
  rw [String.toList_append, List.head?_append, h]
  rfl

/-- A line of code: what follows the part that it is indented by begins neither a comment
nor a mark. -/
def IsCode (indent line : String) : Prop :=
  ∃ c rest, line = indent ++ rest ∧ rest.toList.head? = some c ∧ c ≠ '/' ∧ c ≠ '@'

section Lines

variable {indent line : String}

/-- Lines that begin differently after what they are indented by are not the same. -/
theorem indented_ne {s t : String} {c d : Char} (hs : s.toList.head? = some c)
    (ht : t.toList.head? = some d) (hne : c ≠ d) : indent ++ s ≠ indent ++ t := by
  intro h
  rw [String.append_right_inj] at h
  rw [h, ht] at hs
  exact hne (Option.some.inj hs).symm

theorem IsCode.ne_doc (h : IsCode indent line) (body : String) :
    indent ++ "/*" ++ body ++ "*/" ≠ line := by
  obtain ⟨c, rest, hline, hrest, hne, -⟩ := h
  simp only [hline, String.append_assoc]
  exact indented_ne (head?_append rfl) hrest hne.symm

theorem IsCode.ne_literal (h : IsCode indent line) (literal : String) :
    indent ++ "@Predicate(\"" ++ literal ++ "\")" ≠ line := by
  obtain ⟨c, rest, hline, hrest, -, hne⟩ := h
  simp only [hline, String.append_assoc]
  exact indented_ne (head?_append rfl) hrest hne.symm

/-- The declaration of a field is a line of code. -/
theorem isCode_field (indent type name : String) :
    IsCode indent (indent ++ "private " ++ type ++ " " ++ name ++ ";") := by
  refine ⟨'p', "private " ++ (type ++ (" " ++ (name ++ ";"))), ?_, ?_, by decide, by decide⟩
  · simp only [String.append_assoc]
  · exact head?_append rfl

theorem doc_ne_literal (indent body literal : String) :
    indent ++ "/*" ++ body ++ "*/" ≠ indent ++ "@Predicate(\"" ++ literal ++ "\")" := by
  simp only [String.append_assoc]
  exact indented_ne (head?_append rfl) (head?_append rfl) (by decide)

theorem doc_eq_iff (indent : String) {body doc : String} :
    indent ++ "/*" ++ body ++ "*/" = indent ++ "/** " ++ doc ++ " */"
      ↔ body = "* " ++ doc ++ " " := by
  have hmarks : indent ++ "/** " ++ doc ++ " */"
      = indent ++ "/*" ++ ("* " ++ doc ++ " ") ++ "*/" := by
    simp only [String.append_assoc]
    rfl
  rw [hmarks, String.append_left_inj, String.append_right_inj]

theorem literal_ne_doc (indent literal doc : String) :
    indent ++ "@Predicate(\"" ++ literal ++ "\")" ≠ indent ++ "/** " ++ doc ++ " */" := by
  simp only [String.append_assoc]
  exact indented_ne (head?_append rfl) (head?_append rfl) (by decide)

end Lines

/-! ## Fields -/

section Fields

variable {indent : String} {body literal : String}

/-- The field of a property has one doc comment. -/
theorem hasDoc_property_iff {f : PropertyField} :
    (Member.property f).HasDoc indent body ↔ body = "* " ++ f.doc ++ " " := by
  have hfield := (isCode_field indent f.javaType f.name).ne_doc body
  rw [← doc_eq_iff indent]
  show _ ∈ f.lines indent ↔ _
  unfold PropertyField.lines
  cases f.predicate <;> simp [doc_ne_literal, hfield]

/-- The field of a property has the literal that it is marked with. -/
theorem hasLiteral_property_iff {f : PropertyField} :
    (Member.property f).HasLiteral indent literal ↔ f.predicate = some literal := by
  have hfield := (isCode_field indent f.javaType f.name).ne_literal literal
  show _ ∈ f.lines indent ↔ _
  unfold PropertyField.lines
  cases f.predicate with
  | none => simp [literal_ne_doc, hfield]
  | some uri =>
    simp only [literal_ne_doc, hfield, Option.map_some, Option.toList_some, List.cons_append,
      List.nil_append, List.mem_cons, List.not_mem_nil, false_or, or_false, String.append_left_inj,
      String.append_right_inj, Option.some_inj]
    exact eq_comm

/-- The field of an instance has one doc comment. -/
theorem hasDoc_holder_iff {f : HolderField} :
    (Member.holder f).HasDoc indent body ↔ body = "* " ++ (f.typeName ++ " instance") ++ " " := by
  have hfield := (isCode_field indent f.type.text f.name).ne_doc body
  have hdoc : indent ++ "/** " ++ f.typeName ++ " instance */"
      = indent ++ "/** " ++ (f.typeName ++ " instance") ++ " */" := by
    simp only [String.append_assoc]
    rfl
  rw [← doc_eq_iff indent, ← hdoc]
  show _ ∈ f.lines indent ↔ _
  simp [HolderField.lines, hfield]

theorem not_hasLiteral_holder {f : HolderField} :
    ¬ (Member.holder f).HasLiteral indent literal := by
  have hfield := (isCode_field indent f.type.text f.name).ne_literal literal
  have hdoc : indent ++ "@Predicate(\"" ++ literal ++ "\")"
      ≠ indent ++ "/** " ++ f.typeName ++ " instance */" := by
    have h := literal_ne_doc indent literal (f.typeName ++ " instance")
    simp only [String.append_assoc] at h ⊢
    exact h
  show _ ∉ f.lines indent
  simp [HolderField.lines, hfield, hdoc]

end Fields

/-! ## Accessors -/

section Accessors

variable {body literal : String}

/-- The lines of a method are lines of code. -/
theorem isCode_of_mem_methodLines {head line : String} {statement : Option String}
    (hhead : head.toList.head? = some 'p') (h : line ∈ methodLines "\t" head statement) :
    IsCode "\t" line := by
  cases statement with
  | none =>
    obtain rfl := List.mem_singleton.mp h
    refine ⟨'p', head ++ ";", String.append_assoc, head?_append hhead, by decide, by decide⟩
  | some statement =>
    simp only [methodLines, List.mem_cons, List.not_mem_nil, or_false] at h
    rcases h with rfl | rfl | rfl | rfl
    · exact ⟨'p', head, rfl, hhead, by decide, by decide⟩
    · exact ⟨'\x7b', _, rfl, rfl, by decide, by decide⟩
    · exact ⟨'\t', "\t" ++ statement, String.append_assoc, head?_append rfl, by decide, by decide⟩
    · exact ⟨'\x7d', _, rfl, rfl, by decide, by decide⟩

/-- The doc comments of accessors as lines. -/
theorem accessors_docs (name : String) :
    "\t" ++ "/** Returns the " ++ name ++ " */"
        = "\t" ++ "/** " ++ ("Returns the " ++ name) ++ " */"
      ∧ "\t" ++ "/** Sets the " ++ name ++ " */"
        = "\t" ++ "/** " ++ ("Sets the " ++ name) ++ " */" := by
  simp only [String.append_assoc]
  exact ⟨rfl, rfl⟩

/-- A line of accessors is one of two doc comments, empty, or a line of code. -/
theorem of_mem_accessors_lines {a : Accessors} {line : String} (h : line ∈ a.lines "\t") :
    line = "\t" ++ "/** " ++ ("Returns the " ++ a.name) ++ " */"
      ∨ line = "\t" ++ "/** " ++ ("Sets the " ++ a.name) ++ " */"
      ∨ line = "" ∨ IsCode "\t" line := by
  obtain ⟨hget, hset⟩ := accessors_docs a.name
  have hgetter :
      ("public " ++ a.javaType ++ " get" ++ a.suffix ++ "()").toList.head? = some 'p' := by
    simp only [String.append_assoc]
    exact head?_append rfl
  have hsetter : ("public void set" ++ a.suffix ++ "( final " ++ a.javaType ++ " " ++ a.name
      ++ " )").toList.head? = some 'p' := by
    simp only [String.append_assoc]
    exact head?_append rfl
  rw [← hget, ← hset]
  simp only [Accessors.lines, List.mem_append, List.mem_cons, List.not_mem_nil, or_false] at h
  rcases h with ((h | h) | h) | h | h
  · exact .inl h
  · exact .inr (.inr (.inr (isCode_of_mem_methodLines hgetter h)))
  · exact .inr (.inr (.inl h))
  · exact .inr (.inl h)
  · exact .inr (.inr (.inr (isCode_of_mem_methodLines hsetter h)))

theorem indented_ne_empty (s : String) : "\t" ++ s ≠ "" := by
  intro h
  have hlist := congrArg String.toList h
  rw [String.toList_append] at hlist
  cases hlist

/-- Accessors have a doc comment for the getter and one for the setter. -/
theorem hasDoc_accessors_iff {a : Accessors} :
    (Member.accessors a).HasDoc "\t" body
      ↔ body = "* " ++ ("Returns the " ++ a.name) ++ " "
        ∨ body = "* " ++ ("Sets the " ++ a.name) ++ " " := by
  obtain ⟨hget, hset⟩ := accessors_docs a.name
  rw [← doc_eq_iff "\t", ← doc_eq_iff "\t"]
  constructor
  · intro h
    rcases of_mem_accessors_lines h with h | h | h | h
    · exact .inl h
    · exact .inr h
    · rw [String.append_assoc, String.append_assoc] at h
      exact absurd h (indented_ne_empty _)
    · exact absurd rfl (h.ne_doc body)
  · intro h
    show _ ∈ a.lines "\t"
    rw [← hget, ← hset] at h
    unfold Accessors.lines
    rcases h with h | h
    · rw [h]
      exact List.mem_append_left _ (List.mem_append_left _ (List.mem_cons_self ..))
    · rw [h]
      exact List.mem_append_right _ (List.mem_cons_self ..)

theorem not_hasLiteral_accessors {a : Accessors} :
    ¬ (Member.accessors a).HasLiteral "\t" literal := by
  intro h
  rcases of_mem_accessors_lines h with h | h | h | h
  · exact literal_ne_doc _ _ _ h
  · exact literal_ne_doc _ _ _ h
  · rw [String.append_assoc, String.append_assoc] at h
    exact indented_ne_empty _ h
  · exact h.ne_literal literal rfl

end Accessors

end Ontogen.Source
