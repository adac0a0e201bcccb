import Ontogen.Proofs.Emission.Conformance
import Ontogen.Proofs.Source.Tokens
import Ontogen.Proofs.Text.Lines

/-!
# Texts of the ontology in comments and literals

Descriptions are put into comments without the mark being escaped that closes a comment, and
URIs into literals as they are. Wrapping and squeezing a description only change its gaps,
and cut words that are longer than a line. So a comment is closed too early only if
its description has the mark in it.

Main result: `tokens_of_texts`. What names are made of never closes a comment.
In `dog_leaves_tokens` texts leave a token of each kind.
-/

namespace Ontogen

open Source (ClosesComment BreaksLiteral Member)

/-! ## Descriptions -/

/-- What a property is described with. An empty comment does not count. -/
def SchemaProperty.description (p : SchemaProperty) : String :=
  match p.comment with
  | some comment => if comment = "" then p.uri else comment
  | none => p.uri

/-- What a class is described with. -/
def SchemaClass.description (c : SchemaClass) : String := c.comment.getD c.uri

/-- Squeezing a description neither makes the mark nor takes it apart. -/
theorem closesComment_doc_iff (p : SchemaProperty) :
    ClosesComment p.doc ↔ ClosesComment p.description := by
  unfold SchemaProperty.doc SchemaProperty.description
  cases p.comment with
  | none => exact Iff.rfl
  | some comment =>
    dsimp only
    split
    next => exact Iff.rfl
    next =>
      unfold ClosesComment
      rw [String.toList_ofList]
      exact Text.infix_congr (by decide) (by decide) (Text.words_squeeze comment.toList)

namespace Emission

section Texts

variable {c : SchemaClass} {classes : ClassMap} {packages : PackageMap}

/-! ## Comments of classes -/

/-- A line of the comment of a class closes it only if the description does. -/
theorem closesComment_description_of_mem {line : String} (hline : line ∈ classComment c)
    (h : ClosesComment (" * " ++ line)) : ClosesComment c.description := by
  have hmark : ClosesComment line :=
    (Source.closesComment_append_iff " *" (by decide)).mp h
  unfold SchemaClass.description
  rw [classComment] at hline
  cases hcomment : c.comment with
  | none =>
    rw [hcomment] at hline
    rwa [List.mem_singleton.mp hline] at hmark
  | some comment =>
    rw [hcomment] at hline
    obtain ⟨chars, hchars, rfl⟩ := List.mem_map.mp hline
    unfold ClosesComment at hmark
    rw [String.toList_ofList] at hmark
    exact Text.infix_of_mem_wrapChars hchars (by decide) (by decide) hmark

/-- The description of a class has the mark where lines do not take it apart: it is no
comment, or the mark is in a word of the comment that fits on a line. -/
def ClosesUncut (c : SchemaClass) : Prop :=
  match c.comment with
  | some comment => ∃ word ∈ Text.words Text.isGap comment.toList,
      word.length ≤ 80 ∧ ['*', '/'] <:+: word
  | none => ClosesComment c.uri

/-- A mark that lines do not take apart closes the comment. -/
theorem ClosesUncut.exists_line (h : ClosesUncut c) :
    ∃ line ∈ classComment c, ClosesComment (" * " ++ line) := by
  have hstar : ¬ ClosesComment " *" := by decide
  unfold ClosesUncut at h
  unfold classComment
  cases hcomment : c.comment with
  | none =>
    rw [hcomment] at h
    refine ⟨c.uri, List.mem_singleton_self _, ?_⟩
    exact (Source.closesComment_append_iff " *" hstar).mpr h
  | some comment =>
    rw [hcomment] at h
    obtain ⟨word, hword, hfits, hmark⟩ := h
    have hblank : ¬ word.all Text.isBlank = true := by
      intro hall
      have hslash := hmark.subset (List.mem_cons_self ..)
      exact absurd (List.all_eq_true.mp hall '*' hslash) (by decide)
    obtain ⟨line, hline, hin⟩ := Text.exists_line_of_mem_words hword hblank hfits
    refine ⟨String.ofList line, List.mem_map_of_mem hline, ?_⟩
    refine (Source.closesComment_append_iff " *" hstar).mpr ?_
    unfold ClosesComment
    rw [String.toList_ofList]
    exact hmark.trans hin

/-! ## Members -/

/-- A property is one of the class or of a distinct superclass. -/
def IsTakenIn (c : SchemaClass) (classes : ClassMap) (p : SchemaProperty) : Prop :=
  p ∈ c.properties
    ∨ ∃ s ∈ distinctSuperclasses c, ∃ d, classes.find? s = some d ∧ p ∈ d.properties

theorem Resolution.isTakenIn {r : Resolution c classes packages} {p : SchemaProperty}
    (hp : p ∈ r.properties) : IsTakenIn c classes p := by
  rcases List.mem_append.mp hp with hp | hp
  · exact .inl hp
  · obtain ⟨d, hd, hp⟩ := List.mem_flatMap.mp hp
    have hfound : some d ∈ (distinctSuperclasses c).map classes.find? := by
      rw [r.find?_definitions]
      exact List.mem_map_of_mem hd
    obtain ⟨s, hs, hfind⟩ := List.mem_map.mp hfound
    exact .inr ⟨s, hs, d, hfind, hp⟩

/-- A member of an implementation is the field of a property that is taken in, the field of
an instance, or accessors, which forward to an instance or have no need of one. -/
theorem Resolution.member_cases (r : Resolution c classes packages) (options : EmissionOptions)
    {m : Member} (hm : m ∈ (r.implementation options).members) :
    (∃ p, IsTakenIn c classes p ∧ m = .property (fieldOf options.annotate p))
      ∨ (∃ h ∈ r.holders, m = .holder h.holderField)
      ∨ ∃ body p, m = .accessors (accessorsOf body p)
        ∧ (body = .own ∨ ∃ h ∈ r.holders, body = .forward h.field) := by
  rcases List.mem_append.mp hm with hm | hm
  · cases hlayout : options.layout with
    | flatten =>
      rw [hlayout] at hm
      obtain ⟨p, hp, rfl⟩ := List.mem_map.mp hm
      exact .inl ⟨p, r.isTakenIn hp, rfl⟩
    | delegate =>
      rw [hlayout] at hm
      rcases List.mem_append.mp hm with hm | hm
      · obtain ⟨p, hp, rfl⟩ := List.mem_map.mp hm
        exact .inl ⟨p, .inl hp, rfl⟩
      · obtain ⟨h, hh, rfl⟩ := List.mem_map.mp hm
        exact .inr (.inl ⟨h, hh, rfl⟩)
  · obtain ⟨a, ha, rfl⟩ := List.mem_map.mp hm
    cases hlayout : options.layout with
    | flatten =>
      rw [hlayout] at ha
      obtain ⟨p, -, rfl⟩ := List.mem_map.mp ha
      exact .inr (.inr ⟨.own, p, rfl, .inl rfl⟩)
    | delegate =>
      rw [hlayout] at ha
      rcases List.mem_append.mp ha with ha | ha
      · obtain ⟨p, -, rfl⟩ := List.mem_map.mp ha
        exact .inr (.inr ⟨.own, p, rfl, .inl rfl⟩)
      · obtain ⟨h, hh, ha⟩ := List.mem_flatMap.mp ha
        obtain ⟨p, -, rfl⟩ := List.mem_map.mp ha
        exact .inr (.inr ⟨_, p, rfl, .inr ⟨h, hh, rfl⟩⟩)

/-- What a member of a type says of the texts of the ontology: the field of a property has
one doc comment, which closes exactly when the description does, and the URI as its literal. No
other member has a doc comment that closes, or a literal. -/
inductive MemberTokens (options : EmissionOptions) (c : SchemaClass) (classes : ClassMap)
    (m : Member) : Prop where
  | field (p : SchemaProperty) (hp : IsTakenIn c classes p)
      (hm : m = .property (fieldOf options.annotate p))
      (hdoc : ∃ body, (∀ b, m.HasDoc indent b ↔ b = body)
        ∧ (ClosesComment body ↔ ClosesComment p.description))
      (hliteral : ∀ literal, m.HasLiteral indent literal
        ↔ options.annotate = true ∧ literal = p.uri)
  | other (hm : ∀ f, m ≠ .property f) (hdoc : ∀ body, m.HasDoc indent body → ¬ ClosesComment body)
      (hliteral : ∀ literal, ¬ m.HasLiteral indent literal)

theorem memberTokens_field {options : EmissionOptions} {p : SchemaProperty}
    (hp : IsTakenIn c classes p) :
    MemberTokens options c classes (.property (fieldOf options.annotate p)) := by
  refine .field p hp rfl ⟨"* " ++ p.doc ++ " ", fun b => ?_, ?_⟩ fun literal => ?_
  · exact Source.hasDoc_property_iff
  · exact Source.closesComment_doc_iff.trans (closesComment_doc_iff p)
  · rw [Source.hasLiteral_property_iff, fieldOf]
    cases options.annotate with
    | false => simp
    | true => simp [eq_comm]

theorem memberTokens_holder {options : EmissionOptions} (h : Holder) :
    MemberTokens options c classes (.holder h.holderField) := by
  refine .other (fun f hf => by cases hf) (fun body hbody hcloses => ?_) fun literal => ?_
  · rw [Source.hasDoc_holder_iff.mp hbody, Source.closesComment_doc_iff] at hcloses
    have hslash := hcloses.slash_mem
    rw [String.toList_append, List.mem_append] at hslash
    rcases hslash with hslash | hslash
    · exact Source.not_mem_identifier (by decide) _ hslash
    · exact absurd hslash (by decide)
  · exact Source.not_hasLiteral_holder

theorem memberTokens_accessors {options : EmissionOptions} (body : Source.AccessorBody)
    (p : SchemaProperty) : MemberTokens options c classes (.accessors (accessorsOf body p)) := by
  have hname : ∀ front : String, '/' ∉ front.toList →
      ¬ ClosesComment ("* " ++ (front ++ p.name) ++ " ") := by
    intro front hfront hcloses
    have hslash := (Source.closesComment_doc_iff.mp hcloses).slash_mem
    rw [String.toList_append, List.mem_append] at hslash
    rcases hslash with hslash | hslash
    · exact hfront hslash
    · exact Source.not_mem_identifier (by decide) _ hslash
  refine .other (fun f hf => by cases hf) (fun body hbody => ?_) fun literal => ?_
  · rcases Source.hasDoc_accessors_iff.mp hbody with hbody | hbody
    · rw [hbody]
      exact hname "Returns the " (by decide)
    · rw [hbody]
      exact hname "Sets the " (by decide)
  · exact Source.not_hasLiteral_accessors

theorem Resolution.memberTokens (r : Resolution c classes packages) (options : EmissionOptions)
    {m : Member} (hm : m ∈ (r.implementation options).members) :
    MemberTokens options c classes m := by
  rcases r.member_cases options hm with ⟨p, hp, rfl⟩ | ⟨h, -, rfl⟩ | ⟨body, p, rfl, -⟩
  · exact memberTokens_field hp
  · exact memberTokens_holder h
  · exact memberTokens_accessors body p

/-! ## Types -/

/-- A line of the comment of a type closes it only if the description of the class has the
mark, and one does if the mark is a part of the description that lines do not take apart. The doc
comment of a field closes exactly when the description of the property has the mark, and
the literal of a field is the URI of the property as it is. No doc comment of another member
closes, and no other member has a literal. -/
theorem tokens_of_texts {options : EmissionOptions} {t : TypeSource}
    (h : interfaceOf c packages = .ok t
      ∨ implementationOf options c classes packages = .ok (some t)) :
    (∀ line ∈ t.unit.comment, ClosesComment (" * " ++ line) → ClosesComment c.description)
      ∧ (ClosesUncut c → ∃ line ∈ t.unit.comment, ClosesComment (" * " ++ line))
      ∧ ∀ m ∈ t.members, MemberTokens options c classes m := by
  have hcomment : t.unit.comment = classComment c := by
    rcases h with h | h
    · obtain ⟨package, -, rfl⟩ := interfaceOf_eq_ok_iff.mp h
      rfl
    · obtain ⟨-, r, rfl⟩ := implementationOf_eq_ok_some_iff.mp h
      rfl
  rw [hcomment]
  refine ⟨fun line hline => closesComment_description_of_mem hline, ?_, ?_⟩
  · exact ClosesUncut.exists_line
  · intro m hm
    rcases h with h | h
    · obtain ⟨package, -, rfl⟩ := interfaceOf_eq_ok_iff.mp h
      obtain ⟨a, ha, rfl⟩ := List.mem_map.mp hm
      obtain ⟨p, -, rfl⟩ := List.mem_map.mp ha
      exact memberTokens_accessors .declared p
    · obtain ⟨-, r, rfl⟩ := implementationOf_eq_ok_some_iff.mp h
      exact r.memberTokens options hm

end Texts

/-! ## Marks in texts

The descriptions of a class and its property have the mark that closes a comment in them,
and the URI of the property has a quote. -/

namespace Marked

def name : SchemaProperty where
  uri := "http://zoo/na\"me"
  comment := some "What it is */ called"

def dog : SchemaClass where
  uri := "http://zoo/Dog"
  comment := some "Any */ dog"
  properties := [name]

def classes : ClassMap := ⟨[(dog.uri, dog)], by decide⟩

def packages : PackageMap := ⟨[(dog.uri, "zoo")], by decide⟩

/-- What an implementation of the dogs is made of. -/
def resolution : Resolution dog classes packages where
  package := "zoo"
  superclassPackages := []
  definitions := []
  find?_package := by decide
  find?_superclassPackages := by decide
  find?_definitions := by decide

def options : EmissionOptions where
  annotate := true

theorem implementationOf_dog :
    implementationOf options dog classes packages
      = .ok (some (resolution.implementation options)) :=
  resolution.implementationOf_eq_ok options (by decide)

theorem name_mem : .property (fieldOf true name) ∈ (resolution.implementation options).members :=
  List.mem_cons_self ..

end Marked

theorem dog_tokens_of_texts :
    implementationOf Marked.options Marked.dog Marked.classes Marked.packages
        = .ok (some (Marked.resolution.implementation Marked.options))
      ∧ (∃ line ∈ (Marked.resolution.implementation Marked.options).unit.comment,
        ClosesComment (" * " ++ line))
      ∧ MemberTokens Marked.options Marked.dog Marked.classes
        (.property (fieldOf true Marked.name)) := by
  obtain ⟨-, hcomment, hmembers⟩ := tokens_of_texts (.inr Marked.implementationOf_dog)
  refine ⟨Marked.implementationOf_dog, hcomment ?_, hmembers _ Marked.name_mem⟩
  exact ⟨['*', '/'], by decide +kernel, by decide, by decide⟩

/-- Texts leave a comment of a type, the doc comment of a field and a literal. -/
theorem dog_leaves_tokens :
    ∃ t, implementationOf Marked.options Marked.dog Marked.classes Marked.packages = .ok (some t)
      ∧ (∃ line ∈ t.unit.comment, ClosesComment (" * " ++ line))
      ∧ ∃ m ∈ t.members, (∃ body, m.HasDoc indent body ∧ ClosesComment body)
        ∧ ∃ literal, m.HasLiteral indent literal ∧ BreaksLiteral literal := by
  refine ⟨_, Marked.implementationOf_dog, ?_, _, Marked.name_mem, ?_, ?_⟩
  · exact ⟨"Any */ dog", by decide +kernel, by decide +kernel⟩
  · exact ⟨"* What it is */ called ", by decide +kernel, by decide +kernel⟩
  · refine ⟨Marked.name.uri, by decide +kernel, .inr (.inr ?_)⟩
    exact ⟨"http://zoo/na".toList, "me".toList, by decide +kernel, by decide⟩

end Emission

end Ontogen
