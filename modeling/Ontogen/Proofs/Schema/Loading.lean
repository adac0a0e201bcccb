import Ontogen.Proofs.Data.OrderedMap
import Ontogen.Proofs.Data.Traversal
import Ontogen.Schema.Class
import Ontogen.Schema.Query
import Mathlib.Data.List.Induction

/-!
# What loading asks and what it gives

Loading notes the comments of all rows first and asks for the details of every
class once. The loader that one would write down first, `loadByRow`, asks for the
details at every row, puts the class together and overwrites the one that it had.
With answers that stay the same both give the same map: what the first has noted at
any row, described in full, is what the second has stored there
(`storeRow_mapValues`).

Main result: `loadClasses_recorded`, which also says which questions are asked and
in which order. In `shelter_loadClasses_recorded` a class that is marked twice loses
its comment and keeps its place.
-/

namespace Ontogen

open Data (OrderedMap)
open Rdf.Vocabulary

/-! ## The loader that overwrites -/

section Naive

variable {m : Type → Type} [Monad m]

/-- Stores the class of a row in full, over what was stored before: with the comment
of the row, if it has any, and all that the source tells of the class. -/
def storeRow (source : SchemaSource m) (classes : ClassMap) (row : ClassRow) : m ClassMap :=
  match row.subject.uri? with
  | some uri => do
    let superclasses ← source.superclasses uri
    let rows ← source.propertyRows uri
    return classes.insert uri {
      uri, superclasses
      comment := row.comment.map Rdf.Term.text
      properties := propertiesOf rows }
  | none => return classes

/-- Asks for the details of a class at every row. -/
def loadByRow (source : SchemaSource m) : m ClassMap :=
  [owlClass, rdfsClass].foldlM (fun classes marker => do
    let rows ← source.classRows marker
    rows.foldlM (storeRow source) classes) ∅

end Naive

/-! ## The same map -/

/-- The class that a row is about, unless its subject is no URI. -/
def ClassRow.uri? (row : ClassRow) : Option Uri := row.subject.uri?

namespace SchemaSource

/-- The rows of all marks. -/
def markedRows (source : SchemaSource Id) : List ClassRow :=
  ([owlClass, rdfsClass].map source.classRows).flatten

/-- The comments that are noted for the classes. -/
def comments (source : SchemaSource Id) : OrderedMap Uri (Option String) :=
  source.markedRows.foldl noteClass ∅

/-- The class with a comment and the details that the source gives. -/
def describe (source : SchemaSource Id) (uri : Uri) (comment : Option String) : SchemaClass where
  uri := uri
  comment := comment
  superclasses := (source.superclasses uri).run
  properties := propertiesOf (source.propertyRows uri).run

/-- Storing a class over described comments is noting its comment before they are
described. -/
theorem storeRow_mapValues (source : SchemaSource Id) (noted : OrderedMap Uri (Option String))
    (row : ClassRow) :
    (storeRow source (noted.mapValues source.describe) row).run
      = (noteClass noted row).mapValues source.describe := by
  rw [storeRow, noteClass]
  cases row.subject.uri? with
  | none => rfl
  | some uri => exact OrderedMap.mapValues_insert source.describe noted uri _

/-- The loader that overwrites gives the described comments. -/
theorem loadByRow_eq (source : SchemaSource Id) :
    (loadByRow source).run = source.comments.mapValues source.describe := by
  have hrows (rows : List ClassRow) (noted : OrderedMap Uri (Option String)) :
      (rows.foldlM (storeRow source) (noted.mapValues source.describe)).run
        = (rows.foldl noteClass noted).mapValues source.describe := by
    rw [List.idRun_foldlM]
    exact List.foldl_hom _ source.storeRow_mapValues
  rw [loadByRow, List.idRun_foldlM, comments, markedRows, List.foldl_flatten, List.foldl_map]
  -- Both start from the empty map, and describing it changes nothing.
  show [owlClass, rdfsClass].foldl _ (OrderedMap.mapValues source.describe ∅) = _
  exact List.foldl_hom _ fun noted marker => hrows (source.classRows marker) noted

/-- The loader that asks once describes the comments that are noted. -/
theorem loadClasses_run (source : SchemaSource Id) :
    (loadClasses source).run = {
      rowCounts := classMarkers.zip
        ((classMarkers.map fun marker => (source.classRows marker).run).map List.length)
      classes := .ofList ((source.comments.entries.map fun e => source.describe e.1 e.2).map
        fun c => (c.uri, c)) } := by
  rw [loadClasses, Id.run_bind, List.idRun_mapM, Id.run_bind, List.idRun_mapM]
  rfl

/-- So it gives the same map. -/
theorem loadClasses_classes (source : SchemaSource Id) :
    (loadClasses source).run.classes = source.comments.mapValues source.describe := by
  have hnodup := (source.comments.mapValues source.describe).nodup_keys
  rw [loadClasses_run]
  show OrderedMap.ofList (List.map _ (List.map _ _)) = _
  rw [List.map_map]
  exact OrderedMap.ext_entries (OrderedMap.entries_ofList hnodup)

/-! ## The questions -/

/-- The classes in the order of their first rows. -/
def subjects (source : SchemaSource Id) : List Uri :=
  (source.markedRows.filterMap ClassRow.uri?).eraseDups

/-- What is asked: for the rows of every mark, and then for the details of every
class. -/
def questions (source : SchemaSource Id) : List Query :=
  [.classRows owlClass, .classRows rdfsClass]
    ++ source.subjects.flatMap fun uri => [.superclasses uri, .propertyRows uri]

/-- Comments are noted for every class, in the order of the first rows. -/
theorem keys_comments (source : SchemaSource Id) : source.comments.keys = source.subjects := by
  rw [comments, subjects]
  induction source.markedRows using List.reverseRecOn with
  | nil => rfl
  | append_singleton rows row ih =>
    rw [List.foldl_append, List.foldl_cons, List.foldl_nil, List.filterMap_append, noteClass]
    cases h : row.subject.uri? with
    | none =>
      rw [List.filterMap_cons_none (f := ClassRow.uri?) h, List.filterMap_nil, List.append_nil]
      exact ih
    | some uri =>
      rw [List.filterMap_cons_some (f := ClassRow.uri?) h, List.filterMap_nil,
        Data.eraseDups_concat, OrderedMap.keys_insert, ih]
      simp only [List.mem_eraseDups]

/-- No question is asked twice. -/
theorem questions_nodup (source : SchemaSource Id) : source.questions.Nodup := by
  have hsubjects : source.subjects.Nodup := Data.nodup_eraseDups _
  rw [questions, List.nodup_append]
  refine ⟨by decide, ?_, ?_⟩
  · rw [List.nodup_flatMap]
    constructor
    · intro uri _
      simp
    · refine hsubjects.imp ?_
      intro uri uri' hne
      simp [hne.symm]
  · intro q hq q' hq' heq
    have hrows : q = .classRows owlClass ∨ q = .classRows rdfsClass := by simpa using hq
    obtain ⟨uri, -, hq'⟩ := List.mem_flatMap.mp hq'
    rw [← heq] at hq'
    rcases hrows with rfl | rfl
    · simp at hq'
    · simp at hq'

end SchemaSource

/-! ## Asking with an effect -/

section Effect

variable {m : Type → Type} [Monad m] {α β : Type}

/-- A value that is there once an effect has happened for each of some questions. -/
def announce (effect : Query → m Unit) (asked : List Query) (a : α) : m α := do
  asked.forM effect
  return a

/-- A source with the same answers that has an effect at every question. -/
def SchemaSource.announced (effect : Query → m Unit) (source : SchemaSource Id) :
    SchemaSource m where
  classRows marker := announce effect [.classRows marker] (source.classRows marker).run
  superclasses uri := announce effect [.superclasses uri] (source.superclasses uri).run
  propertyRows uri := announce effect [.propertyRows uri] (source.propertyRows uri).run

variable [LawfulMonad m] {effect : Query → m Unit}

theorem announce_cons (q : Query) (asked : List Query) (a : α) :
    announce effect (q :: asked) a = effect q >>= fun _ => announce effect asked a := by
  rw [announce]
  show forM (q :: asked) effect >>= _ = _
  rw [List.forM_cons, bind_assoc]
  rfl

/-- What follows an announcement happens after its effects. -/
theorem announce_bind (asked : List Query) (a : α) (f : α → m β) :
    announce effect asked a >>= f = asked.forM effect >>= fun _ => f a := by
  rw [announce, bind_assoc]
  simp only [pure_bind]

theorem announce_bind_pure (asked : List Query) (a : α) (f : α → β) :
    (announce effect asked a >>= fun x => pure (f x)) = announce effect asked (f a) :=
  announce_bind asked a fun x => pure (f x)

theorem announce_append (asked asked' : List Query) (a : α) :
    announce effect (asked ++ asked') a
      = asked.forM effect >>= fun _ => announce effect asked' a := by
  rw [announce]
  show forM (asked ++ asked') effect >>= _ = _
  rw [List.forM_append, bind_assoc]
  rfl

/-- The effects of one announcement happen before those of the next. -/
theorem announce_bind_announce (asked asked' : List Query) (a : α) (f : α → β) :
    (announce effect asked a >>= fun x => announce effect asked' (f x))
      = announce effect (asked ++ asked') (f a) := by
  rw [announce_bind, announce_append]

/-- A list of announcements. -/
theorem mapM_announce {f : α → m β} {asked : α → List Query} {g : α → β} {xs : List α}
    (h : ∀ x, f x = announce effect (asked x) (g x)) :
    xs.mapM f = announce effect (xs.flatMap asked) (xs.map g) := by
  induction xs with
  | nil =>
    rw [List.mapM_nil, List.flatMap_nil, List.map_nil]
    exact (pure_bind PUnit.unit fun _ => (pure [] : m (List β))).symm
  | cons x xs ih =>
    rw [List.mapM_cons, h, ih, List.flatMap_cons, List.map_cons]
    simp only [announce_bind_pure]
    exact announce_bind_announce _ _ _ fun y => y :: xs.map g

theorem SchemaSource.loadClass_announced (source : SchemaSource Id) (uri : Uri)
    (comment : Option String) :
    loadClass (source.announced effect) uri comment
      = announce effect [.superclasses uri, .propertyRows uri] (source.describe uri comment) := by
  rw [loadClass]
  show (announce effect [.superclasses uri] _ >>= fun superclasses =>
    announce effect [.propertyRows uri] _ >>= fun rows => pure _) = _
  simp only [announce_bind_pure]
  rw [announce_bind_announce]
  rfl

/-- Loading from an announced source has the effects of the questions, and gives
what is loaded without effects. -/
theorem SchemaSource.loadClasses_announced (source : SchemaSource Id) :
    loadClasses (source.announced effect)
      = announce effect source.questions (loadClasses source).run := by
  have hrow (marker : Uri) : (source.announced effect).classRows marker
      = announce effect [.classRows marker] (source.classRows marker).run := rfl
  have hdetails (es : List (Uri × Option String)) :
      es.mapM (fun e => loadClass (source.announced effect) e.1 e.2)
        = announce effect (es.flatMap fun e => [.superclasses e.1, .propertyRows e.1])
            (es.map fun e => source.describe e.1 e.2) :=
    mapM_announce fun e => source.loadClass_announced e.1 e.2
  have hquestions : source.questions
      = (classMarkers.flatMap fun marker => [.classRows marker])
        ++ source.comments.entries.flatMap fun e => [.superclasses e.1, .propertyRows e.1] := by
    rw [questions, ← keys_comments, OrderedMap.keys, List.flatMap_map]
    rfl
  rw [loadClasses, mapM_announce hrow, announce_bind, hquestions, announce_append]
  simp only [hdetails, announce_bind_pure]
  rw [loadClasses_run]
  rfl

end Effect

/-! ## Recording -/

/-- Puts a question at the end of what was asked before. -/
def record (q : Query) : StateM (List Query) Unit := modify (· ++ [q])

/-- A source with the same answers that records every question. -/
def SchemaSource.recorded (source : SchemaSource Id) : SchemaSource (StateM (List Query)) :=
  source.announced record

theorem run_announce_record {α : Type} (questions : List Query) (a : α) :
    ∀ asked : List Query,
      ((announce record questions a).run asked).run = (a, asked ++ questions) := by
  induction questions with
  | nil =>
    intro asked
    rw [List.append_nil]
    rfl
  | cons q questions ih =>
    intro asked
    rw [announce_cons]
    show ((announce record questions a).run (asked ++ [q])).run = _
    rw [ih, List.append_assoc, List.singleton_append]

/-- Loading gives the map that the overwriting loader gives. What it asks, after
what was asked before, is for the rows of every mark in order, and then for the
superclasses and the properties of every class in the order of the first rows;
nothing is asked twice. -/
theorem loadClasses_recorded (source : SchemaSource Id) (asked : List Query) :
    ∃ load : ClassLoad,
      ((loadClasses source.recorded).run asked).run = (load, asked ++ source.questions)
      ∧ load.classes = (loadByRow source).run
      ∧ source.questions.Nodup := by
  refine ⟨(loadClasses source).run, ?_, ?_, source.questions_nodup⟩
  · rw [SchemaSource.recorded, source.loadClasses_announced, run_announce_record]
  · rw [source.loadClasses_classes, source.loadByRow_eq]

/-! ## Dogs and cats

Both are marked as classes of OWL and of RDF Schema. The last row of the dogs has no
comment, and that of the cats has the only one they have. -/

namespace Shelter

def dog : Uri := "http://zoo/Dog"

def cat : Uri := "http://zoo/Cat"

def source : SchemaSource Id where
  classRows marker :=
    if marker = owlClass then
      [⟨.uri dog, some (.literal { text := "Barks." })⟩, ⟨.blank ⟨0, "pack"⟩, none⟩,
        ⟨.uri cat, none⟩]
    else [⟨.uri cat, some (.literal { text := "Meows." })⟩, ⟨.uri dog, none⟩]
  superclasses uri := if uri = dog then ["http://zoo/Pet"] else []
  propertyRows uri :=
    if uri = dog then
      [⟨.uri "http://zoo/rival", some (.uri dog), none, some (.uri owlObjectProperty)⟩,
        ⟨.blank ⟨0, "age"⟩, none, none, none⟩,
        ⟨.uri "http://zoo/rival", none, some (.literal { text := "Growls too." }), none⟩]
    else []

/-- The dogs without the comment of their first row. -/
def dogs : SchemaClass where
  uri := dog
  superclasses := ["http://zoo/Pet"]
  properties := [{
    uri := "http://zoo/rival"
    kind := .object
    range := some (.uri dog)
    comment := some "Growls too." }]

def cats : SchemaClass where
  uri := cat
  comment := some "Meows."

end Shelter

/-- The dogs are stored where their first row is, with the comment of their last. -/
theorem shelter_loadClasses_recorded :
    ∃ load : ClassLoad,
      ((loadClasses Shelter.source.recorded).run []).run
          = (load, [.classRows owlClass, .classRows rdfsClass,
              .superclasses Shelter.dog, .propertyRows Shelter.dog,
              .superclasses Shelter.cat, .propertyRows Shelter.cat])
        ∧ load.classes.entries = [(Shelter.dog, Shelter.dogs), (Shelter.cat, Shelter.cats)] := by
  obtain ⟨load, hrun, hclasses, -⟩ := loadClasses_recorded Shelter.source []
  have hquestions : Shelter.source.questions = [.classRows owlClass, .classRows rdfsClass,
      .superclasses Shelter.dog, .propertyRows Shelter.dog,
      .superclasses Shelter.cat, .propertyRows Shelter.cat] := by decide +kernel
  rw [List.nil_append, hquestions] at hrun
  refine ⟨load, hrun, ?_⟩
  rw [hclasses]
  decide +kernel

end Ontogen
