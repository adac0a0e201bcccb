import Ontogen.Proofs.Data.OrderedMap
import Ontogen.Session

/-!
# Loading classes

Loading finds a package for each class of the graph and each superclass, in the order in
which these are mentioned. Either all of them get what the mapper tells
(`PackageMapper.packageMap_eq_ok`), or the mapper has none for one of them
(`packageMap_eq_error`), and then the generator keeps its packages but has the new classes
(`Generator.load_eq_error`).
-/

namespace Ontogen

open Data (OrderedMap bind_eq_ok_iff bind_eq_error_iff map_eq_ok_iff run_bind run_get_bind)

/-! ## Maps of packages -/

namespace PackageMapper

variable {m : PackageMapper} {uris : List Uri}

theorem packageMap_concat (m : PackageMapper) (uris : List Uri) (uri : Uri) :
    m.packageMap (uris ++ [uri])
      = m.packageMap uris >>= fun packages => (m.packageFor uri).map (packages.insert uri) := by
  rw [packageMap, List.foldlM_append]
  simp only [List.foldlM_cons, List.foldlM_nil, bind_pure]
  rfl

/-- Every URI is entered where it comes first, with the package that is found for it. -/
theorem packageMap_eq_ok {packages : PackageMap} (h : m.packageMap uris = .ok packages) :
    packages.keys = uris.eraseDups
      ∧ ∀ uri package, packages.find? uri = some package → m.packageFor uri = .ok package := by
  -- From the end of the list, since the package entered last replaces one entered before.
  induction uris using List.reverseRecOn generalizing packages with
  | nil =>
    obtain rfl := Except.ok.inj h
    constructor
    · rw [List.eraseDups_nil]
      rfl
    · intro uri package hfind
      cases hfind
  | append_singleton uris uri ih =>
    rw [packageMap_concat] at h
    obtain ⟨front, hfront, h⟩ := bind_eq_ok_iff.mp h
    obtain ⟨package, hpackage, rfl⟩ := map_eq_ok_iff.mp h
    obtain ⟨hkeys, hfind⟩ := ih hfront
    constructor
    · rw [OrderedMap.keys_insert, hkeys, Data.eraseDups_concat]
      simp only [List.mem_eraseDups]
    · intro uri' package' h'
      rw [OrderedMap.find?_insert] at h'
      split at h'
      next heq =>
        obtain rfl := Option.some.inj h'
        rw [heq, hpackage]
      next => exact hfind uri' package' h'

/-- Without a map there is a URI for which no package is found. -/
theorem packageMap_eq_error {e : NamespaceError} (h : m.packageMap uris = .error e) :
    ∃ uri ∈ uris, m.packageFor uri = .error e := by
  induction uris using List.reverseRecOn with
  | nil => cases h
  | append_singleton uris uri ih =>
    rw [packageMap_concat, bind_eq_error_iff] at h
    rcases h with h | ⟨front, -, h⟩
    · obtain ⟨uri', hmem, he⟩ := ih h
      exact ⟨uri', List.mem_append_left _ hmem, he⟩
    · refine ⟨uri, List.mem_append_right _ (List.mem_cons_self ..), ?_⟩
      cases hpackage : m.packageFor uri with
      | ok package =>
        rw [hpackage] at h
        cases h
      | error e' =>
        rw [hpackage] at h
        obtain rfl := Except.error.inj h
        rfl

end PackageMapper

/-! ## Loading into a generator -/

namespace Generator

variable {g : Generator} {classes : ClassMap}

theorem load_eq_ok (h : (g.load classes).2 = .ok ()) :
    ∃ packages, g.mapper.packageMap (mentioned classes) = .ok packages
      ∧ (g.load classes).1 = { g with classes, packages } := by
  cases hpackages : g.mapper.packageMap (mentioned classes) with
  | ok packages =>
    refine ⟨packages, rfl, ?_⟩
    rw [load, hpackages]
  | error e =>
    rw [load, hpackages] at h
    cases h

theorem load_eq_error {e : NamespaceError} (h : (g.load classes).2 = .error e) :
    g.mapper.packageMap (mentioned classes) = .error e
      ∧ (g.load classes).1 = { g with classes } := by
  cases hpackages : g.mapper.packageMap (mentioned classes) with
  | ok packages =>
    rw [load, hpackages] at h
    cases h
  | error e' =>
    rw [load, hpackages] at h ⊢
    obtain rfl := Except.error.inj h
    exact ⟨rfl, rfl⟩

end Generator

/-! ## Loading in a session -/

namespace Session

/-- Telling events changes nothing but what was told. -/
theorem forM_tell_eq (events : List Event) (s : Session) :
    (events.forM tell) s
      = (.ok (), { s with workspace := { s.workspace with
          told := events.reverse ++ s.workspace.told } }) := by
  induction events generalizing s with
  | nil => rfl
  | cons e events ih =>
    have hrun : ((e :: events).forM tell) s
        = (events.forM tell) { s with workspace := { s.workspace with
            told := e :: s.workspace.told } } := rfl
    rw [hrun, ih, List.reverse_cons, List.append_assoc]
    rfl

/-- What loading makes of a generator, and whether packages are found. -/
def load (s : Session) : Generator × Except NamespaceError Unit :=
  s.generator.load s.graph.loadClasses.classes

/-- The session after classes were taken from the graph. -/
def loaded (s : Session) : Session where
  graph := s.graph
  documents := s.documents
  generator := s.load.1
  workspace := { s.workspace with
    told := s.graph.loadClasses.events.reverse ++ s.workspace.told }

theorem generator_loaded (s : Session) :
    s.loaded.generator = (s.generator.load s.graph.loadClasses.classes).1 := rfl

/-- What loading comes to is told by the generator and the classes of the graph. -/
theorem loadClasses_eq (s : Session) :
    loadClasses s = (s.load.2.mapError .package, s.loaded) := by
  rw [loaded, load, loadClasses, run_get_bind]
  -- What the events and the load are does not matter.
  dsimp only
  generalize s.generator.load s.graph.loadClasses.classes = load
  generalize s.graph.loadClasses.events = events
  rw [run_bind, forM_tell_eq]
  obtain ⟨generator, _ | _⟩ := load <;> rfl

end Session

end Ontogen
