import Ontogen.Proofs.Emission.Ending
import Ontogen.Proofs.Schema.Classes

/-!
# What an implementation depends on

Nothing is looked up above the direct superclasses of a class, and no other class of the run
matters for its implementation. Of the definitions of the distinct superclasses only the URIs
and the properties are taken, and in a run every definition is stored under its own URI
(`isKeyed_loadClasses`), so only the properties can tell two runs apart.

Main result: `implementation_depends`.
-/

namespace Ontogen.Emission

open Data (OrderedMap)

variable {c : SchemaClass} {classes : ClassMap} {packages : PackageMap}

/-! ## Class maps of a run -/

/-- Every definition is stored under its own URI. -/
def IsKeyed (classes : ClassMap) : Prop := ∀ u d, classes.find? u = some d → d.uri = u

theorem isKeyed_iff : IsKeyed classes ↔ ∀ e ∈ classes.entries, e.2.uri = e.1 := by
  constructor
  · exact fun h e he => h e.1 e.2 (OrderedMap.find?_eq_some_iff.mpr he)
  · exact fun h u d hd => h (u, d) (OrderedMap.find?_eq_some_iff.mp hd)

/-- The classes of a graph are stored under their own URIs. -/
theorem isKeyed_loadClasses (g : Rdf.Graph) : IsKeyed g.loadClasses.classes := by
  intro u d hd
  rw [Rdf.Graph.eq_classAt_of_find? hd]
  rfl

/-- Definitions with the same properties are taken for the same when they are stored under their
own URIs. -/
theorem map_takenOf_find? (hkeyed : IsKeyed classes) (s : Uri) :
    (classes.find? s).map takenOf
      = ((classes.find? s).map SchemaClass.properties).map fun ps => (s, ps) := by
  cases hfind : classes.find? s with
  | none => rfl
  | some d =>
    obtain rfl := hkeyed s d hfind
    rfl

/-- For an implementation only the packages of the class and its superclasses matter, and of the
class map only which distinct superclasses are in it and with which properties. In particular
it is of no account what is stored for any other class, and what the comment and the
superclasses of a superclass are, however these go on. -/
theorem implementation_depends (options : EmissionOptions) (hkeyed : IsKeyed classes) :
    (∀ classes' packages', IsKeyed classes' →
        (∀ u ∈ c.uri :: c.superclasses, packages.find? u = packages'.find? u) →
        (∀ s ∈ distinctSuperclasses c, (classes.find? s).map SchemaClass.properties
          = (classes'.find? s).map SchemaClass.properties) →
        implementationOf options c classes' packages'
          = implementationOf options c classes packages)
      ∧ (∀ u d, u ∉ distinctSuperclasses c →
        implementationOf options c (classes.insert u d) packages
          = implementationOf options c classes packages)
      ∧ ∀ s d comment superclasses, classes.find? s = some d →
        implementationOf options c (classes.insert s { d with comment, superclasses }) packages
          = implementationOf options c classes packages := by
  refine ⟨fun classes' packages' hkeyed' hpackages hproperties => ?_, fun u d hu => ?_,
    fun s d comment superclasses hd => ?_⟩
  · have hsame : TellSame c classes classes' packages packages' := by
      refine ⟨hpackages, fun s hs => ?_⟩
      rw [map_takenOf_find? hkeyed, map_takenOf_find? hkeyed', hproperties s hs]
    exact (hsame.implementationOf_eq options).symm
  · have hsame : TellSame c (classes.insert u d) classes packages packages := by
      refine ⟨fun _ _ => rfl, fun s hs => ?_⟩
      have hne : s ≠ u := fun heq => hu (heq ▸ hs)
      rw [OrderedMap.find?_insert, if_neg hne]
    exact hsame.implementationOf_eq options
  · -- The superclass keeps its URI and its properties, and nothing more is taken of it.
    have hsame : TellSame c (classes.insert s { d with comment, superclasses }) classes
        packages packages := by
      refine ⟨fun _ _ => rfl, fun u _ => ?_⟩
      rw [OrderedMap.find?_insert]
      split
      next heq =>
        rw [heq, hd]
        rfl
      next => rfl
    exact hsame.implementationOf_eq options

/-- Another run with the employees, who are persons of a run with a cycle above them and with
another class of persons. -/
def staffElsewhere : ClassMap :=
  .ofList [("http://else/Person", { uri := "http://else/Person" }),
    (person.uri, { person with comment := some "Anyone", superclasses := [employee.uri, person.uri] })]

def staffElsewherePackages : PackageMap :=
  .ofList [("http://else/Person", "else"), (person.uri, "people"), (employee.uri, "works")]

theorem employee_implementation_depends :
    IsKeyed staff ∧ IsKeyed staffElsewhere
      ∧ (∀ u ∈ employee.uri :: employee.superclasses,
        staffPackages.find? u = staffElsewherePackages.find? u)
      ∧ (∀ s ∈ distinctSuperclasses employee, (staff.find? s).map SchemaClass.properties
        = (staffElsewhere.find? s).map SchemaClass.properties)
      ∧ implementationOf { layout := .delegate } employee staffElsewhere staffElsewherePackages
        = .ok (some (employeeResolution.implementation { layout := .delegate })) := by
  have hkeyed : IsKeyed staff := isKeyed_iff.mpr (by decide)
  have hkeyed' : IsKeyed staffElsewhere := isKeyed_iff.mpr (by decide)
  have hpackages : ∀ u ∈ employee.uri :: employee.superclasses,
      staffPackages.find? u = staffElsewherePackages.find? u := by decide +kernel
  have hproperties : ∀ s ∈ distinctSuperclasses employee,
      (staff.find? s).map SchemaClass.properties
        = (staffElsewhere.find? s).map SchemaClass.properties := by decide +kernel
  refine ⟨hkeyed, hkeyed', hpackages, hproperties, ?_⟩
  rw [(implementation_depends _ hkeyed).1 _ _ hkeyed' hpackages hproperties]
  exact employeeResolution.implementationOf_eq_ok _ (by decide)

end Ontogen.Emission
