import Ontogen.CommandLine.Run
import Ontogen.Proofs.CommandLine.Written
import Ontogen.Proofs.Data.OrderedMap
import Ontogen.Proofs.Package.Derivation

/-!
# Packages fixed on the command line

A value fixes a package when it is a namespace, an equals sign and a package without one, so
the last sign counts and the two parts are known (`Fixes.unique`). A command line makes a
generator only if each of its values is in that form, and of those for one namespace the last
one counts. A namespace that no value names gets the package that is derived from it
with the last base package in front.

Main results: `packageFor_of_commandLine`, and `run_of_generator?`, which says that runs use the
generator of their command line.
-/

namespace Ontogen.CommandLine

open Data (OrderedMap)

variable {value ns package : String} {values arguments : List String} {parsed : Arguments}
  {g : Generator} {uri : Uri}

/-! ## The form of a value -/

/-- A value fixes the package of a namespace: it is the namespace, an equals sign and the
package, which has none. -/
structure Fixes (value ns package : String) : Prop where
  text : value = ns ++ "=" ++ package
  ns_ne_empty : ns ≠ ""
  package_ne_empty : package ≠ ""
  plain : '=' ∉ package.toList

theorem toList_equals (ns package : String) :
    (ns ++ "=" ++ package).toList = ns.toList ++ '=' :: package.toList :=
  Text.toList_between rfl ns package

/-- The last equals sign separates the namespace from the package. -/
theorem fixedPackage?_eq_some_iff :
    fixedPackage? value = some (ns, package) ↔ Fixes value ns package := by
  constructor
  · intro h
    simp only [fixedPackage?] at h
    split at h
    next hform =>
      obtain ⟨hequals, hns, hpackage⟩ := hform
      obtain ⟨rfl, rfl⟩ := Prod.mk.inj (Option.some.inj h)
      refine ⟨?_, ?_, ?_, ?_⟩
      · rw [← String.toList_inj, toList_equals, String.toList_ofList, String.toList_ofList]
        exact (Text.beforeLast_append_afterLast hequals).symm
      · simpa using hns
      · simpa using hpackage
      · rw [String.toList_ofList]
        exact Text.not_mem_afterLast '=' _
    next => cases h
  · intro h
    obtain ⟨rfl, hns, hpackage, hplain⟩ := h
    obtain ⟨hfront, hback⟩ := Text.cut_append_cons hplain ns.toList
    unfold fixedPackage?
    rw [toList_equals]
    simp only [hfront, hback, String.ofList_toList]
    exact if_pos ⟨Text.mem_append_cons .., by simpa using hns, by simpa using hpackage⟩

theorem isSome_fixedPackage?_iff :
    (fixedPackage? value).isSome ↔ ∃ ns package, Fixes value ns package := by
  rw [Option.isSome_iff_exists, Prod.exists]
  simp only [fixedPackage?_eq_some_iff]

/-- A value fixes one package for one namespace. -/
theorem Fixes.unique {ns' package' : String} (h : Fixes value ns package)
    (h' : Fixes value ns' package') : ns = ns' ∧ package = package' := by
  have heq := (fixedPackage?_eq_some_iff.mpr h).symm.trans (fixedPackage?_eq_some_iff.mpr h')
  exact Prod.mk.inj (Option.some.inj heq)

theorem not_fixes_of_ne (h : (fixedPackage? value).map Prod.fst ≠ some ns) (package : String) :
    ¬ Fixes value ns package := by
  intro hfixes
  rw [fixedPackage?_eq_some_iff.mpr hfixes] at h
  exact h rfl

/-! ## The last value for a namespace -/

/-- The last value that fixes the package of a namespace fixes this one. -/
def LastFixed (values : List String) (ns package : String) : Prop :=
  ∃ front value back, values = front ++ value :: back ∧ Fixes value ns package
    ∧ ∀ later ∈ back, ∀ other, ¬ Fixes later ns other

/-- The packages of some values by their namespaces. -/
def fixedPackages (values : List String) : OrderedMap String String :=
  OrderedMap.ofList (values.filterMap fixedPackage?)

theorem not_mem_keys_of_not_fixes (h : ∀ value ∈ values, ∀ package, ¬ Fixes value ns package) :
    ns ∉ (values.filterMap fixedPackage?).map Prod.fst := by
  intro hmem
  obtain ⟨⟨ns', package⟩, he, rfl⟩ := List.mem_map.mp hmem
  obtain ⟨value, hvalue, hfixed⟩ := List.mem_filterMap.mp he
  exact h value hvalue package (fixedPackage?_eq_some_iff.mp hfixed)

theorem find?_fixedPackages_of_last (h : LastFixed values ns package) :
    (fixedPackages values).find? ns = some package := by
  obtain ⟨front, value, back, rfl, hfixes, hlater⟩ := h
  rw [fixedPackages, List.filterMap_append,
    List.filterMap_cons_some (fixedPackage?_eq_some_iff.mpr hfixes)]
  exact OrderedMap.find?_ofList_of_last (not_mem_keys_of_not_fixes hlater)

theorem find?_fixedPackages_of_none (h : ∀ value ∈ values, ∀ package, ¬ Fixes value ns package) :
    (fixedPackages values).find? ns = none :=
  OrderedMap.find?_ofList_of_not_mem (not_mem_keys_of_not_fixes h)

/-! ## The generator of a command line -/

/-- The generator that a command line makes, if its arguments can be used and something is
given for each of its packages. -/
def generator? (arguments : List String) : Option Generator :=
  match parse arguments with
  | .error _ => none
  | .ok parsed =>
    match parsed.origin, parsed.overrides? with
    | .ok _, some _ => some (Session.ofOptions parsed.options).generator
    | _, _ => none

theorem generator?_eq_some_iff :
    generator? arguments = some g ↔ ∃ parsed origin overrides, parse arguments = .ok parsed
      ∧ parsed.origin = .ok origin ∧ parsed.overrides? = some overrides
      ∧ (Session.ofOptions parsed.options).generator = g := by
  constructor
  · intro h
    unfold generator? at h
    split at h
    next => cases h
    next parsed hparse =>
      split at h
      next origin overrides horigin hoverrides =>
        exact ⟨parsed, origin, overrides, hparse, horigin, hoverrides, Option.some.inj h⟩
      next => cases h
  · rintro ⟨parsed, origin, overrides, hparse, horigin, hoverrides, rfl⟩
    rw [generator?, hparse]
    simp only [horigin, hoverrides]

/-- The base package of a command line: the last one given, unless it is a double dash. -/
def basePackage? (arguments : List String) : Option String :=
  (valuesGiven .basePackage arguments).getLast?.bind Draft.givenValue?

/-- There are packages for namespaces when every value is in the form for one. -/
theorem overrides?_eq_some_iff {overrides : OrderedMap String String}
    (h : parsed.packages = values.map fixedPackage?) :
    parsed.overrides? = some overrides
      ↔ (∀ value ∈ values, (fixedPackage? value).isSome) ∧ overrides = fixedPackages values := by
  rw [Arguments.overrides?, h, List.mapM_map, Function.id_comp, Option.map_eq_some_iff]
  constructor
  · rintro ⟨entries, hentries, rfl⟩
    obtain ⟨hall, rfl⟩ := Data.mapM_eq_some_iff.mp hentries
    exact ⟨hall, rfl⟩
  · rintro ⟨hall, rfl⟩
    exact ⟨_, Data.mapM_eq_some_iff.mpr ⟨hall, rfl⟩, rfl⟩

/-- The mapper of the generator that a command line makes. -/
theorem mapper_of_generator? (h : generator? arguments = some g) :
    (∀ value ∈ valuesGiven .package arguments, (fixedPackage? value).isSome)
      ∧ g.mapper = {
        basePackage := basePackage? arguments
        overrides := fixedPackages (valuesGiven .package arguments) } := by
  obtain ⟨parsed, -, overrides, hparse, -, hoverrides, rfl⟩ := generator?_eq_some_iff.mp h
  obtain ⟨hpackages, hbase⟩ := given_of_parse hparse
  obtain ⟨hall, hfixed⟩ := (overrides?_eq_some_iff hpackages).mp hoverrides
  refine ⟨hall, ?_⟩
  show PackageMapper.mk parsed.basePackage.value? (parsed.overrides?.getD ∅) = _
  rw [hbase, hoverrides, hfixed]
  rfl

/-- A command line with a source and an output directory makes a generator when all its values
are in the form for one. -/
theorem isSome_generator?_written {given : List Assignment} {sources : List String}
    (hsources : sources ≠ []) (hgiven : ∀ e ∈ given, e.1.takesValue = true)
    (houtput : Setting.output ∈ given.map Prod.fst) :
    (generator? (written given sources)).isSome
      ↔ ∀ value ∈ valuesFor .package given, (fixedPackage? value).isSome := by
  rw [← valuesGiven_written hgiven .package sources]
  constructor
  · intro h
    obtain ⟨g, hg⟩ := Option.isSome_iff_exists.mp h
    exact (mapper_of_generator? hg).1
  · intro hall
    obtain ⟨parsed, hparse, hsrc, hendpoint⟩ := exists_parse_written hsources hgiven houtput
      (valuesGiven_written hgiven .package sources ▸ hall)
    have hfixed := (overrides?_eq_some_iff (given_of_parse hparse).1).mpr ⟨hall, rfl⟩
    have horigin : parsed.origin = .ok (.documents sources) := by
      rw [Arguments.origin, hendpoint, hsrc]
      rfl
    exact Option.isSome_iff_exists.mpr
      ⟨_, generator?_eq_some_iff.mpr ⟨parsed, _, _, hparse, horigin, hfixed, rfl⟩⟩

/-- A run uses the generator of its command line: it gets at the triples and writes the types in
a session with it. -/
theorem run_of_generator? (h : generator? arguments = some g) (w : Workspace) :
    ∃ parsed origin, parse arguments = .ok parsed ∧ parsed.origin = .ok origin
      ∧ run w arguments =
        match (do origin.open; origin.ask; Session.writeTypes parsed.output : SessionAction _)
          { generator := g, workspace := { w with told := [] } } with
        | (.ok _, after) => ⟨.success, parsed.verbose, after.workspace⟩
        | (.error f, after) => ⟨.failure f, parsed.verbose, after.workspace⟩ := by
  obtain ⟨parsed, origin, overrides, hparse, horigin, hoverrides, rfl⟩ :=
    generator?_eq_some_iff.mp h
  refine ⟨parsed, origin, hparse, horigin, ?_⟩
  simp only [run, hparse, horigin, generate, hoverrides]
  rfl

/-! ## The package of a class -/

/-- A command line that makes a generator fixes packages in the form for it only. The
generator gives a class the package of the last value for its namespace, or else the one derived
with the last base package. A value is refused only if it is not in that form: every list of
values in it is taken by a command line, with any output directories and base packages
among them, and no other list is. A value is in that form in one way only. -/
theorem packageFor_of_commandLine :
    (∀ {arguments : List String} {g : Generator}, generator? arguments = some g →
        (∀ value ∈ valuesGiven .package arguments, ∃ ns package, Fixes value ns package)
          ∧ ∀ uri : Uri,
            (∀ package,
                LastFixed (valuesGiven .package arguments) (Uri.namespaceOf uri) package →
              g.mapper.packageFor uri = .ok package)
            ∧ ((∀ value ∈ valuesGiven .package arguments, ∀ package,
                ¬ Fixes value (Uri.namespaceOf uri) package) →
              g.mapper.packageFor uri
                = PackageMapper.packageFor { basePackage := basePackage? arguments } uri))
      ∧ (∀ {arguments : List String} {value : String},
        parse arguments = .error (.usage (.badPackage value)) →
          value ∈ valuesGiven .package arguments ∧ ¬ ∃ ns package, Fixes value ns package)
      ∧ (∀ {given : List Assignment} {sources : List String}, sources ≠ [] →
        (∀ e ∈ given, e.1.takesValue = true) → Setting.output ∈ given.map Prod.fst →
          (∀ s, valuesGiven s (written given sources) = valuesFor s given)
            ∧ ((generator? (written given sources)).isSome
              ↔ ∀ value ∈ valuesFor .package given, ∃ ns package, Fixes value ns package))
      ∧ ∀ {value ns package ns' package' : String}, Fixes value ns package →
        Fixes value ns' package' → ns = ns' ∧ package = package' := by
  refine ⟨?_, ?_, ?_, Fixes.unique⟩
  · intro arguments g h
    obtain ⟨hall, hmapper⟩ := mapper_of_generator? h
    refine ⟨fun value hvalue => isSome_fixedPackage?_iff.mp (hall value hvalue), ?_⟩
    intro uri
    rw [hmapper]
    constructor
    · intro package hlast
      exact PackageMapper.packageFor_of_fixed (find?_fixedPackages_of_last hlast)
    · intro hnone
      exact PackageMapper.packageFor_of_not_fixed (find?_fixedPackages_of_none hnone)
  · intro arguments value h
    obtain ⟨hgiven, hform⟩ := refused_of_parse h
    refine ⟨hgiven, ?_⟩
    rw [← isSome_fixedPackage?_iff, hform]
    exact Bool.false_ne_true
  · intro given sources hsources hgiven houtput
    refine ⟨fun s => valuesGiven_written hgiven s sources, ?_⟩
    simp only [isSome_generator?_written hsources hgiven houtput, isSome_fixedPackage?_iff]

/-- A command line with shortened spellings, a namespace that has an equals sign and two packages
for one namespace. -/
def zooLine : List String :=
  ["zoo.ttl", "-o", "out", "--pack", "http://zoo/q?x=1#=zoo.query", "--package=http://zoo/=first",
    "--base", "org.acme", "--package", "http://zoo/=last"]

theorem valuesGiven_zooLine : valuesGiven .package zooLine
    = ["http://zoo/q?x=1#=zoo.query", "http://zoo/=first", "http://zoo/=last"] := by
  decide +kernel

/-- The packages of three classes of this command line, and a value that is taken and one that
is not. -/
theorem zooLine_packageFor :
    (∃ g, generator? zooLine = some g
        ∧ g.mapper.packageFor "http://zoo/q?x=1#Cat" = .ok "zoo.query"
        ∧ g.mapper.packageFor "http://zoo/Dog" = .ok "last"
        ∧ g.mapper.packageFor "http://sea.org/Fish" = .ok "org.acme.org.sea")
      ∧ (generator? (written [(.output, "out"), (.package, "a==b")] ["-"])).isSome
      ∧ (∀ ns package, Fixes "a==b" ns package → ns = "a=" ∧ package = "b")
      ∧ ¬ (generator? (written [(.output, "out"), (.package, "a=")] ["-"])).isSome
      ∧ parse ["-o", "out", "--package", "=a"] = .error (.usage (.badPackage "=a"))
      ∧ ¬ ∃ ns package, Fixes "=a" ns package := by
  obtain ⟨g, hg⟩ : ∃ g, generator? zooLine = some g :=
    Option.isSome_iff_exists.mp (by decide +kernel)
  have hparse : parse ["-o", "out", "--package", "=a"] = .error (.usage (.badPackage "=a")) := by
    decide +kernel
  have hform : Fixes "a==b" "a=" "b" := fixedPackage?_eq_some_iff.mp (by decide +kernel)
  obtain ⟨hgenerator, hrefused, hwritten, hunique⟩ := packageFor_of_commandLine
  obtain ⟨-, hpackages⟩ := hgenerator hg
  rw [valuesGiven_zooLine] at hpackages
  refine ⟨⟨g, hg, ?_, ?_, ?_⟩, ?_, fun _ _ h => hunique h hform, ?_, hparse, (hrefused hparse).2⟩
  · -- The later values name another namespace.
    have hlater : ∀ later ∈ ["http://zoo/=first", "http://zoo/=last"],
        (fixedPackage? later).map Prod.fst ≠ some (Uri.namespaceOf "http://zoo/q?x=1#Cat") := by
      decide +kernel
    refine (hpackages "http://zoo/q?x=1#Cat").1 "zoo.query" ⟨[], _, _, rfl, ?_, ?_⟩
    · exact fixedPackage?_eq_some_iff.mp (by decide +kernel)
    · exact fun later h => not_fixes_of_ne (hlater later h)
  · refine (hpackages "http://zoo/Dog").1 "last"
      ⟨["http://zoo/q?x=1#=zoo.query", "http://zoo/=first"], _, [], rfl, ?_, fun _ h => nomatch h⟩
    exact fixedPackage?_eq_some_iff.mp (by decide +kernel)
  · have hnone : ∀ value ∈ ["http://zoo/q?x=1#=zoo.query", "http://zoo/=first", "http://zoo/=last"],
        (fixedPackage? value).map Prod.fst ≠ some (Uri.namespaceOf "http://sea.org/Fish") := by
      decide +kernel
    rw [(hpackages "http://sea.org/Fish").2 fun value h => not_fixes_of_ne (hnone value h)]
    decide +kernel
  · refine (hwritten (by decide) (by decide) (by decide)).2.mpr ?_
    simp only [← isSome_fixedPackage?_iff]
    decide +kernel
  · intro h
    have hall := (hwritten (by decide) (by decide) (by decide)).2.mp h
    simp only [← isSome_fixedPackage?_iff] at hall
    exact absurd hall (by decide +kernel)

end Ontogen.CommandLine
