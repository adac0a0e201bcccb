import Ontogen.Proofs.Generation.PackageNames
import Ontogen.Proofs.Source.Identifier

/-!
# How a package is found

The package of a class is the one that was fixed for its namespace, whatever the namespace looks
like (`packageFor_of_fixed`). Otherwise it is joined of the base and the names that the namespace
is taken apart into (`packageFor_of_ok`), and there is none exactly when the namespace cannot be
taken apart (`packageFor_of_error`). Each of these names may name something, since letters
become small before the text is made an identifier and not after it
(`isPackageName_packagePart`).

Main result: `packageFor_outcome`.
-/

namespace Ontogen

open Data (OrderedMap)

/-- A name in a package: an identifier of small ASCII letters, digits, `_` and `$`. -/
structure IsPackageName (name : String) : Prop extends Source.IsIdentifier name where
  word : IsWord isPackageChar name

namespace PackageMapper

variable {m : PackageMapper} {uri : Uri} {names : List String} {base : String}

/-! ## Names of a namespace -/

theorem isPackageName_packagePart (s : List Char) : IsPackageName (packagePart s) where
  toIsIdentifier := Source.isIdentifier_identifierChars _
  word := isWord_packagePart s

/-- The default is what it would become as a part of a namespace. -/
theorem isPackageName_defaultPackage : IsPackageName defaultPackage := by
  have hpart : packagePart defaultPackage.toList = defaultPackage := by decide +kernel
  rw [← hpart]
  exact isPackageName_packagePart _

theorem packageParts_of_none {ns : String} (h : Uri.parts? ns.toList = none) :
    packageParts ns = .error ⟨ns⟩ := by
  rw [packageParts, h]

theorem packageParts_of_some {ns : String} {parts : Uri.Parts}
    (h : Uri.parts? ns.toList = some parts) : packageParts ns = .ok
      ((hostLabels parts.host ++ segments (!parts.host.isEmpty) parts.path).map packagePart) := by
  rw [packageParts, h]

theorem isPackageName_of_mem_packageParts {ns : String} (h : packageParts ns = .ok names) :
    ∀ name ∈ names, IsPackageName name := by
  intro name hname
  rw [packageParts] at h
  split at h
  next =>
    obtain rfl := Except.ok.inj h
    obtain ⟨s, -, rfl⟩ := List.mem_map.mp hname
    exact isPackageName_packagePart s
  next => cases h

/-! ## Ways to a package -/

theorem packageFor_of_fixed {package : String}
    (h : m.overrides.find? (Uri.namespaceOf uri) = some package) :
    m.packageFor uri = .ok package := by
  rw [packageFor, h]

theorem packageFor_of_error {e : NamespaceError}
    (hfixed : m.overrides.find? (Uri.namespaceOf uri) = none)
    (h : packageParts (Uri.namespaceOf uri) = .error e) : m.packageFor uri = .error e := by
  rw [packageFor, hfixed, h]
  rfl

/-- Packages that are fixed for other namespaces are of no account. -/
theorem packageFor_of_not_fixed (h : m.overrides.find? (Uri.namespaceOf uri) = none) :
    m.packageFor uri = packageFor { basePackage := m.basePackage } uri := by
  rw [packageFor, packageFor, h]
  rfl

/-- The package that the names of a namespace make up. -/
def join (m : PackageMapper) (names : List String) : String :=
  let package := String.intercalate "." (m.baseParts ++ names)
  if package = "" then defaultPackage else package

theorem packageFor_of_ok (hfixed : m.overrides.find? (Uri.namespaceOf uri) = none)
    (h : packageParts (Uri.namespaceOf uri) = .ok names) :
    m.packageFor uri = .ok (m.join names) := by
  rw [packageFor, hfixed, h]
  rfl

/-! ## Joining names -/

/-- Some names, or the default when there are none. -/
def orDefault (names : List String) : List String :=
  if names = [] then [defaultPackage] else names

theorem orDefault_ne_nil (names : List String) : orDefault names ≠ [] := by
  unfold orDefault
  split
  next => exact List.cons_ne_nil _ _
  next h => exact h

theorem isPackageName_of_mem_orDefault (hnames : ∀ name ∈ names, IsPackageName name) :
    ∀ name ∈ orDefault names, IsPackageName name := by
  unfold orDefault
  split
  next =>
    intro name hname
    rw [List.mem_singleton.mp hname]
    exact isPackageName_defaultPackage
  next => exact hnames

theorem intercalate_ne_empty {name : String} (hname : name ≠ "") (names : List String) :
    String.intercalate "." (name :: names) ≠ "" := by
  by_cases hnil : names = []
  · rwa [hnil, String.intercalate_singleton]
  · rw [String.intercalate_cons_of_ne_nil hnil]
    intro h
    exact hname (String.append_eq_empty_iff.mp (String.append_eq_empty_iff.mp h).1).1

theorem join_of_no_base (hbase : m.basePackage = none ∨ m.basePackage = some "")
    (hnames : ∀ name ∈ names, IsPackageName name) :
    m.join names = String.intercalate "." (orDefault names) := by
  have hfront : m.baseParts = [] := by
    rcases hbase with h | h
    · rw [baseParts, h]
    · rw [baseParts, h]
      rfl
  rw [join, hfront, List.nil_append, orDefault]
  cases names with
  | nil => rfl
  | cons name names =>
    have hname : name ≠ "" := (hnames name (List.mem_cons_self ..)).word.ne_empty
    rw [if_neg (intercalate_ne_empty hname names), if_neg (List.cons_ne_nil _ _)]

theorem join_of_base (hbase : m.basePackage = some base) (hne : base ≠ "") :
    m.join names
      = if names = [] then base else base ++ "." ++ String.intercalate "." names := by
  have hfront : m.baseParts = [base] := by
    rw [baseParts, hbase]
    exact if_neg hne
  rw [join, hfront, List.singleton_append, if_neg (intercalate_ne_empty hne names)]
  by_cases hnil : names = []
  · rw [if_pos hnil, hnil, String.intercalate_singleton]
  · rw [if_neg hnil, String.intercalate_cons_of_ne_nil hnil]

/-- The package that a mapper without a base derives for a URI is made of words. -/
theorem isPlainPackage_packageFor (hbase : m.basePackage = none) (hfixed : m.overrides = ∅)
    {package : String} (h : m.packageFor uri = .ok package) : IsPlainPackage package := by
  have hnone : m.overrides.find? (Uri.namespaceOf uri) = none := by
    rw [hfixed]
    rfl
  cases hparts : packageParts (Uri.namespaceOf uri) with
  | error e =>
    rw [packageFor_of_error hnone hparts] at h
    cases h
  | ok names =>
    have hnames := isPackageName_of_mem_packageParts hparts
    rw [packageFor_of_ok hnone hparts, join_of_no_base (.inl hbase) hnames] at h
    obtain rfl := Except.ok.inj h
    refine isPlainPackage_intercalate (orDefault_ne_nil names) ?_
    intro name hname
    exact (isPackageName_of_mem_orDefault hnames name hname).word

/-! ## The outcome -/

/-- A package that was fixed for the namespace is taken as it is. Without one the namespace is
taken apart, which fails exactly when it is no URI. Its names, each of which may name
something, are the package, or the default is if there are none; a base package stands alone
or in front of them. -/
theorem packageFor_outcome (m : PackageMapper) (uri : Uri) :
    (∀ package, m.overrides.find? (Uri.namespaceOf uri) = some package →
        m.packageFor uri = .ok package)
      ∧ (m.overrides.find? (Uri.namespaceOf uri) = none →
        (Uri.parts? (Uri.namespaceOf uri).toList = none →
          m.packageFor uri = .error ⟨Uri.namespaceOf uri⟩)
        ∧ ∀ parts, Uri.parts? (Uri.namespaceOf uri).toList = some parts →
          ∃ names, packageParts (Uri.namespaceOf uri) = .ok names
            ∧ (∀ name ∈ names, IsPackageName name)
            ∧ (m.basePackage = none ∨ m.basePackage = some "" →
              orDefault names ≠ [] ∧ (∀ name ∈ orDefault names, IsPackageName name)
                ∧ m.packageFor uri = .ok (String.intercalate "." (orDefault names)))
            ∧ ∀ base, m.basePackage = some base → base ≠ "" →
              m.packageFor uri = .ok
                (if names = [] then base else base ++ "." ++ String.intercalate "." names)) := by
  refine ⟨fun package h => packageFor_of_fixed h, fun hfixed => ⟨?_, ?_⟩⟩
  · intro hnone
    exact packageFor_of_error hfixed (packageParts_of_none hnone)
  · intro parts hsome
    have hparts := packageParts_of_some hsome
    have hpackage := packageFor_of_ok hfixed hparts
    have hnames := isPackageName_of_mem_packageParts hparts
    refine ⟨_, hparts, hnames, ?_, ?_⟩
    · intro hbase
      refine ⟨orDefault_ne_nil _, isPackageName_of_mem_orDefault hnames, ?_⟩
      rw [hpackage, join_of_no_base hbase hnames]
    · intro base hbase hne
      rw [hpackage, join_of_base hbase hne]

/-- A mapper with a base package and a package for a namespace that is no URI. -/
def acme : PackageMapper where
  basePackage := some "com.acme"
  overrides := OrderedMap.ofList [("http://[zoo/", "zoo.model")]

/-- The package of a namespace with a port, a reserved word and a digit in front, with a base
and without one. -/
theorem acme_packageFor_outcome :
    (acme.overrides.find? (Uri.namespaceOf "http://[zoo/Cat") = some "zoo.model"
        ∧ acme.packageFor "http://[zoo/Cat" = .ok "zoo.model")
      ∧ (Uri.parts? (Uri.namespaceOf "http://[zoo/Cat").toList = none
        ∧ packageFor {} "http://[zoo/Cat" = .error ⟨"http://[zoo/"⟩)
      ∧ packageParts (Uri.namespaceOf "http://WWW.zoo.org:80/new/3D#Dog")
        = .ok ["org", "zoo", "_new", "_3d"]
      ∧ acme.packageFor "http://WWW.zoo.org:80/new/3D#Dog"
        = .ok "com.acme.org.zoo._new._3d"
      ∧ (∀ name ∈ ["org", "zoo", "_new", "_3d"], IsPackageName name)
      ∧ packageFor {} "http://WWW.zoo.org:80/new/3D#Dog" = .ok "org.zoo._new._3d" := by
  have hcat : Uri.namespaceOf "http://[zoo/Cat" = "http://[zoo/" := by decide +kernel
  have hfixed : acme.overrides.find? (Uri.namespaceOf "http://[zoo/Cat") = some "zoo.model" := by
    rw [hcat]
    decide +kernel
  have hbroken : Uri.parts? (Uri.namespaceOf "http://[zoo/Cat").toList = none := by
    rw [hcat]
    decide +kernel
  have hnames : packageParts (Uri.namespaceOf "http://WWW.zoo.org:80/new/3D#Dog")
      = .ok ["org", "zoo", "_new", "_3d"] := by decide +kernel
  obtain ⟨parts, hparts⟩ : ∃ parts,
      Uri.parts? (Uri.namespaceOf "http://WWW.zoo.org:80/new/3D#Dog").toList = some parts := by
    apply Option.isSome_iff_exists.mp
    decide +kernel
  obtain ⟨names, hfound, hplain, -, hbase⟩ :=
    ((packageFor_outcome acme "http://WWW.zoo.org:80/new/3D#Dog").2 (by decide +kernel)).2
      parts hparts
  obtain ⟨names', hfound', -, hdefault, -⟩ :=
    ((packageFor_outcome {} "http://WWW.zoo.org:80/new/3D#Dog").2 rfl).2 parts hparts
  obtain rfl := Except.ok.inj (hfound.symm.trans hnames)
  obtain rfl := Except.ok.inj (hfound'.symm.trans hnames)
  refine ⟨⟨hfixed, ?_⟩, ⟨hbroken, ?_⟩, hnames, ?_, hplain, ?_⟩
  · exact (packageFor_outcome acme "http://[zoo/Cat").1 "zoo.model" hfixed
  · rw [← hcat]
    exact ((packageFor_outcome {} "http://[zoo/Cat").2 rfl).1 hbroken
  · exact hbase "com.acme" rfl (by decide)
  · exact (hdefault (.inl rfl)).2.2

end PackageMapper

end Ontogen
