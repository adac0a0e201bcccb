import Ontogen.Proofs.Emission.Scope

/-!
# Fields that accessors use

The fields and the accessors of an implementation are made one after the other, from lists of
their own, and nothing but the names in their texts ties them together. The names hold: what
an accessor reads, writes or forwards to is a field that the same implementation declares.
For a property that is forwarded it is the field of the superclass that the property is
from, which no other superclass and no own property has, also when superclasses have their
simple names or the names of their properties in common.

Main result: `accessors_use_fields`.
-/

namespace Ontogen.Emission

open Source (Accessors HolderField Member)
open Data

variable {c : SchemaClass} {classes : ClassMap} {packages : PackageMap}

/-! ## Fields and accessors of a type -/

/-- The accessors of a type, in the order of its members. -/
def TypeSource.accessors (t : TypeSource) : List Accessors :=
  t.members.filterMap Member.accessors?

/-- A member of the type is a field with this name, and is declared with this type. -/
def TypeSource.HasField (t : TypeSource) (type name : String) : Prop :=
  ∃ m ∈ t.members, m.fieldName? = some name
    ∧ Source.DeclaresField indent type name (m.text indent)

/-- The bodies of the accessors read and write the field, or both of them call the instance
that is in it. -/
def UsesField (a : Accessors) (name : String) : Prop :=
  a.signature.Accesses indent name (Member.text indent (.accessors a))
    ∨ a.signature.Forwards indent name (Member.text indent (.accessors a))

theorem TypeSource.hasField_of_property {t : TypeSource} {f : Source.PropertyField}
    (hf : .property f ∈ t.members) : t.HasField f.javaType f.name :=
  ⟨.property f, hf, rfl, Source.declaresField_text_property indent f⟩

theorem TypeSource.hasField_of_holder {t : TypeSource} {f : HolderField}
    (hf : f ∈ t.holderFields) : t.HasField f.type.text f.name := by
  obtain ⟨m, hm, hholder⟩ := List.mem_filterMap.mp hf
  cases m with
  | property g => cases hholder
  | accessors a => cases hholder
  | holder g =>
    obtain rfl := Option.some.inj hholder
    exact ⟨.holder g, hm, rfl, Source.declaresField_text_holder indent g⟩

/-- The accessors are those of a property, and use a field with its type and name. -/
structure UsesOwnField (t : TypeSource) (p : SchemaProperty) (a : Accessors) : Prop where
  signature : a.signature = p.signature
  accesses : a.signature.Accesses indent p.name (Member.text indent (.accessors a))
  declared : t.HasField p.javaType p.name

theorem usesOwnField_of_property {t : TypeSource} {p : SchemaProperty} {a : Accessors}
    {f : Source.PropertyField} (hsignature : a.signature = p.signature) (hbody : a.body = .own)
    (hf : .property f ∈ t.members) (htype : f.javaType = p.javaType) (hname : f.name = p.name) :
    UsesOwnField t p a := by
  have haccesses : a.signature.Accesses indent a.name (Member.text indent (.accessors a)) :=
    Source.accesses_text hbody
  have hparameter : a.name = p.name := congrArg Source.Signature.parameter hsignature
  have hfield := TypeSource.hasField_of_property hf
  rw [hparameter] at haccesses
  rw [htype, hname] at hfield
  exact ⟨hsignature, haccesses, hfield⟩

/-! ## Inherited properties -/

/-- The properties of a class with the URI that it is known by. -/
def propertiesFrom (classes : ClassMap) (s : Uri) : List (Uri × SchemaProperty) :=
  match classes.find? s with
  | some d => d.properties.map fun p => (s, p)
  | none => []

/-- The properties of the distinct superclasses, each with the superclass that it is from. -/
def inherited (c : SchemaClass) (classes : ClassMap) : List (Uri × SchemaProperty) :=
  (distinctSuperclasses c).flatMap (propertiesFrom classes)

theorem propertiesFrom_eq {s : Uri} {d : SchemaClass} (h : classes.find? s = some d) :
    propertiesFrom classes s = d.properties.map fun p => (s, p) := by
  unfold propertiesFrom
  rw [h]

theorem map_snd_flatMap_propertiesFrom {ss : List Uri} :
    ∀ {ds : List SchemaClass}, ss.map classes.find? = ds.map some →
      (ss.flatMap (propertiesFrom classes)).map Prod.snd
        = ds.flatMap SchemaClass.properties := by
  induction ss with
  | nil =>
    intro ds h
    cases ds with
    | nil => rfl
    | cons d ds => cases h
  | cons s ss ih =>
    intro ds h
    cases ds with
    | nil => cases h
    | cons d ds =>
      rw [List.map_cons, List.map_cons, List.cons.injEq] at h
      have hfirst : (d.properties.map fun p => (s, p)).map Prod.snd = d.properties := by
        rw [List.map_map]
        exact List.map_id _
      rw [List.flatMap_cons, List.map_append, propertiesFrom_eq h.1, hfirst, ih h.2,
        List.flatMap_cons]

/-- A superclass is known with the property among its own, and its interface declares the
accessors of the property. The interface is there when the class is known by its own URI. -/
def InterfaceDeclares (classes : ClassMap) (packages : PackageMap) (s : Uri)
    (p : SchemaProperty) : Prop :=
  ∃ d, classes.find? s = some d ∧ p ∈ d.properties
    ∧ (d.uri = s → ∃ i, interfaceOf d packages = .ok i)
    ∧ ∀ i, interfaceOf d packages = .ok i → i.DeclaresInText ∧ p.signature ∈ i.declared

/-- A type has a field for each distinct superclass, in order, with the reference to it for
a type. No two of these fields have the same name, and none has that of an own property. -/
structure HoldsSuperclasses (c : SchemaClass) (packages : PackageMap) (t : TypeSource) :
    Prop where
  types : List.Forall₂ (fun s f => superclassReference c packages s = .ok f.type)
    (distinctSuperclasses c) t.holderFields
  declared : ∀ f ∈ t.holderFields, t.HasField f.type.text f.name
  names_nodup : (t.holderFields.map HolderField.name).Nodup
  not_own : ∀ f ∈ t.holderFields, ∀ p ∈ c.properties, f.name ≠ p.name

/-- The accessors are those of a property from a superclass, and forward to the field of
this superclass, whose interface declares them. -/
structure ForwardsInherited (c : SchemaClass) (classes : ClassMap) (packages : PackageMap)
    (t : TypeSource) (origin : Uri × SchemaProperty) (a : Accessors) : Prop where
  signature : a.signature = origin.2.signature
  forwards : ∃ f, (origin.1, f) ∈ (distinctSuperclasses c).zip t.holderFields
    ∧ a.signature.Forwards indent f.name (Member.text indent (.accessors a))
  interface : InterfaceDeclares classes packages origin.1 origin.2

theorem UsesOwnField.exists_field {t : TypeSource} {p : SchemaProperty} {a : Accessors}
    (h : UsesOwnField t p a) : ∃ type name, UsesField a name ∧ t.HasField type name :=
  ⟨p.javaType, p.name, .inl h.accesses, h.declared⟩

theorem ForwardsInherited.exists_field {t : TypeSource} {origin : Uri × SchemaProperty}
    {a : Accessors} (h : ForwardsInherited c classes packages t origin a) :
    ∃ type name, UsesField a name ∧ t.HasField type name := by
  obtain ⟨f, hf, hforwards⟩ := h.forwards
  exact ⟨f.type.text, f.name, .inr hforwards,
    TypeSource.hasField_of_holder (List.of_mem_zip hf).2⟩

/-! ## Superclasses and the instances held for them -/

theorem forall₂_holdersWith {refs : List (Uri × Source.TypeReference)} :
    ∀ (taken : List String) {ds : List SchemaClass},
      (refs.map Prod.fst).map classes.find? = ds.map some →
      List.Forall₂ (fun ref h => classes.find? ref.1 = some h.definition ∧ h.type = ref.2)
        refs (holdersWith taken refs ds) := by
  induction refs with
  | nil =>
    intro taken ds _
    exact .nil
  | cons ref refs ih =>
    intro taken ds hds
    cases ds with
    | nil => cases hds
    | cons d ds =>
      rw [List.map_cons, List.map_cons, List.map_cons, List.cons.injEq] at hds
      exact .cons ⟨hds.1, rfl⟩ (ih _ hds.2)

namespace Resolution

/-- The instance for a superclass has its definition and the type that refers to it. -/
theorem forall₂_holders (r : Resolution c classes packages) :
    List.Forall₂ (fun s h => classes.find? s = some h.definition
      ∧ h.type = referenceTo c packages s) (distinctSuperclasses c) r.holders := by
  have hdefinitions : ((namedReferences c packages).map Prod.fst).map classes.find?
      = r.definitions.map some := by rw [map_fst_namedReferences, r.find?_definitions]
  have h := forall₂_holdersWith (c.properties.map SchemaProperty.name) hdefinitions
  rw [namedReferences, List.forall₂_map_left_iff] at h
  exact h

/-- The interface of a superclass declares the accessors of its properties. -/
theorem interfaceDeclares (r : Resolution c classes packages) {s : Uri} {d : SchemaClass}
    {p : SchemaProperty} (hs : s ∈ distinctSuperclasses c) (hd : classes.find? s = some d)
    (hp : p ∈ d.properties) : InterfaceDeclares classes packages s p := by
  refine ⟨d, hd, hp, ?_, ?_⟩
  · intro huri
    obtain ⟨package, -, hpackage⟩ := r.exists_package hs
    rw [← huri] at hpackage
    exact ⟨_, interfaceOf_eq_ok_iff.mpr ⟨package, hpackage, rfl⟩⟩
  · intro i hi
    refine ⟨declaresInText_of_interfaceOf hi, ?_⟩
    rw [declared_of_interfaceOf hi]
    exact List.mem_map_of_mem hp

theorem accessors_implementation (r : Resolution c classes packages)
    (options : EmissionOptions) :
    (r.implementation options).accessors = r.accessors options.layout := by
  have hall : ((r.accessors options.layout).map Member.accessors).filterMap Member.accessors?
      = (r.accessors options.layout).map id := filterMap_map_eq_map fun _ _ => rfl
  rw [TypeSource.accessors, r.filterMap_members_eq_accessors options (fun _ => rfl) fun _ => rfl,
    hall, List.map_id]

/-! ## What accessors use -/

/-- Properties with fields use these in their accessors. -/
theorem forall₂_usesOwnField {r : Resolution c classes packages} {options : EmissionOptions}
    {ps : List SchemaProperty}
    (hps : ∀ p ∈ ps,
      .property (fieldOf options.annotate p) ∈ r.fields options.layout options.annotate) :
    List.Forall₂ (UsesOwnField (r.implementation options)) ps (ps.map (accessorsOf .own)) := by
  rw [List.forall₂_map_right_iff, List.forall₂_same]
  intro p hp
  have hmem : .property (fieldOf options.annotate p) ∈ (r.implementation options).members :=
    List.mem_append_left _ (hps p hp)
  exact usesOwnField_of_property rfl rfl hmem rfl rfl

theorem holderFields_delegate {r : Resolution c classes packages} {options : EmissionOptions}
    (hlayout : options.layout = .delegate) :
    (r.implementation options).holderFields = r.holders.map Holder.holderField := by
  rw [r.holderFields_implementation, hlayout]

theorem holdsSuperclasses {r : Resolution c classes packages} {options : EmissionOptions}
    (hlayout : options.layout = .delegate) :
    HoldsSuperclasses c packages (r.implementation options) := by
  have hfields := holderFields_delegate (r := r) hlayout
  have hnames : (r.implementation options).holderFields.map HolderField.name
      = freshNames (c.properties.map SchemaProperty.name)
          ((distinctSuperclasses c).map Source.instanceName) := by
    rw [hfields, List.map_map, ← r.map_field_holders]
    rfl
  refine ⟨?_, fun f => TypeSource.hasField_of_holder, ?_, ?_⟩
  · rw [hfields, List.forall₂_map_right_iff, List.forall₂_iff_zip]
    refine ⟨r.forall₂_holders.length_eq, fun {s h} hmem => ?_⟩
    obtain ⟨package, -, hpackage⟩ := r.exists_package (List.of_mem_zip hmem).1
    rw [superclassReference_eq_ok hpackage]
    exact congrArg Except.ok (List.forall₂_zip r.forall₂_holders hmem).2.symm
  · rw [hnames]
    exact freshNames_nodup _ _
  · intro f hf p hp hname
    have hfresh : f.name ∈ freshNames (c.properties.map SchemaProperty.name)
        ((distinctSuperclasses c).map Source.instanceName) := by
      rw [← hnames]
      exact List.mem_map_of_mem hf
    refine not_mem_freshNames hfresh ?_
    rw [hname]
    exact List.mem_map_of_mem hp

theorem forall₂_forwardsInherited {r : Resolution c classes packages}
    {options : EmissionOptions} (hlayout : options.layout = .delegate) :
    List.Forall₂ (ForwardsInherited c classes packages (r.implementation options))
      (inherited c classes) (r.holders.flatMap Holder.forwarders) := by
  -- Places are kept as members of the zipped lists, which say which field is whose.
  have hzip : List.Forall₂ (fun s h => (s, h) ∈ (distinctSuperclasses c).zip r.holders)
      (distinctSuperclasses c) r.holders :=
    List.forall₂_iff_zip.mpr ⟨r.forall₂_holders.length_eq, fun h => h⟩
  refine List.rel_flatMap hzip fun s h hmem => ?_
  obtain ⟨hdefinition, -⟩ := List.forall₂_zip r.forall₂_holders hmem
  have hheld : (s, h.holderField)
      ∈ (distinctSuperclasses c).zip (r.implementation options).holderFields := by
    rw [holderFields_delegate hlayout, List.zip_map_right]
    exact List.mem_map_of_mem (f := Prod.map id Holder.holderField) hmem
  rw [propertiesFrom_eq hdefinition, Holder.forwarders, List.forall₂_map_left_iff,
    List.forall₂_map_right_iff, List.forall₂_same]
  intro p hp
  refine ⟨rfl, ⟨h.holderField, hheld, Source.forwards_text rfl⟩, ?_⟩
  exact r.interfaceDeclares (List.of_mem_zip hmem).1 hdefinition hp

end Resolution

/-- What the bodies of accessors in an implementation use is a field that this declares. In
the flat layout, and for own properties in the delegating one, it is the field of the
property, with its type. For an inherited property the delegating layout forwards to the
field of the superclass that the property is from. This is no other superclass's field and
no own property's, its type is the reference to the superclass, and the interface of the
superclass declares the accessors that are called. -/
theorem accessors_use_fields {options : EmissionOptions} {t : TypeSource}
    (h : implementationOf options c classes packages = .ok (some t)) :
    (∀ a ∈ t.accessors, ∃ type name, UsesField a name ∧ t.HasField type name)
      ∧ match options.layout with
        | .flatten => List.Forall₂ (UsesOwnField t)
            (c.properties ++ (inherited c classes).map Prod.snd) t.accessors
        | .delegate => HoldsSuperclasses c packages t
            ∧ ∃ own forwarding, t.accessors = own ++ forwarding
              ∧ List.Forall₂ (UsesOwnField t) c.properties own
              ∧ List.Forall₂ (ForwardsInherited c classes packages t)
                  (inherited c classes) forwarding := by
  obtain ⟨-, r, rfl⟩ := implementationOf_eq_ok_some_iff.mp h
  have hinherited : (inherited c classes).map Prod.snd
      = r.definitions.flatMap SchemaClass.properties :=
    map_snd_flatMap_propertiesFrom r.find?_definitions
  cases hlayout : options.layout with
  | flatten =>
    have hfields : List.Forall₂ (UsesOwnField (r.implementation options)) r.properties
        (r.properties.map (accessorsOf .own)) := by
      refine Resolution.forall₂_usesOwnField fun p hp => ?_
      rw [hlayout]
      exact List.mem_map_of_mem hp
    rw [r.accessors_implementation, hlayout, hinherited]
    exact ⟨forall_mem_of_forall₂ hfields fun p a => UsesOwnField.exists_field, hfields⟩
  | delegate =>
    have hown : List.Forall₂ (UsesOwnField (r.implementation options)) c.properties
        (c.properties.map (accessorsOf .own)) := by
      refine Resolution.forall₂_usesOwnField fun p hp => ?_
      rw [hlayout]
      exact List.mem_append_left _ (List.mem_map_of_mem hp)
    have hforwarding := Resolution.forall₂_forwardsInherited (r := r) hlayout
    rw [r.accessors_implementation, hlayout]
    refine ⟨?_, Resolution.holdsSuperclasses hlayout, _, _, rfl, hown, hforwarding⟩
    refine List.forall_mem_append.mpr ⟨?_, ?_⟩
    · exact forall_mem_of_forall₂ hown fun p a => UsesOwnField.exists_field
    · exact forall_mem_of_forall₂ hforwarding fun origin a => ForwardsInherited.exists_field

/-! ## A captain

The two superclasses of a captain have one simple name, which is also that of an own
property, and each of them has a property of the same name. -/

def hand : SchemaClass where
  uri := "http://works/Person"
  properties := [{ uri := "http://works/name" }]

def captain : SchemaClass where
  uri := "http://ships/Captain"
  superclasses := [person.uri, hand.uri]
  properties := [{ uri := "http://ships/person" }]

def crew : ClassMap := .ofList [(captain.uri, captain), (person.uri, person), (hand.uri, hand)]

def crewPackages : PackageMap :=
  .ofList [(captain.uri, "ships"), (person.uri, "people"), (hand.uri, "works")]

/-- What an implementation of the captains is made of. -/
def captainResolution : Resolution captain crew crewPackages where
  package := "ships"
  superclassPackages := ["people", "works"]
  definitions := [person, hand]
  find?_package := by decide
  find?_superclassPackages := by decide
  find?_definitions := by decide

theorem captain_accessors_use_fields :
    ∃ t own forwarding,
      implementationOf { layout := .delegate } captain crew crewPackages = .ok (some t)
      ∧ t.holderFields.map HolderField.name = ["person2", "person3"]
      ∧ (inherited captain crew).map Prod.fst = [person.uri, hand.uri]
      ∧ (∀ a ∈ t.accessors, ∃ type name, UsesField a name ∧ t.HasField type name)
      ∧ HoldsSuperclasses captain crewPackages t
      ∧ t.accessors = own ++ forwarding
      ∧ List.Forall₂ (UsesOwnField t) captain.properties own
      ∧ List.Forall₂ (ForwardsInherited captain crew crewPackages t) (inherited captain crew)
          forwarding := by
  have h := captainResolution.implementationOf_eq_ok { layout := .delegate } (by decide)
  obtain ⟨hall, hheld, own, forwarding, haccessors, hown, hforwarding⟩ := accessors_use_fields h
  refine ⟨_, own, forwarding, h, ?_, ?_, hall, hheld, haccessors, hown, hforwarding⟩
  · decide +kernel
  · decide

end Ontogen.Emission
