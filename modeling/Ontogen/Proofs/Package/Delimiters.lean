import Ontogen.Proofs.Package.Derivation
import Ontogen.Proofs.Text.Words
import Ontogen.Proofs.Uri.Name
import Ontogen.Proofs.Uri.Parts

/-!
# Namespaces that end in `#` and in `/`

A vocabulary may set its names apart by a `#` or by a `/`. Either way the name is what
comes after (`localName_hash`, `localName_slash`), and the namespace what comes before with the
delimiter. Two such namespaces have the same host, and their paths differ at most in a slash at
the end, which makes no segment (`segments_congr`), so the same names are taken from them
or none can be.

Main result: `hash_slash_agree`.
-/

namespace Ontogen

variable {s n : String}

/-! ## Where such URIs are cut -/

namespace Uri

theorem toList_hash (s n : String) : (s ++ "#" ++ n).toList = s.toList ++ '#' :: n.toList :=
  Text.toList_between rfl s n

theorem toList_slash (s n : String) : (s ++ "/" ++ n).toList = s.toList ++ '/' :: n.toList :=
  Text.toList_between rfl s n

theorem namespaceOf_hash (hn : '#' ∉ n.toList) : namespaceOf (s ++ "#" ++ n) = s ++ "#" := by
  rw [← String.toList_inj, toList_namespaceOf, toList_hash, namespaceChars,
    if_pos (Text.mem_append_cons ..), Text.beforeLast_append_cons hn, String.toList_append]
  rfl

theorem localName_hash (hn : '#' ∉ n.toList) : localName (s ++ "#" ++ n) = n := by
  rw [← String.toList_inj, toList_localName, toList_hash, localChars,
    if_pos (Text.mem_append_cons ..), Text.afterLast_append_cons hn]

/-- A name that is not empty and has no slash ends in none. -/
theorem dropEnd_slash (hne : n ≠ "") (hn : '/' ∉ n.toList) :
    Text.dropEnd '/' (s ++ "/" ++ n).toList = s.toList ++ '/' :: n.toList := by
  obtain ⟨c, cs, hchars⟩ : ∃ c cs, n.toList = c :: cs :=
    List.exists_cons_of_ne_nil fun h => hne (String.toList_eq_nil_iff.mp h)
  rw [toList_slash]
  refine Text.dropEnd_of_getLast? ?_
  intro h
  rw [List.getLast?_append_cons, hchars, List.getLast?_cons_cons, ← hchars] at h
  exact hn (List.mem_of_getLast? h)

theorem hash_not_mem_slash (hs : '#' ∉ s.toList) (hn : '#' ∉ n.toList) :
    '#' ∉ (s ++ "/" ++ n).toList := by
  rw [toList_slash]
  simp [hs, hn]

theorem namespaceOf_slash (hs : '#' ∉ s.toList) (hne : n ≠ "") (hhash : '#' ∉ n.toList)
    (hslash : '/' ∉ n.toList) : namespaceOf (s ++ "/" ++ n) = s ++ "/" := by
  rw [← String.toList_inj, toList_namespaceOf, namespaceChars,
    if_neg (hash_not_mem_slash hs hhash), dropEnd_slash hne hslash,
    Text.beforeLast_append_cons hslash, String.toList_append]
  rfl

theorem localName_slash (hs : '#' ∉ s.toList) (hne : n ≠ "") (hhash : '#' ∉ n.toList)
    (hslash : '/' ∉ n.toList) : localName (s ++ "/" ++ n) = n := by
  rw [← String.toList_inj, toList_localName, localChars,
    if_neg (hash_not_mem_slash hs hhash), dropEnd_slash hne hslash,
    Text.afterLast_append_cons hslash]

end Uri

/-! ## What is taken from such namespaces -/

namespace PackageMapper

/-- A slash at the end of a path makes no segment. -/
theorem segments_concat (hasHost : Bool) (path : List Char) :
    segments hasHost (path ++ ['/']) = segments hasHost path :=
  Text.words_append_gap (g := ['/']) (by simp) path

theorem segments_congr (hasHost : Bool) {p q : List Char} (h : Uri.SlashApart p q) :
    segments hasHost p = segments hasHost q := by
  rcases h with rfl | rfl | rfl
  · rfl
  · rw [segments_concat]
  · rw [segments_concat]

theorem host_congr {p q : Uri.Parts} (h : p.authority = q.authority) : p.host = q.host := by
  unfold Uri.Parts.host
  rw [h]

theorem packageParts_hash_slash (hs : '#' ∉ s.toList) :
    (packageParts (s ++ "#") = .error ⟨s ++ "#"⟩ ∧ packageParts (s ++ "/") = .error ⟨s ++ "/"⟩)
      ∨ ∃ names, packageParts (s ++ "#") = .ok names ∧ packageParts (s ++ "/") = .ok names := by
  have hends : ∀ e, (s ++ e).toList = s.toList ++ e.toList := fun _ => String.toList_append
  rcases Uri.parts?_hash_slash hs with ⟨hp, hq⟩ | ⟨p, q, hp, hq, hauthority, hpath⟩
  · refine .inl ⟨packageParts_of_none ?_, packageParts_of_none ?_⟩
    · rw [hends]
      exact hp
    · rw [hends]
      exact hq
  · have hnames : packageParts (s ++ "#") = .ok _ := packageParts_of_some (by rw [hends]; exact hp)
    have hnames' : packageParts (s ++ "/") = .ok _ :=
      packageParts_of_some (by rw [hends]; exact hq)
    rw [← host_congr hauthority, ← segments_congr _ hpath] at hnames'
    exact .inr ⟨_, hnames, hnames'⟩

/-- A class has the same type name and the same package, or no package, whether its name comes
after a `#` or after a `/`, unless a package was fixed for one of the two namespaces. -/
theorem hash_slash_agree (m : PackageMapper) (hs : '#' ∉ s.toList) (hne : n ≠ "")
    (hhash : '#' ∉ n.toList) (hslash : '/' ∉ n.toList)
    (hfixedHash : m.overrides.find? (Uri.namespaceOf (s ++ "#" ++ n)) = none)
    (hfixedSlash : m.overrides.find? (Uri.namespaceOf (s ++ "/" ++ n)) = none) :
    Source.typeName (s ++ "#" ++ n) = Source.typeName (s ++ "/" ++ n)
      ∧ ((∃ package, m.packageFor (s ++ "#" ++ n) = .ok package
          ∧ m.packageFor (s ++ "/" ++ n) = .ok package)
        ∨ m.packageFor (s ++ "#" ++ n) = .error ⟨s ++ "#"⟩
          ∧ m.packageFor (s ++ "/" ++ n) = .error ⟨s ++ "/"⟩) := by
  have hns : Uri.namespaceOf (s ++ "#" ++ n) = s ++ "#" := Uri.namespaceOf_hash hhash
  have hns' : Uri.namespaceOf (s ++ "/" ++ n) = s ++ "/" :=
    Uri.namespaceOf_slash hs hne hhash hslash
  constructor
  · rw [Source.typeName, Source.typeName, Uri.localName_hash hhash,
      Uri.localName_slash hs hne hhash hslash]
  · rcases packageParts_hash_slash hs with ⟨h, h'⟩ | ⟨names, h, h'⟩
    · rw [← hns] at h
      rw [← hns'] at h'
      refine .inr ⟨?_, ?_⟩
      · rw [packageFor_of_error hfixedHash h, hns]
      · rw [packageFor_of_error hfixedSlash h', hns']
    · rw [← hns] at h
      rw [← hns'] at h'
      exact .inl ⟨_, packageFor_of_ok hfixedHash h, packageFor_of_ok hfixedSlash h'⟩

/-- Pets behind a query, with a `#` and with a `/` that is a part of the query. -/
theorem pet_hash_slash_agree :
    '#' ∉ "http://zoo.org/pets?v=1".toList ∧ "Dog" ≠ ""
      ∧ Source.typeName ("http://zoo.org/pets?v=1" ++ "#" ++ "Dog")
        = Source.typeName ("http://zoo.org/pets?v=1" ++ "/" ++ "Dog")
      ∧ packageFor {} ("http://zoo.org/pets?v=1" ++ "#" ++ "Dog") = .ok "org.zoo.pets"
      ∧ packageFor {} ("http://zoo.org/pets?v=1" ++ "/" ++ "Dog") = .ok "org.zoo.pets" := by
  have hs : '#' ∉ "http://zoo.org/pets?v=1".toList := by decide
  have hne : "Dog" ≠ "" := by decide
  have hpackage : packageFor {} ("http://zoo.org/pets?v=1" ++ "#" ++ "Dog")
      = .ok "org.zoo.pets" := by decide +kernel
  obtain ⟨htype, hagree⟩ := hash_slash_agree {} hs hne (by decide) (by decide) rfl rfl
  refine ⟨hs, hne, htype, hpackage, ?_⟩
  rcases hagree with ⟨package, hhash, hslash⟩ | ⟨hhash, -⟩
  · rw [hhash] at hpackage
    rw [hslash, hpackage]
  · rw [hhash] at hpackage
    cases hpackage

example : packageFor {} "http:/#Dog" = packageFor {} "http://Dog" := by decide +kernel

end PackageMapper

end Ontogen
