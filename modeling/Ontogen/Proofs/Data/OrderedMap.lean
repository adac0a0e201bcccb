import Ontogen.Data.OrderedMap
import Ontogen.Proofs.Data.Traversal

/-!
# Laws of maps that keep their order

A map is its list of entries (`ext_entries`), and a look-up finds just the value
that is entered with the key (`find?_eq_some_iff`). Values can be computed from
the entries, key by key (`mapValues`); that commutes with insertion
(`mapValues_insert`), so a map that is filled with computed values is the map of
the plain values, computed at the end.
-/

namespace Ontogen.Data.OrderedMap

variable {κ ν μ : Type}

theorem ext_entries {m n : OrderedMap κ ν} (h : m.entries = n.entries) : m = n := by
  cases m
  cases n
  cases h
  rfl

/-- Computes the values of a map from its keys and values. -/
def mapValues (f : κ → ν → μ) (m : OrderedMap κ ν) : OrderedMap κ μ where
  entries := m.entries.map fun e => (e.1, f e.1 e.2)
  nodup_keys := by
    rw [List.map_map]
    exact m.nodup_keys

variable [DecidableEq κ]

/-! ## Looking up -/

/-- A look-up gives the value that is entered with the key. -/
theorem find?_eq_some_iff {m : OrderedMap κ ν} {k : κ} {v : ν} :
    m.find? k = some v ↔ (k, v) ∈ m.entries := by
  rw [find?, List.lookup_eq_some_iff]
  constructor
  · rintro ⟨front, back, hsplit, -⟩
    rw [hsplit]
    exact List.mem_append_right _ (List.mem_cons_self ..)
  · intro h
    obtain ⟨front, back, hsplit⟩ := List.append_of_mem h
    refine ⟨front, back, hsplit, ?_⟩
    intro e he
    have hnodup := m.nodup_keys
    rw [hsplit, List.map_append, List.nodup_append] at hnodup
    -- A key in front of the entry is another one.
    have hne : k ≠ e.1 := fun hk =>
      hnodup.2.2 e.1 (List.mem_map_of_mem he) k (List.mem_cons_self ..) hk.symm
    simpa using hne

theorem mem_values_of_find? {m : OrderedMap κ ν} {k : κ} {v : ν} (h : m.find? k = some v) :
    v ∈ m.values :=
  List.mem_map_of_mem (f := Prod.snd) (find?_eq_some_iff.mp h)

/-- The keys are those that have a value. -/
theorem mem_keys_iff {m : OrderedMap κ ν} {k : κ} : k ∈ m.keys ↔ ∃ v, m.find? k = some v := by
  constructor
  · intro h
    obtain ⟨e, he, rfl⟩ := List.mem_map.mp h
    exact ⟨e.2, find?_eq_some_iff.mpr he⟩
  · rintro ⟨v, h⟩
    exact List.mem_map_of_mem (f := Prod.fst) (find?_eq_some_iff.mp h)

theorem find?_eq_none_iff {m : OrderedMap κ ν} {k : κ} : m.find? k = none ↔ k ∉ m.keys := by
  rw [mem_keys_iff, Option.eq_none_iff_forall_ne_some]
  exact not_exists.symm

/-- The entries are told by the keys and what is found with them. -/
theorem entries_eq_map_keys (m : OrderedMap κ ν) (d : ν) :
    m.entries = m.keys.map fun k => (k, (m.find? k).getD d) := by
  rw [keys, List.map_map]
  refine (List.map_id _).symm.trans (List.map_congr_left ?_)
  intro e he
  have hfind : m.find? e.1 = some e.2 := find?_eq_some_iff.mpr he
  show e = (e.1, (m.find? e.1).getD d)
  rw [hfind]
  rfl

/-- Look-ups of keys give a list of values. -/
theorem exists_map_find?_eq {m : OrderedMap κ ν} {ks : List κ} (h : ∀ k ∈ ks, k ∈ m.keys) :
    ∃ vs : List ν, ks.map m.find? = vs.map some := by
  induction ks with
  | nil => exact ⟨[], rfl⟩
  | cons k ks ih =>
    obtain ⟨hk, hks⟩ := List.forall_mem_cons.mp h
    obtain ⟨v, hv⟩ := mem_keys_iff.mp hk
    obtain ⟨vs, hvs⟩ := ih hks
    exact ⟨v :: vs, by rw [List.map_cons, List.map_cons, hv, hvs]⟩

/-! ## Erasing -/

theorem entries_erase (m : OrderedMap κ ν) (k : κ) :
    (m.erase k).entries = m.entries.filter fun e => !decide (e.1 = k) := rfl

/-- Nothing is erased with a key that is not there. -/
theorem erase_of_not_mem {m : OrderedMap κ ν} {k : κ} (h : k ∉ m.keys) : m.erase k = m := by
  apply ext_entries
  rw [entries_erase, List.filter_eq_self]
  intro e he
  have hne : e.1 ≠ k := fun hk => h (hk ▸ List.mem_map_of_mem he)
  simpa using hne

/-- Other keys keep their values. -/
theorem find?_erase_of_ne {m : OrderedMap κ ν} {k k' : κ} (h : k' ≠ k) :
    (m.erase k).find? k' = m.find? k' := by
  apply Option.ext
  intro v
  rw [find?_eq_some_iff, find?_eq_some_iff, entries_erase, List.mem_filter]
  simp [h]

theorem contains_iff_mem_keys {m : OrderedMap κ ν} {k : κ} :
    m.contains k = true ↔ k ∈ m.keys := by
  rw [contains, Option.isSome_iff_exists, mem_keys_iff]

/-! ## Inserting -/

theorem put_of_not_mem {k : κ} {v : ν} {es : List (κ × ν)} (h : k ∉ es.map Prod.fst) :
    put k v es = es ++ [(k, v)] := by
  induction es with
  | nil => rfl
  | cons e es ih =>
    rw [List.map_cons, List.mem_cons, not_or] at h
    rw [put, if_neg fun he => h.1 he.symm, ih h.2, List.cons_append]

theorem put_of_lookup {k : κ} {v : ν} {es : List (κ × ν)} (h : es.lookup k = some v) :
    put k v es = es := by
  induction es with
  | nil => cases h
  | cons e es ih =>
    rw [put]
    by_cases he : e.1 = k
    · subst he
      rw [List.lookup_cons_self, Option.some.injEq] at h
      rw [if_pos rfl, ← h]
    · have hb : (k == e.1) = false := by simpa using fun hk : k = e.1 => he hk.symm
      rw [List.lookup_cons, hb] at h
      rw [if_neg he, ih h]

theorem put_put (k : κ) (v v' : ν) (es : List (κ × ν)) :
    put k v' (put k v es) = put k v' es := by
  induction es with
  | nil => simp only [put, if_true]
  | cons e es ih =>
    rw [put, put]
    by_cases he : e.1 = k
    · rw [if_pos he, if_pos he, put, if_pos rfl]
    · rw [if_neg he, if_neg he, put, if_neg he, ih]

/-- Of two insertions of a key the later one counts. -/
theorem insert_insert (m : OrderedMap κ ν) (k : κ) (v v' : ν) :
    (m.insert k v).insert k v' = m.insert k v' :=
  ext_entries (put_put k v v' m.entries)

theorem entries_insert_of_not_mem {m : OrderedMap κ ν} {k : κ} (v : ν) (h : k ∉ m.keys) :
    (m.insert k v).entries = m.entries ++ [(k, v)] :=
  put_of_not_mem h

theorem put_map (f : κ → ν → μ) (k : κ) (v : ν) (es : List (κ × ν)) :
    put k (f k v) (es.map fun e => (e.1, f e.1 e.2))
      = (put k v es).map fun e => (e.1, f e.1 e.2) := by
  induction es with
  | nil => rfl
  | cons e es ih =>
    rw [List.map_cons, put, put]
    by_cases he : e.1 = k
    · rw [if_pos he, if_pos he, List.map_cons]
    · rw [if_neg he, if_neg he, List.map_cons, ih]

/-- Inserting a computed value is computing the value of an insertion. -/
theorem mapValues_insert (f : κ → ν → μ) (m : OrderedMap κ ν) (k : κ) (v : ν) :
    (m.mapValues f).insert k (f k v) = (m.insert k v).mapValues f :=
  ext_entries (put_map f k v m.entries)

/-! ## Maps of lists -/

theorem entries_foldl_insert {es : List (κ × ν)} :
    ∀ {m : OrderedMap κ ν}, ((m.entries ++ es).map Prod.fst).Nodup →
      (es.foldl (fun m e => m.insert e.1 e.2) m).entries = m.entries ++ es := by
  induction es with
  | nil => intro m _; rw [List.foldl_nil, List.append_nil]
  | cons e es ih =>
    intro m h
    have hnew : e.1 ∉ m.entries.map Prod.fst := by
      rw [List.map_append, List.nodup_append] at h
      intro hmem
      exact h.2.2 e.1 hmem e.1 (List.mem_cons_self ..) rfl
    have hput : (m.insert e.1 e.2).entries = m.entries ++ [e] := put_of_not_mem hnew
    have happ : m.entries ++ [e] ++ es = m.entries ++ e :: es := by
      rw [List.append_assoc, List.singleton_append]
    rw [List.foldl_cons, ih (by rw [hput, happ]; exact h), hput, happ]

/-- A list without repeated keys is the list of entries of its map. -/
theorem entries_ofList {es : List (κ × ν)} (h : (es.map Prod.fst).Nodup) :
    (ofList es).entries = es := by
  rw [ofList, entries_foldl_insert (by exact h)]
  rfl

theorem ofList_concat (es : List (κ × ν)) (e : κ × ν) :
    ofList (es ++ [e]) = (ofList es).insert e.1 e.2 := by
  rw [ofList, List.foldl_append]
  rfl

/-- Of the entries for a key the last one counts. -/
theorem find?_ofList_of_last {k : κ} {v : ν} {front back : List (κ × ν)}
    (h : k ∉ back.map Prod.fst) : (ofList (front ++ (k, v) :: back)).find? k = some v := by
  induction back using List.reverseRecOn with
  | nil => rw [ofList_concat, find?_insert, if_pos rfl]
  | append_singleton back e ih =>
    rw [List.map_append, List.mem_append, not_or, List.map_singleton, List.mem_singleton] at h
    rw [← List.cons_append, ← List.append_assoc, ofList_concat, find?_insert, if_neg h.2]
    exact ih h.1

theorem find?_ofList_of_not_mem {k : κ} {es : List (κ × ν)} (h : k ∉ es.map Prod.fst) :
    (ofList es).find? k = none := by
  induction es using List.reverseRecOn with
  | nil => rfl
  | append_singleton es e ih =>
    rw [List.map_append, List.mem_append, not_or, List.map_singleton, List.mem_singleton] at h
    rw [ofList_concat, find?_insert, if_neg h.2]
    exact ih h.1

/-- When every key has a value of its own, that is what is entered with it, at the
place where the key is first. -/
theorem entries_ofList_map (f : κ → ν) (ks : List κ) :
    (ofList (ks.map fun k => (k, f k))).entries = ks.eraseDups.map fun k => (k, f k) := by
  induction ks using List.reverseRecOn with
  | nil => rfl
  | append_singleton ks k ih =>
    have hkeys : (ofList (ks.map fun k => (k, f k))).keys = ks.eraseDups := by
      rw [keys, ih, List.map_map]
      exact List.map_id _
    rw [List.map_append, List.map_singleton, ofList_concat, Data.eraseDups_concat]
    by_cases hk : k ∈ ks
    · have hfind : (ofList (ks.map fun k => (k, f k))).find? k = some (f k) := by
        rw [find?_eq_some_iff, ih]
        exact List.mem_map_of_mem (List.mem_eraseDups.mpr hk)
      rw [if_pos hk, ← ih]
      exact put_of_lookup hfind
    · have hnew : k ∉ (ofList (ks.map fun k => (k, f k))).keys := by
        rwa [hkeys, List.mem_eraseDups]
      rw [if_neg hk, entries_insert_of_not_mem _ hnew, ih, List.map_append, List.map_singleton]

theorem find?_ofList_map (f : κ → ν) (ks : List κ) (k : κ) :
    (ofList (ks.map fun k => (k, f k))).find? k = if k ∈ ks then some (f k) else none := by
  split
  next hk =>
    rw [find?_eq_some_iff, entries_ofList_map]
    exact List.mem_map_of_mem (List.mem_eraseDups.mpr hk)
  next hk =>
    rw [Option.eq_none_iff_forall_ne_some]
    intro v hv
    rw [find?_eq_some_iff, entries_ofList_map, List.mem_map] at hv
    obtain ⟨k', hk', heq⟩ := hv
    exact hk ((Prod.mk.inj heq).1 ▸ List.mem_eraseDups.mp hk')

end Ontogen.Data.OrderedMap
