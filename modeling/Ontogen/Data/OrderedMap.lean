/-!
# Maps that keep their order of insertion

A map is the list of its entries, with no key twice. Inserting a key that is
there replaces its value and leaves it at its place; a new key goes to the end
(`keys_insert`). A look-up sees the last value inserted (`find?_insert`).
-/

namespace Ontogen.Data

/-- Entries in order of insertion, one for each key. -/
structure OrderedMap (κ ν : Type) where
  entries : List (κ × ν)
  nodup_keys : (entries.map Prod.fst).Nodup

namespace OrderedMap

variable {κ ν : Type}

/-- The map without entries. -/
def empty : OrderedMap κ ν := ⟨[], List.nodup_nil⟩

instance : EmptyCollection (OrderedMap κ ν) := ⟨empty⟩

instance : Inhabited (OrderedMap κ ν) := ⟨empty⟩

/-- The keys in order of insertion. -/
def keys (m : OrderedMap κ ν) : List κ := m.entries.map Prod.fst

/-- The values in the order of their keys. -/
def values (m : OrderedMap κ ν) : List ν := m.entries.map Prod.snd

/-- The number of entries. -/
def size (m : OrderedMap κ ν) : Nat := m.entries.length

/-- Whether there is no entry. -/
def isEmpty (m : OrderedMap κ ν) : Bool := m.entries.isEmpty

variable [DecidableEq κ]

/-! ## Lists of entries -/

/-- Replaces the value of a key, or adds the key at the end. -/
def put (k : κ) (v : ν) : List (κ × ν) → List (κ × ν)
  | [] => [(k, v)]
  | e :: es => if e.1 = k then (k, v) :: es else e :: put k v es

theorem map_fst_put (k : κ) (v : ν) (es : List (κ × ν)) :
    (put k v es).map Prod.fst
      = if k ∈ es.map Prod.fst then es.map Prod.fst else es.map Prod.fst ++ [k] := by
  induction es with
  | nil => simp [put]
  | cons e es ih =>
    rw [put]
    by_cases h : e.1 = k
    · simp [h]
    · have h' : ¬ k = e.1 := fun x => h x.symm
      rw [if_neg h, List.map_cons, ih]
      by_cases hk : k ∈ es.map Prod.fst
      · rw [if_pos hk, if_pos (by simp [List.map_cons, hk])]; rfl
      · rw [if_neg hk, if_neg (by
          rw [List.map_cons, List.mem_cons]; exact fun x => x.elim h' hk)]
        rfl

theorem nodup_put {k : κ} {v : ν} {es : List (κ × ν)} (h : (es.map Prod.fst).Nodup) :
    ((put k v es).map Prod.fst).Nodup := by
  rw [map_fst_put]
  split
  · exact h
  · next hk =>
    rw [List.nodup_append]
    refine ⟨h, by simp, ?_⟩
    intro a ha b hb hab
    rw [List.mem_singleton] at hb
    exact hk (hb ▸ hab ▸ ha)

theorem lookup_put (k k' : κ) (v : ν) (es : List (κ × ν)) :
    (put k v es).lookup k' = if k' = k then some v else es.lookup k' := by
  induction es with
  | nil =>
    rw [put, List.lookup_cons]
    by_cases h : k' = k
    · simp [h]
    · have hb : (k' == k) = false := by simp [h]
      simp [hb, h]
  | cons e es ih =>
    rw [put]
    by_cases h : e.1 = k
    · rw [if_pos h, List.lookup_cons, List.lookup_cons, h]
      by_cases h' : k' = k
      · simp [h']
      · have hb : (k' == k) = false := by simp [h']
        simp [hb, h']
    · rw [if_neg h, List.lookup_cons, ih, List.lookup_cons]
      by_cases h' : k' = e.1
      · have : ¬ k' = k := fun x => h (h'.symm.trans x)
        simp [h', h]
      · have hb : (k' == e.1) = false := by simp [h']
        simp [hb]

/-! ## Looking up and changing -/

/-- The value of a key. -/
def find? (m : OrderedMap κ ν) (k : κ) : Option ν := m.entries.lookup k

/-- Whether the key has a value. -/
def contains (m : OrderedMap κ ν) (k : κ) : Bool := (m.find? k).isSome

/-- Sets the value of a key. -/
def insert (m : OrderedMap κ ν) (k : κ) (v : ν) : OrderedMap κ ν :=
  ⟨put k v m.entries, nodup_put m.nodup_keys⟩

/-- Removes a key and its value. -/
def erase (m : OrderedMap κ ν) (k : κ) : OrderedMap κ ν :=
  ⟨m.entries.filter fun e => !decide (e.1 = k),
    m.nodup_keys.sublist (List.filter_sublist.map Prod.fst)⟩

/-- The map of some entries, of which a later one replaces an earlier one with
the same key. -/
def ofList (es : List (κ × ν)) : OrderedMap κ ν :=
  es.foldl (fun m e => m.insert e.1 e.2) empty

/-- Insertion leaves a known key at its place and puts a new one at the end. -/
theorem keys_insert (m : OrderedMap κ ν) (k : κ) (v : ν) :
    (m.insert k v).keys = if k ∈ m.keys then m.keys else m.keys ++ [k] :=
  map_fst_put k v m.entries

/-- A look-up after an insertion. -/
theorem find?_insert (m : OrderedMap κ ν) (k k' : κ) (v : ν) :
    (m.insert k v).find? k' = if k' = k then some v else m.find? k' :=
  lookup_put k k' v m.entries

end OrderedMap

end Ontogen.Data
