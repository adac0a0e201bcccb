import Mathlib.Data.List.Induction
import Mathlib.Data.List.Nodup

/-!
# Going through a list

What is known when a computation that may fail has gone through a list without
failing, and which members a list has once its repetitions are dropped.

* `mapM_eq_ok_iff`: a traversal succeeds with a value exactly when every single
  step succeeds with the value at its place.
* `nodup_eraseDups`: dropping repetitions leaves none.
* `eraseDups_append_of_nodup`: of two lists without repetitions, the second keeps
  what the first does not have.
-/

namespace Ontogen.Data

variable {α β γ ε : Type}

/-! ## Computations that may fail -/

theorem bind_eq_ok_iff {x : Except ε α} {f : α → Except ε β} {b : β} :
    (x >>= f) = .ok b ↔ ∃ a, x = .ok a ∧ f a = .ok b := by
  cases x with
  | error e =>
    constructor
    · intro h; cases h
    · rintro ⟨a, ha, -⟩; cases ha
  | ok a =>
    constructor
    · intro h; exact ⟨a, rfl, h⟩
    · rintro ⟨a', ha, hf⟩
      obtain rfl := Except.ok.inj ha
      exact hf

theorem bind_eq_error_iff {x : Except ε α} {f : α → Except ε β} {e : ε} :
    (x >>= f) = .error e ↔ x = .error e ∨ ∃ a, x = .ok a ∧ f a = .error e := by
  cases x with
  | error e' =>
    constructor
    · intro h
      obtain rfl := Except.error.inj h
      exact Or.inl rfl
    · rintro (h | ⟨a, ha, -⟩)
      · obtain rfl := Except.error.inj h
        rfl
      · cases ha
  | ok a =>
    constructor
    · intro h; exact Or.inr ⟨a, rfl, h⟩
    · rintro (h | ⟨a', ha, hf⟩)
      · cases h
      · obtain rfl := Except.ok.inj ha
        exact hf

theorem map_eq_ok_iff {x : Except ε α} {f : α → β} {b : β} :
    x.map f = .ok b ↔ ∃ a, x = .ok a ∧ f a = b := by
  cases x with
  | error e =>
    constructor
    · intro h; cases h
    · rintro ⟨a, ha, -⟩; cases ha
  | ok a =>
    constructor
    · intro h; exact ⟨a, rfl, Except.ok.inj h⟩
    · rintro ⟨a', ha, hf⟩
      obtain rfl := Except.ok.inj ha
      exact congrArg Except.ok hf

theorem map_eq_error_iff {x : Except ε α} {f : α → β} {e : ε} :
    x.map f = .error e ↔ x = .error e := by
  cases x with
  | error e' =>
    constructor
    · intro h
      obtain rfl := Except.error.inj h
      rfl
    · intro h
      obtain rfl := Except.error.inj h
      rfl
  | ok a =>
    constructor
    · intro h; cases h
    · intro h; cases h

/-- A traversal gives a list exactly when every step gives the member at its
place. `g` says what a step gives, for look-ups that turn "nothing" into an
error. -/
theorem mapM_eq_ok_iff {f : α → Except ε β} {g : α → Option β}
    (hfg : ∀ x y, f x = .ok y ↔ g x = some y) :
    ∀ {xs : List α} {ys : List β}, xs.mapM f = .ok ys ↔ xs.map g = ys.map some := by
  intro xs
  induction xs with
  | nil =>
    intro ys
    rw [List.mapM_nil, List.map_nil]
    cases ys with
    | nil => exact ⟨fun _ => rfl, fun _ => rfl⟩
    | cons y ys =>
      constructor
      · intro h; cases h
      · intro h; cases h
  | cons x xs ih =>
    intro ys
    rw [List.mapM_cons, bind_eq_ok_iff]
    constructor
    · rintro ⟨y, hy, h⟩
      obtain ⟨zs, hzs, h⟩ := bind_eq_ok_iff.mp h
      obtain rfl := Except.ok.inj h
      rw [List.map_cons, List.map_cons, (hfg x y).mp hy, ih.mp hzs]
    · intro h
      cases ys with
      | nil => cases h
      | cons y ys =>
        rw [List.map_cons, List.map_cons, List.cons.injEq] at h
        refine ⟨y, (hfg x y).mpr h.1, ?_⟩
        rw [bind_eq_ok_iff]
        exact ⟨ys, ih.mpr h.2, rfl⟩

/-- A traversal of which every step succeeds. -/
theorem mapM_eq_ok_map {f : α → Except ε β} {g : α → β} :
    ∀ {xs : List α}, (∀ x ∈ xs, f x = .ok (g x)) → xs.mapM f = .ok (xs.map g) := by
  intro xs
  induction xs with
  | nil => intro _; rfl
  | cons x xs ih =>
    intro h
    rw [List.mapM_cons, h x (List.mem_cons_self ..),
      ih fun y hy => h y (List.mem_cons_of_mem _ hy)]
    rfl

/-- A traversal gives a list exactly when its steps give the members. -/
theorem mapM_eq_ok_iff_forall₂ {f : α → Except ε β} {xs : List α} {ys : List β} :
    xs.mapM f = .ok ys ↔ List.Forall₂ (fun x y => f x = .ok y) xs ys := by
  constructor
  · intro h
    induction xs generalizing ys with
    | nil =>
      obtain rfl := Except.ok.inj h
      exact .nil
    | cons x xs ih =>
      rw [List.mapM_cons] at h
      obtain ⟨y, hy, h⟩ := bind_eq_ok_iff.mp h
      obtain ⟨zs, hzs, h⟩ := bind_eq_ok_iff.mp h
      obtain rfl := Except.ok.inj h
      exact .cons hy (ih hzs)
  · intro h
    induction h with
    | nil => rfl
    | cons hy _ ih =>
      rw [List.mapM_cons, bind_eq_ok_iff]
      exact ⟨_, hy, bind_eq_ok_iff.mpr ⟨_, ih, rfl⟩⟩

/-- What the relation tells of the second list holds of all its members. -/
theorem forall_mem_of_forall₂ {r : α → β → Prop} {P : β → Prop} {xs : List α} {ys : List β}
    (h : List.Forall₂ r xs ys) (hP : ∀ x y, r x y → P y) : ∀ y ∈ ys, P y := by
  induction h with
  | nil => exact fun y hy => by cases hy
  | cons hxy _ ih => exact List.forall_mem_cons.mpr ⟨hP _ _ hxy, ih⟩

theorem exists_mapM_eq_ok {f : α → Except ε β} {xs : List α} (h : ∀ x ∈ xs, ∃ y, f x = .ok y) :
    ∃ ys, xs.mapM f = .ok ys := by
  induction xs with
  | nil => exact ⟨[], rfl⟩
  | cons x xs ih =>
    obtain ⟨hx, hxs⟩ := List.forall_mem_cons.mp h
    obtain ⟨y, hy⟩ := hx
    obtain ⟨ys, hys⟩ := ih hxs
    refine ⟨y :: ys, ?_⟩
    rw [mapM_eq_ok_iff_forall₂] at hys ⊢
    exact .cons hy hys

/-- A traversal fails where a step fails after others that do not. -/
theorem mapM_eq_error_iff {f : α → Except ε β} {xs : List α} {e : ε} :
    xs.mapM f = .error e
      ↔ ∃ done x rest ys, xs = done ++ x :: rest ∧ done.mapM f = .ok ys ∧ f x = .error e := by
  constructor
  · intro h
    induction xs with
    | nil => cases h
    | cons x xs ih =>
      rw [List.mapM_cons, bind_eq_error_iff] at h
      rcases h with h | ⟨y, hy, h⟩
      · exact ⟨[], x, xs, [], rfl, rfl, h⟩
      · rcases bind_eq_error_iff.mp h with h | ⟨ys, -, h⟩
        · obtain ⟨done, x', rest, ys, rfl, hdone, hx'⟩ := ih h
          refine ⟨x :: done, x', rest, y :: ys, rfl, ?_, hx'⟩
          rw [mapM_eq_ok_iff_forall₂] at hdone ⊢
          exact .cons hy hdone
        · cases h
  · intro h
    obtain ⟨done, x, rest, ys, rfl, hdone, hx⟩ := h
    rw [List.mapM_append, hdone, List.mapM_cons, hx]
    rfl

/-- A traversal by look-ups gives a list exactly when none of them fails. -/
theorem mapM_eq_some_iff {f : α → Option β} {xs : List α} {ys : List β} :
    xs.mapM f = some ys ↔ (∀ x ∈ xs, (f x).isSome) ∧ ys = xs.filterMap f := by
  induction xs generalizing ys with
  | nil =>
    rw [List.mapM_nil, List.filterMap_nil]
    constructor
    · intro h
      exact ⟨List.forall_mem_nil _, (Option.some.inj h).symm⟩
    · intro h
      rw [h.2]
      rfl
  | cons x xs ih =>
    rw [List.mapM_cons, List.forall_mem_cons, Option.bind_eq_bind, Option.bind_eq_some_iff]
    constructor
    · intro h
      obtain ⟨y, hy, h⟩ := h
      obtain ⟨zs, hzs, h⟩ := Option.bind_eq_some_iff.mp h
      obtain ⟨hall, rfl⟩ := ih.mp hzs
      rw [List.filterMap_cons_some hy]
      exact ⟨⟨Option.isSome_of_eq_some hy, hall⟩, (Option.some.inj h).symm⟩
    · intro h
      obtain ⟨⟨hx, hall⟩, rfl⟩ := h
      obtain ⟨y, hy⟩ := Option.isSome_iff_exists.mp hx
      rw [List.filterMap_cons_some hy]
      exact ⟨y, hy, Option.bind_eq_some_iff.mpr ⟨_, ih.mpr ⟨hall, rfl⟩, rfl⟩⟩

/-- When a traversal gives a list, every step gives one of its members. -/
theorem exists_mem_of_mapM_eq {f : α → Except ε β} {xs : List α} {ys : List β}
    (h : xs.mapM f = .ok ys) {x : α} (hx : x ∈ xs) : ∃ y ∈ ys, f x = .ok y := by
  rw [mapM_eq_ok_iff_forall₂] at h
  induction h with
  | nil => cases hx
  | cons hy _ ih =>
    rcases List.mem_cons.mp hx with rfl | hx
    · exact ⟨_, List.mem_cons_self .., hy⟩
    · obtain ⟨y, hmem, hy⟩ := ih hx
      exact ⟨y, List.mem_cons_of_mem _ hmem, hy⟩

/-- What holds of the members of every list that a step gives holds of all of them. -/
theorem forall_mem_flatten_of_mapM {f : α → Except ε (List β)} {P : β → Prop} {xs : List α}
    {yss : List (List β)} (h : xs.mapM f = .ok yss)
    (hf : ∀ x ys, f x = .ok ys → ∀ y ∈ ys, P y) : ∀ y ∈ yss.flatten, P y := by
  rw [mapM_eq_ok_iff_forall₂] at h
  induction h with
  | nil => intro y hy; cases hy
  | cons hx _ ih =>
    rw [List.flatten_cons]
    exact List.forall_mem_append.mpr ⟨hf _ _ hx, ih⟩

/-- The images of all members are told step by step. -/
theorem map_flatten_of_mapM {f : α → Except ε (List β)} {g : β → γ} {k : α → List γ}
    {xs : List α} {yss : List (List β)} (h : xs.mapM f = .ok yss)
    (hf : ∀ x ys, f x = .ok ys → ys.map g = k x) : yss.flatten.map g = xs.flatMap k := by
  rw [mapM_eq_ok_iff_forall₂] at h
  induction h with
  | nil => rfl
  | cons hx _ ih =>
    rw [List.flatten_cons, List.map_append, List.flatMap_cons, hf _ _ hx, ih]

/-- When look-ups give a list, each of them gives one of its members. -/
theorem exists_mem_of_map_eq {g : α → Option β} {xs : List α} {ys : List β}
    (h : xs.map g = ys.map some) {x : α} (hx : x ∈ xs) : ∃ y ∈ ys, g x = some y := by
  have hmem : g x ∈ xs.map g := List.mem_map_of_mem hx
  rw [h] at hmem
  obtain ⟨y, hy, hxy⟩ := List.mem_map.mp hmem
  exact ⟨y, hy, hxy.symm⟩

/-! ## Computations with a state -/

section Runs

variable {σ : Type}

theorem run_bind (x : ExceptT ε (StateM σ) α) (f : α → ExceptT ε (StateM σ) β) (s : σ) :
    (x >>= f) s = ExceptT.bindCont f (x s).1 (x s).2 := rfl

theorem run_get_bind (f : σ → ExceptT ε (StateM σ) β) (s : σ) : (get >>= f) s = f s s := rfl

/-- The state stays where a computation leaves it that is followed by one that changes
nothing. -/
theorem run_bind_snd {x : ExceptT ε (StateM σ) α} {f : α → ExceptT ε (StateM σ) β}
    (hf : ∀ a s, (f a s).2 = s) (s : σ) : ((x >>= f) s).2 = (x s).2 := by
  rw [run_bind]
  rcases x s with ⟨e | a, u⟩
  · rfl
  · exact hf a u

/-- A computation succeeds after another one exactly when that succeeds and it succeeds from
where that ended. -/
theorem run_bind_eq_ok_iff {x : ExceptT ε (StateM σ) α} {f : α → ExceptT ε (StateM σ) β}
    {s s' : σ} {b : β} :
    (x >>= f) s = (.ok b, s') ↔ ∃ a u, x s = (.ok a, u) ∧ f a u = (.ok b, s') := by
  rw [run_bind]
  rcases x s with ⟨e | a, u⟩
  · constructor
    · intro h
      cases (Prod.mk.inj h).1
    · intro h
      obtain ⟨a, u, h, -⟩ := h
      cases (Prod.mk.inj h).1
  · constructor
    · intro h
      exact ⟨a, u, rfl, h⟩
    · intro h
      obtain ⟨a', u', h, hf⟩ := h
      obtain ⟨ha, rfl⟩ := Prod.mk.inj h
      obtain rfl := Except.ok.inj ha
      exact hf

end Runs

/-! ## Lists of what some members have -/

theorem filterMap_map_eq_map {f : α → β} {g : β → Option γ} {k : α → γ} {xs : List α}
    (h : ∀ x ∈ xs, g (f x) = some (k x)) : (xs.map f).filterMap g = xs.map k := by
  induction xs with
  | nil => rfl
  | cons x xs ih =>
    rw [List.map_cons, List.filterMap_cons_some (h x (List.mem_cons_self ..)), List.map_cons,
      ih fun y hy => h y (List.mem_cons_of_mem _ hy)]

theorem filterMap_map_eq_nil {f : α → β} {g : β → Option γ} {xs : List α}
    (h : ∀ x ∈ xs, g (f x) = none) : (xs.map f).filterMap g = [] := by
  rw [List.filterMap_eq_nil_iff]
  intro y hy
  obtain ⟨x, hx, rfl⟩ := List.mem_map.mp hy
  exact h x hx

theorem findSome?_flatMap (f : α → List β) (g : β → Option γ) (xs : List α) :
    (xs.flatMap f).findSome? g = xs.findSome? fun x => (f x).findSome? g := by
  induction xs with
  | nil => rfl
  | cons x xs ih =>
    rw [List.flatMap_cons, List.findSome?_append, List.findSome?_cons, ih]
    cases (f x).findSome? g <;> rfl

/-- What all members have, the first of them has. -/
theorem findSome?_const {xs : List α} (h : xs ≠ []) (y : Option β) :
    xs.findSome? (fun _ => y) = y := by
  cases y with
  | none => exact List.findSome?_eq_none_iff.mpr fun _ _ => rfl
  | some y =>
    cases xs with
    | nil => exact absurd rfl h
    | cons x xs => rfl

/-! ## Lists without repetitions -/

theorem nodup_eraseDups [DecidableEq α] (xs : List α) : xs.eraseDups.Nodup := by
  induction hn : xs.length using Nat.strongRecOn generalizing xs with
  | ind n ih =>
    cases xs with
    | nil => rw [List.eraseDups_nil]; exact List.nodup_nil
    | cons x xs =>
      rw [List.eraseDups_cons, List.nodup_cons]
      constructor
      · intro h
        rw [List.mem_eraseDups, List.mem_filter] at h
        simp at h
      · refine ih _ ?_ (xs.filter fun y => !y == x) rfl
        have hle := List.length_filter_le (fun y => !y == x) xs
        rw [List.length_cons] at hn
        omega

/-- A member at the end is dropped if it is a repetition. -/
theorem eraseDups_concat [DecidableEq α] (xs : List α) (x : α) :
    (xs ++ [x]).eraseDups = if x ∈ xs then xs.eraseDups else xs.eraseDups ++ [x] := by
  rw [List.eraseDups_append]
  split
  next h =>
    have hrest : [x].removeAll xs = [] := by simp [List.removeAll, h]
    rw [hrest, List.eraseDups_nil, List.append_nil]
  next h =>
    have hrest : [x].removeAll xs = [x] := by simp [List.removeAll, h]
    rw [hrest]
    rfl

/-- What is left comes in the order of the first places. -/
theorem pairwise_idxOf_eraseDups [DecidableEq α] (xs : List α) :
    xs.eraseDups.Pairwise fun x y => xs.idxOf x < xs.idxOf y := by
  induction xs using List.reverseRecOn with
  | nil =>
    rw [List.eraseDups_nil]
    exact List.Pairwise.nil
  | append_singleton xs x ih =>
    -- Members that were there keep their first places, and a new one comes after all of them.
    have hkept : ∀ y ∈ xs.eraseDups, (xs ++ [x]).idxOf y = xs.idxOf y := by
      intro y hy
      exact List.idxOf_append_of_mem (List.mem_eraseDups.mp hy)
    have hold : xs.eraseDups.Pairwise fun y z => (xs ++ [x]).idxOf y < (xs ++ [x]).idxOf z := by
      refine ih.imp_of_mem ?_
      intro y z hy hz hlt
      rwa [hkept y hy, hkept z hz]
    rw [eraseDups_concat]
    by_cases hx : x ∈ xs
    · rwa [if_pos hx]
    · rw [if_neg hx, List.pairwise_append]
      refine ⟨hold, List.pairwise_singleton _ _, ?_⟩
      intro y hy z hz
      rw [List.mem_singleton.mp hz, hkept y hy, List.idxOf_append_of_notMem hx,
        List.idxOf_cons_self]
      exact List.idxOf_lt_length_of_mem (List.mem_eraseDups.mp hy)

theorem eraseDups_of_nodup [DecidableEq α] {xs : List α} (h : xs.Nodup) : xs.eraseDups = xs := by
  induction xs using List.reverseRecOn with
  | nil => rfl
  | append_singleton xs x ih =>
    rw [List.nodup_append] at h
    have hx : x ∉ xs := fun hx => h.2.2 x hx x (List.mem_cons_self ..) rfl
    rw [eraseDups_concat, if_neg hx, ih h.1]

/-- Of two lists without repetitions, the second keeps what the first does not
have. -/
theorem eraseDups_append_of_nodup [DecidableEq α] {xs ys : List α} (hxs : xs.Nodup)
    (hys : ys.Nodup) : (xs ++ ys).eraseDups = xs ++ ys.filter fun y => !decide (y ∈ xs) := by
  have hrest : ys.removeAll xs = ys.filter fun y => !decide (y ∈ xs) := by
    simp only [List.removeAll, List.elem_eq_mem]
  rw [List.eraseDups_append, eraseDups_of_nodup hxs, hrest, eraseDups_of_nodup (hys.filter _)]

end Ontogen.Data
