/-!
# Ascending lists of texts

A finite set of texts is kept as the list of its members in strictly ascending
order of code points. Inserting a member that is there changes nothing.
-/

namespace Ontogen.Data

/-- Puts a text at its place among ascending texts. -/
def insertAscending (x : String) : List String → List String
  | [] => [x]
  | y :: ys =>
    if x < y then x :: y :: ys
    else if x = y then y :: ys
    else y :: insertAscending x ys

/-- The texts in ascending order, each once. -/
def ascending (xs : List String) : List String := xs.foldr insertAscending []

theorem mem_insertAscending {a x : String} {ys : List String} :
    a ∈ insertAscending x ys ↔ a = x ∨ a ∈ ys := by
  induction ys with
  | nil => simp [insertAscending]
  | cons y ys ih =>
    rw [insertAscending]
    split
    · simp
    · split
      · next h => simp [h]
      · simp only [List.mem_cons, ih]
        constructor
        · rintro (h | h | h) <;> simp [h]
        · rintro (h | h | h) <;> simp [h]

/-- Sorting keeps the members. -/
theorem mem_ascending {a : String} {xs : List String} : a ∈ ascending xs ↔ a ∈ xs := by
  induction xs with
  | nil => simp [ascending]
  | cons x xs ih =>
    rw [show ascending (x :: xs) = insertAscending x (ascending xs) from rfl,
      mem_insertAscending, ih, List.mem_cons]

theorem pairwise_insertAscending {x : String} {ys : List String} (h : ys.Pairwise (· < ·)) :
    (insertAscending x ys).Pairwise (· < ·) := by
  induction ys with
  | nil => simp [insertAscending]
  | cons y ys ih =>
    obtain ⟨hy, hys⟩ := List.pairwise_cons.mp h
    rw [insertAscending]
    split
    next hlt =>
      refine List.pairwise_cons.mpr ⟨?_, h⟩
      intro z hz
      rcases List.mem_cons.mp hz with rfl | hz
      · exact hlt
      · exact String.lt_trans hlt (hy z hz)
    next hnlt =>
      split
      next => exact h
      next hne =>
        have hyx : y < x := by
          apply Decidable.byContradiction
          intro hnot
          exact hne (String.le_antisymm (String.not_lt.mp hnot) (String.not_lt.mp hnlt))
        refine List.pairwise_cons.mpr ⟨?_, ih hys⟩
        intro z hz
        rcases mem_insertAscending.mp hz with rfl | hz
        · exact hyx
        · exact hy z hz

/-- Sorted texts are strictly ascending. -/
theorem pairwise_ascending (xs : List String) : (ascending xs).Pairwise (· < ·) := by
  induction xs with
  | nil => exact .nil
  | cons x xs ih => exact pairwise_insertAscending ih

end Ontogen.Data
