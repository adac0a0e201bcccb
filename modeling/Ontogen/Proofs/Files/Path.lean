import Mathlib.Data.List.Basic
import Mathlib.Data.List.Induction
import Ontogen.Files.Path

/-!
# Paths of files in directories

A plain name is one that leads from a directory to something in it. Joining a
directory and a plain name gives a path that goes through the steps of the
directory first and ends with the name (`steps_joinPath`), so its place is the place
of the directory and then the name (`locate_joinPath`). What such paths name is the
same exactly when the names are the same and the directories are one place, however
these are written.
-/

namespace Ontogen.Files

/-- A name that something in a directory can have. -/
structure IsPlain (name : String) : Prop where
  ne_empty : name ≠ ""
  no_slash : '/' ∉ name.toList
  ne_point : name ≠ "."
  ne_points : name ≠ ".."

namespace IsPlain

variable {name : String}

/-- A name of more than two characters without a slash is plain. -/
theorem of_length (hlength : 2 < name.length) (hslash : '/' ∉ name.toList) : IsPlain name := by
  have hne : ∀ short : String, short.length ≤ 2 → name ≠ short := by
    intro short hshort heq
    rw [heq] at hlength
    omega
  exact ⟨hne "" (by decide), hslash, hne "." (by decide), hne ".." (by decide)⟩

theorem head?_ne (h : IsPlain name) : name.toList.head? ≠ some '/' := fun hhead =>
  h.no_slash (List.mem_of_mem_head? hhead)

theorem getLast?_ne (h : IsPlain name) : name.toList.getLast? ≠ some '/' := fun hlast =>
  h.no_slash (List.mem_of_getLast? hlast)

theorem step (h : IsPlain name) (l : Location) : l.step name = l ++ [name] := by
  rw [Location.step, if_neg h.ne_point, if_neg h.ne_points]

end IsPlain

/-! ## Steps -/

/-- The steps of a text of two parts with a slash between them. -/
theorem steps_append_slash (s t : List Char) :
    steps (String.ofList (s ++ '/' :: t)) = steps (String.ofList s) ++ steps (String.ofList t) := by
  simp only [steps, String.toList_ofList, List.splitOn_append_cons_self, List.map_append,
    List.filter_append]

theorem steps_empty : steps "" = [] := by decide

theorem steps_plain {name : String} (h : IsPlain name) : steps name = [name] := by
  have hsplit : name.toList.splitOn '/' = [name.toList] := by
    refine List.splitOnP_eq_singleton fun c hc => ?_
    rw [beq_eq_false_iff_ne]
    rintro rfl
    exact h.no_slash hc
  have hkeep : (name != "") = true := by simpa using h.ne_empty
  rw [steps, hsplit, List.map_singleton, String.ofList_toList,
    List.filter_cons_of_pos (p := (· != "")) hkeep, List.filter_nil]

/-- What a directory and a plain name are joined to: the name alone, or a text with a
slash between the steps of the directory and the name. -/
theorem joinPath_cases (directory : String) {name : String} (h : IsPlain name) :
    directory = "" ∧ joinPath directory name = name
      ∨ ∃ front, joinPath directory name = String.ofList (front ++ '/' :: name.toList)
          ∧ steps directory = steps (String.ofList front)
          ∧ directory.toList.head? = (front ++ ['/']).head? := by
  have hname := h.head?_ne
  by_cases hempty : directory = ""
  · left
    refine ⟨hempty, ?_⟩
    rw [joinPath, if_neg hname, if_pos (Or.inl hempty), hempty, String.empty_append]
  right
  by_cases hlast : directory.toList.getLast? = some '/'
  · -- The slash is the last character of the directory.
    obtain ⟨front, hfront⟩ := List.getLast?_eq_some_iff.mp hlast
    have hdir : directory = String.ofList (front ++ ['/']) := by
      rw [← hfront, String.ofList_toList]
    refine ⟨front, ?_, ?_, ?_⟩
    · rw [joinPath, if_neg hname, if_pos (Or.inr hlast)]
      apply String.toList_injective
      rw [String.toList_append, String.toList_ofList, hfront, List.append_assoc,
        List.singleton_append]
    · have hnil : String.ofList [] = "" := rfl
      rw [hdir, steps_append_slash, hnil, steps_empty, List.append_nil]
    · rw [hfront]
  · refine ⟨directory.toList, ?_, ?_, ?_⟩
    · rw [joinPath, if_neg hname, if_neg (not_or.mpr ⟨hempty, hlast⟩)]
      apply String.toList_injective
      simp
    · rw [String.ofList_toList]
    · have hne : directory.toList ≠ [] := fun hnil => hempty (String.toList_eq_nil_iff.mp hnil)
      obtain ⟨c, s, hs⟩ := List.exists_cons_of_ne_nil hne
      rw [hs]
      rfl

theorem steps_joinPath (directory : String) {name : String} (h : IsPlain name) :
    steps (joinPath directory name) = steps directory ++ [name] := by
  rcases joinPath_cases directory h with ⟨rfl, hjoin⟩ | ⟨front, hjoin, hsteps, -⟩
  · rw [hjoin, steps_plain h, steps_empty, List.nil_append]
  · rw [hjoin, steps_append_slash, String.ofList_toList, steps_plain h, hsteps]

theorem start_joinPath (directory : String) {name : String} (h : IsPlain name) :
    start (joinPath directory name) = start directory := by
  rcases joinPath_cases directory h with ⟨rfl, hjoin⟩ | ⟨front, hjoin, -, hhead⟩
  · rw [hjoin, start, if_neg h.head?_ne]
    rfl
  · have hhead' : (joinPath directory name).toList.head? = directory.toList.head? := by
      rw [hjoin, String.toList_ofList, hhead]
      cases front <;> rfl
    rw [start, start, hhead']

theorem joinPath_ne_empty (directory : String) {name : String} (h : IsPlain name) :
    joinPath directory name ≠ "" := by
  intro hempty
  have hsteps := steps_joinPath directory h
  rw [hempty, steps_empty] at hsteps
  exact absurd hsteps.symm (List.append_ne_nil_of_right_ne_nil _ (List.cons_ne_nil _ _))

theorem getLast?_joinPath (directory : String) {name : String} (h : IsPlain name) :
    (joinPath directory name).toList.getLast? ≠ some '/' := by
  have hne : name.toList ≠ [] := fun hnil => h.ne_empty (String.toList_eq_nil_iff.mp hnil)
  rcases joinPath_cases directory h with ⟨-, hjoin⟩ | ⟨front, hjoin, -, -⟩
  · rw [hjoin]
    exact h.getLast?_ne
  · rw [hjoin, String.toList_ofList, List.append_cons,
      List.getLast?_append_of_ne_nil _ hne]
    exact h.getLast?_ne

/-- What joining puts between a directory and a name: a slash, unless the directory is empty
or ends in one. -/
def slashAfter (directory : String) : String :=
  if directory = "" ∨ directory.toList.getLast? = some '/' then "" else "/"

theorem joinPath_eq (directory : String) {name : String} (h : IsPlain name) :
    joinPath directory name = directory ++ slashAfter directory ++ name := by
  rw [joinPath, if_neg h.head?_ne, slashAfter]
  split
  next => rw [String.append_empty]
  next => rfl

/-! ## Several parts -/

theorem joinParts_concat (directory : String) (names : List String) (name : String) :
    joinParts directory (names ++ [name]) = joinPath (joinParts directory names) name := by
  rw [joinParts, List.foldl_append]
  rfl

section Parts

variable {directory : String} {names : List String}

theorem steps_joinParts (h : ∀ name ∈ names, IsPlain name) :
    steps (joinParts directory names) = steps directory ++ names := by
  induction names using List.reverseRecOn with
  | nil => exact (List.append_nil _).symm
  | append_singleton names name ih =>
    obtain ⟨hnames, hname⟩ := List.forall_mem_append.mp h
    rw [joinParts_concat, steps_joinPath _ (hname name (List.mem_singleton_self _)), ih hnames,
      List.append_assoc]

theorem start_joinParts (h : ∀ name ∈ names, IsPlain name) :
    start (joinParts directory names) = start directory := by
  induction names using List.reverseRecOn with
  | nil => rfl
  | append_singleton names name ih =>
    obtain ⟨hnames, hname⟩ := List.forall_mem_append.mp h
    rw [joinParts_concat, start_joinPath _ (hname name (List.mem_singleton_self _)), ih hnames]

/-- Plain names are joined with a slash between each two of them. -/
theorem joinParts_eq (hne : names ≠ []) (h : ∀ name ∈ names, IsPlain name) :
    joinParts directory names
      = directory ++ slashAfter directory ++ String.intercalate "/" names := by
  induction names using List.reverseRecOn with
  | nil => exact absurd rfl hne
  | append_singleton names name ih =>
    obtain ⟨hnames, hname⟩ := List.forall_mem_append.mp h
    have hlast := hname name (List.mem_singleton_self _)
    rw [joinParts_concat, joinPath_eq _ hlast]
    by_cases hnil : names = []
    · rw [hnil, List.nil_append, String.intercalate_singleton]
      rfl
    · -- What was joined before is not empty and does not end in a slash.
      obtain ⟨front, last, rfl⟩ := (List.eq_nil_or_concat' names).resolve_left hnil
      have hplain := hnames last (List.mem_append_right _ (List.mem_singleton_self _))
      have hslash : slashAfter (joinParts directory (front ++ [last])) = "/" := by
        rw [joinParts_concat, slashAfter]
        exact if_neg (not_or.mpr ⟨joinPath_ne_empty _ hplain, getLast?_joinPath _ hplain⟩)
      rw [hslash, ih hnil hnames,
        String.intercalate_append_of_ne_nil hnil (List.cons_ne_nil _ _),
        String.intercalate_singleton]
      simp only [String.append_assoc]

end Parts

/-! ## Places -/

/-- The place of something in a directory is in the place of the directory. -/
theorem locate_joinPath (directory : String) {name : String} (h : IsPlain name) :
    locate (joinPath directory name) = locate directory ++ [name] := by
  rw [locate, steps_joinPath directory h, start_joinPath directory h, List.foldl_append,
    List.foldl_cons, List.foldl_nil, h.step, locate]

theorem foldl_step_plain {names : List String} (h : ∀ name ∈ names, IsPlain name)
    (l : Location) : names.foldl Location.step l = l ++ names := by
  induction names generalizing l with
  | nil => exact (List.append_nil l).symm
  | cons name names ih =>
    obtain ⟨hname, hnames⟩ := List.forall_mem_cons.mp h
    rw [List.foldl_cons, hname.step, ih hnames, List.append_assoc, List.singleton_append]

/-- Plain names lead from the place of a directory down to a place in it. -/
theorem locate_joinParts {directory : String} {names : List String}
    (h : ∀ name ∈ names, IsPlain name) :
    locate (joinParts directory names) = locate directory ++ names := by
  rw [locate, steps_joinParts h, start_joinParts h, List.foldl_append, foldl_step_plain h]
  rfl

/-! ## Parts between points -/

theorem pointParts_ne_nil (s : String) : pointParts s ≠ [] := by
  rw [pointParts, ne_eq, List.map_eq_nil_iff]
  exact List.splitOn_ne_nil _ _

theorem pointParts_append (s t : String) :
    pointParts (s ++ "." ++ t) = pointParts s ++ pointParts t := by
  have hchars : (s ++ "." ++ t).toList = s.toList ++ '.' :: t.toList := by simp
  rw [pointParts, hchars, List.splitOn_append_cons_self, List.map_append]
  rfl

end Ontogen.Files
