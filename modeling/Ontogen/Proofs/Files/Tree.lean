import Ontogen.Files.Tree
import Ontogen.Proofs.Data.OrderedMap
import Ontogen.Proofs.Files.Path

/-!
# Writing files into trees

Writing a file makes directories and stores a text. The directories that are made
touch no file and turn no file into a directory (`Extends`). Every place on the way
to them is reached through directories alone (`Open`): a name leads to a directory
that is there or is made, and a double point leads back to where the way has been.
So a file that was written can be read (`read_write_same`), and a file that could be
read before still can, with its own text unless it has the place of the new one
(`read_write`).
-/

namespace Ontogen.Files

open Data (OrderedMap)

namespace FileTree

variable {t u : FileTree}

/-! ## Making directories -/

/-- The second tree has the files of the first one, its directories, and other
directories that are at the place of no file. -/
structure Extends (t u : FileTree) : Prop where
  files : u.files = t.files
  isDirectory : ∀ {l}, t.isDirectory l = true → u.isDirectory l = true
  apart : ∀ {l}, t.isFile l = true → t.isDirectory l = false → u.isDirectory l = false

namespace Extends

theorem refl (t : FileTree) : Extends t t := ⟨rfl, id, fun _ => id⟩

theorem isFile (h : Extends t u) (l : Location) : u.isFile l = t.isFile l := by
  rw [FileTree.isFile, h.files, FileTree.isFile]

theorem trans {v : FileTree} (h : Extends t u) (h' : Extends u v) : Extends t v where
  files := h'.files.trans h.files
  isDirectory := fun hl => h'.isDirectory (h.isDirectory hl)
  apart := fun {l} hfile hl => h'.apart (by rw [h.isFile, hfile]) (h.apart hfile hl)

end Extends

theorem isDirectory_make (t : FileTree) (l k : Location) :
    ({ t with directories := t.directories ++ [l] } : FileTree).isDirectory k
      = (t.isDirectory k || k == l) := by
  simp only [isDirectory, List.contains_append, List.contains_cons, List.contains_nil,
    Bool.or_false, Bool.or_assoc]

/-- Where no file is a directory can be made. -/
theorem extends_make {l : Location} (h : t.isFile l = false) :
    Extends t { t with directories := t.directories ++ [l] } where
  files := rfl
  isDirectory := fun hk => by rw [isDirectory_make, hk, Bool.true_or]
  apart := fun {k} hfile hk => by
    have hne : (k == l) = false := by
      rw [beq_eq_false_iff_ne]
      rintro rfl
      rw [h] at hfile
      cases hfile
    rw [isDirectory_make, hk, hne, Bool.false_or]

/-- A step of a way meets an obstacle, or the way goes on from where it leads in a tree
that has a directory there and no other new one. What a double point leads to is not looked
at. -/
theorem makeAlong_cons (t : FileTree) (l : Location) (bytes : Nat) (part : String)
    (rest : List String) :
    (∃ e, t.makeAlong l bytes (part :: rest) = (t, .error e))
      ∨ ∃ u, Extends t u ∧ (part = "." ∨ part = ".." ∨ u.isDirectory (l.step part) = true)
        ∧ (∀ {k}, u.isDirectory k = true → t.isDirectory k = true ∨ k = l.step part)
        ∧ t.makeAlong l bytes (part :: rest)
          = u.makeAlong (l.step part) (bytesThrough bytes part) rest := by
  rw [makeAlong.eq_def t l bytes (part :: rest)]
  cases hcheck : checkPart part (bytesThrough bytes part) with
  | error e =>
    simp only [hcheck]
    exact Or.inl ⟨e, rfl⟩
  | ok _ =>
    simp only [hcheck]
    by_cases hpoints : part = "." ∨ part = ".."
    · exact Or.inr ⟨t, .refl t, hpoints.imp_right Or.inl, Or.inl, if_pos hpoints⟩
    rw [if_neg hpoints]
    by_cases hfile : t.isFile (l.step part) = true
    · exact Or.inl ⟨_, if_pos hfile⟩
    rw [if_neg hfile]
    by_cases hdir : t.isDirectory (l.step part) = true
    · exact Or.inr ⟨t, .refl t, Or.inr (Or.inr hdir), Or.inl, if_pos hdir⟩
    · refine Or.inr ⟨_, extends_make (by simpa using hfile), Or.inr (Or.inr ?_), ?_, if_neg hdir⟩
      · rw [isDirectory_make, beq_self_eq_true, Bool.or_true]
      · intro k hk
        rwa [isDirectory_make, Bool.or_eq_true, beq_iff_eq] at hk

/-- Also a way that ends at an obstacle has only made directories until there. -/
theorem extends_makeAlong (t : FileTree) (l : Location) (bytes : Nat) (parts : List String) :
    Extends t (t.makeAlong l bytes parts).1 := by
  induction parts generalizing t l bytes with
  | nil => exact .refl t
  | cons part rest ih =>
    rcases makeAlong_cons t l bytes part rest with ⟨e, h⟩ | ⟨u, hext, -, -, h⟩
    · rw [h]
      exact .refl t
    · rw [h]
      exact hext.trans (ih ..)

/-- The directories that are made lie on the way. -/
theorem isDirectory_makeAlong {t : FileTree} {l k : Location} {bytes : Nat}
    {parts : List String} (h : (t.makeAlong l bytes parts).1.isDirectory k = true) :
    t.isDirectory k = true ∨ ∃ n, k = (parts.take n).foldl Location.step l := by
  induction parts generalizing t l bytes with
  | nil => exact Or.inl h
  | cons part rest ih =>
    rcases makeAlong_cons t l bytes part rest with ⟨e, he⟩ | ⟨u, -, -, hnew, hrest⟩
    · rw [he] at h
      exact Or.inl h
    · rw [hrest] at h
      rcases ih h with hk | ⟨n, rfl⟩
      · rcases hnew hk with hk | rfl
        · exact Or.inl hk
        · exact Or.inr ⟨1, rfl⟩
      · exact Or.inr ⟨n + 1, rfl⟩

/-! ## The way to a directory -/

/-- A place that is reached through directories alone. -/
inductive Open (t : FileTree) : Location → Prop where
  /-- The directories around the working directory are there. -/
  | around {l : Location} (h : l.isAround = true) : t.Open l
  /-- So is a directory in a place that is reached. -/
  | inside {l : Location} {name : String} (h : t.Open l) (hname : name ≠ "..")
      (hdir : t.isDirectory (l ++ [name]) = true) : t.Open (l ++ [name])

namespace Open

variable {l : Location}

theorem isDirectory (h : t.Open l) : t.isDirectory l = true := by
  cases h with
  | around h => rw [FileTree.isDirectory, h, Bool.true_or]
  | inside _ _ hdir => exact hdir

theorem mono (h : t.Open l) (hext : Extends t u) : u.Open l := by
  induction h with
  | around h => exact .around h
  | inside _ hname hdir ih => exact .inside ih hname (hext.isDirectory hdir)

/-- A double point leads back to where the way has been, or further out. -/
theorem step_back (h : t.Open l) : t.Open (l.step "..") := by
  have hne : ".." ≠ "." := by decide
  rw [Location.step, if_neg hne, if_pos rfl]
  cases h with
  | around h =>
    split
    next => exact .around rfl
    next hlast =>
      refine .around ?_
      rw [Location.isAround, List.all_append]
      exact Bool.and_eq_true_iff.mpr ⟨h, rfl⟩
    next => exact .around h
    next p hpoints hroot hlast =>
      have hp := List.all_eq_true.mp h p (List.mem_of_getLast? hlast)
      rw [Bool.or_eq_true, beq_iff_eq, beq_iff_eq] at hp
      rcases hp with rfl | rfl
      · exact (hpoints rfl).elim
      · exact (hroot rfl).elim
  | inside h hname hdir =>
    rw [List.getLast?_append_cons, List.getLast?_singleton]
    split
    next hlast => cases hlast
    next hlast => exact absurd (Option.some.inj hlast) hname
    next => exact .inside h hname hdir
    next => rw [List.dropLast_concat]; exact h

/-- A step to a directory that is there. -/
theorem step {part : String} (h : t.Open l)
    (hdir : part = "." ∨ part = ".." ∨ t.isDirectory (l.step part) = true) :
    t.Open (l.step part) := by
  by_cases hpoint : part = "."
  · rw [Location.step, if_pos hpoint]
    exact h
  by_cases hpoints : part = ".."
  · subst hpoints
    exact h.step_back
  · rw [Location.step, if_neg hpoint, if_neg hpoints] at hdir ⊢
    exact .inside h hpoints ((hdir.resolve_left hpoint).resolve_left hpoints)

end Open

/-- Where a way has been gone to its end, it leads through directories alone. -/
theorem makeAlong_eq_ok {t u : FileTree} {l k : Location} {bytes : Nat} {parts : List String}
    (h : t.makeAlong l bytes parts = (u, .ok k)) (hl : t.Open l) :
    k = parts.foldl Location.step l ∧ ∀ n, u.Open ((parts.take n).foldl Location.step l) := by
  induction parts generalizing t l bytes with
  | nil =>
    obtain ⟨rfl, hk⟩ := Prod.mk.inj h
    refine ⟨(Except.ok.inj hk).symm, fun n => ?_⟩
    rw [List.take_nil]
    exact hl
  | cons part rest ih =>
    rcases makeAlong_cons t l bytes part rest with ⟨e, he⟩ | ⟨v, hext, hdir, -, hrest⟩
    · rw [he] at h
      cases (Prod.mk.inj h).2
    have hmade := extends_makeAlong t l bytes (part :: rest)
    rw [h] at hmade
    rw [hrest] at h
    obtain ⟨hk, hopen⟩ := ih h ((hl.mono hext).step hdir)
    refine ⟨hk, fun n => ?_⟩
    cases n with
    | zero => exact hl.mono hmade
    | succ n => exact hopen n

/-! ## Reading -/

theorem read_eq_ok_iff {path text : String} :
    t.read path = .ok text
      ↔ (path ≠ "" ∧ t.isReachable path = true) ∧ t.isDirectory (locate path) = false
        ∧ path.toList.getLast? ≠ some '/' ∧ t.files.find? (locate path) = some text := by
  have hway : ¬(path = "" ∨ (!t.isReachable path) = true)
      ↔ path ≠ "" ∧ t.isReachable path = true := by
    rw [not_or, Bool.not_eq_true', Bool.not_eq_false]
  rw [← hway, ← Bool.not_eq_true, ← ne_eq]
  simp only [read]
  by_cases hreach : path = "" ∨ (!t.isReachable path) = true
  · rw [if_pos hreach]
    exact ⟨fun h => (by cases h), fun h => absurd hreach h.1⟩
  by_cases hdir : t.isDirectory (locate path) = true
  · rw [if_neg hreach, if_pos hdir]
    exact ⟨fun h => (by cases h), fun h => absurd hdir h.2.1⟩
  by_cases hlast : path.toList.getLast? = some '/'
  · rw [if_neg hreach, if_neg hdir, if_pos hlast]
    exact ⟨fun h => (by cases h), fun h => absurd hlast h.2.2.1⟩
  rw [if_neg hreach, if_neg hdir, if_neg hlast]
  cases hfind : t.files.find? (locate path) with
  | none => exact ⟨fun h => (by cases h), fun h => (by cases h.2.2.2)⟩
  | some found =>
    rw [Option.some.injEq]
    exact ⟨fun h => ⟨hreach, hdir, hlast, Except.ok.inj h⟩, fun h => congrArg _ h.2.2.2⟩

/-- What can be reached still can with more directories. -/
theorem isReachable_mono {path : String} (h : t.isReachable path = true)
    (hdir : ∀ {l}, t.isDirectory l = true → u.isDirectory l = true) :
    u.isReachable path = true := by
  rw [isReachable, Bool.and_eq_true, List.all_eq_true] at h ⊢
  exact ⟨h.1, fun n hn => hdir (h.2 n hn)⟩

/-! ## Writing -/

theorem open_start (t : FileTree) (path : String) : t.Open (start path) := by
  refine .around ?_
  rw [start]
  split <;> rfl

/-- Directories that were made are there, and so are those on the way. -/
theorem makeDirectories_eq_ok {path : String} {l : Location}
    (h : t.makeDirectories path = (u, .ok l)) :
    l = locate path ∧ Extends t u
      ∧ ∀ n, u.Open (((steps path).take n).foldl Location.step (start path)) := by
  rw [makeDirectories] at h
  split at h
  · cases (Prod.mk.inj h).2
  split at h
  · cases (Prod.mk.inj h).2
  obtain ⟨hl, hopen⟩ := makeAlong_eq_ok h (open_start t path)
  have hext := extends_makeAlong t (start path) 0 (steps path)
  rw [h] at hext
  exact ⟨hl, hext, hopen⟩

theorem checkPart_eq_ok {part : String} {bytes : Nat} (h : checkPart part bytes = .ok ()) :
    bytes ≤ pathLimit := by
  obtain ⟨_, hend, -⟩ := Data.bind_eq_ok_iff.mp h
  rw [checkEnd] at hend
  split at hend
  · cases hend
  split at hend
  · cases hend
  next hbytes => exact Nat.le_of_not_lt hbytes

theorem fileIn_eq_ok {l k : Location} {directory name : String}
    (h : t.fileIn l directory name = .ok k) :
    k = l ++ [name] ∧ (joinPath directory name).utf8ByteSize ≤ pathLimit
      ∧ t.isDirectory (l ++ [name]) = false := by
  obtain ⟨_, hcheck, h⟩ := Data.bind_eq_ok_iff.mp h
  split at h
  · cases h
  next hdir =>
    exact ⟨(Except.ok.inj h).symm, checkPart_eq_ok hcheck, by simpa using hdir⟩

theorem store_eq_ok {l : Location} {text : String} (h : t.store l text = (u, .ok ())) :
    u = { t with files := t.files.insert l text } := by
  rw [store] at h
  split at h
  · cases (Prod.mk.inj h).2
  · exact (Prod.mk.inj h).1.symm

/-- A text without halves of surrogate pairs. -/
def IsStorable (text : String) : Prop := ∀ c ∈ text.toList, (Text.half? c).isSome = false

instance (text : String) : Decidable (IsStorable text) :=
  List.decidableBAll (fun c => (Text.half? c).isSome = false) text.toList

theorem isStorable_append {s text : String} (hs : IsStorable s) (htext : IsStorable text) :
    IsStorable (s ++ text) := by
  intro c hc
  rw [String.toList_append, List.mem_append] at hc
  exact hc.elim (hs c) (htext c)

/-- Texts that are strung together can be stored when each of them and what is put between
them can. -/
theorem isStorable_intercalate {s : String} (hs : IsStorable s) {texts : List String}
    (h : ∀ text ∈ texts, IsStorable text) : IsStorable (String.intercalate s texts) := by
  induction texts with
  | nil =>
    intro c hc
    rw [String.intercalate_nil] at hc
    cases hc
  | cons text texts ih =>
    have htext := h text (List.mem_cons_self ..)
    have hrest := ih fun next hnext => h next (List.mem_cons_of_mem _ hnext)
    by_cases hnil : texts = []
    · rw [hnil, String.intercalate_singleton]
      exact htext
    · rw [String.intercalate_cons_of_ne_nil hnil]
      exact isStorable_append (isStorable_append htext hs) hrest

/-- A file is written when its directories can be made, its place is free and its text can
be stored. -/
theorem write_of_storable {directory name text : String} {l k : Location}
    (hmake : t.makeDirectories directory = (u, .ok l))
    (hfile : u.fileIn l directory name = .ok k) (htext : IsStorable text) :
    t.write directory name text = ({ u with files := u.files.insert k text }, .ok ()) := by
  have hhalf : ¬(text.toList.any fun c => (Text.half? c).isSome) = true := by
    rw [List.any_eq_true]
    intro h
    obtain ⟨c, hc, hsome⟩ := h
    rw [htext c hc] at hsome
    cases hsome
  rw [write, hmake]
  simp only [hfile]
  rw [store, if_neg hhalf]

/-- What writing a file has changed: there are directories that lead to its place, which is
no directory, and the text is there. -/
theorem write_eq_ok {directory name text : String} (hname : IsPlain name)
    (h : t.write directory name text = (u, .ok ())) :
    ∃ v, Extends t v ∧ v.isReachable (joinPath directory name) = true
      ∧ v.isDirectory (locate (joinPath directory name)) = false
      ∧ u = { v with files := v.files.insert (locate (joinPath directory name)) text } := by
  rw [write] at h
  split at h
  next => cases (Prod.mk.inj h).2
  next v l hmake =>
    obtain ⟨rfl, hext, hopen⟩ := makeDirectories_eq_ok hmake
    split at h
    next => cases (Prod.mk.inj h).2
    next k hfile =>
      obtain ⟨rfl, hbytes, hdir⟩ := fileIn_eq_ok hfile
      rw [← locate_joinPath directory hname] at hdir h
      refine ⟨v, hext, ?_, hdir, store_eq_ok h⟩
      rw [isReachable, Bool.and_eq_true, List.all_eq_true, decide_eq_true_iff,
        steps_joinPath directory hname, start_joinPath directory hname, List.dropLast_concat]
      exact ⟨hbytes, fun n _ => (hopen n).isDirectory⟩

/-- A place that a path leads through. -/
def OnWay (path : String) (l : Location) : Prop :=
  ∃ n, l = ((steps path).take n).foldl Location.step (start path)

/-- The way to a place below a directory leads to the directory and then down. -/
theorem OnWay.joinParts {directory : String} {names : List String} {l : Location}
    (hnames : ∀ name ∈ names, IsPlain name) (h : OnWay (joinParts directory names) l) :
    OnWay directory l ∨ ∃ n, l = locate directory ++ names.take n := by
  obtain ⟨n, rfl⟩ := h
  rw [steps_joinParts hnames, start_joinParts hnames, List.take_append]
  by_cases hn : n ≤ (steps directory).length
  · rw [Nat.sub_eq_zero_of_le hn, List.take_zero, List.append_nil]
    exact Or.inl ⟨n, rfl⟩
  · refine Or.inr ⟨n - (steps directory).length, ?_⟩
    rw [List.take_of_length_le (Nat.le_of_not_le hn), List.foldl_append]
    exact foldl_step_plain (fun name hname => hnames name (List.mem_of_mem_take hname)) _

theorem files_makeDirectories (t : FileTree) (path : String) :
    (t.makeDirectories path).1.files = t.files := by
  rw [makeDirectories]
  split
  next => rfl
  next =>
    split
    next => rfl
    next => exact (extends_makeAlong ..).files

theorem isDirectory_makeDirectories {path : String} {l : Location}
    (h : (t.makeDirectories path).1.isDirectory l = true) :
    t.isDirectory l = true ∨ OnWay path l := by
  rw [makeDirectories] at h
  split at h
  next => exact Or.inl h
  next =>
    split at h
    next => exact Or.inl h
    next => exact isDirectory_makeAlong h

/-- Storing a text changes nothing but a file. -/
theorem store_fst (t : FileTree) (l : Location) (text : String) :
    ∃ stored, (t.store l text).1 = { t with files := t.files.insert l stored } := by
  rw [store]
  split
  next => exact ⟨"", rfl⟩
  next => exact ⟨text, rfl⟩

/-- Whether it succeeds or not, writing a file changes no other file, and makes no directories
but those on the way to it. -/
theorem write_frame (directory : String) {name : String} (hname : IsPlain name) (t : FileTree)
    (text : String) :
    (∀ l, l ≠ locate (joinPath directory name) →
        (t.write directory name text).1.files.find? l = t.files.find? l)
      ∧ ∀ l, (t.write directory name text).1.isDirectory l = true →
          t.isDirectory l = true ∨ OnWay directory l := by
  have hfiles := files_makeDirectories t directory
  have hdirectories := @isDirectory_makeDirectories t directory
  rw [write]
  split
  next u e hmake =>
    rw [hmake] at hfiles hdirectories
    exact ⟨fun l _ => congrArg (·.find? l) hfiles, fun l => hdirectories⟩
  next u k hmake =>
    obtain ⟨rfl, -, -⟩ := makeDirectories_eq_ok hmake
    rw [hmake] at hfiles hdirectories
    split
    next => exact ⟨fun l _ => congrArg (·.find? l) hfiles, fun l => hdirectories⟩
    next k hfile =>
      obtain ⟨rfl, -, -⟩ := fileIn_eq_ok hfile
      obtain ⟨stored, hstored⟩ := u.store_fst (locate directory ++ [name]) text
      rw [hstored]
      refine ⟨fun l hl => ?_, fun l => hdirectories⟩
      rw [locate_joinPath directory hname] at hl
      rw [OrderedMap.find?_insert, if_neg hl]
      exact congrArg (·.find? l) hfiles

/-- A file that was written can be read. -/
theorem read_write_same {directory name text : String} (hname : IsPlain name)
    (h : t.write directory name text = (u, .ok ())) :
    u.read (joinPath directory name) = .ok text := by
  obtain ⟨v, -, hreach, hdir, rfl⟩ := write_eq_ok hname h
  rw [read_eq_ok_iff]
  refine ⟨⟨joinPath_ne_empty directory hname, hreach⟩, hdir,
    getLast?_joinPath directory hname, ?_⟩
  rw [OrderedMap.find?_insert, if_pos rfl]

/-- A file that could be read before another one was written still can. It has its own
text unless the other one has its place. -/
theorem read_write {path directory name old text : String} (hname : IsPlain name)
    (hread : t.read path = .ok old) (h : t.write directory name text = (u, .ok ())) :
    u.read path
      = .ok (if locate path = locate (joinPath directory name) then text else old) := by
  obtain ⟨v, hext, -, -, rfl⟩ := write_eq_ok hname h
  obtain ⟨⟨hne, hreach⟩, hdir, hlast, hfind⟩ := read_eq_ok_iff.mp hread
  have hfile : t.isFile (locate path) = true := by
    rw [isFile, OrderedMap.contains, hfind, Option.isSome_some]
  rw [read_eq_ok_iff]
  refine ⟨⟨hne, isReachable_mono hreach hext.isDirectory⟩, hext.apart hfile hdir, hlast, ?_⟩
  rw [OrderedMap.find?_insert, hext.files, hfind]
  split <;> rfl

end FileTree

end Ontogen.Files
