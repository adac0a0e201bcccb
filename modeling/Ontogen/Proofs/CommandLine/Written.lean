import Ontogen.Proofs.CommandLine.Reading
import Ontogen.Proofs.Text.Cut

/-!
# Command lines made for what they give

For some values of settings and some sources there is a command line that gives just these
(`written`, `valuesGiven_written`): each value is attached to the long spelling of its
setting, and the sources come after a double dash. So neither can be taken for
something else, whatever they look like (`classifyAll_written`).

Main result: `exists_parse_written`.
-/

namespace Ontogen.CommandLine

variable {d : Draft} {s : Setting} {value : String} {rest : List Argument}
  {given : List Assignment}

/-! ## Writing -/

/-- The spelling of a setting that a value can be attached to. -/
def Setting.longSpelling (s : Setting) : String :=
  s.spellings.getLast (by cases s <;> exact List.cons_ne_nil _ _)

/-- The argument that gives a setting a value. -/
def spelt (e : Assignment) : String := e.1.longSpelling ++ "=" ++ e.2

/-- A command line that gives some values and then the sources, after a double dash so that
these may look like anything. -/
def written (given : List Assignment) (sources : List String) : List String :=
  given.map spelt ++ "--" :: sources

theorem toList_spelt (e : Assignment) :
    (spelt e).toList = e.1.longSpelling.toList ++ '=' :: e.2.toList :=
  Text.toList_between rfl e.1.longSpelling e.2

theorem equals_mem_spelt (e : Assignment) : '=' ∈ (spelt e).toList := by
  rw [toList_spelt]
  exact Text.mem_append_cons ..

theorem settingOf?_longSpelling (s : Setting) : settingOf? s.longSpelling.toList = some s := by
  cases s <;> decide +kernel

theorem take_longSpelling (s : Setting) : s.longSpelling.toList.take 2 = ['-', '-'] := by
  cases s <;> decide +kernel

theorem equals_not_mem_longSpelling (s : Setting) : '=' ∉ s.longSpelling.toList := by
  cases s <;> decide +kernel

/-- A text with an equals sign is no spelling. -/
theorem settingOf?_of_equals {argument : List Char} (h : '=' ∈ argument) :
    settingOf? argument = none := by
  have hplain : ∀ e ∈ spellings, '=' ∉ e.1 := by decide +kernel
  rw [settingOf?, List.lookup_eq_none_iff]
  intro e he
  rw [bne_iff_ne]
  intro heq
  exact hplain e he (heq ▸ h)

theorem splitValue_spelt (e : Assignment) :
    splitValue (spelt e).toList = (e.1.longSpelling.toList, some e.2.toList) := by
  rw [splitValue, toList_spelt, Text.cutFirst_append_cons (equals_not_mem_longSpelling e.1)]

/-- The argument begins with a spelling, which is no value by its dashes and is told from the
value by the first equals sign. -/
theorem classify_spelt (e : Assignment) : classify (spelt e) = .ok (.attached e.1 e.2.toList) := by
  obtain ⟨more, hdash⟩ : ∃ more, (spelt e).toList = '-' :: '-' :: more := by
    rw [toList_spelt, ← List.take_append_drop 2 e.1.longSpelling.toList, take_longSpelling]
    exact ⟨_, rfl⟩
  have hlooks : ((spelt e).toList.head? != some '-' || (spelt e).toList.length == 1) = false := by
    rw [hdash]
    rfl
  rw [classify, hlooks, settingOf?_of_equals (equals_mem_spelt e), splitValue_spelt]
  simp only [Bool.false_eq_true, if_false, settingOf?_longSpelling, withValue, take_longSpelling,
    if_true]

theorem spelt_ne_doubleDash (e : Assignment) : spelt e ≠ "--" := by
  intro h
  have hequals := equals_mem_spelt e
  rw [h] at hequals
  exact absurd hequals (by decide +kernel)

/-- The arguments of a command line look like what they are made for. -/
theorem classifyAll_written (given : List Assignment) (sources : List String) :
    classifyAll (written given sources)
      = .ok (given.map (fun e => .attached e.1 e.2.toList) ++ .doubleDash :: sources.map .value) := by
  induction given with
  | nil => rfl
  | cons e given ih =>
    have hrest : written (e :: given) sources = spelt e :: written given sources := rfl
    rw [hrest, classifyAll, if_neg (spelt_ne_doubleDash e), classify_spelt, ih]
    rfl

/-! ## What it gives -/

theorem assignments_of_none {arguments : List Argument}
    (h : ∀ b ∈ arguments, settingsOf b = .ok none) : assignments arguments = [] := by
  induction arguments with
  | nil => rfl
  | cons b rest ih =>
    obtain ⟨hb, hrest⟩ := List.forall_mem_cons.mp h
    rw [assignments, assignment?_of_none hb, ih hrest]
    rfl

theorem settingsOf_attached (hs : s.takesValue = true) (value : List Char) :
    settingsOf (.attached s value) = .ok (some ([], s, some value)) := if_pos hs

/-- A command line gives what it is made for. -/
theorem valuesGiven_written (hgiven : ∀ e ∈ given, e.1.takesValue = true) (s : Setting)
    (sources : List String) : valuesGiven s (written given sources) = valuesFor s given := by
  have hassignments : assignments (given.map (fun e => .attached e.1 e.2.toList)
      ++ .doubleDash :: sources.map .value) = given := by
    induction given with
    | nil =>
      refine assignments_of_none (List.forall_mem_cons.mpr ⟨rfl, ?_⟩)
      intro b hb
      obtain ⟨source, -, rfl⟩ := List.mem_map.mp hb
      rfl
    | cons e given ih =>
      obtain ⟨he, hgiven⟩ := List.forall_mem_cons.mp hgiven
      rw [List.map_cons, List.cons_append, assignments, ih hgiven,
        assignment?_attached (settingsOf_attached he _), String.ofList_toList]
      rfl
  simp only [valuesGiven, classifyAll_written, hassignments]

/-! ## Reading it back -/

/-- Nothing is known of the sources yet and nothing is refused. -/
structure Draft.IsOpen (d : Draft) : Prop where
  sources : d.sources = none
  endpoint : d.endpoint = false
  extras : d.extras = []

/-- A value is taken unless it should fix a package and is not in the form for it. -/
theorem exists_setValue (hd : d.IsOpen) (h : s = .package → (fixedPackage? value).isSome) :
    ∃ e, d.setValue s value = .ok e ∧ e.IsOpen
      ∧ (d.output.isSome ∨ s = .output → e.output.isSome) := by
  have hkeep : d.output.isSome ∨ s = .output → s ≠ .output → d.output.isSome :=
    fun h hne => h.resolve_right hne
  cases s with
  | package =>
    obtain ⟨entry, hfixed⟩ := Option.isSome_iff_exists.mp (h rfl)
    exact ⟨_, Draft.setValue_package_of_some hfixed, ⟨hd.sources, hd.endpoint, hd.extras⟩,
      fun h => hkeep h (by decide)⟩
  | basePackage =>
    exact ⟨_, Draft.setValue_basePackage d value, ⟨hd.sources, hd.endpoint, hd.extras⟩,
      fun h => hkeep h (by decide)⟩
  | output => exact ⟨_, rfl, ⟨hd.sources, hd.endpoint, hd.extras⟩, fun _ => rfl⟩
  | _ => exact ⟨d, rfl, hd, fun h => hkeep h (by decide)⟩

theorem readFrom_attached (hs : s.takesValue = true) (value : List Char) :
    readFrom d 0 (.attached s value :: rest)
      = d.setValue s (String.ofList value) >>= fun e => readFrom e 0 rest := by
  cases s with
  | output | basePackage | package => rfl
  | _ => cases hs

/-- Values that are attached to their settings are read one after the other. -/
theorem exists_readFrom_attached (hgiven : ∀ e ∈ given, e.1.takesValue = true)
    (hfixed : ∀ value ∈ valuesFor .package given, (fixedPackage? value).isSome) :
    ∀ {d : Draft}, d.IsOpen → d.output.isSome ∨ .output ∈ given.map Prod.fst →
      ∃ e, e.IsOpen ∧ e.output.isSome ∧ ∀ rest,
        readFrom d 0 (given.map (fun e => .attached e.1 e.2.toList) ++ rest)
          = readFrom e 0 rest := by
  -- The draft stays open, and its output is set by the time that its argument is read.
  induction given with
  | nil =>
    intro d hd houtput
    exact ⟨d, hd, houtput.resolve_right List.not_mem_nil, fun _ => rfl⟩
  | cons first given ih =>
    intro d hd houtput
    obtain ⟨s, value⟩ := first
    obtain ⟨htakes, hrest⟩ := List.forall_mem_cons.mp hgiven
    have hlater : ∀ value ∈ valuesFor .package given, (fixedPackage? value).isSome := by
      intro value hvalue
      exact hfixed value (mem_valuesFor.mpr (List.mem_cons_of_mem _ (mem_valuesFor.mp hvalue)))
    have hfirst : s = .package → (fixedPackage? value).isSome := by
      rintro rfl
      exact hfixed value (mem_valuesFor.mpr (List.mem_cons_self ..))
    obtain ⟨d₁, hset, hd₁, hkept⟩ := exists_setValue hd hfirst
    have houtput₁ : d₁.output.isSome ∨ .output ∈ given.map Prod.fst := by
      rcases houtput with h | h
      · exact .inl (hkept (.inl h))
      · rcases List.mem_cons.mp h with h | h
        · exact .inl (hkept (.inr h.symm))
        · exact .inr h
    obtain ⟨e, he, hfilled, hread⟩ := ih hrest hlater hd₁ houtput₁
    refine ⟨e, he, hfilled, ?_⟩
    intro rest
    rw [List.map_cons, List.cons_append, readFrom_attached htakes, String.ofList_toList, hset]
    exact hread rest

theorem readFrom_length (d : Draft) (arguments : List Argument) :
    readFrom d arguments.length arguments = .ok d := by
  induction arguments with
  | nil => rfl
  | cons a rest ih => exact ih

theorem valueRun_map_value (sources : List String) :
    valueRun (sources.map .value) = sources.map .value := by
  induction sources with
  | nil => rfl
  | cons source sources ih => rw [List.map_cons, valueRun, ih]

theorem runValues_sources (sources : List String) :
    runValues (.doubleDash :: sources.map .value) = sources := by
  rw [runValues, List.filterMap_cons_none rfl, List.filterMap_map]
  exact List.filterMap_some

/-- Sources after a double dash are read in one go. -/
theorem readFrom_sources {sources : List String} (hd : d.IsOpen) (hsources : sources ≠ []) :
    readFrom d 0 (.doubleDash :: sources.map .value) = .ok { d with sources := some sources } := by
  have htake : d.takeRun (.doubleDash :: sources.map .value)
      = { d with sources := some sources } := by
    rw [Draft.takeRun, runValues_sources, hd.sources]
    cases sources with
    | nil => exact absurd rfl hsources
    | cons source sources => rfl
  rw [readFrom, valueRun, valueRun_map_value, List.length_cons, Nat.add_sub_cancel, htake,
    readFrom_length]

theorem exists_finish {sources : List String} {output : String}
    (hsources : d.sources = some sources) (houtput : d.output = some output)
    (hextras : d.extras = []) :
    ∃ parsed, d.finish = .ok parsed ∧ parsed.sources = sources
      ∧ parsed.endpoint = d.endpoint := by
  rw [Draft.finish]
  simp only [hsources, houtput, hextras]
  exact ⟨_, rfl, rfl, rfl⟩

/-- A command line is read without complaint when its packages are in the form for them, an
output directory is given and there is a source. -/
theorem exists_parse_written {sources : List String} (hsources : sources ≠ [])
    (hgiven : ∀ e ∈ given, e.1.takesValue = true)
    (houtput : Setting.output ∈ given.map Prod.fst)
    (hfixed : ∀ value ∈ valuesFor .package given, (fixedPackage? value).isSome) :
    ∃ parsed, parse (written given sources) = .ok parsed
      ∧ parsed.sources = sources ∧ parsed.endpoint = false := by
  obtain ⟨e, he, hfilled, hread⟩ :=
    exists_readFrom_attached (d := {}) hgiven hfixed ⟨rfl, rfl, rfl⟩ (.inr houtput)
  obtain ⟨output, hout⟩ := Option.isSome_iff_exists.mp hfilled
  obtain ⟨parsed, hfinish, hsrc, hendpoint⟩ :=
    exists_finish (d := { e with sources := some sources }) rfl hout he.extras
  refine ⟨parsed, ?_, hsrc, hendpoint.trans he.endpoint⟩
  rw [parse, classifyAll_written]
  simp only [hread, readFrom_sources he hsources]
  exact hfinish

end Ontogen.CommandLine
