import Ontogen.CommandLine.Arguments
import Ontogen.Proofs.Data.Traversal

/-!
# What a command line gives

An argument gives a setting the value attached to it or the one after it
(`assignment?`), and a command line gives what its arguments give, in order
(`assignments`). Reading one argument gives a draft what the argument gives (`reads_step`), and
so reading them all gives it all of that (`reads_readFrom`): every fixed package is
noted, and the last base package counts. A value is refused for its form only if it is given for
a fixed package and is not in the form for one.

Main results: `given_of_parse`, `refused_of_parse`.
-/

namespace Ontogen.CommandLine

open Data (bind_eq_ok_iff bind_eq_error_iff)

/-- A setting and the value that it gets. -/
abbrev Assignment := Setting × String

/-! ## What the arguments give -/

/-- What an argument gives: the value attached to it, or the one after it if its setting
takes one. -/
def assignment? (a : Argument) (rest : List Argument) : Option Assignment :=
  match settingsOf a with
  | .ok (some (_, s, some value)) => some (s, String.ofList value)
  | .ok (some (_, s, none)) =>
    match s.takesValue, rest with
    | true, .value value :: _ => some (s, value)
    | _, _ => none
  | _ => none

/-- All that the arguments give, in order. -/
def assignments : List Argument → List Assignment
  | [] => []
  | a :: rest => (assignment? a rest).toList ++ assignments rest

/-- The values of a setting among those that are given. -/
def valuesFor (s : Setting) (given : List Assignment) : List String :=
  given.filterMap fun e => if e.1 = s then some e.2 else none

/-- The values that a command line gives a setting, in order. -/
def valuesGiven (s : Setting) (arguments : List String) : List String :=
  match classifyAll arguments with
  | .ok classified => valuesFor s (assignments classified)
  | .error _ => []

variable {d e f : Draft} {s : Setting} {a : Argument} {value : String}
  {rest : List Argument} {given more : List Assignment}

theorem valuesFor_append (s : Setting) (given more : List Assignment) :
    valuesFor s (given ++ more) = valuesFor s given ++ valuesFor s more :=
  List.filterMap_append

theorem mem_valuesFor : value ∈ valuesFor s given ↔ (s, value) ∈ given := by
  rw [valuesFor, List.mem_filterMap]
  constructor
  · intro h
    obtain ⟨⟨s', value'⟩, he, h⟩ := h
    split at h
    next hs =>
      obtain rfl := Option.some.inj h
      obtain rfl : s' = s := hs
      exact he
    next => cases h
  · intro h
    exact ⟨_, h, if_pos rfl⟩

theorem assignment?_of_none (h : settingsOf a = .ok none) (rest : List Argument) :
    assignment? a rest = none := by
  rw [assignment?, h]

theorem assignment?_attached {flags : List Setting} {attached : List Char}
    (h : settingsOf a = .ok (some (flags, s, some attached))) (rest : List Argument) :
    assignment? a rest = some (s, String.ofList attached) := by
  rw [assignment?, h]

theorem assignment?_flag {flags : List Setting} (h : settingsOf a = .ok (some (flags, s, none)))
    (hs : s.takesValue = false) (rest : List Argument) : assignment? a rest = none := by
  rw [assignment?, h]
  simp only [hs]

theorem assignment?_value {flags : List Setting} (h : settingsOf a = .ok (some (flags, s, none)))
    (hs : s.takesValue = true) (value : String) (rest : List Argument) :
    assignment? a (.value value :: rest) = some (s, value) := by
  rw [assignment?, h]
  simp only [hs]

/-! ## What a draft becomes -/

/-- What is known of the base package once a value is given for it. -/
def baseGiven (value : String) : Given String :=
  match Draft.givenValue? value with
  | some value => .value value
  | none => .nothing

theorem value?_baseGiven (value : String) :
    (baseGiven value).value? = Draft.givenValue? value := by
  unfold baseGiven
  split
  next h => rw [h]; rfl
  next h => rw [h]; rfl

/-- A draft becomes another one as it is given values: every fixed package is noted after those
before it, and the last base package takes the place of the others. -/
structure Draft.Follows (d e : Draft) (given : List Assignment) : Prop where
  packages : e.packages = d.packages ++ (valuesFor .package given).map fixedPackage?
  basePackage : e.basePackage
    = ((valuesFor .basePackage given).getLast?.map baseGiven).getD d.basePackage

namespace Draft

theorem follows_of_eq (hpackages : e.packages = d.packages)
    (hbase : e.basePackage = d.basePackage) : d.Follows e [] where
  packages := by rw [hpackages]; exact (List.append_nil _).symm
  basePackage := hbase

theorem Follows.trans (h : d.Follows e given) (h' : e.Follows f more) :
    d.Follows f (given ++ more) where
  packages := by
    rw [h'.packages, h.packages, valuesFor_append, List.map_append, List.append_assoc]
  basePackage := by
    rw [h'.basePackage, h.basePackage, valuesFor_append, List.getLast?_append]
    cases (valuesFor .basePackage more).getLast? <;> rfl

/-- What is known of the outcome of reading some values: a draft that was given them, unless
a value is refused that should fix a package and is in no form for it, or something else stops
the reading. -/
structure Reads (d : Draft) (given : List Assignment) (r : Except Stop Draft) : Prop where
  follows : ∀ {e : Draft}, r = .ok e → d.Follows e given
  refused : ∀ {value : String}, r = .error (.usage (.badPackage value)) →
    (Setting.package, value) ∈ given ∧ fixedPackage? value = none

theorem reads_ok (h : d.Follows e given) : d.Reads given (.ok e) where
  follows heq := Except.ok.inj heq ▸ h
  refused := nofun

/-- What stops the reading is not the form of a value. -/
theorem reads_error {reason : Stop} (h : ∀ value, reason ≠ .usage (.badPackage value)) :
    d.Reads given (.error reason) where
  follows := nofun
  refused heq := absurd (Except.error.inj heq) (h _)

theorem Reads.bind {x : Except Stop Draft} {next : Draft → Except Stop Draft}
    (h : d.Reads given x) (hnext : ∀ e : Draft, e.Reads more (next e)) :
    d.Reads (given ++ more) (x >>= next) where
  follows heq := by
    obtain ⟨e, hx, hrest⟩ := bind_eq_ok_iff.mp heq
    exact (h.follows hx).trans ((hnext e).follows hrest)
  refused heq := by
    rcases bind_eq_error_iff.mp heq with hx | ⟨e, -, hrest⟩
    · obtain ⟨hmem, hform⟩ := h.refused hx
      exact ⟨List.mem_append_left _ hmem, hform⟩
    · obtain ⟨hmem, hform⟩ := (hnext e).refused hrest
      exact ⟨List.mem_append_right _ hmem, hform⟩

theorem Reads.of_follows {r : Except Stop Draft} (hr : e.Reads given r) (h : d.Follows e []) :
    d.Reads given r where
  follows heq := h.trans (hr.follows heq)
  refused := hr.refused

/-- A setting that takes no value gives nothing. -/
theorem reads_setFlag (d : Draft) (s : Setting) : d.Reads [] (d.setFlag s) := by
  cases s with
  | help => exact reads_error fun _ => nofun
  | _ => exact reads_ok (follows_of_eq rfl rfl)

theorem reads_setFlags (flags : List Setting) (d : Draft) :
    d.Reads [] (flags.foldlM setFlag d) := by
  induction flags generalizing d with
  | nil => exact reads_ok (follows_of_eq rfl rfl)
  | cons s flags ih =>
    rw [List.foldlM_cons]
    exact (reads_setFlag d s).bind ih

theorem givenValue?_of_ne (h : value ≠ "--") : givenValue? value = some value := if_neg h

theorem setValue_basePackage (d : Draft) (value : String) :
    d.setValue .basePackage value = .ok { d with basePackage := baseGiven value } := by
  unfold setValue baseGiven
  cases givenValue? value <;> rfl

theorem setValue_package_of_some {entry : String × String} (h : fixedPackage? value = some entry) :
    d.setValue .package value = .ok { d with packages := d.packages ++ [fixedPackage? value] } := by
  have hdash : fixedPackage? "--" = none := by decide +kernel
  have hvalue : value ≠ "--" := by
    rintro rfl
    cases h.symm.trans hdash
  simp only [setValue, givenValue?_of_ne hvalue, h]

theorem setValue_package_of_none (h : fixedPackage? value = none) (hvalue : value ≠ "--") :
    d.setValue .package value = .error (.usage (.badPackage value)) := by
  simp only [setValue, givenValue?_of_ne hvalue, h]

theorem follows_setPackage (value : String) :
    d.Follows { d with packages := d.packages ++ [fixedPackage? value] } [(.package, value)] where
  packages := rfl
  basePackage := rfl

/-- What is given is set, unless it should fix a package and is in no form for it. -/
theorem reads_setValue (d : Draft) (s : Setting) (value : String) :
    d.Reads [(s, value)] (d.setValue s value) := by
  cases s with
  | package =>
    cases hfixed : fixedPackage? value with
    | some entry =>
      rw [setValue_package_of_some hfixed]
      exact reads_ok (follows_setPackage value)
    | none =>
      -- A double dash is noted as no package, and that is what its form makes of it too.
      by_cases hdash : value = "--"
      · subst hdash
        exact reads_ok (follows_setPackage "--")
      · rw [setValue_package_of_none hfixed hdash]
        refine ⟨nofun, ?_⟩
        intro value' heq
        cases heq
        exact ⟨List.mem_cons_self .., hfixed⟩
  | basePackage =>
    rw [setValue_basePackage]
    exact reads_ok ⟨(List.append_nil _).symm, rfl⟩
  | _ => exact reads_ok ⟨(List.append_nil _).symm, rfl⟩

theorem reads_assignment (flags : List Setting) (d : Draft) (s : Setting) (value : String)
    {next : Draft → Except Stop Draft} (hnext : ∀ e : Draft, e.Reads more (next e)) :
    d.Reads ((s, value) :: more)
      (flags.foldlM setFlag d >>= fun e => e.setValue s value >>= next) :=
  (reads_setFlags flags d).bind fun e => (reads_setValue e s value).bind hnext

/-- A run of values gives no setting anything. -/
theorem follows_takeRun (run : List Argument) : d.Follows (d.takeRun run) [] := by
  unfold takeRun
  split
  next => exact follows_of_eq rfl rfl
  next => exact follows_of_eq rfl rfl

end Draft

/-! ## Reading -/

/-- Nothing in a run of values sets anything. -/
theorem settingsOf_of_mem_valueRun (h : a ∈ valueRun rest) : settingsOf a = .ok none := by
  fun_induction valueRun rest with
  | case1 text rest ih =>
    rcases List.mem_cons.mp h with rfl | h
    · rfl
    · exact ih h
  | case2 rest ih =>
    rcases List.mem_cons.mp h with rfl | h
    · rfl
    · exact ih h
  | case3 => cases h

theorem take_length_valueRun (rest : List Argument) :
    rest.take (valueRun rest).length = valueRun rest := by
  fun_induction valueRun rest with
  | case1 text rest ih => rw [List.length_cons, List.take_succ_cons, ih]
  | case2 rest ih => rw [List.length_cons, List.take_succ_cons, ih]
  | case3 => rfl

/-- What a cluster of letters is refused for. -/
theorem unfold_error {more : List Char} {reason : Stop} (h : unfold s more = .error reason) :
    ∃ s' text, reason = .usage (.unwantedValue s' text) := by
  fun_induction unfold s more with
  | case1 s => exact ⟨s, _, (Except.error.inj h).symm⟩
  | case2 s c more => exact ⟨s, _, (Except.error.inj h).symm⟩
  | case3 => cases h
  | case4 => cases h
  | case5 s c more next hnext hmore htakes ih => exact ih (Data.map_eq_error_iff.mp h)

theorem settingsOf_error {reason : Stop} (h : settingsOf a = .error reason) :
    ∃ s text, reason = .usage (.unwantedValue s text) := by
  unfold settingsOf at h
  split at h
  next => cases h
  next s value =>
    split at h
    next => cases h
    next => exact ⟨s, _, (Except.error.inj h).symm⟩
  next s more =>
    split at h
    next => cases h
    next => exact unfold_error (Data.map_eq_error_iff.mp h)
  next => cases h

/-- Reading an argument gives what it gives, if reading the arguments after it gives what they
do. Of these some may be read along with it, which give nothing. -/
theorem reads_step (d : Draft) (a : Argument)
    (hrest : ∀ (e : Draft) (skip : Nat), (∀ b ∈ rest.take skip, settingsOf b = .ok none) →
      e.Reads more (readFrom e skip rest)) :
    d.Reads ((assignment? a rest).toList ++ more) (readFrom d 0 (a :: rest)) := by
  have hnext : ∀ e : Draft, e.Reads more (readFrom e 0 rest) :=
    fun e => hrest e 0 fun _ hb => nomatch hb
  -- The values of a run are read along with the first of them.
  have hrun : ∀ e : Draft, e.Reads more (readFrom e (valueRun rest).length rest) := by
    intro e
    refine hrest e _ ?_
    rw [take_length_valueRun]
    exact fun _ hb => settingsOf_of_mem_valueRun hb
  unfold readFrom
  split
  next text => exact (hnext (d.refuse text)).of_follows (Draft.follows_of_eq rfl rfl)
  next text => exact (hrun _).of_follows (Draft.follows_takeRun _)
  next => exact (hrun _).of_follows (Draft.follows_takeRun _)
  next =>
    cases hfound : settingsOf a with
    | error reason =>
      obtain ⟨s, text, rfl⟩ := settingsOf_error hfound
      exact Draft.reads_error fun _ => nofun
    | ok found =>
      rcases found with - | ⟨flags, s, attached⟩
      · rw [assignment?_of_none hfound]
        exact hnext d
      · dsimp only [bind, Except.bind]
        cases attached with
        | some attached =>
          rw [assignment?_attached hfound]
          exact Draft.reads_assignment flags d s _ hnext
        | none =>
          cases hs : s.takesValue with
          | false =>
            rw [assignment?_flag hfound hs]
            exact (Draft.reads_setFlags (flags ++ [s]) d).bind hnext
          | true =>
            -- Only a value may follow; it is read along with the setting that takes it.
            have hmissing : d.Reads ((assignment? a rest).toList ++ more)
                (.error (.usage (.missingValue s))) := Draft.reads_error fun _ => nofun
            rcases rest with - | ⟨b, after⟩
            · exact hmissing
            · cases b with
              | value text =>
                rw [assignment?_value hfound hs]
                refine Draft.reads_assignment flags d s text fun e => hrest e 1 fun b hb => ?_
                rw [List.mem_singleton.mp hb]
                rfl
              | _ => exact hmissing

/-- Reading the arguments gives a draft all that they give. -/
theorem reads_readFrom {arguments : List Argument} :
    ∀ (d : Draft) (skip : Nat), (∀ b ∈ arguments.take skip, settingsOf b = .ok none) →
      d.Reads (assignments arguments) (readFrom d skip arguments) := by
  induction arguments with
  | nil =>
    intro d skip _
    cases skip <;> exact Draft.reads_ok (Draft.follows_of_eq rfl rfl)
  | cons a rest ih =>
    intro d skip hskip
    cases skip with
    | zero => exact reads_step d a ih
    | succ skip =>
      rw [List.take_succ_cons] at hskip
      obtain ⟨ha, hskip⟩ := List.forall_mem_cons.mp hskip
      rw [assignments, assignment?_of_none ha]
      exact ih d skip hskip

theorem finish_eq_ok {parsed : Arguments} (h : d.finish = .ok parsed) :
    parsed.packages = d.packages ∧ parsed.basePackage = d.basePackage := by
  unfold Draft.finish at h
  split at h
  next =>
    split at h
    next =>
      obtain rfl := Except.ok.inj h
      exact ⟨rfl, rfl⟩
    next => cases h
  next => cases h

theorem finish_ne_badPackage (d : Draft) (value : String) :
    d.finish ≠ .error (.usage (.badPackage value)) := by
  unfold Draft.finish
  split
  next =>
    split
    next => nofun
    next => nofun
  next => nofun

/-- What is read of a command line: the packages that it fixes, one for each value given for
them, and the last base package. -/
theorem given_of_parse {arguments : List String} {parsed : Arguments}
    (h : parse arguments = .ok parsed) :
    parsed.packages = (valuesGiven .package arguments).map fixedPackage?
      ∧ parsed.basePackage.value?
        = (valuesGiven .basePackage arguments).getLast?.bind Draft.givenValue? := by
  unfold parse at h
  unfold valuesGiven
  split at h
  next => cases h
  next classified hclassified =>
    obtain ⟨d, hread, hfinish⟩ := bind_eq_ok_iff.mp h
    obtain ⟨hpackages, hbase⟩ := finish_eq_ok hfinish
    have hfollows := (reads_readFrom {} 0 fun _ hb => nomatch hb).follows hread
    simp only [hclassified]
    constructor
    · rw [hpackages, hfollows.packages]
      rfl
    · rw [hbase, hfollows.basePackage]
      cases (valuesFor .basePackage (assignments classified)).getLast? with
      | none => rfl
      | some value => exact value?_baseGiven value

/-- A value is refused only if it is given for a fixed package and not in the form for one. -/
theorem refused_of_parse {arguments : List String}
    (h : parse arguments = .error (.usage (.badPackage value))) :
    value ∈ valuesGiven .package arguments ∧ fixedPackage? value = none := by
  unfold parse at h
  unfold valuesGiven
  split at h
  next => cases h
  next classified hclassified =>
    simp only [hclassified, mem_valuesFor]
    rcases bind_eq_error_iff.mp h with hread | ⟨d, -, hfinish⟩
    · exact (reads_readFrom {} 0 fun _ hb => nomatch hb).refused hread
    · exact absurd hfinish (finish_ne_badPackage d value)

end Ontogen.CommandLine
