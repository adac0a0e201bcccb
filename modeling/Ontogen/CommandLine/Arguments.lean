import Ontogen.CommandLine.Setting
import Ontogen.Files.Path
import Ontogen.Text.Quoted

/-!
# Arguments of the command line

The arguments are read from left to right. The first run of values gives the
sources; a setting takes what is attached to it or the value after it. Values of
no use and unknown settings are kept and complained about in the end. The reading
stops early at a setting that asks for help and at the first error.
-/

namespace Ontogen.CommandLine

/-- What is given for a setting that need not be set. -/
inductive Given (α : Type) where
  /-- The setting is not set. -/
  | absent
  /-- The setting is set, but not to a value. -/
  | nothing
  | value (a : α)
  deriving DecidableEq, Repr

/-- The value that is given, if there is one. -/
def Given.value? {α : Type} : Given α → Option α
  | .value a => some a
  | _ => none

/-- What the arguments ask for. -/
structure Arguments where
  /-- The documents to read, or the address of an endpoint. -/
  sources : List String
  /-- The directory that the types are written to. -/
  output : String
  endpoint : Bool := false
  delegate : Bool := false
  annotations : Bool := false
  separate : Bool := false
  basePackage : Given String := .absent
  /-- The packages that are fixed for their namespaces, in order of mention; none where
  nothing is given for one. -/
  packages : List (Option (String × String)) := []
  verbose : Bool := false
  deriving DecidableEq, Repr

/-- Why arguments cannot be used. -/
inductive UsageError where
  /-- An argument begins more than one spelling. -/
  | ambiguous (a : Ambiguity)
  /-- No value follows a setting that needs one. -/
  | missingValue (s : Setting)
  /-- A value is attached to a setting that takes none. -/
  | unwantedValue (s : Setting) (value : String)
  /-- A fixed package is not written as a namespace, an equals sign and a package. -/
  | badPackage (value : String)
  /-- Required arguments are missing. -/
  | missing (names : List String)
  /-- There are arguments of no use. -/
  | unrecognized (arguments : List String)
  /-- There is not exactly one endpoint. -/
  | endpointCount
  deriving DecidableEq, Repr

/-- A text between quotes, as messages show it. -/
def shown (s : String) : String := String.ofList (Text.quoted s.toList)

/-- A message about a setting. -/
def aboutSetting (s : Setting) (message : String) : String :=
  "argument " ++ s.label ++ ": " ++ message

/-- The text of an error. -/
def UsageError.message : UsageError → String
  | .ambiguous a =>
    "ambiguous option: " ++ a.argument ++ " could match " ++ String.intercalate ", " a.candidates
  | .missingValue s => aboutSetting s "expected one argument"
  | .unwantedValue s value => aboutSetting s ("ignored explicit argument " ++ shown value)
  | .badPackage value =>
    aboutSetting .package ("expected NAMESPACE=PACKAGE, got " ++ shown value)
  | .missing names =>
    "the following arguments are required: " ++ String.intercalate ", " names
  | .unrecognized arguments =>
    "unrecognized arguments: " ++ String.intercalate " " arguments
  | .endpointCount => "--endpoint takes exactly one endpoint URL"

/-- Why the reading of arguments stops. -/
inductive Stop where
  /-- Help is asked for. -/
  | help
  /-- The arguments cannot be used. -/
  | usage (e : UsageError)
  deriving DecidableEq, Repr

/-- What is read so far. -/
structure Draft where
  sources : Option (List String) := none
  output : Option String := none
  endpoint : Bool := false
  delegate : Bool := false
  annotations : Bool := false
  separate : Bool := false
  basePackage : Given String := .absent
  packages : List (Option (String × String)) := []
  verbose : Bool := false
  /-- The arguments of no use. -/
  extras : List String := []

/-- The namespace and the package of a fixed package, which the last equals sign
separates. Neither is empty. -/
def fixedPackage? (value : String) : Option (String × String) :=
  let s := value.toList
  let ns := Text.beforeLast '=' s
  let package := Text.afterLast '=' s
  if '=' ∈ s ∧ ns ≠ [] ∧ package ≠ [] then some (String.ofList ns, String.ofList package)
  else none

namespace Draft

/-- Sets a setting that takes no value. -/
def setFlag (d : Draft) : Setting → Except Stop Draft
  | .help => .error .help
  | .endpoint => .ok { d with endpoint := true }
  | .delegate => .ok { d with delegate := true }
  | .annotations => .ok { d with annotations := true }
  | .separate => .ok { d with separate := true }
  | .verbose => .ok { d with verbose := true }
  | _ => .ok d

/-- A double dash is never a value: attached to a setting, it gives it nothing. -/
def givenValue? (value : String) : Option String := if value = "--" then none else some value

/-- The directory that the output goes to when nothing is given for it. -/
def unnamedOutput : String := "[]"

/-- Sets a setting to a value. -/
def setValue (d : Draft) (s : Setting) (value : String) : Except Stop Draft :=
  match s, givenValue? value with
  | .output, value => .ok { d with output := some (Files.tidy (value.getD unnamedOutput)) }
  | .basePackage, some value => .ok { d with basePackage := .value value }
  | .basePackage, none => .ok { d with basePackage := .nothing }
  | .package, some value =>
    match fixedPackage? value with
    | some entry => .ok { d with packages := d.packages ++ [some entry] }
    | none => .error (.usage (.badPackage value))
  | .package, none => .ok { d with packages := d.packages ++ [none] }
  | _, _ => .ok d

/-- Keeps an argument of no use. -/
def refuse (d : Draft) (argument : String) : Draft := { d with extras := d.extras ++ [argument] }

end Draft

/-- The settings that a cluster of letters spells, from the one that it begins with
and what is after its letter. The last of them takes the rest of the cluster as
its value if it needs one; without a rest, its value is the argument after it. -/
def unfold (s : Setting) : List Char → Except Stop (List Setting × Setting × Option (List Char))
  | [] => .error (.usage (.unwantedValue s ""))
  | c :: more =>
    match letterSetting? c with
    | none => .error (.usage (.unwantedValue s (String.ofList (c :: more))))
    | some next =>
      if more.isEmpty then .ok ([s], next, none)
      else if next.takesValue then .ok ([s], next, some more)
      else (unfold next more).map fun u => (s :: u.1, u.2)

/-- What an argument that is a setting sets: first some settings without value, then
one with the value attached to it, if there is one. -/
def settingsOf : Argument → Except Stop (Option (List Setting × Setting × Option (List Char)))
  | .setting s => .ok (some ([], s, none))
  | .attached s value =>
    if s.takesValue then .ok (some ([], s, some value))
    else .error (.usage (.unwantedValue s (String.ofList value)))
  | .cluster s more =>
    if s.takesValue then .ok (some ([], s, some more)) else (unfold s more).map some
  | _ => .ok none

/-- The run of values at the front. -/
def valueRun : List Argument → List Argument
  | .value text :: rest => .value text :: valueRun rest
  | .doubleDash :: rest => .doubleDash :: valueRun rest
  | _ => []

/-- The values of a run without the double dash. -/
def runValues (run : List Argument) : List String :=
  run.filterMap fun a => match a with
    | .value text => some text
    | _ => none

/-- The arguments of a run as they were written. -/
def runTexts (run : List Argument) : List String :=
  run.map fun a => match a with
    | .value text => text
    | _ => "--"

/-- Takes a run of values: it is the sources if these are not known yet and it has a
value, and of no use otherwise. -/
def Draft.takeRun (d : Draft) (run : List Argument) : Draft :=
  if d.sources.isNone && !(runValues run).isEmpty then { d with sources := some (runValues run) }
  else { d with extras := d.extras ++ runTexts run }

/-- Reads arguments from left to right. The first number counts the values that
belong to a run or a setting already read. -/
def readFrom (d : Draft) : Nat → List Argument → Except Stop Draft
  | _, [] => .ok d
  | skip + 1, _ :: rest => readFrom d skip rest
  | 0, a :: rest => do
    match a with
    | .unknown text => readFrom (d.refuse text) 0 rest
    | .value _ | .doubleDash =>
      let run := valueRun (a :: rest)
      readFrom (d.takeRun run) (run.length - 1) rest
    | _ =>
      match ← settingsOf a with
      | none => readFrom d 0 rest
      | some (flags, s, attached) =>
        match attached, s.takesValue, rest with
        | some value, _, _ =>
          readFrom (← (← flags.foldlM Draft.setFlag d).setValue s (String.ofList value)) 0 rest
        | none, false, _ => readFrom (← (flags ++ [s]).foldlM Draft.setFlag d) 0 rest
        -- The double dash is no value, and neither is another setting.
        | none, true, .value value :: _ =>
          readFrom (← (← flags.foldlM Draft.setFlag d).setValue s value) 1 rest
        | none, true, _ => throw (.usage (.missingValue s))

/-- The arguments of a finished draft. -/
def Draft.finish (d : Draft) : Except Stop Arguments :=
  match d.sources, d.output with
  | some sources, some output =>
    if d.extras.isEmpty then
      .ok {
        sources, output
        endpoint := d.endpoint
        delegate := d.delegate
        annotations := d.annotations
        separate := d.separate
        basePackage := d.basePackage
        packages := d.packages
        verbose := d.verbose }
    else .error (.usage (.unrecognized d.extras))
  | sources, output =>
    .error (.usage (.missing
      ((if sources.isNone then ["sources"] else [])
        ++ if output.isNone then [Setting.output.label] else [])))

/-- Reads the arguments of a command line. -/
def parse (arguments : List String) : Except Stop Arguments :=
  match classifyAll arguments with
  | .error a => .error (.usage (.ambiguous a))
  | .ok classified => readFrom {} 0 classified >>= Draft.finish

end Ontogen.CommandLine
