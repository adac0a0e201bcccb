import Ontogen.Text.Cut
import Ontogen.Text.Digits

/-!
# Settings of the command line

What can be set on a command line and how it is spelt, and what an argument is by
its looks alone: a value, a setting with or without a value attached, or something
that looks like a setting and is none. A long spelling may be shortened as long as
it is the beginning of one spelling only.
-/

namespace Ontogen.CommandLine

/-- What can be set. -/
inductive Setting where
  | help
  | output
  | endpoint
  | delegate
  | annotations
  | separate
  | basePackage
  | package
  | verbose
  deriving DecidableEq, Repr

namespace Setting

/-- The spellings of a setting, the short one first. -/
def spellings : Setting → List String
  | help => ["-h", "--help"]
  | output => ["-o", "--output"]
  | endpoint => ["--endpoint"]
  | delegate => ["--delegate"]
  | annotations => ["--annotations"]
  | separate => ["--separate-impl"]
  | basePackage => ["--base-package"]
  | package => ["--package"]
  | verbose => ["-v", "--verbose"]

/-- All settings in the order in which they are listed. -/
def all : List Setting :=
  [help, output, endpoint, delegate, annotations, separate, basePackage, package, verbose]

theorem mem_all (s : Setting) : s ∈ all := by cases s <;> decide

/-- Whether a setting needs a value. -/
def takesValue : Setting → Bool
  | output | basePackage | package => true
  | _ => false

/-- The name of a setting in messages: all its spellings. -/
def label (s : Setting) : String := String.intercalate "/" s.spellings

end Setting

/-- All spellings with their settings, in the order of listing. -/
def spellings : List (List Char × Setting) :=
  Setting.all.flatMap fun s => s.spellings.map fun spelling => (spelling.toList, s)

/-- The setting of a spelling. -/
def settingOf? (spelling : List Char) : Option Setting := spellings.lookup spelling

/-- The setting that a letter spells. -/
def letterSetting? (c : Char) : Option Setting := settingOf? ['-', c]

/-- An argument by its looks. -/
inductive Argument where
  | value (text : String)
  /-- The double dash, after which everything is a value. -/
  | doubleDash
  /-- A setting. -/
  | setting (s : Setting)
  /-- A setting in its long spelling with a value attached. -/
  | attached (s : Setting) (value : List Char)
  /-- A setting in its short spelling with more characters after it: its value, or
  more settings when it takes none. -/
  | cluster (s : Setting) (more : List Char)
  /-- What looks like a setting and is none. -/
  | unknown (text : String)
  deriving DecidableEq, Repr

/-- The argument begins more than one spelling. -/
structure Ambiguity where
  argument : String
  candidates : List String
  deriving DecidableEq, Repr

/-- A setting with a value attached. -/
def withValue (spelling : List Char) (s : Setting) (value : List Char) : Argument :=
  if spelling.take 2 = ['-', '-'] then .attached s value else .cluster s value

/-- The spelling in an argument and the value attached to it, which an equals sign
separates. -/
def splitValue (argument : List Char) : List Char × Option (List Char) :=
  match Text.cutFirst '=' argument with
  | some (spelling, value) => (spelling, some value)
  | none => (argument, none)

/-- The ways to understand an argument that is no full spelling: as the beginning of
long spellings, or as a short spelling with more characters after it. -/
def readings (argument : List Char) : List (List Char × Argument) :=
  let (front, value) := splitValue argument
  match argument with
  | '-' :: '-' :: _ =>
    (spellings.filter fun e => front.isPrefixOf e.1).map fun e =>
      (e.1, match value with
        | some value => .attached e.2 value
        | none => .setting e.2)
  | '-' :: c :: more =>
    (letterSetting? c).toList.map fun s => (['-', c], .cluster s more)
  | _ => []

/-- Whether an argument is a negative number: digits of any script after the dash,
with a point before the last of them at most. A line feed at the end is of no
account. -/
def isNegativeNumber : List Char → Bool
  | '-' :: s =>
    let s := if s.getLast? = some '\n' then s.dropLast else s
    match s.dropWhile Text.isAnyDigit with
    | [] => !s.isEmpty
    | '.' :: digits => !digits.isEmpty && digits.all Text.isAnyDigit
    | _ => false
  | _ => false

/-- What an argument is by its looks. -/
def classify (argument : String) : Except Ambiguity Argument :=
  let s := argument.toList
  if s.head? != some '-' || s.length == 1 then .ok (.value argument)
  else
    match settingOf? s with
    | some found => .ok (.setting found)
    | none =>
      match splitValue s with
      | (spelling, some value) =>
        match settingOf? spelling with
        | some found => .ok (withValue spelling found value)
        | none => unclear s
      | (_, none) => unclear s
where
  /-- An argument whose spelling is not one in full. -/
  unclear (s : List Char) : Except Ambiguity Argument :=
    match readings s with
    | [(_, reading)] => .ok reading
    -- No spelling begins with a dash and a digit, and none has a space.
    | [] =>
      .ok (if isNegativeNumber s || s.contains ' ' then .value argument else .unknown argument)
    | several => .error ⟨argument, several.map fun r => String.ofList r.1⟩

/-- What the arguments are by their looks. All that follow a double dash are
values. -/
def classifyAll : List String → Except Ambiguity (List Argument)
  | [] => .ok []
  | a :: rest =>
    if a = "--" then .ok (.doubleDash :: rest.map .value)
    else do
      let first ← classify a
      return first :: (← classifyAll rest)

end Ontogen.CommandLine
