import Ontogen.Text.Casing
import Ontogen.Uri.Address

/-!
# The parts of a URI

A URI is cut into a scheme, an authority, which begins with `//`, a path and a query;
what follows a `#` is none of its parts. Some texts are no URI: those whose authority
has unbalanced brackets, brackets around something that is no address, or a
character that stands for a delimiter.
-/

namespace Ontogen.Uri

/-- The parts of a URI that tell where a thing is kept. -/
structure Parts where
  /-- The text before the first colon, none if that is no scheme. -/
  scheme : List Char := []
  authority : List Char
  path : List Char
  query : List Char := []
  deriving DecidableEq, Repr

/-- The text without the control characters and spaces at its front and without
tabs and line breaks. -/
def clean (s : List Char) : List Char :=
  (s.dropWhile fun c => decide (c.toNat ≤ 0x20)).filter
    fun c => c != '\t' && c != '\r' && c != '\n'

/-- The characters of a scheme. -/
def isSchemeChar (c : Char) : Bool :=
  c.isAlphanum || c == '+' || c == '-' || c == '.'

/-- The scheme at the front of a text, none if it has no scheme, and the text after
the colon of the scheme. -/
def cutScheme (s : List Char) : List Char × List Char :=
  match Text.cutFirst ':' s with
  | some (c :: cs, rest) => if c.isAlpha && cs.all isSchemeChar then (c :: cs, rest) else ([], s)
  | _ => ([], s)

/-- The characters that end an authority. -/
def endsAuthority (c : Char) : Bool := c == '/' || c == '?' || c == '#'

/-- The characters beyond ASCII whose compatibility form has one of the
delimiters `/`, `?`, `#`, `@` and `:`. -/
def disguisedDelimiters : List Nat :=
  [0x2047, 0x2048, 0x2049, 0x2100, 0x2101, 0x2105, 0x2106, 0x2A74, 0xFE13, 0xFE16, 0xFE55,
   0xFE56, 0xFE5F, 0xFE6B, 0xFF03, 0xFF0F, 0xFF1A, 0xFF1F, 0xFF20]

/-- Whether brackets, if there are any, are those of an address: nothing before
them and at most a port after them. -/
def bracketsOk (authority : List Char) : Bool :=
  if '[' ∈ authority ∧ ']' ∈ authority then
    let hostAndPort := Text.afterLast '@' authority
    match Text.cutFirst '[' hostAndPort with
    | some (before, bracketed) =>
      let port := Text.afterFirst ']' bracketed
      before.isEmpty && (port.isEmpty || port.head? == some ':')
        && isBracketed (Text.beforeFirst ']' bracketed)
    -- The brackets are those of the user, and the host has none.
    | none => isBracketed (Text.beforeFirst ':' hostAndPort)
  else !authority.contains '[' && !authority.contains ']'

/-- Whether the authority can be taken apart. -/
def authorityOk (authority : List Char) : Bool :=
  bracketsOk authority && authority.all fun c => !disguisedDelimiters.contains c.toNat

/-- The parts of a URI, if it has an authority that can be taken apart or none
at all. -/
def parts? (s : List Char) : Option Parts :=
  let (scheme, rest) := cutScheme (clean s)
  let (authority, rest) :=
    match rest with
    | '/' :: '/' :: rest =>
      (rest.takeWhile fun c => !endsAuthority c, rest.dropWhile fun c => !endsAuthority c)
    | _ => ([], rest)
  if authorityOk authority then
    let resource := Text.beforeFirst '#' rest
    some {
      scheme, authority
      path := Text.beforeFirst '?' resource
      query := Text.afterFirst '?' resource }
  else none

/-- The host of an authority: what follows the user, without the port, in lower
case up to a zone. It is empty when there is no host. -/
def Parts.host (p : Parts) : List Char :=
  let hostAndPort := Text.afterLast '@' p.authority
  let host :=
    match Text.cutFirst '[' hostAndPort with
    | some (_, bracketed) => Text.beforeFirst ']' bracketed
    | none => Text.beforeFirst ':' hostAndPort
  -- A zone keeps its letter case.
  Text.lowerAll (Text.beforeFirst '%' host) ++ host.dropWhile (· != '%')

example : (parts? "http://u@WWW.e.org:80/a?b#c".toList).map
    (fun p => (p.host, p.path)) = some ("www.e.org".toList, "/a".toList) := by decide +kernel
example : parts? "http://[::1/x".toList = none := by decide +kernel

end Ontogen.Uri
