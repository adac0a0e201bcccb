import Ontogen.Text.Cut

/-!
# Names and namespaces

The name of a thing is the last part of its URI: what follows the last `#`, or
the last path segment when there is no `#`. The namespace is what comes before
that name, up to and with the `#` or the `/`.
-/

namespace Ontogen

/-- A URI as it is written, which nothing is demanded of. -/
abbrev Uri := String

namespace Uri

/-- The name that a URI gives its thing: the text after the last `#`, or the
last segment that is not empty when there is no `#`. -/
def localChars (s : List Char) : List Char :=
  if '#' ∈ s then Text.afterLast '#' s else Text.afterLast '/' (Text.dropEnd '/' s)

/-- The namespace: the URI up to its last `#`, or up to the `/` before its last
segment, which is added when there is none. -/
def namespaceChars (s : List Char) : List Char :=
  if '#' ∈ s then Text.beforeLast '#' s ++ ['#']
  else Text.beforeLast '/' (Text.dropEnd '/' s) ++ ['/']

/-- The name that a URI gives its thing. -/
def localName (u : Uri) : String := String.ofList (localChars u.toList)

/-- The part of a URI that it shares with the other things of its vocabulary. -/
def namespaceOf (u : Uri) : String := String.ofList (namespaceChars u.toList)

end Uri

end Ontogen
