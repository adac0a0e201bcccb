import Ontogen.Text.Printable

/-!
# Quoted text

A text between quotes, in which every character that cannot be shown as itself
is written as an escape. The quote is single unless the text has a single quote
and no double quote.
-/

namespace Ontogen.Text

/-- The digits of `n` in base 16, filled up with zeros to `width` digits. -/
def hexDigits (width n : Nat) : List Char :=
  let digits := Nat.toDigits 16 n
  List.replicate (width - digits.length) '0' ++ digits

/-- The escape of a character by its code point: two, four or eight digits. -/
def codeEscape (c : Char) : List Char :=
  if c.toNat < 0x100 then '\\' :: 'x' :: hexDigits 2 c.toNat
  else if c.toNat < 0x10000 then '\\' :: 'u' :: hexDigits 4 c.toNat
  else '\\' :: 'U' :: hexDigits 8 c.toNat

/-- How a character is written between quotes of the kind `quote`. -/
def escape (quote c : Char) : List Char :=
  if c = quote ∨ c = '\\' then ['\\', c]
  else if c = '\n' then ['\\', 'n']
  else if c = '\r' then ['\\', 'r']
  else if c = '\t' then ['\\', 't']
  else if isPrintable c then [c]
  else codeEscape c

/-- The kind of quote that a text gets. -/
def quoteFor (s : List Char) : Char :=
  if '\'' ∈ s ∧ '"' ∉ s then '"' else '\''

/-- The text between quotes. -/
def quoted (s : List Char) : List Char :=
  quoteFor s :: s.flatMap (escape (quoteFor s)) ++ [quoteFor s]

example : quoted "it's".toList = "\"it's\"".toList := by decide +kernel
example : quoted ['a', '\\', '\n', Char.ofNat 0x7F] = "'a\\\\\\n\\x7f'".toList := by
  decide +kernel
example : quoted [Char.ofNat 0x200B, 'é'] = "'\\u200bé'".toList := by decide +kernel

end Ontogen.Text
