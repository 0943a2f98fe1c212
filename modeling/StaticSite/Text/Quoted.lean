import StaticSite.Text.Basic
import StaticSite.Text.Printable

/-!
# Quoted texts

The form in which a text is shown inside a message or a list: between single quotes, unless it
holds a single quote and no double quote. The quote in use, the backslash and the characters that
are not printable are written as escapes.
-/

namespace StaticSite.Text

/-- The quote that a text is shown between. -/
def quoteFor (s : List Char) : Char :=
  if s.contains '\'' && !s.contains '"' then '"' else '\''

/-- The form of one character between quotes `q`. -/
def quotedChar (q c : Char) : List Char :=
  if c == q || c == '\\' then ['\\', c]
  else if c == '\n' then ['\\', 'n']
  else if c == '\r' then ['\\', 'r']
  else if c == '\t' then ['\\', 't']
  else if isPrintable c then [c]
  else if c.toNat < 0x100 then '\\' :: 'x' :: padded 16 2 c.toNat
  else if c.toNat < 0x10000 then '\\' :: 'u' :: padded 16 4 c.toNat
  else '\\' :: 'U' :: padded 16 8 c.toNat

/-- A text between quotes. -/
def quoted (s : List Char) : List Char :=
  let q := quoteFor s
  q :: s.flatMap (quotedChar q) ++ [q]

/-- A text between quotes, as a `String`. -/
def quote (s : String) : String := String.ofList (quoted s.toList)

/-- The form of one byte between quotes `q`. -/
def quotedByte (q : Char) (b : UInt8) : List Char :=
  let c := Char.ofNat b.toNat
  if c == q || c == '\\' then ['\\', c]
  else if c == '\n' then ['\\', 'n']
  else if c == '\r' then ['\\', 'r']
  else if c == '\t' then ['\\', 't']
  else if 0x20 ≤ b.toNat && b.toNat < 0x7f then [c]
  else '\\' :: 'x' :: padded 16 2 b.toNat

/-- A string of bytes between quotes, after the letter `b`. -/
def quotedBytes (bytes : List UInt8) : List Char :=
  let q := quoteFor (bytes.map fun b => Char.ofNat b.toNat)
  'b' :: q :: bytes.flatMap (quotedByte q) ++ [q]

end StaticSite.Text
