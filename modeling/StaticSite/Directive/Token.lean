import StaticSite.Text.Basic
import StaticSite.Text.Letter

/-!
# Directives in rendered text

A rendered text may hold *include directives*, `include{{ path }}`, and *variables*,
`{{ name }}`. A text is cut into tokens from left to right: at each position an include directive
is tried first, then a variable, and what is neither belongs to the literal text between them.

## Main definitions

* `Token`: literal text, an include directive or a variable, with its raw form.
* `includeAt?`, `variableAt?`: a directive at the beginning of a text.
* `tokenize`: the tokens of a text.
-/

namespace StaticSite.Directive

/-- What a token is. -/
inductive Kind
  | text
  | include
  | variable
  deriving DecidableEq, Repr

/-- The name of a kind. -/
def Kind.name : Kind → String
  | .text => "text"
  | .include => "include"
  | .variable => "variable"

/-- A piece of a text. -/
structure Token where
  /-- What the piece is. -/
  kind : Kind
  /-- The path or name of a directive, the text itself otherwise. -/
  value : List Char
  /-- The piece as it is spelled. -/
  raw : List Char
  deriving DecidableEq, Repr

/-- The characters of a variable's name. -/
def isNameChar (c : Char) : Bool := c == '-' || c == '.' || Text.isWord c

/-- The characters of an included path. -/
def isPathChar (c : Char) : Bool := c == '-' || c == '@' || c == '/' || c == '.' || Text.isWord c

/-- The two opening braces. -/
def opening : List Char := ['{', '{']

/-- The two closing braces. -/
def closing : List Char := ['}', '}']

/-- The word before the braces of an include directive. -/
def includeWord : List Char := ['i', 'n', 'c', 'l', 'u', 'd', 'e']

/-- Braces around a nonempty word of the class `p`, with blanks on both sides of it: the word and the
number of characters read. -/
def bracedAt? (p : Char → Bool) (s : List Char) : Option (List Char × Nat) := do
  let inner ← Text.stripStart? opening s
  let lead := inner.takeWhile Text.isBlank
  let rest := inner.dropWhile Text.isBlank
  let word := rest.takeWhile p
  let tail := rest.dropWhile p
  let gap := tail.takeWhile Text.isBlank
  let _ ← Text.stripStart? closing (tail.dropWhile Text.isBlank)
  if word.isEmpty then none
  else some (word, 2 + lead.length + word.length + gap.length + 2)

/-- An include directive at the beginning of a text: its path and its length. -/
def includeAt? (s : List Char) : Option (List Char × Nat) := do
  let rest ← Text.stripStart? includeWord s
  let (path, length) ← bracedAt? isPathChar rest
  some (path, includeWord.length + length)

/-- A variable at the beginning of a text: its name and its length. -/
def variableAt? (s : List Char) : Option (List Char × Nat) := bracedAt? isNameChar s

/-- A directive of either kind at the beginning of a text. -/
def directiveAt? (s : List Char) : Option Token :=
  match includeAt? s with
  | some (path, length) => some ⟨.include, path, s.take length⟩
  | none =>
    match variableAt? s with
    | some (name, length) => some ⟨.variable, name, s.take length⟩
    | none => none

/-- Put one more literal character in front of a list of tokens. -/
def consText (c : Char) : List Token → List Token
  | ⟨.text, value, raw⟩ :: tokens => ⟨.text, c :: value, c :: raw⟩ :: tokens
  | tokens => ⟨.text, [c], [c]⟩ :: tokens

/-- The tokens of a text, passing over the next `skip` characters, which a directive has used. -/
def tokenizeFrom : Nat → List Char → List Token
  | _, [] => []
  | skip + 1, _ :: cs => tokenizeFrom skip cs
  | 0, c :: cs =>
    match directiveAt? (c :: cs) with
    | some token => token :: tokenizeFrom (token.raw.length - 1) cs
    | none => consText c (tokenizeFrom 0 cs)

/-- The tokens of a text. -/
def tokenize (s : List Char) : List Token := tokenizeFrom 0 s

end StaticSite.Directive
