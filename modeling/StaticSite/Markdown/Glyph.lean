import StaticSite.Text.Basic
import StaticSite.Text.Case
import StaticSite.Text.Letter

/-!
# Glyphs and elements

A document is rendered in passes, and each pass settles some of its text. What is settled must not be
read again: a quoted star is no emphasis, and a finished piece of markup holds no headings. So text is
not a list of characters but a list of *glyphs*. A glyph is a character that may still take part in
markup, a character that stands for itself, a finished piece of markup, or a whole element. Nothing
that a pass looks for is ever found inside a settled glyph, and every pass keeps settled glyphs in
their places.

An *element* has a text before its first child and a tail behind its end tag, so that the children of
an element are a list of elements alone.

## Main definitions

* `Glyph`, `Origin`, `Element`: the document.
* `Glyphs`: a text.
* `Glyphs.lines`, `Glyphs.joinLines`, `Glyphs.blocks`: cutting a text.
-/

namespace StaticSite.Markdown

mutual

/-- A piece of a text. -/
inductive Glyph
  /-- A character that may take part in markup. -/
  | char (c : Char)
  /-- A character that stands for itself. -/
  | literal (c : Char)
  /-- A character that takes no part in markup until its text is put together. -/
  | held (c : Char)
  /-- Finished markup. -/
  | raw (markup : List Glyph) (origin : Origin)
  /-- An element within the text. -/
  | node (e : Element)

/-- Where finished markup comes from: it may yet turn out to be something else. -/
inductive Origin
  /-- It was finished in the source. -/
  | source
  /-- A fenced block of code: its lines, and how far its fence is indented. -/
  | fence (lines : List (List Char)) (indent : Nat)
  /-- An element whose content is still to be read. -/
  | element (e : Element)

/-- An element with its attributes, its content, and the text behind it. -/
structure Element where
  tag : String
  attributes : List (String × List Glyph)
  /-- The text before the first child. -/
  text : List Glyph
  /-- The text is not to be read again. -/
  fixed : Bool
  children : List Element
  /-- The text behind the end tag. -/
  tail : List Glyph
  /-- The tail is not to be read again. -/
  tailFixed : Bool

end

/-- A text. -/
abbrev Glyphs := List Glyph

instance : Inhabited Glyph := ⟨.char ' '⟩

namespace Glyph

/-- The character that may take part in markup. -/
def char? : Glyph → Option Char
  | .char c => some c
  | _ => none

/-- A character of a class that may take part in markup. -/
def satisfies (p : Char → Bool) : Glyph → Bool
  | .char c => p c
  | _ => false

/-- This character. -/
def is (c : Char) (g : Glyph) : Bool := g.satisfies (· == c)

/-- A blank. -/
def isBlank (g : Glyph) : Bool := g.satisfies Text.isBlank

/-- A word character. -/
def isWord (g : Glyph) : Bool := g.satisfies Text.isWord

end Glyph

namespace Glyphs

/-! ### Characters -/

/-- The text of some characters. -/
def ofChars (s : List Char) : Glyphs := s.map .char

/-- The text of a string. -/
def ofString (s : String) : Glyphs := ofChars s.toList

/-- The characters of a text that has nothing else. -/
def chars? (s : Glyphs) : Option (List Char) := s.mapM Glyph.char?

/-- The characters of a text, whether they stand for themselves or not. -/
def chars (s : Glyphs) : List Char :=
  s.filterMap fun g => match g with
    | .char c | .literal c | .held c => some c
    | _ => none

/-- A blank text. -/
def isBlank (s : Glyphs) : Bool := s.all Glyph.isBlank

/-- The text without blanks at its beginning. -/
def trimStart (s : Glyphs) : Glyphs := s.dropWhile Glyph.isBlank

/-- The text without what satisfies a predicate at its end. -/
def dropWhileEnd (p : Glyph → Bool) (s : Glyphs) : Glyphs := (s.reverse.dropWhile p).reverse

/-- The text without blanks at its end. -/
def trimEnd (s : Glyphs) : Glyphs := dropWhileEnd Glyph.isBlank s

/-- The text without blanks at either end. -/
def trim (s : Glyphs) : Glyphs := trimEnd (trimStart s)

/-- The text without spaces at either end. -/
def trimSpaces (s : Glyphs) : Glyphs := dropWhileEnd (·.is ' ') (s.dropWhile (·.is ' '))

/-- The text without line breaks at its beginning. -/
def trimBreaksStart (s : Glyphs) : Glyphs := s.dropWhile (·.is '\n')

/-- The text without line breaks at its end. -/
def trimBreaksEnd (s : Glyphs) : Glyphs := dropWhileEnd (·.is '\n') s

/-- The text in lower case. -/
def lower (s : Glyphs) : Glyphs :=
  s.flatMap fun g => match g with
    | .char c => ofChars (Text.toLower c)
    | g => [g]

/-- The rest of a text behind some characters. -/
def stripStart? : List Char → Glyphs → Option Glyphs
  | [], s => some s
  | c :: cs, g :: s => if g.is c then stripStart? cs s else none
  | _ :: _, [] => none

/-- The text begins with these characters. -/
def startsWith (mark : List Char) (s : Glyphs) : Bool := (stripStart? mark s).isSome

/-- The text begins with this many spaces. -/
def isIndented (n : Nat) (s : Glyphs) : Bool := startsWith (Text.copies n ' ') s

/-- The text consists of these characters. -/
def equals (mark : List Char) (s : Glyphs) : Bool :=
  match stripStart? mark s with
  | some [] => true
  | _ => false

/-- The parts around the first occurrence of a mark. -/
def breakOn? (mark : List Char) : Glyphs → Option (Glyphs × Glyphs)
  | [] => if mark.isEmpty then some ([], []) else none
  | g :: s =>
    match stripStart? mark (g :: s) with
    | some rest => some ([], rest)
    | none => (breakOn? mark s).map fun (before, rest) => (g :: before, rest)

/-- Pass over at most this many spaces. -/
def skipSpaces : Nat → Glyphs → Glyphs
  | n + 1, g :: s => if g.is ' ' then skipSpaces n s else g :: s
  | _, s => s

/-! ### Lines and blocks -/

/-- Cut at every glyph that satisfies a predicate; there is one piece more than cuts. -/
def splitWhere (p : Glyph → Bool) : Glyphs → List Glyphs
  | [] => [[]]
  | g :: s =>
    if p g then [] :: splitWhere p s
    else match splitWhere p s with
      | [] => [[g]]
      | piece :: pieces => (g :: piece) :: pieces

/-- The lines of a text. -/
def lines (s : Glyphs) : List Glyphs := splitWhere (·.is '\n') s

/-- Put texts together with a separator between neighbours. -/
def join (separator : Glyphs) : List Glyphs → Glyphs
  | [] => []
  | [s] => s
  | s :: rest => s ++ separator ++ join separator rest

/-- The text of some lines. -/
def joinLines (lines : List Glyphs) : Glyphs := join [.char '\n'] lines

/-- The blocks of a text, which blank lines set apart; a further line break begins the next block. -/
def blocks : Glyphs → List Glyphs
  | [] => [[]]
  | [g] => [[g]]
  | g :: h :: s =>
    if g.is '\n' && h.is '\n' then [] :: blocks s
    else match blocks (h :: s) with
      | [] => [[g]]
      | piece :: pieces => (g :: piece) :: pieces

end Glyphs

end StaticSite.Markdown
