import StaticSite.Markdown.Settings

/-!
# Blocks

A text is read block by block. A *rule* looks at the next block and either passes on it or grows the
element that is being filled, perhaps by reading part of the block inside a child, and perhaps by
leaving part of it for the next round. The rules are tried in order.

Some rules give notes instead of elements: the targets of links, footnotes and abbreviations, which
are used anywhere in the document.

## Main definitions

* `Situation`, `Progress`, `Rule`: what a rule sees and gives.
* `Notes`: what is noted for the whole document.
* `detab`, `looseDetab`: taking indentation off.
-/

namespace StaticSite.Markdown.Block

/-! ### Notes -/

/-- The target of a link. -/
structure Target where
  address : Glyphs
  title : Option Glyphs

/-- What is noted for the whole document. -/
structure Notes where
  targets : List (List Char × Target)
  abbreviations : List (List Char × Glyphs)
  /-- The texts of the footnotes in the order of their definitions. -/
  footnotes : List (List Char × Glyphs)

/-- Nothing noted. -/
def Notes.empty : Notes := ⟨[], [], []⟩

/-- Note something under a name: in the place of what was noted before, or at the end. -/
def note (name : List Char) (value : α) : List (List Char × α) → List (List Char × α)
  | [] => [(name, value)]
  | (n, v) :: notes => if n == name then (n, value) :: notes else (n, v) :: note name value notes

/-! ### Rules -/

/-- What the blocks that are being read are part of. -/
inductive Place
  | plain
  | tightList
  | looseList
  | indented
  | quotation
  deriving DecidableEq, Repr

/-- Read blocks into an element. -/
abbrev Reader := Place → Element → List Glyphs → Notes → Element × Notes

/-- What a rule sees. -/
structure Situation where
  place : Place
  /-- The element that is being filled. -/
  parent : Element
  block : Glyphs
  /-- The blocks behind. -/
  rest : List Glyphs
  notes : Notes

/-- What a rule gives. -/
structure Progress where
  parent : Element
  /-- The blocks that are still to be read. -/
  rest : List Glyphs
  notes : Notes

/-- A rule, with a reader for what stands inside. -/
abbrev Rule := Settings → Reader → Situation → Option Progress

/-- A rule has grown the element and left some text. -/
def Situation.done (s : Situation) (parent : Element) (rest : List Glyphs) : Option Progress :=
  some ⟨parent, rest, s.notes⟩

/-- Put a text before blocks unless it is empty. -/
def putBefore (s : Glyphs) (rest : List Glyphs) : List Glyphs := if s.isEmpty then rest else s :: rest

/-- The width of an indentation. -/
def width (settings : Settings) : Nat := settings.tabLength.getD 4

/-! ### Indentation -/

/-- The first lines of some lines, as long as they are indented or blank, without their indentation,
and the lines behind. -/
def detabLines (n : Nat) : List Glyphs → List Glyphs × List Glyphs
  | [] => ([], [])
  | line :: lines =>
    if Glyphs.isIndented n line then
      let (inside, rest) := detabLines n lines
      (line.drop n :: inside, rest)
    else if Glyphs.isBlank line then
      let (inside, rest) := detabLines n lines
      ([] :: inside, rest)
    else ([], line :: lines)

/-- The indented beginning of a text without its indentation, and what follows. -/
def detab (n : Nat) (s : Glyphs) : Glyphs × Glyphs :=
  let (inside, rest) := detabLines n (Glyphs.lines s)
  (Glyphs.joinLines inside, Glyphs.joinLines rest)

/-- A text without the indentation of those lines that have it. -/
def looseDetab (n : Nat) (s : Glyphs) : Glyphs :=
  Glyphs.joinLines ((Glyphs.lines s).map fun line =>
    if Glyphs.isIndented n line then line.drop n else line)

/-- The lines around the first that satisfies a predicate. -/
def breakLines? (p : Glyphs → Option α) : List Glyphs → Option (List Glyphs × α × List Glyphs)
  | [] => none
  | line :: lines =>
    match p line with
    | some a => some ([], a, lines)
    | none => (breakLines? p lines).map fun (before, a, rest) => (line :: before, a, rest)

end StaticSite.Markdown.Block
