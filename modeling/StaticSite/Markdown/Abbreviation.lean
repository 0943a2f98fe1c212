import StaticSite.Markdown.Element

/-!
# Abbreviations

An abbreviation is marked with its meaning wherever it stands as a word in a text that may still be
read. Of two abbreviations that begin alike the longer one is tried first.

## Main definitions

* `Abbreviation.marked`: the text before the first abbreviation, and the marked abbreviations, each with
  the text behind it.
* `Element.withAbbreviations`: a tree with all abbreviations marked.
-/

namespace StaticSite.Markdown

namespace Abbreviation

/-- An abbreviation with its meaning. -/
abbrev Entry := List Char × Glyphs

/-- A word begins or ends between two glyphs. -/
def isBoundary (before after : Option Glyph) : Bool :=
  let inWord (g : Option Glyph) : Bool := (g.map Glyph.isWord).getD false
  inWord before != inWord after

/-- The abbreviation that stands at the beginning of a text as a word, and what follows it. -/
def at? (entries : List Entry) (previous : Option Glyph) (s : Glyphs) : Option (Entry × Glyphs) :=
  if !isBoundary previous s.head? then none
  else entries.findSome? fun entry =>
    match Glyphs.stripStart? entry.1 s with
    | some rest =>
      let last := (entry.1.getLast?.map Glyph.char).or previous
      if isBoundary last rest.head? then some (entry, rest) else none
    | none => none

/-- The element that marks an abbreviation. -/
def element (entry : Entry) (tail : Glyphs) : Element :=
  { (Element.withFixedText "abbr" (Glyphs.ofChars entry.1)).set "title" entry.2 with tail := tail }

/-- The text before the first abbreviation, and the marked abbreviations, from a glyph on; the next
`pass` glyphs belong to an abbreviation. -/
def markedFrom (entries : List Entry) : Nat → Option Glyph → Glyphs → Glyphs × List Element
  | _, _, [] => ([], [])
  | pass + 1, _, g :: s => markedFrom entries pass (some g) s
  | 0, previous, g :: s =>
    match at? entries previous (g :: s) with
    | some (entry, _) =>
      let (tail, others) := markedFrom entries (entry.1.length - 1) (some g) s
      ([], element entry tail :: others)
    | none =>
      let (text, others) := markedFrom entries 0 (some g) s
      (g :: text, others)

/-- The text before the first abbreviation, and the marked abbreviations, each with the text behind it. -/
def marked (entries : List Entry) (s : Glyphs) : Glyphs × List Element := markedFrom entries 0 none s

/-- An abbreviation is tried before another one. -/
def isLonger (a b : Entry) : Bool := b.1.length < a.1.length

mutual

/-- Mark the abbreviations inside an element. -/
def inside (entries : List Entry) : Element → Element
  | ⟨tag, attributes, text, fixed, children, tail, tailFixed⟩ =>
    let (text, found) := if fixed then (text, []) else marked entries text
    ⟨tag, attributes, text, fixed, found ++ insideAll entries children, tail, tailFixed⟩

/-- Mark the abbreviations inside and behind some elements. -/
def insideAll (entries : List Entry) : List Element → List Element
  | [] => []
  | e :: es =>
    let e := inside entries e
    let (tail, found) := if e.tailFixed then (e.tail, []) else marked entries e.tail
    { e with tail := tail } :: found ++ insideAll entries es

end

end Abbreviation

/-- The tree with all abbreviations marked. -/
def Element.withAbbreviations (entries : List Abbreviation.Entry) (e : Element) : Element :=
  if entries.isEmpty then e
  else Abbreviation.inside (Text.sortBy Abbreviation.isLonger entries) e

end StaticSite.Markdown
