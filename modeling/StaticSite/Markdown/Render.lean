import StaticSite.Markdown.Abbreviation
import StaticSite.Markdown.AttributeList
import StaticSite.Markdown.Contents
import StaticSite.Markdown.Enclosure
import StaticSite.Markdown.Fence
import StaticSite.Markdown.Footnote
import StaticSite.Markdown.Source
import StaticSite.Markdown.Tidy

/-!
# Rendering

A document goes through its passes in a fixed order: source lines, fenced code, markup of its own,
blocks, running text, and then what concerns the document as a whole. What one pass has settled the
later ones leave alone.

## Main definitions

* `Settings.tree`: the tree of a document.
* `render`: the markup of a document.
-/

namespace StaticSite.Markdown

namespace Settings

/-- The text of some source lines, with fenced code and enclosed markup set apart. -/
def setApart (s : Settings) (lines : List (List Char)) : Glyphs :=
  let lines := match s.fences with
    | .boxed => Fence.boxedBlocks lines
    | .classed start => Fence.classedBlocks start lines
  Enclosure.extract s.style (Glyphs.joinLines lines)

/-- The tree of blocks with all running text read, and the abbreviations that are noted. -/
def readTexts (s : Settings) (text : Glyphs) : Element × List (List Char × Glyphs) :=
  let (root, notes) := Block.readDocument s text
  let names := notes.footnotes.map (·.1)
  match s.footnotes with
  | none => ((Inline.readDocument s ⟨fun _ _ => .bare "sup"⟩ notes root).1, notes.abbreviations)
  | some f =>
    let (root, notes) := Footnote.addSection s f root notes
    let (root, mentioned) := Inline.readDocument s (Footnote.mentions f names) notes root
    (Footnote.settle f names mentioned root, notes.abbreviations)

/-- The tree of a document, from its text with everything set apart. -/
def tree (s : Settings) (text : Glyphs) : Element :=
  let (root, abbreviations) := s.readTexts text
  let root := root.tidied
  let root := if s.attributeLists then root.withAttributeLists else root
  let root := root.withAbbreviations abbreviations
  let root := match s.smart with
    | some marks => Inline.smarten marks root
    | none => root
  root.withContents s.contents s.style

/-- The markup of a document with a distance of tab stops. -/
def markup (s : Settings) (tabLength : Nat) (text : List Char) : List Char :=
  let lines := Source.lines tabLength text
  let lines := if s.metadata then Source.withoutHeader lines else lines
  let root := s.tree (s.setApart lines)
  let inner := Glyphs.escaped false root.text ++ Element.writtenAll s.style root.children
  Text.trim Text.isBlank (Glyphs.finished (Glyphs.trim inner))

end Settings

/-- The markup of a document. -/
def render (settings : Value) (text : String) : Except Failure String := do
  let s ← Settings.ofValue settings
  if text.toList.all Text.isBlank then pure ""
  else
    match s.tabLength with
    | none => throw wrongShape
    | some n => pure (String.ofList (s.markup n text.toList))

end StaticSite.Markdown
