import StaticSite.Markdown.Block.Admonition
import StaticSite.Markdown.Block.Enclosed
import StaticSite.Markdown.Block.List
import StaticSite.Markdown.Block.Note
import StaticSite.Markdown.Block.Simple
import StaticSite.Markdown.Block.Table

/-!
# Reading blocks

The rules in the order in which they are tried, and the reading of a whole document with them.

## Main definitions

* `rules`: the rules.
* `readBlocks`: read blocks into an element.
* `readDocument`: the tree of a document and its notes.
-/

namespace StaticSite.Markdown.Block

/-- The rules in the order in which they are tried. The last one takes every block. -/
def rules (settings : Settings) : List Rule :=
  [enclosed, admonition, empty, continuation] ++
    (if settings.definitions then [definitionContinuation] else []) ++
    [code, table, heading, underlined, ruler, orderedList, bulletList] ++
    (if settings.definitions then [definitionList] else []) ++
    [quotation, footnote, abbreviation, target, paragraph]

/-- Read blocks into an element, nested at most `fuel` deep and with at most so many steps in a row. -/
def readBlocks (settings : Settings) : Nat → Reader
  | 0, _, parent, _, notes => (parent, notes)
  | _ + 1, _, parent, [], notes => (parent, notes)
  | fuel + 1, place, parent, block :: rest, notes =>
    let read := readBlocks settings fuel
    match (rules settings).findSome? fun rule => rule settings read ⟨place, parent, block, rest, notes⟩ with
    | some p => read place p.parent p.rest p.notes
    | none => (parent, notes)

/-- The steps that are enough for a text: each of them takes something off it, or some indentation, or
is followed by one that does. -/
def enoughSteps (text : Glyphs) : Nat := 8 * (Glyphs.weightAll text + 8)

/-- The tree of a document, in an element around it, and its notes. -/
def readDocument (settings : Settings) (text : Glyphs) : Element × Notes :=
  readBlocks settings (enoughSteps text) .plain (.bare "div") (Glyphs.blocks text) .empty

end StaticSite.Markdown.Block
