import StaticSite.Markdown.Block.Basic

/-!
# Elements of the source

An element of the source whose content is Markdown takes its place among the blocks, and its content is
read as far as its tag says: as blocks, as running text, or not at all.

## Main definitions

* `enclosed`: the rule.
-/

namespace StaticSite.Markdown.Block

/-- Text without the line breaks at its end, as children. -/
def readInside (read : Notes → Element → List Glyphs → Element × Notes) (text : Glyphs)
    (notes : Notes) : List Element × Notes :=
  if text.isEmpty then ([], notes)
  else
    let (filled, notes) := read notes (.bare "div") (Glyphs.blocks (Glyphs.trimBreaksEnd text))
    (filled.children, notes)

/-- Read the texts behind some children, and put what they give behind each of them. -/
def readTails (read : Notes → Element → List Glyphs → Element × Notes) :
    List Element → Notes → List Element × Notes
  | [], notes => ([], notes)
  | e :: es, notes =>
    let (behind, notes) := readInside read e.tail notes
    let (others, notes) := readTails read es notes
    ({ e with tail := [] } :: behind ++ others, notes)

mutual

/-- Read the content of an element of the source. -/
def readContent (read : Notes → Element → List Glyphs → Element × Notes) :
    Element → Notes → Element × Notes
  | ⟨tag, attributes, text, fixed, children, tail, tailFixed⟩, notes =>
    let reach := (attributes.lookup "markdown").getD []
    let attributes := attributes.filter (·.1 != "markdown")
    let (children, notes) := readContentOf read children notes
    if Glyphs.equals "block".toList reach then
      let (children, notes) := readTails read children notes
      let (first, notes) := readInside read text notes
      (⟨tag, attributes, [], fixed, first ++ children, tail, tailFixed⟩, notes)
    else if Glyphs.equals "span".toList reach then
      (⟨tag, attributes, text, fixed, children, tail, tailFixed⟩, notes)
    else
      (⟨tag, attributes, text, true,
        children.map fun e => { e with tailFixed := true }, tail, tailFixed⟩, notes)

/-- Read the contents of some elements of the source. -/
def readContentOf (read : Notes → Element → List Glyphs → Element × Notes) :
    List Element → Notes → List Element × Notes
  | [], notes => ([], notes)
  | e :: es, notes =>
    let (e, notes) := readContent read e notes
    let (es, notes) := readContentOf read es notes
    (e :: es, notes)

end

/-- An element of the source at the beginning of a block. -/
def enclosed : Rule := fun _ read s =>
  match s.block with
  | .raw _ (.element e) :: _ =>
    let inside (notes : Notes) (e : Element) (blocks : List Glyphs) := read s.place e blocks notes
    let (e, notes) := readContent inside e s.notes
    some ⟨s.parent.append e, s.rest, notes⟩
  | _ => none

end StaticSite.Markdown.Block
