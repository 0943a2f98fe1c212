import StaticSite.Markdown.Block.Basic

/-!
# Running text

The texts of a document are read pattern by pattern: each pattern in turn replaces what it finds by an
element, by finished markup, or by characters that stand for themselves, and only then the next pattern
is tried. The text of a new element is read with the patterns that follow; the text between the
elements inside it with the same pattern again.

When all patterns have been tried, the elements that were found become children. Their own children
are then read in the same way, from the first pattern on.

## Main definitions

* `Pattern`, `Found`: what a pattern is and what it finds.
* `readText`: read a text with some patterns.
* `Glyphs.parted`: the text of an element and the elements within it.
* `readTree`: read all texts of a tree.
-/

namespace StaticSite.Markdown.Inline

open Block (Notes)

/-! ### Patterns -/

/-- What a pattern finds at a place. -/
inductive Found
  /-- Nothing begins here. -/
  | nothing
  /-- So many glyphs are to be left as they are. -/
  | leave (length : Nat)
  /-- Glyphs in the place of so many. -/
  | glyphs (s : Glyphs) (length : Nat)
  /-- An element in the place of so many glyphs. -/
  | element (e : Element) (length : Nat)
  /-- The mention of a footnote in the place of so many glyphs. -/
  | mention (name : List Char) (length : Nat)

/-- A pattern looks at a text from a place on; it knows the glyph before that place. -/
abbrev Pattern := Option Glyph → Glyphs → Found

/-- How the mention of a footnote is written. -/
structure Mentions where
  /-- The element for a mention of a footnote, from the names that were mentioned before. -/
  element : List (List Char) → List Char → Element

/-- A place where something was found, with the text around it. -/
structure Spot where
  before : Glyphs
  found : Found
  after : Glyphs

/-- The first place where a pattern finds something, passing over the next `pass` glyphs. -/
def findFrom (p : Pattern) : Nat → Option Glyph → Glyphs → Option Spot
  | _, _, [] => none
  | pass + 1, _, g :: s => (findFrom p pass (some g) s).map fun spot =>
    { spot with before := g :: spot.before }
  | 0, previous, g :: s =>
    let onward (pass : Nat) := (findFrom p pass (some g) s).map fun (spot : Spot) =>
      { spot with before := g :: spot.before }
    match p previous (g :: s) with
    | .nothing => onward 0
    | .leave n => onward (n - 1)
    | .glyphs new n => some ⟨[], .glyphs new n, (g :: s).drop n⟩
    | .element e n => some ⟨[], .element e n, (g :: s).drop n⟩
    | .mention name n => some ⟨[], .mention name n, (g :: s).drop n⟩

/-! ### Reading a text -/

/-- The names of footnotes that have been mentioned, the last one first. -/
abbrev Mentioned := List (List Char)

/-- Read the texts of an element and of its children, unless its text is fixed: texts with `inner`, and
tails with `outer`. -/
def readElement (inner outer : Glyphs → Mentioned → Glyphs × Mentioned) (e : Element)
    (m : Mentioned) : Element × Mentioned :=
  if e.fixed then (e, m)
  else
    let (text, m) := inner e.text m
    let step (done : List Element × Mentioned) (child : Element) : List Element × Mentioned :=
      let (text, m) := if child.fixed then (child.text, done.2) else inner child.text done.2
      let (tail, m) := if child.tailFixed then (child.tail, m) else outer child.tail m
      ({ child with text := text, tail := tail } :: done.1, m)
    let (children, m) := e.children.foldl step ([], m)
    ({ e with text := text, children := children.reverse }, m)

/-- Read a text with some patterns in at most `fuel` steps. -/
def readWithin (mentions : Mentions) : Nat → List Pattern → Glyphs → Mentioned → Glyphs × Mentioned
  | 0, _, s, m => (s, m)
  | _ + 1, [], s, m => (s, m)
  | fuel + 1, p :: ps, s, m =>
    if s.isEmpty then (s, m)
    else
      match findFrom p 0 none s with
      | none => readWithin mentions fuel ps s m
      | some spot =>
        let put (e : Element) (m : Mentioned) :=
          let (e, m) := readElement (readWithin mentions fuel ps) (readWithin mentions fuel (p :: ps)) e m
          readWithin mentions fuel (p :: ps) (spot.before ++ .node e :: spot.after) m
        match spot.found with
        | .glyphs new _ => readWithin mentions fuel (p :: ps) (spot.before ++ new ++ spot.after) m
        | .element e _ => put e m
        | .mention name _ => put (mentions.element m.reverse name) (name :: m)
        | _ => readWithin mentions fuel ps s m

/-- Read a text with some patterns. Every step settles a glyph or is done with a pattern. -/
def readText (mentions : Mentions) (patterns : List Pattern) (s : Glyphs) (m : Mentioned) :
    Glyphs × Mentioned :=
  readWithin mentions (2 * s.length + patterns.length + 2) patterns s m

end Inline

/-! ### Parting a text -/

mutual

/-- The text before the first element, and the elements, each with the text behind it as its tail. -/
def Glyphs.parted : List Glyph → List Glyph × List Element
  | [] => ([], [])
  | .node e :: s =>
    let (tail, others) := Glyphs.parted s
    let e := Element.parted e
    ([], { e with tail := e.tail ++ tail } :: others)
  | .held c :: s =>
    let (text, elements) := Glyphs.parted s
    (.char c :: text, elements)
  | g :: s =>
    let (text, elements) := Glyphs.parted s
    (g :: text, elements)

/-- An element with the elements within its texts, and within those of its children, as children. -/
def Element.parted : Element → Element
  | ⟨tag, attributes, text, fixed, children, tail, tailFixed⟩ =>
    let (text, first) := Glyphs.parted text
    ⟨tag, attributes, text, fixed, first ++ Element.partedAll children, tail, tailFixed⟩

/-- Elements with the elements within their texts as children, and those within their tails behind
them. -/
def Element.partedAll : List Element → List Element
  | [] => []
  | ⟨tag, attributes, text, fixed, children, tail, tailFixed⟩ :: es =>
    let (text, first) := Glyphs.parted text
    let (tail, behind) := Glyphs.parted tail
    ⟨tag, attributes, text, fixed, first ++ children, tail, tailFixed⟩ :: behind ++
      Element.partedAll es

end

namespace Inline

/-! ### Reading a tree -/

/-- How a text is read. -/
abbrev TextReader := Glyphs → Mentioned → Glyphs × Mentioned

/-- A child whose texts have been read: the elements found in its text, and whether it had children
before. -/
structure ReadChild where
  child : Element
  found : List Element
  hadChildren : Bool

/-- Read the texts of a child: the child, and the elements found behind it. -/
def readChild (read : TextReader) (child : Element) (m : Mentioned) :
    ReadChild × List Element × Mentioned :=
  let (text, found, m) :=
    if child.text.isEmpty || child.fixed then (child.text, [], m)
    else
      let (text, m) := read child.text m
      let (text, found) := Glyphs.parted text
      (text, found, m)
  let (tail, behind, m) :=
    if child.tail.isEmpty || child.tailFixed then (child.tail, [], m)
    else
      let (tail, m) := read child.tail m
      let (tail, behind) := Glyphs.parted tail
      (tail, behind, m)
  (⟨{ child with text := text, tail := tail }, found, !child.children.isEmpty⟩, behind, m)

mutual

/-- Read the texts of the children of an element, and then what is inside them, the last one first, in
at most `fuel` steps. -/
def readInside (read : TextReader) : Nat → Element → Mentioned → Element × Mentioned
  | 0, e, m => (e, m)
  | fuel + 1, e, m =>
    let (children, m) := readChildren read fuel e.children m
    let (done, m) := readFound read fuel children.reverse m
    ({ e with children := done.reverse }, m)

/-- Read the texts of elements that stand side by side. -/
def readChildren (read : TextReader) : Nat → List Element → Mentioned → List ReadChild × Mentioned
  | 0, _, m => ([], m)
  | _ + 1, [], m => ([], m)
  | fuel + 1, child :: others, m =>
    let (r, behind, m) := readChild read child m
    let (rs, m) := readChildren read fuel (behind ++ others) m
    (r :: rs, m)

/-- Read what is inside some children. -/
def readFound (read : TextReader) : Nat → List ReadChild → Mentioned → List Element × Mentioned
  | 0, rs, m => (rs.map (·.child), m)
  | _ + 1, [], m => ([], m)
  | fuel + 1, r :: rs, m =>
    let (e, m) :=
      if r.hadChildren then
        readInside read fuel { r.child with children := r.found ++ r.child.children } m
      else
        let (found, m) := readEach read fuel r.found.reverse m
        ({ r.child with children := found.reverse }, m)
    let (es, m) := readFound read fuel rs m
    (e :: es, m)

/-- Read what is inside some elements. -/
def readEach (read : TextReader) : Nat → List Element → Mentioned → List Element × Mentioned
  | 0, es, m => (es, m)
  | _ + 1, [], m => ([], m)
  | fuel + 1, e :: es, m =>
    let (e, m) := readInside read fuel e m
    let (es, m) := readEach read fuel es m
    (e :: es, m)

end

mutual

/-- A bound for the number of elements and glyphs of a tree. -/
def treeWeight : Element → Nat
  | ⟨_, _, text, _, children, tail, _⟩ => text.length + tail.length + 4 + treeWeights children

/-- A bound for the numbers of elements and glyphs of some trees. -/
def treeWeights : List Element → Nat
  | [] => 0
  | e :: es => treeWeight e + treeWeights es

end

/-- Read all texts of a tree but its own. -/
def readTree (read : TextReader) (e : Element) (m : Mentioned) : Element × Mentioned :=
  readInside read (4 * treeWeight e + 8) e m

end Inline

end StaticSite.Markdown
