import StaticSite.Markdown.Glyph

/-!
# Elements

Building elements, walking over them, and writing them as markup. An element is written with its
attributes in alphabetical order. An ampersand that already begins a reference is kept.

## Main definitions

* `Element.bare`, `Element.withText`, `Element.append`, `Element.modifyLast`: building.
* `isBlockLevel`: the elements that stand on their own.
* `Element.mapAll`: change every element of a tree.
* `Element.written`: the markup of an element.
* `Glyphs.finished`: the characters of finished markup.
-/

namespace StaticSite.Markdown

/-! ### Building -/

namespace Element

/-- An element without content. -/
def bare (tag : String) : Element := ⟨tag, [], [], false, [], [], false⟩

/-- An element with a text. -/
def withText (tag : String) (text : Glyphs) : Element := { bare tag with text := text }

/-- An element with a text that is not read again. -/
def withFixedText (tag : String) (text : Glyphs) : Element :=
  { bare tag with text := text, fixed := true }

/-- The value of an attribute. -/
def get? (e : Element) (key : String) : Option Glyphs := e.attributes.lookup key

/-- Set an attribute; its place is that of its first setting. -/
def set (e : Element) (key : String) (value : Glyphs) : Element :=
  { e with attributes :=
      if e.attributes.any (·.1 == key) then
        e.attributes.map fun a => if a.1 == key then (key, value) else a
      else e.attributes ++ [(key, value)] }

/-- Set an attribute to some characters. -/
def setChars (e : Element) (key value : String) : Element := e.set key (Glyphs.ofString value)

/-- Remove an attribute. -/
def unset (e : Element) (key : String) : Element :=
  { e with attributes := e.attributes.filter (·.1 != key) }

/-- Add a child at the end. -/
def append (e child : Element) : Element := { e with children := e.children ++ [child] }

/-- Add children at the end. -/
def appendAll (e : Element) (children : List Element) : Element :=
  { e with children := e.children ++ children }

/-- The last child. -/
def lastChild? (e : Element) : Option Element := e.children.getLast?

/-- Change the last child. -/
def modifyLast (f : Element → Element) (e : Element) : Element :=
  match e.children.reverse with
  | last :: before => { e with children := (f last :: before).reverse }
  | [] => e

/-- Replace the last child. -/
def setLast (e child : Element) : Element := e.modifyLast fun _ => child

/-- The element that is the last child, the last child of that, and so on. -/
def lastAt? : Nat → Element → Option Element
  | 0, e => some e
  | n + 1, e => e.lastChild?.bind (lastAt? n)

/-- Change what `lastAt?` finds. -/
def modifyLastAt (f : Element → Element) : Nat → Element → Element
  | 0, e => f e
  | n + 1, e => e.modifyLast (modifyLastAt f n)

/-- The text, if there is any, as a paragraph before the other children. -/
def wrapText (e : Element) : Element :=
  if e.text.isEmpty then e
  else { e with text := [], fixed := false, children := withText "p" e.text :: e.children }

/-- An element whose only text is that of a child for code. -/
def isCodeBlock (e : Element) : Bool :=
  e.tag == "pre" && (match e.children with
    | code :: _ => code.tag == "code"
    | [] => false)

/-- Change the first child. -/
def modifyFirst (f : Element → Element) (e : Element) : Element :=
  match e.children with
  | first :: others => { e with children := f first :: others }
  | [] => e

end Element

/-! ### Kinds of elements -/

/-- The elements that stand on their own and are never part of a paragraph. -/
def blockElements : List String := [
  "address", "article", "aside", "blockquote", "details", "div", "dl", "fieldset", "figcaption",
  "figure", "footer", "form", "h1", "h2", "h3", "h4", "h5", "h6", "header", "hgroup", "hr", "main",
  "menu", "nav", "ol", "p", "pre", "search", "section", "table", "ul", "canvas", "colgroup", "dd",
  "body", "dt", "group", "html", "iframe", "li", "legend", "math", "map", "noscript", "output",
  "object", "option", "progress", "script", "style", "summary", "tbody", "td", "textarea", "tfoot",
  "th", "thead", "tr", "video", "center"]

/-- The name is that of an element that stands on its own. -/
def isBlockLevel (tag : String) : Bool := blockElements.contains tag

/-- The name of a tag as written is that of an element that stands on its own. -/
def isBlockName (name : List Char) : Bool :=
  isBlockLevel (String.ofList (Text.trimEnd (· == '/') (Text.lower name)))

/-- The elements that are written without an end tag. -/
def emptyElements : List String := [
  "area", "base", "basefont", "br", "col", "embed", "frame", "hr", "img", "input", "isindex", "link",
  "meta", "param", "source", "track", "wbr"]

/-- The element is the heading of a section. -/
def isHeading (tag : String) : Bool := ["h1", "h2", "h3", "h4", "h5", "h6"].contains tag

/-! ### Walks -/

namespace Element

mutual

/-- Change every element of a tree, the children of an element before itself. -/
def mapAll (f : Element → Element) : Element → Element
  | ⟨tag, attributes, text, fixed, children, tail, tailFixed⟩ =>
    f ⟨tag, attributes, text, fixed, mapEach f children, tail, tailFixed⟩

/-- Change every element of some trees. -/
def mapEach (f : Element → Element) : List Element → List Element
  | [] => []
  | e :: es => mapAll f e :: mapEach f es

end

mutual

/-- The element and all elements in it, in the order of their start tags. -/
def all : Element → List Element
  | ⟨tag, attributes, text, fixed, children, tail, tailFixed⟩ =>
    ⟨tag, attributes, text, fixed, children, tail, tailFixed⟩ :: allOf children

/-- The elements of some trees. -/
def allOf : List Element → List Element
  | [] => []
  | e :: es => all e ++ allOf es

end

mutual

/-- The texts of an element and of everything in it, without its tail. -/
def content : Element → Glyphs
  | ⟨_, _, text, _, children, _, _⟩ => text ++ contentOf children

/-- The texts of some elements with their tails. -/
def contentOf : List Element → Glyphs
  | [] => []
  | ⟨_, _, text, _, children, tail, _⟩ :: es => text ++ contentOf children ++ tail ++ contentOf es

end

end Element

/-! ### Markup -/

/-- How elements are written. -/
inductive MarkupStyle
  /-- Elements without an end tag end with a slash. -/
  | closed
  /-- Elements without an end tag end like any other start tag; an attribute whose value is its own
  name is written without a value. -/
  | brief
  deriving DecidableEq, Repr

namespace Glyphs

/-- A reference goes on here: a name or a number, and a semicolon. -/
def continuesReference (s : Glyphs) : Bool :=
  let closes (p : Char → Bool) (s : Glyphs) : Bool :=
    ((s.head?.map (·.satisfies p)).getD false) && (match s.dropWhile (·.satisfies p) with
      | .char ';' :: _ | .literal ';' :: _ => true
      | _ => false)
  let isHex (c : Char) : Bool := c.isDigit || ('a' ≤ c.toLower && c.toLower ≤ 'f')
  match s with
  | .char '#' :: .char 'x' :: rest => closes isHex rest
  | .char '#' :: .char 'X' :: rest => closes isHex rest
  | .char '#' :: rest => closes Char.isDigit rest
  | _ => closes Char.isAlphanum s

/-- The text with all its characters standing for themselves, but open to the next pass. -/
def settled (s : Glyphs) : Glyphs :=
  s.map fun g => match g with
    | .literal c | .held c => .char c
    | g => g

/-- Escape the characters that mean something in markup. -/
def escapedFrom (quotes : Bool) : Glyphs → Glyphs
  | [] => []
  | .char c :: rest =>
    (if c == '&' then (if continuesReference rest then [.char '&'] else ofString "&amp;")
      else if c == '<' then ofString "&lt;"
      else if c == '>' then ofString "&gt;"
      else if c == '"' && quotes then ofString "&quot;"
      else [.char c]) ++ escapedFrom quotes rest
  | g :: rest => g :: escapedFrom quotes rest

/-- The text with the characters escaped that mean something in markup. -/
def escaped (quotes : Bool) (s : Glyphs) : Glyphs := escapedFrom quotes (settled s)

/-- The characters of code with the characters escaped that mean something in markup, whether they
begin a reference or not. -/
def escapedCode (s : Glyphs) : Glyphs :=
  s.flatMap fun g => match g with
    | .char c =>
      if c == '&' then ofString "&amp;"
      else if c == '<' then ofString "&lt;"
      else if c == '>' then ofString "&gt;"
      else [.char c]
    | g => [g]

end Glyphs

/-- An attribute is written before another one. -/
def attributeBefore (a b : String × Glyphs) : Bool := decide (a.1 < b.1)

/-- An attribute as written. -/
def writtenAttribute (style : MarkupStyle) (a : String × Glyphs) : Glyphs :=
  let value := Glyphs.escaped true a.2
  if style == .brief && Glyphs.equals a.1.toList value then .char ' ' :: value
  else Glyphs.ofString (" " ++ a.1 ++ "=\"") ++ value ++ [.char '"']

namespace Element

mutual

/-- The markup of an element with its tail. -/
def written (style : MarkupStyle) : Element → Glyphs
  | ⟨tag, attributes, text, _, children, tail, _⟩ =>
    let isEmpty := emptyElements.contains (String.ofList (Text.lower tag.toList))
    let start := Glyphs.ofString ("<" ++ tag) ++
      (Text.sortBy attributeBefore attributes).flatMap (writtenAttribute style)
    let inner :=
      if isEmpty && style == .closed then Glyphs.ofString " />"
      else
        .char '>' ::
          ((if tag == "script" || tag == "style" then Glyphs.settled text
              else Glyphs.escaped false text) ++
            writtenAll style children ++
            (if isEmpty then [] else Glyphs.ofString ("</" ++ tag ++ ">")))
    start ++ inner ++ Glyphs.escaped false tail

/-- The markup of some elements. -/
def writtenAll (style : MarkupStyle) : List Element → Glyphs
  | [] => []
  | e :: es => written style e ++ writtenAll style es

end

end Element

/-- Markup is that of an element that stands on its own, or no element at all. -/
def beginsBlock (markup : Glyphs) : Bool :=
  match markup with
  | .char '<' :: rest =>
    let rest := match rest with
      | .char '/' :: rest => rest
      | rest => rest
    let name := Glyphs.chars (rest.takeWhile fun g => !(g.is ' ' || g.is '>'))
    (match name with
      | c :: _ => c == '!' || c == '?' || c == '@' || c == '%' || isBlockName name
      | [] => false)
  | _ => false

namespace Glyphs

/-- The paragraph around a finished piece of markup. -/
def paragraphAround? : Glyphs → Option (Glyphs × Glyphs)
  | .char '<' :: .char 'p' :: .char '>' :: .raw markup _ :: .char '<' :: .char '/' :: .char 'p' ::
      .char '>' :: rest => some (markup, rest)
  | _ => none

/-- The characters of finished markup, with everything in it that was finished before, nested at most
`fuel` deep and long. A piece that stands on its own takes the place of a paragraph that holds nothing
else. -/
def finishedWithin : Nat → Glyphs → List Char
  | 0, _ => []
  | _ + 1, [] => []
  | fuel + 1, g :: rest =>
    match paragraphAround? (g :: rest) with
    | some (markup, rest) =>
      let inner := finishedWithin fuel markup
      (if beginsBlock markup then inner else "<p>".toList ++ inner ++ "</p>".toList) ++
        finishedWithin fuel rest
    | none =>
      match g with
      | .char c | .literal c | .held c => c :: finishedWithin fuel rest
      | .raw markup _ => finishedWithin fuel markup ++ finishedWithin fuel rest
      | .node e => finishedWithin fuel (e.written .closed) ++ finishedWithin fuel rest

mutual

/-- A bound for the number of steps that finish a glyph. -/
def weight : Glyph → Nat
  | .raw markup _ => weightAll markup + 2
  | _ => 1

/-- A bound for the number of steps that finish a text. -/
def weightAll : List Glyph → Nat
  | [] => 0
  | g :: s => weight g + weightAll s

end

/-- The characters of finished markup. -/
def finished (s : Glyphs) : List Char := finishedWithin (weightAll s + 1) s

end Glyphs

end StaticSite.Markdown
