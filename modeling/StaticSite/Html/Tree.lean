import StaticSite.Html.Scan

/-!
# The tree of a page

The elements of a page nest as their tags say. An end tag closes every element up to the innermost one
of its name, and none if there is none; elements that can have no content are closed at once. Blanks
alone between tags are one blank, or one line break if there is one among them, except where blanks
are kept.

## Main definitions

* `Html.Node`: the tree.
* `Html.Node.ofTokens`: the tree of the tokens of a page.
-/

namespace StaticSite.Html

/-- The attributes of an element in order; one without a value has the empty value. -/
abbrev Fields := List (List Char × List Char)

/-- The fields of the attributes of a tag. -/
def Fields.ofAttributes (attributes : Attributes) : Fields :=
  attributes.map fun (key, value) => (key, value.getD [])

/-- A node of the tree. -/
inductive Node
  | text (s : List Char)
  | special (kind : Special) (s : List Char)
  | element (name : List Char) (attributes : Fields) (children : List Node)

/-- The elements that can have no content. -/
def voidElements : List String := [
  "area", "base", "br", "col", "embed", "hr", "img", "input", "keygen", "link", "menuitem", "meta",
  "param", "source", "track", "wbr", "basefont", "bgsound", "command", "frame", "image", "isindex",
  "nextid", "spacer"]

/-- The element can have no content. -/
def isVoid (name : List Char) : Bool := voidElements.contains (String.ofList name)

/-- The element keeps its blanks. -/
def keepsBlanks (name : List Char) : Bool := name == "pre".toList || name == "textarea".toList

/-- An element that is open, with its children so far, the last one first. -/
structure OpenElement where
  name : List Char
  attributes : Fields
  children : List Node

/-- A tree that is being built. -/
structure Growth where
  /-- The open elements, the innermost first. -/
  stack : List OpenElement
  /-- The nodes outside all open elements, the last one first. -/
  roots : List Node
  /-- Text that is not yet a node. -/
  pending : Option (List Char)
  /-- The names of the elements that were closed at once because they can have no content: one end tag
  each is passed over. -/
  settled : List (List Char)

namespace Growth

/-- Nothing yet. -/
def empty : Growth := ⟨[], [], none, []⟩

/-- Add a node. -/
def add (g : Growth) (n : Node) : Growth :=
  match g.stack with
  | e :: es => { g with stack := { e with children := n :: e.children } :: es }
  | [] => { g with roots := n :: g.roots }

/-- The blanks that stand for themselves alone. -/
def isPlainBlank (c : Char) : Bool :=
  c == ' ' || c == '\n' || c == '\t' || c == Char.ofNat 12 || c == '\r'

/-- Blanks alone count as one, unless an open element keeps them. -/
def collapse (g : Growth) (s : List Char) : List Char :=
  if g.stack.any (fun e => keepsBlanks e.name) || !s.all isPlainBlank then s
  else if s.contains '\n' then ['\n'] else [' ']

/-- Make a node of the text so far. -/
def flush (g : Growth) : Growth :=
  match g.pending with
  | some s => ({ g with pending := none } : Growth).add (.text (g.collapse s))
  | none => g

/-- Close the innermost element. -/
def pop (g : Growth) : Growth :=
  match g.stack with
  | e :: es => ({ g with stack := es } : Growth).add (.element e.name e.attributes e.children.reverse)
  | [] => g

/-- Close that many elements. -/
def popTimes : Nat → Growth → Growth
  | 0, g => g
  | n + 1, g => popTimes n g.pop

/-- Close every element up to the innermost one with a name. -/
def close (g : Growth) (name : List Char) : Growth :=
  let g := g.flush
  match g.stack.findIdx? fun e => e.name == name with
  | some i => popTimes (i + 1) g
  | none => g

/-- Close an element by its end tag. -/
def closeByTag (g : Growth) (name : List Char) : Growth :=
  if g.settled.contains name then { g with settled := g.settled.erase name } else g.close name

/-- Open an element. -/
def start (g : Growth) (name : List Char) (attributes : Fields) : Growth :=
  let g := g.flush
  { g with stack := ⟨name, attributes, []⟩ :: g.stack }

/-- Add a token. -/
def push (g : Growth) : Token → Growth
  | .text s => { g with pending := some ((g.pending.getD []) ++ s) }
  | .special kind s =>
    let g := g.flush
    g.add (.special kind (g.collapse s))
  | .closing name => g.closeByTag name
  | .opening name attributes true =>
    (g.start name (Fields.ofAttributes attributes)).closeByTag name
  | .opening name attributes false =>
    let opened := g.start name (Fields.ofAttributes attributes)
    if isVoid name then
      let g := opened.close name
      { g with settled := name :: g.settled }
    else opened

/-- The finished nodes: everything that is open is closed. -/
def finish (g : Growth) : List Node :=
  let g := g.flush
  (popTimes g.stack.length g).roots.reverse

end Growth

/-- The tree of the tokens of a page. -/
def Node.ofTokens (tokens : List Token) : List Node :=
  (tokens.foldl Growth.push Growth.empty).finish

end StaticSite.Html
