import StaticSite.Markdown.Settings
import StaticSite.Markdown.Tidy
import StaticSite.Text.Reference
import StaticSite.Text.Skeleton

/-!
# Headings and tables of contents

Every heading gets an identifier, which is made of its words and is used once only. The headings make
up a table of contents, in which each heading stands under the nearest heading before it that is of a
higher rank. The table takes the place of every paragraph that has the marker and nothing else.

## Main definitions

* `Contents.slug`, `Contents.distinct`: identifiers.
* `Contents.withDepths`, `Contents.items`: the table.
* `Element.withContents`: a document with identifiers and tables.
-/

namespace StaticSite.Markdown

namespace Contents

/-! ### Names of headings -/

/-- Take out everything from an opening mark to the next closing mark, as often as there is such a pair
and at most `fuel` times. -/
def dropBetween (opening closing : List Char) : Nat → List Char → List Char
  | 0, s => s
  | fuel + 1, s =>
    match Text.breakOn? opening s with
    | none => s
    | some (before, rest) =>
      match Text.breakOn? closing (opening ++ rest) with
      | none => s
      | some (_, after) => dropBetween opening closing fuel (before ++ after)

/-- The words of finished markup without its comments and tags, with one space between them. -/
def plainWords (markup : List Char) : List Char :=
  let s := dropBetween "<!--".toList "-->".toList markup.length markup
  Text.join [' '] (Text.words (dropBetween ['<'] ['>'] s.length s))

/-- The element is the mention of a footnote. -/
def isMention (e : Element) : Bool :=
  e.tag == "sup" && ((e.get? "id").map (Glyphs.startsWith "fnref".toList)).getD false

mutual

/-- An element without the mentions of footnotes in it. -/
def withoutMentions : Element → Element
  | ⟨tag, attributes, text, fixed, children, tail, tailFixed⟩ =>
    let (carried, children) := withoutMentionsAll children
    ⟨tag, attributes, text ++ carried, fixed, children, tail, tailFixed⟩

/-- Elements without the mentions of footnotes, and the text behind those that came first. -/
def withoutMentionsAll : List Element → Glyphs × List Element
  | [] => ([], [])
  | e :: es =>
    let (carried, es) := withoutMentionsAll es
    let kept := withoutMentions e
    if isMention e then (e.tail ++ carried, es)
    else ([], { kept with tail := e.tail ++ carried } :: es)

end

/-- The finished markup inside an element. -/
def innerMarkup (style : MarkupStyle) (e : Element) : List Char :=
  let inner := Glyphs.escaped false e.text ++ Element.writtenAll style e.children
  Text.trim Text.isBlank (Glyphs.finished (Glyphs.trim inner))

/-! ### Identifiers -/

/-- The character can be part of an identifier, or stands between parts of one. -/
def inSlug (c : Char) : Bool := c.isAlphanum || c == '_' || c == '-' || Text.isBlank c

/-- An identifier made of words: their letters and digits in lower case, with a separator for everything
that stands between them. -/
def slug (separator words : List Char) : List Char :=
  let kept := (Text.skeleton words).filter inSlug
  let s := (Text.trim Text.isBlank kept).map Char.toLower
  let parts (c : Char) : Bool := separator.contains c || Text.isBlank c
  (s.splitBy fun a b => parts a == parts b).flatMap fun run =>
    if run.all parts then separator else run

/-- The identifier after another one: with a number that is greater by one, or with the number one. -/
def successor (id : List Char) : List Char :=
  let digits := (id.reverse.takeWhile Char.isDigit).reverse
  let number := digits.foldl (fun n c => 10 * n + (c.toNat - '0'.toNat)) 0
  match digits, id.reverse.drop digits.length with
  | _ :: _, '_' :: base => base.reverse ++ '_' :: Text.ofNat (number + 1)
  | _, _ => id ++ "_1".toList

/-- The first identifier from one on that is not empty and not in use, in at most `fuel` steps. -/
def distinctWithin (used : List (List Char)) : Nat → List Char → List Char
  | 0, id => id
  | fuel + 1, id =>
    if id.isEmpty || used.contains id then distinctWithin used fuel (successor id) else id

/-- The first identifier from one on that is not empty and not in use. All successors of an identifier
are different, so one of them is free. -/
def distinct (used : List (List Char)) (id : List Char) : List Char :=
  distinctWithin used (used.length + 2) id

/-! ### Headings -/

/-- A line of a table of contents. -/
structure Entry where
  level : Nat
  id : List Char
  name : List Char

/-- What is known while the headings are read: the identifiers in use, and the lines of the table, the
last one first. -/
structure Reading where
  used : List (List Char)
  entries : List Entry

/-- The level of a heading. -/
def levelOf (tag : String) : Int :=
  match tag.toList with
  | [_, digit] => (digit.toNat - '0'.toNat : Nat)
  | _ => 1

/-- Put the content of an element into a link to an identifier. -/
def withAnchor (s : ContentsSettings) (id : List Char) (e : Element) : Element :=
  let link := ((Element.withText "a" e.text).set "href" (Glyphs.ofChars ('#' :: id))).set "class"
    (Glyphs.ofChars s.anchorClass)
  { e with text := [], children := [link.appendAll e.children] }

/-- Put a link to an identifier before or behind the content of an element. -/
def withPermalink (s : ContentsSettings) (id : List Char) (mark : Glyphs) (e : Element) : Element :=
  let link := ((Element.withText "a" mark).set "href" (Glyphs.ofChars ('#' :: id))).set "class"
    (Glyphs.ofChars s.permalinkClass)
  let link := if s.permalinkTitle.isEmpty then link
    else link.set "title" (Glyphs.ofChars s.permalinkTitle)
  if s.permalinkFirst then
    { e with text := [], children := { link with tail := e.text } :: e.children }
  else e.append link

/-- A heading with the links that the settings ask for. -/
def withLinks (s : ContentsSettings) (id : List Char) (e : Element) : Element :=
  let e := if s.anchors then withAnchor s id e else e
  match s.permalink with
  | .absent => e
  | .pilcrow => withPermalink s id [.raw (Glyphs.ofString "&para;") .source] e
  | .text mark => withPermalink s id (Glyphs.ofChars mark) e

/-- Read a heading. -/
def readHeading (s : ContentsSettings) (style : MarkupStyle) (e : Element) (r : Reading) :
    Element × Reading :=
  let level := min (levelOf e.tag + s.baseLevel - 1) 6
  let e := { e with tag := String.ofList ('h' :: Text.ofInt level) }
  let words := plainWords (innerMarkup style (withoutMentions e))
  let (id, used) := match e.get? "id" with
    | some id => (Glyphs.chars id, r.used)
    | none =>
      let id := distinct r.used (slug s.separator (Text.resolveReferences words))
      (id, id :: r.used)
  let e := if (e.get? "id").isSome then e else e.set "id" (Glyphs.ofChars id)
  let name := match e.get? "data-toc-label" with
    | some label =>
      let words := plainWords (Text.trim Text.isBlank (Glyphs.finished (Glyphs.settled label)))
      Glyphs.chars (Glyphs.escaped false (Glyphs.ofChars words))
    | none => words
  let e := e.unset "data-toc-label"
  -- The level counts as its last digit says, also below the greatest heading.
  let level := level.natAbs % 10
  let isListed := decide (s.top ≤ (level : Int)) && decide ((level : Int) ≤ s.bottom)
  (withLinks s id e, ⟨used, if isListed then ⟨level, id, name⟩ :: r.entries else r.entries⟩)

mutual

/-- Read the headings in an element. -/
def readHeadings (s : ContentsSettings) (style : MarkupStyle) : Element → Reading → Element × Reading
  | ⟨tag, attributes, text, fixed, children, tail, tailFixed⟩, r =>
    if isHeading tag then readHeading s style ⟨tag, attributes, text, fixed, children, tail, tailFixed⟩ r
    else
      let (children, r) := readHeadingsAll s style children r
      (⟨tag, attributes, text, fixed, children, tail, tailFixed⟩, r)

/-- Read the headings in some elements. -/
def readHeadingsAll (s : ContentsSettings) (style : MarkupStyle) :
    List Element → Reading → List Element × Reading
  | [], r => ([], r)
  | e :: es, r =>
    let (e, r) := readHeadings s style e r
    let (es, r) := readHeadingsAll s style es r
    (e :: es, r)

end

/-! ### The table -/

/-- Entries with their depths: how many entries each stands under. The levels of those are in `above`,
the nearest one first, and `last` is the level of the entry before. -/
def depthsFrom (last : Nat) (above : List Nat) : List Entry → List (Nat × Entry)
  | [] => []
  | entry :: entries =>
    let above :=
      if entry.level < last then above.dropWhile (entry.level ≤ ·)
      else if entry.level == last then above
      else last :: above
    (above.length, entry) :: depthsFrom entry.level above entries

/-- Entries with their depths. -/
def withDepths : List Entry → List (Nat × Entry)
  | [] => []
  | entry :: entries => (0, entry) :: depthsFrom entry.level [] entries

/-- The item of an entry with the items under it. -/
def item (entry : Entry) (inside : List Element) : Element :=
  let link := (Element.withText "a" (Glyphs.ofChars entry.name)).set "href"
    (Glyphs.ofChars ('#' :: entry.id))
  let li := (Element.bare "li").append link
  if inside.isEmpty then li else li.append ((Element.bare "ul").appendAll inside)

/-- The items of some entries with their depths; a deeper entry stands inside the item before it. -/
def items : List (Nat × Entry) → List (Nat × Element)
  | [] => []
  | (depth, entry) :: entries =>
    let behind := items entries
    let inside := behind.takeWhile (depth < ·.1)
    (depth, item entry (inside.map (·.2))) :: behind.drop inside.length

/-- The table of some entries. -/
def table (s : ContentsSettings) (entries : List Entry) : Element :=
  let title := Element.withText "span" (Glyphs.ofChars s.title)
  let title := if s.titleClass.isEmpty then title else title.set "class" (Glyphs.ofChars s.titleClass)
  let list := (Element.bare "ul").appendAll ((items (withDepths entries)).map (·.2))
  (((Element.bare "div").set "class" (Glyphs.ofChars s.tableClass)).appendAll
    ((if s.title.isEmpty then [] else [title]) ++ [list])).tidied

/-- The element has the marker as its only content. -/
def isMarker (marker : List Char) (e : Element) : Bool :=
  !e.text.isEmpty && e.children.isEmpty && Glyphs.equals marker (Glyphs.trim e.text)

mutual

/-- Put a table into the places of the markers in an element. -/
def placeIn (marker : List Char) (new : Element) : Element → Element
  | ⟨tag, attributes, text, fixed, children, tail, tailFixed⟩ =>
    ⟨tag, attributes, text, fixed, placeAmong marker new children, tail, tailFixed⟩

/-- Put a table into the places of the markers among some elements, outside of headings and code. -/
def placeAmong (marker : List Char) (new : Element) : List Element → List Element
  | [] => []
  | e :: es =>
    let others := placeAmong marker new es
    if isHeading e.tag || e.tag == "pre" || e.tag == "code" then e :: others
    else if isMarker marker e then new :: others
    else placeIn marker new e :: others

end

end Contents

/-- The document with identifiers on its headings and with its tables of contents. -/
def Element.withContents (s : ContentsSettings) (style : MarkupStyle) (root : Element) : Element :=
  let used := root.all.filterMap fun e => (e.get? "id").map Glyphs.chars
  let (root, r) := Contents.readHeadings s style root ⟨used, []⟩
  if s.marker.isEmpty then root
  else Contents.placeIn s.marker (Contents.table s r.entries.reverse) root

end StaticSite.Markdown
