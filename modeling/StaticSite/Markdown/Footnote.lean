import StaticSite.Markdown.Block.Reader
import StaticSite.Markdown.Inline.Reader

/-!
# Footnotes

The footnotes of a document are listed at its end, or where it marks a place for them. Each mention of
a footnote links to the footnote, and the footnote links back to each of its mentions. Footnotes stand
in the order of their first mentions unless the settings say otherwise; those that are never mentioned
come last.

## Main definitions

* `Footnote.mentions`: how a mention is written.
* `Footnote.addSection`: put the list of the footnotes into a document.
* `Footnote.settle`: arrange the list by the mentions.
-/

namespace StaticSite.Markdown.Footnote

open Block (Notes)

/-! ### Identifiers -/

/-- The name of a footnote as its identifiers have it. -/
def nameIn (s : FootnoteSettings) (name : List Char) : List Char :=
  if s.apart then '2' :: '-' :: name else name

/-- The identifier of a footnote. -/
def identifier (s : FootnoteSettings) (name : List Char) : List Char :=
  "fn".toList ++ s.separator ++ nameIn s name

/-- The identifier of a mention: the first one has no number. -/
def mentionIdentifier (s : FootnoteSettings) (number : Nat) (name : List Char) : List Char :=
  "fnref".toList ++ (if number ≤ 1 then [] else Text.ofNat number) ++ s.separator ++ nameIn s name

/-- The link to an identifier. -/
def linkTo (target : List Char) : Glyphs := Glyphs.ofChars ('#' :: target)

/-- Put a number into every empty pair of braces; double braces stand for single ones. -/
def withNumber (number : List Char) : List Char → List Char
  | [] => []
  | [c] => [c]
  | c :: d :: rest =>
    if c == '\x7b' && d == '\x7d' then number ++ withNumber number rest
    else if (c == '\x7b' || c == '\x7d') && c == d then c :: withNumber number rest
    else c :: withNumber number (d :: rest)

/-! ### Mentions -/

/-- The element for a mention of a footnote, from the names that were mentioned before and all names in
the order of their definitions. -/
def mention (s : FootnoteSettings) (names previous : List (List Char)) (name : List Char) : Element :=
  let order := if s.byDefinition then names else (previous ++ [name]).eraseDups
  let text := withNumber (Text.ofNat (order.idxOf name + 1)) s.superscript
  let link := ((Element.withText "a" (Glyphs.ofChars text)).set "href" (linkTo (identifier s name))).setChars
    "class" "footnote-ref"
  ((Element.bare "sup").set "id"
    (Glyphs.ofChars (mentionIdentifier s (previous.count name + 1) name))).append link

/-- How a mention is written. -/
def mentions (s : FootnoteSettings) (names : List (List Char)) : Inline.Mentions := ⟨mention s names⟩

/-! ### The list of footnotes -/

/-- The title of a link back from the footnote at a place in the list. -/
def backlinkTitle (s : FootnoteSettings) (number : Nat) : Glyphs :=
  let pattern := Text.replaceAll "%d".toList "\x7b\x7d".toList s.backlinkTitle
  Glyphs.ofChars (withNumber (Text.ofNat number) pattern)

/-- The class of the links back. -/
def backlinkClass : String := "footnote-backref"

/-- The link from a footnote back to its first mention. -/
def backlink (s : FootnoteSettings) (number : Nat) (name : List Char) : Element :=
  let mark : Glyphs := [.raw (Glyphs.ofChars s.backlink) .source]
  ((((Element.withText "a" mark).setChars "class" backlinkClass).set "href"
    (linkTo (mentionIdentifier s 1 name))).set "title" (backlinkTitle s number))

/-- A footnote with a link at its end: in its last paragraph, or in one of its own. -/
def withBacklink (link item : Element) : Element :=
  match item.lastChild? with
  | none => item
  | some last =>
    if last.tag == "p" then
      let space : Glyph := .raw (Glyphs.ofString "&#160;") .source
      item.setLast { last.append link with text := last.text ++ [space], fixed := false }
    else item.append ((Element.bare "p").append link)

/-- Read the text of a footnote. -/
def readItem (settings : Settings) (s : FootnoteSettings) (number : Nat) (name : List Char)
    (text : Glyphs) (notes : Notes) : Element × Notes :=
  let (content, notes) := Block.readBlocks settings (Block.enoughSteps text) .plain (.bare "div")
    (Glyphs.blocks text) notes
  let item := ((Element.bare "li").set "id" (Glyphs.ofChars (identifier s name))).appendAll
    content.children
  (withBacklink (backlink s number name) item, notes)

/-- Read the texts of footnotes that are numbered from a number on. -/
def readItems (settings : Settings) (s : FootnoteSettings) :
    Nat → List (List Char × Glyphs) → Notes → List Element × Notes
  | _, [], notes => ([], notes)
  | number, (name, text) :: others, notes =>
    let (item, notes) := readItem settings s number name text notes
    let (items, notes) := readItems settings s (number + 1) others notes
    (item :: items, notes)

/-- The class of the list of footnotes. -/
def sectionClass : String := "footnote"

mutual

/-- Put an element into the place that a mark names inside another element. -/
def placeIn (marker : List Char) (new : Element) : Element → Option Element
  | ⟨tag, attributes, text, fixed, children, tail, tailFixed⟩ =>
    (placeAmong marker new children).map fun children =>
      ⟨tag, attributes, text, fixed, children, tail, tailFixed⟩

/-- Put an element into the first place that a mark names among others: instead of an element whose text
has the mark, or behind one whose tail has it. -/
def placeAmong (marker : List Char) (new : Element) : List Element → Option (List Element)
  | [] => none
  | e :: es =>
    let has (s : Glyphs) : Bool := !s.isEmpty && (Glyphs.breakOn? marker s).isSome
    if has e.text then some (new :: es)
    else if has e.tail then some ({ e with tail := [] } :: new :: es)
    else
      match placeIn marker new e with
      | some e => some (e :: es)
      | none => (placeAmong marker new es).map (e :: ·)

end

/-- Put the list of the footnotes into a document. -/
def addSection (settings : Settings) (s : FootnoteSettings) (root : Element) (notes : Notes) :
    Element × Notes :=
  if notes.footnotes.isEmpty then (root, notes)
  else
    let (items, notes) := readItems settings s 1 notes.footnotes notes
    let list := (Element.bare "ol").appendAll items
    let new := ((Element.bare "div").setChars "class" sectionClass).appendAll [.bare "hr", list]
    ((placeIn s.marker new root).getD (root.append new), notes)

/-! ### Arranging the list -/

/-- The element has a class. -/
def hasClass (name : String) (e : Element) : Bool :=
  ((e.get? "class").map (Glyphs.equals name.toList)).getD false

/-- The element is a link back. -/
def isBacklink (e : Element) : Bool := e.tag == "a" && hasClass backlinkClass e

/-- The link back in a footnote that has been read, if there is one. -/
def backlink? (item : Element) : Option Element := item.all.find? isBacklink

/-- The place of a footnote among the first mentions. -/
def rank (s : FootnoteSettings) (order : List (List Char)) (item : Element) : Nat :=
  let id := Glyphs.chars ((item.get? "id").getD [])
  order.findIdx fun name => identifier { s with apart := false } name == id

/-- Number the link back of a footnote afresh. -/
def retitle (s : FootnoteSettings) (number : Nat) (item : Element) : Element :=
  let numbered (e : Element) : Element :=
    if isBacklink e then e.set "title" (backlinkTitle s number) else e
  item.modifyLast fun last => { last with children := last.children.map numbered }

/-- The footnotes in the order of their first mentions. -/
def inOrder (s : FootnoteSettings) (order : List (List Char)) (items : List Element) : List Element :=
  let sorted := Text.sortBy (fun a b => rank s order a < rank s order b) items
  sorted.zipIdx.map fun (item, i) => retitle s (i + 1) item

/-- A footnote with a link back to each of its mentions. -/
def withAllBacklinks (s : FootnoteSettings) (mentioned : List (List Char)) (item : Element) : Element :=
  let id := Glyphs.chars ((item.get? "id").getD [])
  match mentioned.find? fun name => identifier s name == id with
  | none => item
  | some name =>
    match backlink? item with
    | none => item
    | some link =>
      let further := (List.range (mentioned.count name - 1)).map fun i =>
        link.set "href" (linkTo (mentionIdentifier s (i + 2) name))
      item.modifyLast fun last => last.appendAll further

/-- Change the items of the list of footnotes. -/
def modifyItems (f : List Element → List Element) (root : Element) : Element :=
  let isSection (e : Element) : Bool := e.tag == "div" && hasClass sectionClass e
  let change (list : Element) : Element :=
    if list.tag == "ol" then { list with children := f list.children } else list
  root.mapAll fun e => if isSection e then { e with children := e.children.map change } else e

/-- Arrange the list of the footnotes with some names by the names that are mentioned. -/
def settle (s : FootnoteSettings) (names mentioned : List (List Char)) (root : Element) : Element :=
  let order := mentioned.eraseDups
  let sort := names.length != 0 && !s.byDefinition && order != names
  modifyItems (fun items =>
    (if sort then inOrder s order items else items).map (withAllBacklinks s mentioned)) root

end StaticSite.Markdown.Footnote
