import StaticSite.Markdown.Block.Basic
import StaticSite.Text.Digit

/-!
# Lists

A line that begins with a bullet, or with a number and a point, begins an item; the lines behind it
belong to the item. Items of one block make a tight list, whose items are texts; an item that follows
on a blank line turns the list into a loose one, whose items are paragraphs. Blocks that are indented
belong to the last item of a list before them, or of a list inside that item, as their indentation
says. Definition lists have terms and definitions in the place of items.

## Main definitions

* `orderedList`, `bulletList`: lists.
* `continuation`, `definitionContinuation`: indented blocks behind a list.
* `definitionList`: definition lists.
-/

namespace StaticSite.Markdown.Block

/-! ### Items -/

/-- A mark that begins an item. -/
inductive Mark
  | bullet
  | number (digits : List Char)
  deriving DecidableEq, Repr

/-- The mark at the beginning of a text, and what follows its spaces. -/
def markAt? (s : Glyphs) : Option (Mark × Glyphs) :=
  let behindSpaces (m : Mark) (s : Glyphs) : Option (Mark × Glyphs) :=
    match s with
    | g :: _ => if g.is ' ' then some (m, s.dropWhile (·.is ' ')) else none
    | [] => none
  let digits := s.takeWhile (·.satisfies Text.isDecimal)
  match s with
  | g :: rest =>
    if g.is '*' || g.is '+' || g.is '-' then behindSpaces .bullet rest
    else if digits.isEmpty then none
    else
      match s.drop digits.length with
      | h :: rest => if h.is '.' then behindSpaces (.number (Glyphs.chars digits)) rest else none
      | [] => none
  | [] => none

/-- The mark of a line that is not indented. -/
def itemMark? (settings : Settings) (line : Glyphs) : Option (Mark × Glyphs) :=
  markAt? (Glyphs.skipSpaces (width settings - 1) line)

/-- The line begins an item of a list inside an item. -/
def isInnerItem (settings : Settings) (line : Glyphs) : Bool :=
  let n := width settings
  Glyphs.isIndented n line && (markAt? (Glyphs.skipSpaces (n - 1) (line.drop n))).isSome

/-- The kinds of lists. -/
inductive ListKind
  | ordered
  | bullets
  deriving DecidableEq, Repr

/-- The element of a list. -/
def ListKind.tag : ListKind → String
  | ordered => "ol"
  | bullets => "ul"

/-- The mark begins an item of such a list. -/
def ListKind.begins (kind : ListKind) : Mark → Bool
  | .bullet => kind == .bullets
  | .number _ => kind == .ordered

/-- The content of an item that a line begins: in a list that is not sane, items may have marks of
either kind. -/
def ListKind.item? (kind : ListKind) (settings : Settings) (line : Glyphs) : Option Glyphs :=
  match itemMark? settings line with
  | some (m, content) => if !settings.saneLists || kind.begins m then some content else none
  | none => none

/-- Add a line to the last of some texts, the last one first. -/
def continueLast (line : Glyphs) : List Glyphs → List Glyphs
  | item :: items => (item ++ .char '\n' :: line) :: items
  | [] => [line]

/-- The items that lines make up, the last one first. -/
def itemsFrom (kind : ListKind) (settings : Settings) : List Glyphs → List Glyphs → List Glyphs
  | items, [] => items
  | items, line :: lines =>
    match kind.item? settings line with
    | some content => itemsFrom kind settings (content :: items) lines
    | none =>
      let isInner := isInnerItem settings line &&
        !((items.head?.map (Glyphs.isIndented (width settings))).getD false)
      itemsFrom kind settings (if isInner then line :: items else continueLast line items) lines

/-- The items of a block. -/
def items (kind : ListKind) (settings : Settings) (block : Glyphs) : List Glyphs :=
  (itemsFrom kind settings [] (Glyphs.lines block)).reverse

/-! ### Lists -/

/-- The element is a list. -/
def isList (e : Element) : Bool := e.tag == "ol" || e.tag == "ul"

/-- The text of the last item and the text behind its last child become paragraphs. -/
def loosenLast (list : Element) : Element :=
  list.modifyLast fun item =>
    let item := item.wrapText
    match item.lastChild? with
    | some last =>
      if last.tail.isEmpty then item
      else (item.setLast { last with tail := [] }).append (.withText "p" (Glyphs.trimStart last.tail))
    | none => item

/-- Read items into a list: an indented one into the last item, any other into an item of its own. -/
def addItems (settings : Settings) (read : Reader) : Element → List Glyphs → Notes → Element × Notes
  | list, [], notes => (list, notes)
  | list, item :: items, notes =>
    match list.lastChild?, Glyphs.isIndented (width settings) item with
    | some last, true =>
      let (last, notes) := read .tightList last [item] notes
      addItems settings read (list.setLast last) items notes
    | _, _ =>
      let (li, notes) := read .tightList (.bare "li") [item] notes
      addItems settings read (list.append li) items notes

/-- The number that a list begins with, unless it is one. -/
def listStart (kind : ListKind) (settings : Settings) (block : Glyphs) (list : Element) : Element :=
  if settings.saneLists && kind == .ordered then
    match (Glyphs.lines block).head?.bind (itemMark? settings) with
    | some (.number digits, _) =>
      if digits == ['1'] then list else list.set "start" (Glyphs.ofChars digits)
    | _ => list
  else list

/-- A block of items. -/
def listRule (kind : ListKind) : Rule := fun settings read s =>
  let begins := match (Glyphs.lines s.block).head?.bind (itemMark? settings) with
    | some (m, _) => kind.begins m
    | none => false
  if !begins then none
  else
    let found := items kind settings s.block
    let isSibling (e : Element) : Bool :=
      if settings.saneLists then e.tag == kind.tag else isList e
    match s.parent.lastChild? with
    | some list =>
      if isSibling list then
        let (first, notes) := read .looseList (.bare "li") (found.take 1) s.notes
        let (list, notes) :=
          addItems settings read ((loosenLast list).append first) (found.drop 1) notes
        some ⟨s.parent.setLast list, s.rest, notes⟩
      else fresh settings read s found
    | none => fresh settings read s found
where
  /-- A list that is not the continuation of another. -/
  fresh (settings : Settings) (read : Reader) (s : Situation) (found : List Glyphs) :
      Option Progress :=
    if isList s.parent then
      let (list, notes) := addItems settings read s.parent found s.notes
      some ⟨list, s.rest, notes⟩
    else
      let (list, notes) := addItems settings read
        (listStart kind settings s.block (.bare kind.tag)) found s.notes
      some ⟨s.parent.append list, s.rest, notes⟩

/-- Lists whose items have numbers. -/
def orderedList : Rule := listRule .ordered

/-- Lists whose items have bullets. -/
def bulletList : Rule := listRule .bullets

/-! ### Continuations -/

/-- The elements that make up lists. -/
structure ListTags where
  items : List String
  lists : List String

/-- The elements of lists with numbers or bullets. -/
def plainTags : ListTags := ⟨["li"], ["ul", "ol"]⟩

/-- The elements of all lists, definition lists too. -/
def allTags : ListTags := ⟨["dd", "li"], ["dl", "ol", "ul"]⟩

/-- The number of tab stops before a text. -/
def tabStops (n : Nat) (s : Glyphs) : Nat :=
  if n == 0 then 0 else (s.takeWhile (·.is ' ')).length / n

/-- Go down from an element to the last list or item, at most `fuel` steps, as long as the indentation
is greater than the level: the level, and the number of steps. -/
def descend (tags : ListTags) (indent : Nat) : Nat → Nat → Element → Nat × Nat
  | 0, level, _ => (level, 0)
  | fuel + 1, level, e =>
    if level < indent then
      match e.lastChild? with
      | some last =>
        let inList := tags.lists.contains last.tag
        if inList || tags.items.contains last.tag then
          let (level, steps) := descend tags indent fuel (if inList then level + 1 else level) last
          (level, steps + 1)
        else (level, 0)
      | none => (level, 0)
    else (level, 0)

/-- The greatest depth of an element. -/
def depthBound (block : Glyphs) : Nat := 2 * block.length + 2

/-- Read blocks into the element that is the last child, the last child of that, and so on. -/
def readAt (read : Reader) (place : Place) (depth : Nat) (parent : Element) (blocks : List Glyphs)
    (rest : List Glyphs) (notes : Notes) : Option Progress :=
  match parent.lastAt? depth with
  | some e =>
    let (filled, notes) := read place e blocks notes
    some ⟨parent.modifyLastAt (fun _ => filled) depth, rest, notes⟩
  | none => none

/-- The element is filled with an indented block where `depth` leads to. -/
def continueAt (tags : ListTags) (read : Reader) (s : Situation) (depth : Nat) (block : Glyphs) :
    Option Progress :=
  let isItem (e : Element) : Bool := tags.items.contains e.tag
  let hasLast (p : Element → Bool) (e : Element) : Bool := (e.lastChild?.map p).getD false
  let readAt := readAt read .indented
  if isItem s.parent then
    let inner := hasLast (fun e => tags.lists.contains e.tag) s.parent
    readAt (if inner then 1 else 0) s.parent [block] s.rest s.notes
  else
    match s.parent.lastAt? depth with
    | some e =>
      if isItem e then readAt depth s.parent [block] s.rest s.notes
      else if hasLast isItem e then
        readAt (depth + 1) (s.parent.modifyLastAt Element.wrapText (depth + 1))
          (Glyphs.blocks block) s.rest s.notes
      else
        let item := Element.bare (if e.tag == "dl" then "dd" else "li")
        readAt (depth + 1) (s.parent.modifyLastAt (·.append item) depth) [block] s.rest s.notes
    | none => none

/-- An indented block behind a list belongs to its last item, or to a list inside that. -/
def continuationWith (tags : ListTags) : Rule := fun settings read s =>
  let n := width settings
  let behindList := tags.items.contains s.parent.tag ||
    ((s.parent.lastChild?.map fun e => tags.lists.contains e.tag).getD false)
  if Glyphs.isIndented n s.block && s.place != .indented && behindList then
    let (level, depth) := descend tags (tabStops n s.block) (depthBound s.block)
      (if s.place == .tightList then 1 else 0) s.parent
    continueAt tags read s depth (looseDetab (n * level) s.block)
  else none

/-- An indented block behind a list with numbers or bullets. -/
def continuation : Rule := continuationWith plainTags

/-- An indented block behind any list. -/
def definitionContinuation : Rule := continuationWith allTags

/-! ### Definition lists -/

/-- The beginning of a definition behind its mark. -/
def definition? (line : Glyphs) : Option Glyphs :=
  match Glyphs.skipSpaces 3 line with
  | .char ':' :: .char ' ' :: s => some (Glyphs.skipSpaces 2 s)
  | _ => none

/-- The line is indented too little to belong to a definition, and begins no other one. -/
def isLazyLine (line : Glyphs) : Bool :=
  match Glyphs.skipSpaces 3 line with
  | g :: _ => !(g.is ' ' || g.is ':' || g.is '\n')
  | [] => false

/-- The terms that a paragraph or the lines before a definition give. -/
structure Terms where
  parent : Element
  terms : List Glyphs
  /-- A blank line stands between the terms and their definition. -/
  loose : Bool

/-- The terms of a definition; nothing if there are none and no list either. -/
def termsFor? (parent : Element) (before : List Glyphs) : Option Terms :=
  let terms := (before.filter fun line => !Glyphs.isBlank line).map Glyphs.trim
  match parent.lastChild? with
  | none => if terms.isEmpty then none else some ⟨parent, terms, false⟩
  | some last =>
    if terms.isEmpty && last.tag == "p" then
      some ⟨{ parent with children := parent.children.dropLast }, Glyphs.lines last.text, true⟩
    else some ⟨parent, terms, false⟩

/-- A line that begins with a colon defines the terms before it. -/
def definitionList : Rule := fun settings read s =>
  match breakLines? definition? (Glyphs.lines s.block) with
  | none => none
  | some (before, first, after) =>
    match termsFor? s.parent before with
    | none => none
    | some ⟨parent, terms, loose⟩ =>
      let isLazy := match after with
        | line :: _ => isLazyLine line
        | [] => false
      let (inside, rest) :=
        if isLazy then (Glyphs.joinLines after, []) else detab (width settings) (Glyphs.joinLines after)
      let text := if inside.isEmpty then first else first ++ .char '\n' :: inside
      let list := match parent.lastChild? with
        | some last => if last.tag == "dl" then some last else none
        | none => none
      let behindParagraph := match list.bind Element.lastChild? with
        | some last => terms.isEmpty && last.tag == "dd" && !last.children.isEmpty
        | none => false
      let place := if loose || behindParagraph then Place.looseList else .tightList
      let (dd, notes) := read place (.bare "dd") [text] s.notes
      let filled := ((list.getD (.bare "dl")).appendAll (terms.map (Element.withText "dt"))).append dd
      some ⟨if list.isSome then parent.setLast filled else parent.append filled,
        putBefore rest s.rest, notes⟩

end StaticSite.Markdown.Block
