import StaticSite.Html.Scan
import StaticSite.Markdown.Settings

/-!
# Markup in the source

Elements that stand on their own are taken out of the source before anything else is read. From the
start tag of such an element at the beginning of a line to its end tag, everything is finished markup.
If the tag says that its content is Markdown, the element is built as a tree instead, together with the
elements inside it, and its content is read later. What stands in the place of the markup is set apart
from the text around it by blank lines. All other tags stay in the text.

The source is read once as far as it looks complete, and then once more from there, with whatever is
not complete taken as text.

## Main definitions

* `Enclosure.Reach`: how far the content of an element is read.
* `Enclosure.Extraction`: what has been taken out so far.
* `Enclosure.extract`: a source without the markup that stands on its own.
-/

namespace StaticSite.Markdown.Enclosure

open Html (Attributes)

/-! ### How far content is read -/

/-- How far the content of an element is read as Markdown. -/
inductive Reach
  | blocks
  | spans
  | nothing
  deriving DecidableEq, Repr

/-- The word for a reach in a tag. -/
def Reach.word : Reach → String
  | blocks => "block"
  | spans => "span"
  | nothing => "off"

/-- The elements that can hold nothing but running text. -/
def spanElements : List String := [
  "address", "dd", "dt", "h1", "h2", "h3", "h4", "h5", "h6", "legend", "li", "p", "summary", "td",
  "th"]

/-- The elements whose content is never read. -/
def rawElements : List String := [
  "canvas", "math", "option", "pre", "script", "style", "textarea"]

/-- The elements that are always empty. -/
def isAlwaysEmpty (name : String) : Bool := name == "hr"

/-- The reach of an element with a name within another reach, from what its tag says. -/
def reachOf (outer : Option Reach) (name : String) (said : Option String) : Reach :=
  let isSpan := spanElements.contains name
  let isBlock := !(isSpan || rawElements.contains name || isAlwaysEmpty name)
  let said := match said with
    | some "markdown" => "1"
    | some word => word
    | none => "0"
  let said :=
    if outer == some .nothing then Reach.nothing.word
    else if outer == some .spans && said != "0" then Reach.spans.word
    else said
  if (said == "1" && isBlock) || (said == "block" && (isBlock || isSpan)) then .blocks
  else if (said == "1" && isSpan) || (said == "span" && (isBlock || isSpan)) then .spans
  else .nothing

/-! ### The state -/

/-- An element that is being built. -/
structure OpenElement where
  reach : Reach
  element : Element

/-- What has been taken out so far. -/
structure Extraction where
  /-- The pieces of the text, the last one first. -/
  pieces : List Glyphs
  /-- Markup that stands on its own has ended on this line. -/
  inTail : Bool
  /-- The names of the open elements of finished markup, the innermost first. -/
  rawStack : List String
  /-- Finished markup that has not yet been put in its place, the last piece first. -/
  cache : List Glyphs
  /-- The elements that are being built, the innermost first. -/
  opened : List OpenElement
  /-- The characters of this line so far, the last one first. -/
  line : List Char
  /-- The element whose content is text up to its end tag. -/
  inside : Option (List Char)

namespace Extraction

/-- Nothing yet. -/
def empty : Extraction := ⟨[], false, [], [], [], [], none⟩

/-- Finished markup is being read. -/
def inRaw (x : Extraction) : Bool := !x.rawStack.isEmpty

/-- Elements are being built. -/
def isBuilding (x : Extraction) : Bool := !x.opened.isEmpty

/-- Nothing but a few blanks stands before on this line. -/
def atLineStart (x : Extraction) : Bool := x.line.length ≤ 3 && x.line.all Text.isBlank

/-- The innermost element that is being built is not read. -/
def isUnread (x : Extraction) : Bool :=
  match x.opened with
  | o :: _ => o.reach == .nothing
  | [] => false

/-- Add a piece of text. -/
def push (x : Extraction) (s : Glyphs) : Extraction := { x with pieces := s :: x.pieces }

/-- Add finished markup to what is waiting. -/
def keep (x : Extraction) (s : Glyphs) : Extraction := { x with cache := s :: x.cache }

/-- What is waiting, as one glyph. -/
def cached (x : Extraction) : Glyph := .raw x.cache.reverse.flatten .source

/-- Begin a new line where there is only one line break. -/
def setApart (x : Extraction) : Extraction :=
  let item := x.pieces.headD []
  if Glyphs.startsWith ['\n', '\n'] item.reverse then x
  else if Glyphs.startsWith ['\n'] item.reverse then x.push [.char '\n']
  else x

/-- Add text to an element that is being built: behind its last child if it has one. -/
def addText (s : Glyphs) (e : Element) : Element :=
  if e.children.isEmpty then { e with text := e.text ++ s }
  else e.modifyLast fun child => { child with tail := child.tail ++ s }

/-- Text in the source. -/
def data (x : Extraction) (s : Glyphs) : Extraction :=
  let x := if s.any (·.is '\n') then { x with inTail := false } else x
  if x.inRaw then x.keep s
  else
    match x.opened with
    | o :: os => { x with opened := { o with element := addText s o.element } :: os }
    | [] => x.push s

/-- Text of a tag within an element that is being built: finished markup if it is not read. -/
def tagText (x : Extraction) (s : Glyphs) : Extraction :=
  x.data (if x.isUnread then [.raw s .source] else s)

/-- Markup without content: `blankAfter` says that a blank line follows. -/
def void (x : Extraction) (s : Glyphs) (block blankAfter : Bool) : Extraction :=
  if x.inRaw || !x.isBuilding then
    if x.inRaw || x.inTail then x.keep s
    else if x.atLineStart && block then
      let x := if blankAfter then x else { x with inTail := true }
      let s := if blankAfter then s ++ [.char '\n'] else s
      (x.setApart.push [.raw s .source]).push [.char '\n', .char '\n']
    else x.push s
  else if x.atLineStart && block then
    x.data ([.char '\n', .raw s .source, .char '\n', .char '\n'])
  else x.tagText s

/-- Close the innermost elements up to the first with a name; nothing is left open if there is none. -/
def closeUpTo (name : String) : List OpenElement → List OpenElement × Option Element
  | [] => ([], none)
  | [o] => ([], some o.element)
  | o :: p :: os =>
    let outer := { p with element := p.element.append o.element } :: os
    if o.element.tag == name then (outer, none) else closeUpTo name outer
termination_by os => os.length

/-- Close elements that are being built; the outermost one takes its place in the text. -/
def closeElement (style : MarkupStyle) (x : Extraction) (name : String) (blankAfter : Bool) :
    Extraction :=
  let (opened, finished) := closeUpTo name x.opened
  let x := { x with opened := opened }
  match finished with
  | none => x
  | some e =>
    let x := (x.setApart.push [.raw (e.written style) (.element e)]).push [.char '\n', .char '\n']
    if blankAfter then x else { x with inTail := true }

/-- The end tag of finished markup. -/
def closeRaw (x : Extraction) (name : String) (s : Glyphs) (blankAfter : Bool) : Extraction :=
  let x := x.keep s
  let stack :=
    if x.rawStack.contains name then (x.rawStack.dropWhile (· != name)).drop 1 else x.rawStack
  if stack.isEmpty then
    let x := if blankAfter then x.keep [.char '\n'] else { x with inTail := true }
    let x := (x.push [x.cached]).push [.char '\n', .char '\n']
    { x with rawStack := [], cache := [] }
  else { x with rawStack := stack }

/-- An end tag. -/
def finish (style : MarkupStyle) (x : Extraction) (name : String) (s : Glyphs) (blankAfter : Bool) :
    Extraction :=
  if x.inRaw then x.closeRaw name s blankAfter
  else if isBlockLevel name && x.opened.any (·.element.tag == name) then
    x.closeElement style name blankAfter
  else x.tagText s

/-- The attributes of an element; one without a value has its name as its value, and of several with
one name the last counts. -/
def fields (attributes : Attributes) : List (String × Glyphs) :=
  (attributes.foldl (fun (e : Element) (key, value) =>
    e.set (String.ofList key) (Glyphs.ofChars (value.getD key))) (.bare "")).attributes

/-- A start tag of finished markup. -/
def startRaw (x : Extraction) (name : String) (s : Glyphs) : Extraction :=
  let x := if x.inRaw then x else x.push [.char '\n']
  { x.keep s with rawStack := name :: x.rawStack }

/-- A start tag of an element that is to be built. -/
def startElement (style : MarkupStyle) (x : Extraction) (name : String)
    (attributes : List (String × Glyphs)) (reach : Reach) (blankAfter : Bool) : Extraction :=
  let x :=
    if x.opened.any (·.element.tag == "p") then x.closeElement style "p" blankAfter else x
  let e : Element := { Element.bare name with attributes := attributes }
  { x with opened := ⟨reach, e.setChars "markdown" reach.word⟩ :: x.opened }

/-- The markup of an element that is always empty. -/
def emptyMarkup (name : String) (attributes : List (String × Glyphs)) (s : Glyphs) : Glyphs :=
  if attributes.any (·.1 == "markdown") then
    Glyphs.ofString ("<" ++ name) ++
      (attributes.filter (·.1 != "markdown")).flatMap (writtenAttribute .closed) ++ [.char '>']
  else s

/-- A start tag. -/
def start (style : MarkupStyle) (x : Extraction) (name : List Char) (attributes : Attributes)
    (s : Glyphs) (blankAfter : Bool) : Extraction :=
  let tag := String.ofList name
  let known := fields attributes
  let fresh := x.atLineStart || x.inTail
  if isAlwaysEmpty tag && (fresh || x.inRaw) then x.void (emptyMarkup tag known s) true blankAfter
  else
    let x := if Html.isTextElement name then { x with inside := some name } else x
    if isBlockLevel tag && (fresh || x.isBuilding) then
      let said := (known.lookup "markdown").map fun v => String.ofList (Glyphs.chars v)
      let reach := reachOf (x.opened.head?.map (·.reach)) tag said
      if x.inRaw || (reach == .nothing && !x.isBuilding) then x.startRaw tag s
      else x.startElement style tag known reach blankAfter
    else if x.inRaw then x.startRaw tag s
    else { x.tagText s with inside := none }

/-- Move on behind some characters of the source. -/
def moveOver (x : Extraction) (s : List Char) : Extraction :=
  let last := s.reverse.takeWhile (· != '\n')
  { x with line := if s.contains '\n' then last else last ++ x.line }

/-- Put everything in its place that is still open. -/
def close (style : MarkupStyle) (x : Extraction) : Extraction :=
  let x := if x.cache.isEmpty then x else { x.push [x.cached] with cache := [] }
  match x.opened.getLast? with
  | some o => x.closeElement style o.element.tag true
  | none => x

end Extraction

/-! ### Reading the source -/

/-- A piece of markup at the beginning of a text, and the number of its characters. -/
inductive Piece
  /-- Text. -/
  | data (length : Nat)
  | start (name : List Char) (attributes : Attributes) (closed : Bool) (length : Nat)
  | finish (name : List Char) (length : Nat)
  /-- Markup without content. -/
  | void (s : Glyphs) (block : Bool) (length : Nat)
  /-- Something that is not complete. -/
  | incomplete
  /-- Nothing more can be read; so many characters before are text. -/
  | halt (length : Nat)

/-- Two line breaks follow with nothing but spaces between. -/
def blankFollows (s : List Char) : Bool :=
  match s.dropWhile (· == ' ') with
  | '\n' :: rest =>
    match rest.dropWhile (· == ' ') with
    | '\n' :: _ => true
    | _ => false
  | _ => false

/-- A start tag, from behind its bracket on. -/
def startPiece (s : List Char) : Piece :=
  match Html.readOpening (· == '`') s with
  | .complete (.opening name attributes closed) rest =>
    .start name attributes closed (1 + s.length - rest.length)
  | .complete _ rest => .data (1 + s.length - rest.length)
  | .incomplete => .data 1

/-- An end tag, from behind its slash on. -/
def finishPiece (s : List Char) (gs : Glyphs) : Piece :=
  match s with
  | '>' :: _ => .data 3
  | _ =>
    match Html.readClosing s with
    | .complete [.closing name] rest => .finish name (2 + s.length - rest.length)
    | .complete _ rest =>
      let n := 2 + s.length - rest.length
      .void (gs.take n) false n
    | .incomplete => .incomplete

/-- A comment, from behind its opening on. -/
def commentPiece (s : List Char) (gs : Glyphs) : Piece :=
  match Html.findLoose? ['-', '-'] ['>'] s with
  | some (inner, rest) =>
    .void (Glyphs.ofString "<!--" ++ (gs.drop 4).take inner.length ++ Glyphs.ofString "-->") true
      (4 + s.length - rest.length)
  | none => .incomplete

/-- An instruction, from behind its opening on. -/
def instructionPiece (s : List Char) (gs : Glyphs) : Piece :=
  match Text.breakOn? ['?', '>'] s with
  | some (_, rest) =>
    let n := 2 + s.length - rest.length
    .void (gs.take n) true n
  | none => .incomplete

/-- Markup up to the next closing bracket. -/
def untilBracket (s : List Char) (gs : Glyphs) (block : Bool) (otherwise : Piece) : Piece :=
  match Html.untilMark? '>' s with
  | some (inner, _) => .void (gs.take (inner.length + 3)) block (inner.length + 3)
  | none => otherwise

/-- A declaration, from behind its opening on. -/
def declarationPiece (s : List Char) (gs : Glyphs) : Piece :=
  match Text.stripStart? "[CDATA[".toList s with
  | some inner =>
    match Html.findLoose? [']'] [']', '>'] inner with
    | some (content, rest) =>
      .void (gs.take (9 + content.length) ++ Glyphs.ofString "]]>") true (2 + s.length - rest.length)
    | none => .incomplete
  | none =>
    if s.head? == some '[' then untilBracket s gs false (.data 1)
    else untilBracket s gs (Text.lower (s.take 7) == "doctype".toList) .incomplete

/-- The markup at a bracket. Declarations and instructions are read only where `free` says so. -/
def markupPiece (free : Bool) (s : List Char) (gs : Glyphs) : Piece :=
  match s with
  | '/' :: rest => finishPiece rest gs
  | '!' :: '-' :: '-' :: rest => commentPiece rest gs
  | '?' :: rest => if free then instructionPiece rest gs else .data 2
  | '!' :: rest => if free then declarationPiece rest gs else .data 2
  | c :: _ => if Html.isLetter c then startPiece s else .data 1
  | [] => .halt 0

/-- A numeric reference, from behind its mark on. -/
def numberPiece (s : List Char) (gs : Glyphs) : Piece :=
  let (base, digits, rest) := Html.numericDigits s
  let start := if base == 16 then 3 else 2
  let continues (c : Char) : Bool := (Number.digitValue? 16 c).isSome && c.toNat < 128
  match rest with
  | c :: _ =>
    if digits.isEmpty || continues c then .halt (if s.contains ';' then 2 else 0)
    else
      let n := start + digits.length
      .void (gs.take n ++ [.char ';']) false (if c == ';' then n + 1 else n)
  | [] => .halt 0

/-- The reference at an ampersand. -/
def referencePiece (s : List Char) (gs : Glyphs) : Piece :=
  let inName (c : Char) : Bool := c.isAlphanum || c == '-' || c == '.'
  match s with
  | '#' :: rest => numberPiece rest gs
  | c :: _ =>
    let name := s.takeWhile inName
    if Html.isLetter c && (s.drop name.length).head? == some ';' then
      .void (gs.take (name.length + 2)) false (name.length + 2)
    else .data 1
  | [] => .halt 0

/-- The next piece of a source that is not empty. -/
def nextPiece (x : Extraction) (s : List Char) (gs : Glyphs) : Piece :=
  match x.inside with
  | some name =>
    match Html.findEnd? name s with
    | some ([], rest) => .finish name (s.length - rest.length)
    | some (before, _) => .data before.length
    | none => .halt 0
  | none =>
    let isMark (c : Char) : Bool := c == '<' || c == '&'
    match s with
    | '<' :: rest => markupPiece (x.atLineStart || x.inTail || x.isBuilding) rest gs
    | '&' :: rest => referencePiece rest gs
    | _ => .data (s.takeWhile fun c => !isMark c).length

/-- The number of characters of incomplete markup that are taken as text. -/
def textLength (s : List Char) : Nat :=
  match Html.untilMark? '>' s with
  | some (before, _) => before.length + 1
  | none =>
    let before := (s.drop 1).takeWhile (· != '<')
    if before.length + 1 < s.length then before.length + 1 else 1

/-- Read a source in at most `fuel` steps; `closing` says that whatever is not complete is text. -/
def readWithin (style : MarkupStyle) (closing : Bool) :
    Nat → Extraction → List Char → Glyphs → Extraction × List Char × Glyphs
  | 0, x, s, gs => (x, s, gs)
  | fuel + 1, x, s, gs =>
    if s.isEmpty then (x, [], [])
    else
      let onward (n : Nat) (x : Extraction) := readWithin style closing fuel
        (x.moveOver (s.take n)) (s.drop n) (gs.drop n)
      match nextPiece x s gs with
      | .data n => onward (max n 1) (x.data (gs.take (max n 1)))
      | .start name attributes closed n =>
        let blankAfter := blankFollows (s.drop n)
        if closed then
          let tag := String.ofList name
          let text := gs.take n
          let text := if isAlwaysEmpty tag then
            Extraction.emptyMarkup tag (Extraction.fields attributes) text else text
          onward n (x.void text (isBlockName name) blankAfter)
        else onward n (x.start style name attributes (gs.take n) blankAfter)
      | .finish name n =>
        onward n ({ x with inside := none }.finish style (String.ofList name) (gs.take n)
          (blankFollows (s.drop n)))
      | .void text block n => onward n (x.void text block (blankFollows (s.drop text.length)))
      | .incomplete =>
        if closing then
          let n := textLength s
          onward n (x.data (gs.take n))
        else (x, s, gs)
      | .halt n => ((x.data (gs.take n)).moveOver (s.take n), s.drop n, gs.drop n)

/-- The character that stands for a glyph that is already settled. -/
def settledChar : Char := Char.ofNat 2

/-- A source without the markup that stands on its own. -/
def extract (style : MarkupStyle) (source : Glyphs) : Glyphs :=
  let chars := source.map fun g => g.char?.getD settledChar
  let (x, s, gs) := readWithin style false (chars.length + 1) .empty chars source
  let (x, _, gs) := readWithin style true (s.length + 1) x s gs
  let x := if gs.isEmpty then x else x.data gs
  (x.close style).pieces.reverse.flatten

end StaticSite.Markdown.Enclosure
