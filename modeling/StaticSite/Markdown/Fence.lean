import StaticSite.Markdown.Settings
import StaticSite.Text.Escape

/-!
# Fenced blocks of code

A fence is three or more tildes or grave accents; the block goes on to the next line that has the same
fence and nothing else. A block may be indented and may stand inside quotations. Its lines have to be
indented as its fence is, and may not be quoted more deeply; otherwise there is no block, and the
opening fence is text. A fence that is never closed is text too.

The second kind of fences is found by its shape alone: the opening and the closing fence stand at the
beginnings of their lines, whatever is between them.

## Main definitions

* `Fence.boxedBlocks`: put a finished piece of markup in the place of every block.
* `Fence.classedBlocks`: the same for the second kind.
-/

namespace StaticSite.Markdown.Fence

/-! ### Opening lines -/

/-- The character can make a fence. -/
def isFenceChar (c : Char) : Bool := c == '~' || c == '`'

/-- The fence at the beginning of a text, and the rest of it. -/
def fenceAt? (s : List Char) : Option (List Char × List Char) :=
  match s with
  | c :: _ =>
    let fence := s.takeWhile (· == c)
    if isFenceChar c && 3 ≤ fence.length then some (fence, s.drop fence.length) else none
  | [] => none

/-- The character can be part of the name of a language. -/
def isLanguageChar (c : Char) : Bool :=
  Text.isWord c || c == '#' || c == '.' || c == '+' || c == '-'

/-- What stands behind an opening fence: nothing, the name of a language, or something in braces. -/
def isHeader (s : List Char) : Bool :=
  let s := Text.trim (· == ' ') s
  match s with
  | [] => true
  | c :: _ =>
    if c == Char.ofNat 123 then s.getLast? == some (Char.ofNat 125)
    else s.all isLanguageChar

/-- The line closes a fence. -/
def closes (fence s : List Char) : Bool :=
  match Text.stripStart? fence s with
  | some rest => rest.all (· == ' ')
  | none => false

/-! ### Blocks of the first kind -/

/-- The character can stand before a fence. -/
def isMargin (c : Char) : Bool := c == '>' || c == ' '

/-- A block that is open. -/
structure Opened where
  /-- What stands before the fence. -/
  margin : List Char
  fence : List Char
  /-- The line of the fence. -/
  first : List Char
  /-- The lines of the block, the last one first. -/
  body : List (List Char)
  /-- A blank line stands among the last lines. -/
  afterBlank : Bool

/-- The depth of quotation. -/
def quoteDepth (margin : List Char) : Nat := (margin.filter (· == '>')).length

/-- The block that a line opens. -/
def opened? (line : List Char) : Option Opened :=
  let margin := line.takeWhile isMargin
  match fenceAt? (line.drop margin.length) with
  | some (fence, header) =>
    if isHeader header then some ⟨margin, fence, line, [], false⟩ else none
  | none => none

/-- The margin of a line inside a block, which is no longer than that of its fence, and its content. -/
def splitMargin (width : Nat) (line : List Char) : List Char × List Char :=
  let margin := (line.take width).takeWhile isMargin
  (margin, line.drop margin.length)

/-- What a line does to an open block. -/
inductive Verdict
  | goesOn (b : Opened)
  | ends
  | breaks

/-- Add a line. -/
def Opened.add (b : Opened) (line : List Char) (blank : Bool) : Opened :=
  { b with body := line :: b.body, afterBlank := blank }

/-- Read a line inside a block that is not quoted. -/
def readPlain (b : Opened) (line margin content : List Char) : Verdict :=
  if quoteDepth margin != 0 then .breaks
  else if line.all Text.isBlank then .goesOn (b.add line true)
  else if margin.length != b.margin.length && !content.isEmpty then .breaks
  else if closes b.fence content then .ends
  else .goesOn (b.add line false)

/-- Read a line inside a quoted block. -/
def readQuoted (b : Opened) (line margin content : List Char) : Verdict :=
  let depth := quoteDepth margin
  let wanted := quoteDepth b.margin
  if wanted < depth then .breaks
  else if content.isEmpty then .goesOn (b.add line true)
  else if margin.length < b.margin.length then .breaks
  else if b.afterBlank && depth < wanted then .breaks
  else if closes b.fence content then .ends
  else .goesOn (b.add line false)

/-- Read a line inside a block. -/
def Opened.read (b : Opened) (line : List Char) : Verdict :=
  let (margin, content) := splitMargin b.margin.length line
  if quoteDepth b.margin == 0 then readPlain b line margin content
  else readQuoted b line margin content

/-- The line that takes the place of a block. -/
def Opened.finish (b : Opened) (last : List Char) : Glyphs :=
  let body := b.body.reverse
  let code := Text.join ['\n'] (body.map fun line => line.drop b.margin.length)
  let written := b.first :: (if body.isEmpty then [[]] else body) ++ [last]
  Glyphs.ofChars b.margin ++
    [.raw (Glyphs.ofChars (Text.codeBlock code)) (.fence written b.margin.length)]

/-- The lines of a block that is no block after all. -/
def Opened.lines (b : Opened) : List Glyphs :=
  (b.first :: b.body.reverse).map Glyphs.ofChars

/-- Replace blocks in the lines of a text, within an open block. -/
def boxedFrom : Option Opened → List (List Char) → List Glyphs
  | none, [] => []
  | some b, [] => b.lines
  | none, line :: lines =>
    match opened? line with
    | some b => boxedFrom (some b) lines
    | none => Glyphs.ofChars line :: boxedFrom none lines
  | some b, line :: lines =>
    match b.read line with
    | .goesOn b => boxedFrom (some b) lines
    | .ends => b.finish line :: boxedFrom none lines
    | .breaks => b.lines ++ Glyphs.ofChars line :: boxedFrom none lines

/-- Replace the blocks of a text. -/
def boxedBlocks (lines : List (List Char)) : List Glyphs := boxedFrom none lines

/-! ### Blocks of the second kind -/

/-- A language and the classes and identifier of a block. -/
structure Header where
  language : List Char
  classes : List (List Char)
  id : List Char

/-- The header in braces: words that are classes, behind a point, or an identifier, behind a hash. -/
def Header.ofList (s : List Char) : Header :=
  let words := Text.words s
  let classes := words.filterMap fun w => match w with
    | '.' :: name => some name
    | _ => none
  let ids := words.filterMap fun w => match w with
    | '#' :: name => some name
    | _ => none
  ⟨classes.headD [], classes.drop 1, ids.getLast?.getD []⟩

/-- The header of a block of the second kind. -/
def header? (s : List Char) : Option Header :=
  let s := Text.trimStart (· == ' ') s
  match s with
  | c :: inner =>
    if c == Char.ofNat 123 then
      match inner.reverse with
      | last :: inside =>
        if last == Char.ofNat 125 then some (Header.ofList inside.reverse) else none
      | [] => none
    else
      let s := match s with
        | '.' :: rest => rest
        | s => s
      let language := s.takeWhile isLanguageChar
      if (s.drop language.length).all (· == ' ') then some ⟨language, [], []⟩ else none
  | [] => some ⟨[], [], []⟩

/-- An attribute, unless it is empty. -/
def attributeText (key : String) (value : List Char) : List Char :=
  if value.isEmpty then []
  else (" " ++ key ++ "=\"").toList ++ (Glyphs.escaped true (Glyphs.ofChars value)).chars ++ ['"']

/-- Code with the characters escaped that mean something in markup, apostrophes apart. -/
def escapedSource (s : List Char) : List Char :=
  s.flatMap fun c => if c == '\'' then [c] else Text.escapeChar c

/-- The markup of a block of the second kind. -/
def classedMarkup (start : List Char) (h : Header) (code : List (List Char)) : Glyphs :=
  let text := code.flatMap fun line => line ++ ['\n']
  let language := if h.language.isEmpty then [] else start ++ h.language
  Glyphs.ofChars <|
    "<pre".toList ++ attributeText "id" h.id ++
      attributeText "class" (Text.join [' '] h.classes) ++ "><code".toList ++
      attributeText "class" language ++ ['>'] ++ escapedSource text ++ "</code></pre>".toList

/-- The lines up to the one that closes a fence, and those behind it. -/
def untilClosed? (fence : List Char) : List (List Char) → Option (List (List Char) × List (List Char))
  | [] => none
  | line :: lines =>
    if closes fence line then some ([], lines)
    else (untilClosed? fence lines).map fun (body, rest) => (line :: body, rest)

/-- Replace blocks of the second kind in the lines of a text, passing over the next `skip` lines. -/
def classedFrom (start : List Char) : Nat → List (List Char) → List Glyphs
  | _, [] => []
  | skip + 1, _ :: lines => classedFrom start skip lines
  | 0, line :: lines =>
    let found := do
      let (fence, after) ← fenceAt? line
      let h ← header? after
      let (body, _) ← untilClosed? fence lines
      some (h, body)
    match found with
    | some (h, body) =>
      [] :: [.raw (classedMarkup start h body) .source] :: [] ::
        classedFrom start (body.length + 1) lines
    | none => Glyphs.ofChars line :: classedFrom start 0 lines

/-- Replace the blocks of a text, each of them set apart by blank lines. -/
def classedBlocks (start : List Char) (lines : List (List Char)) : List Glyphs :=
  classedFrom start 0 lines

end StaticSite.Markdown.Fence
