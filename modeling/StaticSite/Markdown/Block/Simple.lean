import StaticSite.Markdown.Block.Basic

/-!
# Simple blocks

Empty blocks, indented code, headings, rules across the page, quotations and paragraphs.

## Main definitions

* `empty`, `code`, `heading`, `underlined`, `ruler`, `quotation`, `paragraph`: the rules.
-/

namespace StaticSite.Markdown.Block

/-! ### Empty blocks -/

/-- Add code to the code block that is the last child, if it is one. -/
def extendCode (f : Glyphs → Glyphs) (e : Element) : Element :=
  match e.lastChild? with
  | some last =>
    if last.isCodeBlock then
      e.setLast (last.modifyFirst fun code => { code with text := f code.text, fixed := true })
    else e
  | none => e

/-- An empty block is part of a code block before it. -/
def empty : Rule := fun _ _ s =>
  match s.block with
  | [] => s.done (extendCode (· ++ [.char '\n', .char '\n']) s.parent) s.rest
  | g :: block =>
    if g.is '\n' then s.done (extendCode (· ++ [.char '\n']) s.parent) (putBefore block s.rest)
    else none

/-! ### Code -/

/-- The lines of a fenced block that stands alone on a line, as they were written. -/
def fenceLines? (line : Glyphs) : Option (List Glyphs) :=
  let isMargin (g : Glyph) : Bool := g.is ' ' || g.is '>'
  let margin := (line.takeWhile isMargin).length
  match line.drop margin with
  | [.raw _ (.fence lines indent)] =>
    some (lines.map fun l => Glyphs.ofChars (l.drop (indent - margin)))
  | _ => none

/-- The text with fenced blocks taken back. -/
def withoutFences (s : Glyphs) : Glyphs :=
  Glyphs.joinLines ((Glyphs.lines s).flatMap fun line => (fenceLines? line).getD [line])

/-- An indented block is code, together with a code block before it. -/
def code : Rule := fun settings _ s =>
  if settings.indentedCode && Glyphs.isIndented (width settings) s.block then
    let (inside, rest) := detab (width settings) (withoutFences s.block)
    let text := Glyphs.escapedCode (Glyphs.trimEnd inside) ++ [.char '\n']
    let isCode := (s.parent.lastChild?.map Element.isCodeBlock).getD false
    let parent :=
      if isCode then extendCode (fun before => before ++ [.char '\n'] ++ text) s.parent
      else s.parent.append ((Element.bare "pre").append (.withFixedText "code" text))
    s.done parent (putBefore rest s.rest)
  else none

/-! ### Headings -/

/-- The text of a heading behind its mark, without the hashes at its end. A backslash keeps the
character behind it; a line that ends with a backslash is no heading. -/
def headingText? : Glyphs → Option Glyphs
  | [] => some []
  | g :: s =>
    if (g :: s).all (·.is '#') then some []
    else if g.is '\\' then
      match s with
      | h :: s => (headingText? s).map (g :: h :: ·)
      | [] => none
    else (headingText? s).map (g :: ·)

/-- The level and text of a heading. -/
def heading? (line : Glyphs) : Option (Nat × Glyphs) :=
  let level := min 6 (line.takeWhile (·.is '#')).length
  if level == 0 then none
  else (headingText? (line.drop level)).map fun text => (level, Glyphs.trim text)

/-- A line that begins with hashes is a heading. -/
def heading : Rule := fun _ read s =>
  match breakLines? heading? (Glyphs.lines s.block) with
  | some (before, (level, text), after) =>
    let (parent, notes) :=
      if before.isEmpty then (s.parent, s.notes)
      else read s.place s.parent [Glyphs.joinLines before] s.notes
    some ⟨parent.append (.withText ("h" ++ toString level) text),
      putBefore (Glyphs.joinLines after) s.rest, notes⟩
  | none => none

/-- The level of the heading that a line underlines. -/
def underline? (line : Glyphs) : Option Nat :=
  let isMark (g : Glyph) : Bool := g.is '=' || g.is '-'
  match line with
  | g :: _ =>
    if isMark g && (line.dropWhile isMark).all (·.is ' ') then some (if g.is '=' then 1 else 2)
    else none
  | [] => none

/-- The first line of a block is a heading if the second one underlines it. -/
def underlined : Rule := fun _ _ s =>
  match Glyphs.lines s.block with
  | line :: second :: others =>
    match underline? second with
    | some level =>
      s.done (s.parent.append (.withText ("h" ++ toString level) (Glyphs.trim line)))
        (if others.isEmpty then s.rest else Glyphs.joinLines others :: s.rest)
    | none => none
  | _ => none

/-! ### Rules across the page -/

/-- The line has at least `n` more marks, with at most two spaces between neighbours. -/
def hasMarks (mark : Char) : Nat → Nat → Glyphs → Bool
  | n, _, [] => n == 0
  | n, spaces, g :: s =>
    if g.is mark then spaces ≤ 2 && hasMarks mark (n - 1) 0 s
    else g.is ' ' && hasMarks mark n (spaces + 1) s

/-- The line is a rule across the page. -/
def ruler? (line : Glyphs) : Option Unit :=
  match Glyphs.skipSpaces 3 line with
  | .char c :: s =>
    if (c == '-' || c == '_' || c == '*') && hasMarks c 3 0 (.char c :: s) then some () else none
  | _ => none

/-- A line of three or more equal marks is a rule across the page. -/
def ruler : Rule := fun _ read s =>
  match breakLines? ruler? (Glyphs.lines s.block) with
  | some (before, _, after) =>
    let before := Glyphs.trimBreaksEnd (Glyphs.joinLines before)
    let (parent, notes) :=
      if before.isEmpty then (s.parent, s.notes) else read s.place s.parent [before] s.notes
    some ⟨parent.append (.bare "hr"),
      putBefore (Glyphs.trimBreaksStart (Glyphs.joinLines after)) s.rest, notes⟩
  | none => none

/-! ### Quotations -/

/-- The text behind the mark of a quotation. -/
def quoted? (line : Glyphs) : Option Glyphs :=
  match Glyphs.skipSpaces 3 line with
  | g :: s => if g.is '>' then some (Glyphs.skipSpaces 1 s) else none
  | [] => none

/-- A line of a quotation without its mark, if it has one. -/
def unquoted (line : Glyphs) : Glyphs :=
  if Glyphs.equals ['>'] (Glyphs.trim line) then [] else (quoted? line).getD line

/-- A block is quoted from its first line with a mark on. -/
def quotation : Rule := fun _ read s =>
  match breakLines? quoted? (Glyphs.lines s.block) with
  | some (before, _, _) =>
    let lines := (Glyphs.lines s.block).drop before.length
    let (parent, notes) := read s.place s.parent [Glyphs.joinLines before] s.notes
    let inside := (if before.isEmpty then [] else [[]]) ++ lines.map unquoted
    let quote := match parent.lastChild? with
      | some last => if last.tag == "blockquote" then some last else none
      | none => none
    let (filled, notes) := read .quotation (quote.getD (.bare "blockquote"))
      (Glyphs.blocks (Glyphs.joinLines inside)) notes
    some ⟨if quote.isSome then parent.setLast filled else parent.append filled, s.rest, notes⟩
  | none => none

/-! ### Paragraphs -/

/-- Everything else is a paragraph; in a list without blank lines it is text of the item. -/
def paragraph : Rule := fun _ _ s =>
  if Glyphs.isBlank s.block then s.done s.parent s.rest
  else if s.place == .tightList then
    match s.parent.lastChild? with
    | some last =>
      s.done (s.parent.setLast { last with tail := last.tail ++ .char '\n' :: s.block }) s.rest
    | none =>
      let text := Glyphs.trimStart s.block
      let before := if s.parent.text.isEmpty then [] else s.parent.text ++ [.char '\n']
      s.done { s.parent with text := before ++ text } s.rest
  else s.done (s.parent.append (.withText "p" (Glyphs.trimStart s.block))) s.rest

end StaticSite.Markdown.Block
