import StaticSite.Markdown.Glyph

/-!
# Source lines

The lines of a document before anything else is read: line breaks of one kind, spaces instead of tabs,
nothing on blank lines, and an empty line at the end. A document may begin with a header of keys and
values; a site has no use for it, and it is left out.

## Main definitions

* `Source.lines`: the lines of a document.
* `Source.withoutHeader`: the lines behind the header.
-/

namespace StaticSite.Markdown.Source

/-- The character is one of the two control characters that a document must not hold. -/
def isBarred (c : Char) : Bool := c.toNat == 2 || c.toNat == 3

/-- Put spaces in the place of tabs: up to the next multiple of `width`, from a column on. -/
def expandTabs (width : Nat) : Nat → List Char → List Char
  | _, [] => []
  | column, c :: s =>
    if c == '\t' then
      let gap := if width == 0 then 0 else width - column % width
      Text.copies gap ' ' ++ expandTabs width (column + gap) s
    else c :: expandTabs width (if c == '\n' || c == '\r' then 0 else column + 1) s

/-- A line, or nothing of one that has only spaces. -/
def withoutSpaces (line : List Char) : List Char := if line.all (· == ' ') then [] else line

/-- The lines of a document with a distance of tab stops. -/
def lines (width : Nat) (s : List Char) : List (List Char) :=
  let s := Text.unifyNewlines (s.filter fun c => !isBarred c) ++ ['\n', '\n']
  match Text.splitOn '\n' (expandTabs width 0 s) with
  | first :: others => first :: others.map withoutSpaces
  | [] => []

/-! ### Headers -/

/-- The line opens a header. -/
def opensHeader (line : List Char) : Bool := Text.startsWith "---".toList line

/-- The line closes a header, as a blank line does. -/
def closesHeader (line : List Char) : Bool :=
  line.all Text.isBlank || Text.startsWith "---".toList line || Text.startsWith "...".toList line

/-- The character can be part of a key. -/
def isKeyChar (c : Char) : Bool := c.isAlphanum || c == '_' || c == '-'

/-- The line gives a key its value. -/
def isEntry (line : List Char) : Bool :=
  let indent := line.takeWhile (· == ' ')
  let rest := line.drop indent.length
  let key := rest.takeWhile isKeyChar
  indent.length ≤ 3 && !key.isEmpty && (rest.drop key.length).head? == some ':'

/-- The line goes on with a value. -/
def isContinuation (line : List Char) : Bool := Text.startsWith "    ".toList line

/-- The lines behind the entries of a header; `begun` once there is one. -/
def afterEntries (begun : Bool) : List (List Char) → List (List Char)
  | [] => []
  | line :: lines =>
    if closesHeader line then lines
    else if isEntry line then afterEntries true lines
    else if begun && isContinuation line then afterEntries true lines
    else line :: lines

/-- The lines behind the header of a document. -/
def withoutHeader (lines : List (List Char)) : List (List Char) :=
  match lines with
  | first :: others => afterEntries false (if opensHeader first then others else first :: others)
  | [] => []

end StaticSite.Markdown.Source
