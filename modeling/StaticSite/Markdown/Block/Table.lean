import StaticSite.Markdown.Block.Basic

/-!
# Tables

The first row of a table holds the headings of its columns and the second one nothing but dashes,
colons and pipes, in as many cells. Pipes separate cells unless they are escaped or stand in code. A
row may begin and end with a pipe if the first row does; all rows have the cells of the first one.

## Main definitions

* `Table.cells`: the cells of a row.
* `table`: the rule.
-/

namespace StaticSite.Markdown.Block

namespace Table

/-! ### Cells -/

/-- A run of grave accents or a pipe in a row, at a place. -/
inductive Tic
  /-- So many grave accents; `skip` says how many characters of its length count as escapes. -/
  | accents (start stop length skip : Nat)
  | pipe (place : Nat)

/-- The tics of a row from a place on, passing over the next `pass` characters. Backslashes before a
backslash, a grave accent or a pipe escape it. -/
def tics (place : Nat) : Nat → Glyphs → List Tic
  | _, [] => []
  | pass + 1, _ :: s => tics (place + 1) pass s
  | 0, g :: s =>
    let accents (s : Glyphs) : Nat := (s.takeWhile (·.is '`')).length
    if g.is '\\' then
      match s with
      | h :: _ =>
        if h.is '\\' || h.is '|' then tics (place + 1) 1 s
        else if h.is '`' then
          let n := accents s
          .accents place (place + n) n 1 :: tics (place + 1) n s
        else tics (place + 1) 0 s
      | [] => []
    else if g.is '`' then
      let n := accents (g :: s)
      .accents place (place + n - 1) n 0 :: tics (place + 1) (n - 1) s
    else if g.is '|' then .pipe place :: tics (place + 1) 0 s
    else tics (place + 1) 0 s

/-- The runs of grave accents among some tics. -/
def runs (found : List Tic) : List (Nat × Nat × Nat × Nat) :=
  found.filterMap fun t => match t with
    | .accents start stop length skip => some (start, stop, length, skip)
    | .pipe _ => none

/-- The places of code in a row: each run of grave accents goes with the next one of its length, at
most `fuel` of them. -/
def codeRegions : Nat → List (Nat × Nat × Nat × Nat) → List (Nat × Nat)
  | 0, _ => []
  | _ + 1, [] => []
  | fuel + 1, (start, _, length, skip) :: rest =>
    let size := length - skip
    match (if size == 0 then none else rest.findIdx? fun r => r.2.2.1 == size) with
    | some i =>
      let stop := ((rest[i]?).map fun r => r.2.1).getD start
      (start, stop) :: codeRegions fuel (rest.drop (i + 1))
    | none => codeRegions fuel rest

/-- The places of the pipes that separate cells. -/
def separators (row : Glyphs) : List Nat :=
  let found := tics 0 0 row
  let regions := codeRegions (runs found).length.succ (runs found)
  found.filterMap fun t => match t with
    | .pipe place =>
      if regions.any fun (start, stop) => start ≤ place && place ≤ stop then none else some place
    | .accents .. => none

/-- Cut a row that begins at a place. -/
def cutAt (place : Nat) (row : Glyphs) : List Nat → List Glyphs
  | [] => [row]
  | i :: is => row.take (i - place) :: cutAt (i + 1) (row.drop (i + 1 - place)) is

/-- The row without a pipe at its end that is not escaped; backslashes that escape each other before
it go with it. -/
def withoutLastPipe? (row : Glyphs) : Option Glyphs :=
  match row.reverse with
  | g :: before =>
    let escapes := (before.takeWhile (·.is '\\')).length
    if g.is '|' && escapes % 2 == 0 then some (before.drop escapes).reverse else none
  | [] => none

/-- The cells of a row, with or without a border. -/
def cells (border : Bool) (row : Glyphs) : List Glyphs :=
  let row := if border then (match row with
    | g :: s => if g.is '|' then s else g :: s
    | [] => []) else row
  let row := if border then (withoutLastPipe? row).getD row else row
  cutAt 0 row (separators row)

/-! ### The shape of a table -/

/-- The row begins or ends with a pipe. -/
def hasBorder (row : Glyphs) : Bool :=
  Glyphs.startsWith ['|'] row || (withoutLastPipe? row).isSome

/-- The border and the cells of the second row if a block is a table. -/
def shape? (rows : List Glyphs) : Option (Bool × List Glyphs) :=
  match rows with
  | first :: second :: others =>
    let border := hasBorder first
    let count := (cells border first).length
    let isRule (g : Glyph) : Bool := g.is '|' || g.is ':' || g.is '-' || g.is ' '
    let rule := cells border second
    let wide := 1 < count || (count == 1 && border && (second :: others).all hasBorder)
    if wide && rule.length == count && rule.all (·.all isRule) then some (border, rule) else none
  | _ => none

/-- The alignment that a cell of the second row says. -/
def alignment? (cell : Glyphs) : Option String :=
  let cell := Glyphs.trimSpaces cell
  match Glyphs.startsWith [':'] cell, Glyphs.startsWith [':'] cell.reverse with
  | true, true => some "center"
  | true, false => some "left"
  | false, true => some "right"
  | false, false => none

/-- A cell with its alignment. -/
def cell (settings : Settings) (tag : String) (alignment : Option String) (text : Glyphs) : Element :=
  let e := Element.withText tag (Glyphs.trimSpaces text)
  match alignment with
  | some a =>
    if settings.alignAttribute then e.setChars "align" a
    else e.setChars "style" ("text-align: " ++ a ++ ";")
  | none => e

/-- The cells of a row with their alignments; there is one for each alignment. -/
def alignedCells (settings : Settings) (tag : String) :
    List (Option String) → List Glyphs → List Element
  | [], _ => []
  | a :: as, texts => cell settings tag a (texts.headD []) :: alignedCells settings tag as (texts.drop 1)

/-- A row. -/
def row (settings : Settings) (tag : String) (border : Bool) (alignments : List (Option String))
    (text : Glyphs) : Element :=
  (Element.bare "tr").appendAll (alignedCells settings tag alignments (cells border text))

end Table

/-- A block whose first two rows fit is a table. -/
def table : Rule := fun settings _ s =>
  let rows := (Glyphs.lines s.block).map Glyphs.trimSpaces
  match Table.shape? rows with
  | none => none
  | some (border, rule) =>
    let alignments := rule.map Table.alignment?
    let head := (Element.bare "thead").append
      (Table.row settings "th" border alignments (rows.headD []))
    let body := match rows.drop 2 with
      | [] => [(Element.bare "tr").appendAll (alignments.map fun _ => .bare "td")]
      | others => others.map (Table.row settings "td" border alignments)
    s.done (s.parent.append (((Element.bare "table").append head).append
      ((Element.bare "tbody").appendAll body))) s.rest

end StaticSite.Markdown.Block
