import StaticSite.Markdown.Block.Basic

/-!
# Notes

Blocks that define something for the whole document: the target of a link, an abbreviation, or the
text of a footnote. They leave nothing in their place.

## Main definitions

* `target`, `abbreviation`, `footnote`: the rules.
-/

namespace StaticSite.Markdown.Block

/-! ### Positions -/

/-- The first line of a text where something is found: the lines before, and what is found. -/
def searchLines (find : Glyphs → Option α) (before : List Glyphs) :
    List Glyphs → Option (List Glyphs × α)
  | [] => none
  | line :: lines =>
    match find (Glyphs.joinLines (line :: lines)) with
    | some a => some (before.reverse, a)
    | none => searchLines find (line :: before) lines

/-- Leave the text around what was found. -/
def around (before : List Glyphs) (after : Glyphs) (rest : List Glyphs) : List Glyphs :=
  let before := Glyphs.joinLines before
  let rest := if Glyphs.isBlank after then rest else Glyphs.trimBreaksStart after :: rest
  if Glyphs.isBlank before then rest else Glyphs.trimBreaksEnd before :: rest

/-- Nothing but spaces stands before the end of the line: what follows. -/
def lineEnd? (s : Glyphs) : Option Glyphs :=
  match s.dropWhile (·.is ' ') with
  | [] => some []
  | g :: s => if g.is '\n' then some (g :: s) else none

/-- A line break that may be passed over, with the spaces around it. -/
def skipBreak (s : Glyphs) : Glyphs :=
  match s.dropWhile (·.is ' ') with
  | g :: rest => if g.is '\n' then rest.dropWhile (·.is ' ') else g :: rest
  | [] => []

/-- The first line of a text and what follows it. -/
def splitLine (s : Glyphs) : Glyphs × Glyphs :=
  (s.takeWhile fun g => !g.is '\n', s.dropWhile fun g => !g.is '\n')

/-! ### Targets -/

/-- A title between marks that ends its line. -/
def title? (s : Glyphs) : Option (Glyphs × Glyphs) :=
  let (line, rest) := splitLine s
  match line with
  | g :: inner =>
    let closing := if g.is '"' then some '"' else if g.is '\'' then some '\'' else
      if g.is '(' then some ')' else none
    match closing, (Glyphs.dropWhileEnd (Glyph.is ' ') inner).reverse with
    | some c, h :: title => if h.is c then some (title.reverse, rest) else none
    | _, _ => none
  | [] => none

/-- What may stand behind an address: a title on the same line or on the next one, or nothing. -/
def behindAddress? (s : Glyphs) : Option (Option Glyphs × Glyphs) :=
  let spaced : Glyphs := s.dropWhile (·.is ' ')
  let titled (s : Glyphs) : Option (Option Glyphs × Glyphs) :=
    (title? s).map fun (title, rest) => (some title, rest)
  let onNextLine : Option (Option Glyphs × Glyphs) := match spaced with
    | g :: rest =>
      if g.is '\n' then
        let next : Glyphs := rest.dropWhile (·.is ' ')
        (titled next).or ((lineEnd? next).map fun rest => (none, rest))
      else none
    | [] => none
  onNextLine.or ((titled spaced).or ((lineEnd? spaced).map fun rest => (none, rest)))

/-- An address of `n` characters or fewer, as long as possible, with what stands behind it. -/
def address? (s : Glyphs) : Nat → Option (Glyphs × Option Glyphs × Glyphs)
  | 0 => none
  | n + 1 =>
    match behindAddress? (s.drop (n + 1)) with
    | some (title, rest) => some (s.take (n + 1), title, rest)
    | none => address? s n

/-- The name in brackets at the beginning of a text, and what stands behind the colon. -/
def named? (mark : List Char) (barred : Char → Bool) (s : Glyphs) : Option (Glyphs × Glyphs) :=
  match Glyphs.stripStart? mark (Glyphs.skipSpaces 3 s) with
  | some inner =>
    let name := inner.takeWhile fun g => !g.satisfies barred
    match Glyphs.stripStart? [']', ':'] (inner.drop name.length) with
    | some rest => some (name, rest)
    | none => none
  | none => none

/-- The definition of a target at the beginning of a text. -/
def targetAt? (s : Glyphs) : Option (List Char × Target × Glyphs) :=
  match named? ['['] (fun c => c == '[' || c == ']') s with
  | some (name, rest) =>
    let rest := skipBreak rest
    let length := (rest.takeWhile fun g => !g.isBlank).length
    match address? rest length, Glyphs.chars? (Glyphs.lower (Glyphs.trim name)) with
    | some (address, title, rest), some name =>
      let address := Glyphs.dropWhileEnd (·.is '>') (address.dropWhile (·.is '<'))
      some (name, ⟨address, title.filter fun t => !t.isEmpty⟩, rest)
    | _, _ => none
  | none => none

/-- The definition of a target. -/
def target : Rule := fun _ _ s =>
  match searchLines targetAt? [] (Glyphs.lines s.block) with
  | some (before, name, target, after) =>
    some ⟨s.parent, around before after s.rest,
      { s.notes with targets := note name target s.notes.targets }⟩
  | none => none

/-! ### Abbreviations -/

/-- The end of the name of an abbreviation: the name, and what stands behind the colon. -/
def abbreviated? : Glyphs → Option (Glyphs × Glyphs)
  | [] => none
  | g :: s =>
    let closed := if g.is ']' then
        (Glyphs.stripStart? [':'] s).or (Glyphs.stripStart? [' ', ':'] s)
      else none
    match closed with
    | some rest => some ([], rest)
    | none =>
      if g.is '\\' then none
      else (abbreviated? s).map fun (name, rest) => (g :: name, rest)

/-- The definition of an abbreviation at the beginning of a text. -/
def abbreviationAt? (s : Glyphs) : Option (Glyphs × Glyphs × Glyphs) :=
  match (Glyphs.stripStart? ['*', '['] s).bind abbreviated? with
  | some (name, rest) =>
    let (title, rest) := splitLine (skipBreak rest)
    some (Glyphs.trim name, Glyphs.trim title, rest)
  | none => none

/-- The definition of an abbreviation; one whose meaning is empty quotes takes another back. -/
def abbreviation : Rule := fun settings _ s =>
  if !settings.abbreviations then none
  else
    match searchLines abbreviationAt? [] (Glyphs.lines s.block) with
    | some (before, name, title, after) =>
      if name.isEmpty || title.isEmpty then none
      else
        match Glyphs.chars? name with
        | none => none
        | some name =>
          let isVoid := Glyphs.equals ['"', '"'] title || Glyphs.equals ['\'', '\''] title
          let known := s.notes.abbreviations
          let known := if isVoid then known.filter (·.1 != name) else note name title known
          some ⟨s.parent, around before after s.rest, { s.notes with abbreviations := known }⟩
    | none => none

/-! ### Footnotes -/

/-- The definition of a footnote at the beginning of a text: its name, its first line and what
follows. -/
def footnoteAt? (s : Glyphs) : Option (Glyphs × Glyphs × Glyphs) :=
  match named? ['[', '^'] (· == ']') s with
  | some (name, rest) =>
    let (line, rest) := splitLine (rest.dropWhile (·.is ' '))
    some (name, line, rest)
  | none => none

/-- Where the first definition of a footnote begins: the text before and from there on. -/
def breakAtFootnote? (s : Glyphs) : Option (Glyphs × Glyphs) :=
  match searchLines (fun t => (footnoteAt? t).map fun _ => t) [] (Glyphs.lines s) with
  | some (before, rest) => some (Glyphs.trimBreaksEnd (Glyphs.joinLines before), rest)
  | none => none

/-- The indented blocks that belong to a footnote, and the blocks behind. -/
def footnoteBlocks : List Glyphs → List Glyphs × List Glyphs
  | [] => ([], [])
  | block :: rest =>
    if Glyphs.isIndented 4 block then
      match breakAtFootnote? block with
      | some (before, after) => ([looseDetab 4 before], after :: rest)
      | none =>
        let (inside, rest) := footnoteBlocks rest
        (looseDetab 4 block :: inside, rest)
    else ([], block :: rest)

/-- The text of a footnote with the blocks behind it. -/
def footnoteText (line after : Glyphs) (rest : List Glyphs) : Glyphs × List Glyphs :=
  let after := Glyphs.trimBreaksStart after
  match breakAtFootnote? after with
  | some (before, next) =>
    (Glyphs.trimBreaksStart (line ++ .char '\n' :: looseDetab 4 before), next :: rest)
  | none =>
    let first := Glyphs.trimBreaksEnd
      (Glyphs.trimBreaksStart (line ++ .char '\n' :: looseDetab 4 after))
    let (inside, rest) := footnoteBlocks rest
    (Glyphs.join [.char '\n', .char '\n'] (first :: inside), rest)

/-- The definition of a footnote. -/
def footnote : Rule := fun settings _ s =>
  if settings.footnotes.isNone then none
  else
    match searchLines footnoteAt? [] (Glyphs.lines s.block) with
    | some (before, name, line, after) =>
      match Glyphs.chars? name with
      | none => none
      | some name =>
        let (text, rest) := footnoteText line after s.rest
        let before := Glyphs.joinLines before
        let rest := if Glyphs.isBlank before then rest else Glyphs.trimBreaksEnd before :: rest
        some ⟨s.parent, rest,
          { s.notes with footnotes := note name (Glyphs.trimEnd text) s.notes.footnotes }⟩
    | none => none

end StaticSite.Markdown.Block
