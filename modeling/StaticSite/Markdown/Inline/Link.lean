import StaticSite.Markdown.Inline.Basic

/-!
# Links and images

A text in square brackets is a link if an address in parentheses follows, or if it names a target that
the document defines somewhere; an exclamation mark before it makes it an image. An address may hold
parentheses in pairs and may be followed by a title in quotes. Titles in quotes that are not closed
belong to the address.

## Main definitions

* `Link.bracketed?`: the text in brackets.
* `Link.destination?`: the address and title in parentheses.
* `Link.direct`, `Link.byTarget`, `Link.byText`: the patterns.
-/

namespace StaticSite.Markdown.Inline.Link

open Block (Target)

/-! ### Texts in brackets -/

/-- The text up to the bracket that closes `depth` open ones, and what follows. -/
def bracketedFrom? : Nat → Glyphs → Option (Glyphs × Glyphs)
  | _, [] => none
  | depth, g :: s =>
    let onward (depth : Nat) := (bracketedFrom? depth s).map fun (text, rest) => (g :: text, rest)
    if g.is ']' then (if depth ≤ 1 then some ([], s) else onward (depth - 1))
    else if g.is '[' then onward (depth + 1)
    else onward depth

/-- The text in brackets behind an opening one, and what follows. -/
def bracketed? (s : Glyphs) : Option (Glyphs × Glyphs) := bracketedFrom? 1 s

/-- The text with elements replaced by their contents. -/
def plainText (s : Glyphs) : Glyphs :=
  s.flatMap fun g => match g with
    | .node e => e.content
    | .held c => [.char c]
    | g => [g]

/-! ### Addresses -/

/-- A quote that has been opened in an address: its kind, where its text begins, and where the last
quote of its kind stands behind. -/
structure Quote where
  kind : Char
  start : Nat
  stop : Option Nat

/-- What is known after some glyphs of an address in parentheses. -/
structure AddressScan where
  /-- The number of glyphs so far. -/
  index : Nat
  /-- The parentheses that are open. -/
  depth : Nat
  /-- The parentheses that would be open if there were no quotes. -/
  spare : Nat
  /-- The end of the address if there is no title. -/
  spareEnd : Option Nat
  first : Option Quote
  second : Option Quote
  /-- The last glyph that was no space. -/
  last : Option Char

namespace AddressScan

/-- Nothing but the opening parenthesis. -/
def start : AddressScan := ⟨0, 1, 1, none, none, none, none⟩

/-- A quote that has been closed just before. -/
def justClosed (a : AddressScan) (q : Option Quote) : Option Quote :=
  q.filter fun q => q.stop.isSome && a.last == some q.kind

/-- Take an opening parenthesis. -/
def openParen (a : AddressScan) : AddressScan :=
  if a.first.isNone then { a with depth := a.depth + 1 } else { a with spare := a.spare - 1 }

/-- Take a closing parenthesis. -/
def closeParen (a : AddressScan) : AddressScan :=
  if (a.justClosed a.first).isSome || (a.justClosed a.second).isSome then { a with depth := 0 }
  else if a.first.isNone then { a with depth := a.depth - 1 }
  else if 0 < a.spare then
    { a with
      spare := a.spare - 1
      spareEnd := if a.spare == 1 then some (a.index + 1) else a.spareEnd }
  else a

/-- Take a quote. -/
def quote (a : AddressScan) (c : Char) : AddressScan :=
  match a.first, a.second with
  | none, _ =>
    { a with first := some ⟨c, a.index + 1, none⟩, spare := a.depth, depth := 1 }
  | some q, none =>
    if c == q.kind then { a with first := some { q with stop := some (a.index + 1) } }
    else { a with second := some ⟨c, a.index + 1, none⟩ }
  | some q, some r =>
    if c == q.kind then { a with first := some { q with stop := some (a.index + 1) } }
    else { a with second := some { r with stop := some (a.index + 1) } }

/-- Take a glyph, apart from counting it. -/
def take (a : AddressScan) (g : Glyph) : AddressScan :=
  match g with
  | .char '(' => a.openParen
  | .char ')' => a.closeParen
  | .char '\'' => a.quote '\''
  | .char '"' => a.quote '"'
  | _ => a

/-- Count a glyph. -/
def count (a : AddressScan) (g : Glyph) : AddressScan :=
  { a with
    index := a.index + 1
    last := if g.is ' ' then a.last else some (g.char?.getD (Char.ofNat 2)) }

/-- Scan to the end of an address: where it is closed, nothing more is taken. -/
def run (a : AddressScan) : Glyphs → AddressScan
  | [] => a
  | g :: s =>
    let b := a.take g
    if b.depth == 0 then { b with index := b.index + 1 } else run (b.count g) s

end AddressScan

/-- The part of a text between two places. -/
def slice (s : Glyphs) (start stop : Nat) : Glyphs := (s.take stop).drop start

/-- The address, the title, and the number of glyphs of what an address scan has found. -/
def scanned? (s : Glyphs) : Option (Glyphs × Option Glyphs × Nat) :=
  let a := AddressScan.start.run s
  if a.depth == 0 then
    match (a.justClosed a.first).or (a.justClosed a.second) with
    | some q =>
      some (s.take (q.start - 1), some (slice s q.start ((q.stop.getD 1) - 1)), a.index)
    | none => some (s.take (a.index - 1), none, a.index)
  else if a.spare == 0 then a.spareEnd.map fun n => (s.take (n - 1), none, n)
  else none

/-- A text in quotes, and what follows. -/
def inQuotes? (s : Glyphs) : Option (Glyphs × Glyphs) :=
  match s with
  | g :: inner =>
    if g.is '"' then Glyphs.breakOn? ['"'] inner
    else if g.is '\'' then Glyphs.breakOn? ['\''] inner
    else none
  | [] => none

/-- An address in angle brackets and a title, up to the closing parenthesis. -/
def angled? (s : Glyphs) : Option (Glyphs × Option Glyphs × Glyphs) :=
  match s with
  | g :: inner =>
    let address := inner.takeWhile fun g => !(g.is '<' || g.is '>')
    let rest := inner.drop address.length
    if g.is '<' && (rest.head?.map (Glyph.is '>')).getD false then
      let rest := Glyphs.trimStart (rest.drop 1)
      let (title, rest) := match inQuotes? rest with
        | some (title, rest) => (some title, Glyphs.trimStart rest)
        | none => (none, rest)
      (Glyphs.stripStart? [')'] rest).map fun rest => (Glyphs.trim address, title, rest)
    else none
  | [] => none

/-- The text without quotes around it. -/
def withoutQuotes (s : Glyphs) : Glyphs :=
  match s, s.reverse with
  | g :: inner, h :: _ =>
    if (g.is '"' && h.is '"') || (g.is '\'' && h.is '\'') then inner.dropLast else s
  | _, _ => s

/-- A title, in one line. -/
def cleanTitle (s : Glyphs) : Glyphs :=
  (withoutQuotes (plainText (Glyphs.trim s))).map fun g => if g.isBlank then .char ' ' else g

/-- The address and title in parentheses at the beginning of a text, and what follows. -/
def destination? (s : Glyphs) : Option (Glyphs × Option Glyphs × Glyphs) :=
  match Glyphs.stripStart? ['('] s with
  | none => none
  | some inner =>
    let inner := Glyphs.trimStart inner
    let found := (angled? inner).or
      ((scanned? inner).map fun (address, title, n) => (address, title, inner.drop n))
    found.map fun (address, title, rest) =>
      (Glyphs.trim (plainText address), title.map cleanTitle, rest)

/-! ### Elements -/

/-- What a text in brackets becomes. -/
inductive Kind
  | link
  | image
  deriving DecidableEq

/-- The mark before the text. -/
def Kind.mark : Kind → List Char
  | link => ['[']
  | image => ['!', '[']

/-- A link or an image. -/
def Kind.element (kind : Kind) (text address : Glyphs) (title : Option Glyphs) : Element :=
  let withTitle (e : Element) : Element := match title with
    | some t => e.set "title" t
    | none => e
  match kind with
  | link => withTitle ((Element.withText "a" text).set "href" address)
  | image => (withTitle ((Element.bare "img").set "src" address)).set "alt" (plainText text)

/-- The text in brackets behind a mark; nothing for a link behind an exclamation mark. -/
def Kind.text? (kind : Kind) (previous : Option Glyph) (s : Glyphs) : Option (Glyphs × Glyphs) :=
  if kind == .link && (previous.map (Glyph.is '!')).getD false then none
  else (Glyphs.stripStart? kind.mark s).bind bracketed?

/-! ### Patterns -/

/-- A text with an address in parentheses. -/
def direct (kind : Kind) : Pattern := fun previous s =>
  match kind.text? previous s with
  | some (text, rest) =>
    match destination? rest with
    | some (address, title, rest) =>
      .element (kind.element text address title) (s.length - rest.length)
    | none => .nothing
  | none => .nothing

/-- A name with its blanks collapsed. -/
def cleanName (name : Glyphs) : Option (List Char) :=
  (Glyphs.chars? (Glyphs.lower name)).map fun s =>
    ((s.splitBy fun a b => Text.isBlank a && Text.isBlank b).flatMap fun run =>
      if run.any Text.isBlank then [' '] else run)

/-- What is found for a name. -/
def named (kind : Kind) (targets : List (List Char × Target)) (text name : Glyphs) (length : Nat) :
    Found :=
  match (cleanName name).bind fun name => targets.lookup name with
  | some target => .element (kind.element text target.address target.title) length
  | none => .leave length

/-- A text with the name of a target in brackets; the text itself is the name if that is empty. -/
def byTarget (kind : Kind) (targets : List (List Char × Target)) : Pattern := fun previous s =>
  match kind.text? previous s with
  | some (text, rest) =>
    let inner := (Glyphs.stripStart? ['['] rest).or (match rest with
      | g :: rest => if g.isBlank then Glyphs.stripStart? ['['] rest else none
      | [] => none)
    match inner.bind fun s => Glyphs.breakOn? [']'] s with
    | some (name, rest) =>
      named kind targets text (if name.isEmpty then text else name) (s.length - rest.length)
    | none => .nothing
  | none => .nothing

/-- A text that is the name of a target. -/
def byText (kind : Kind) (targets : List (List Char × Target)) : Pattern := fun previous s =>
  match kind.text? previous s with
  | some (text, rest) => named kind targets text text (s.length - rest.length)
  | none => .nothing

end StaticSite.Markdown.Inline.Link
