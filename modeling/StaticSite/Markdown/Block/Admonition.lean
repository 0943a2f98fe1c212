import StaticSite.Markdown.Block.Basic

/-!
# Admonitions

A line of three exclamation marks and some class names begins an admonition: a box with a title and
with the indented text behind as its content. Indented blocks that follow belong to it too; where its
content ends with a list, blocks that are indented twice belong to the last item.

## Main definitions

* `admonition`: the rule.
-/

namespace StaticSite.Markdown.Block

/-- The class of the box of an admonition. -/
def admonitionClass : String := "admonition"

/-- The names of the classes of an admonition, with single spaces between them, and what follows. -/
def classNames : Nat → Glyphs → Glyphs × Glyphs
  | 0, s => ([], s)
  | fuel + 1, s =>
    let inName (g : Glyph) : Bool := g.isWord || g.is '-'
    let name := s.takeWhile inName
    let rest := s.drop name.length
    let next := rest.dropWhile (·.is ' ')
    if !name.isEmpty && next.length < rest.length && (next.head?.map inName).getD false then
      let (names, rest) := classNames fuel next
      (name ++ .char ' ' :: names, rest)
    else (name, rest)

/-- The classes and the title, if one is given, of the admonition that a line begins. -/
def admonition? (line : Glyphs) : Option (Glyphs × Option Glyphs) :=
  match Glyphs.stripStart? ['!', '!', '!'] line with
  | none => none
  | some s =>
    let (names, rest) := classNames line.length (Glyphs.skipSpaces 1 s)
    let inner := rest.dropWhile (·.is ' ')
    if names.isEmpty then none
    else if inner.isEmpty then some (names, none)
    else
      match inner, (Glyphs.dropWhileEnd (Glyph.is ' ') (inner.drop 1)).reverse with
      | g :: _, h :: title =>
        if g.is '"' && h.is '"' && inner.length < rest.length then some (names, some title.reverse)
        else none
      | _, _ => none

/-- The box of an admonition; a title that is not given is the name of its first class. -/
def admonitionBox (names : Glyphs) (title : Option Glyphs) : Element :=
  let names := Glyphs.lower names
  let box := (Element.bare "div").set "class"
    (Glyphs.ofString (admonitionClass ++ " ") ++ names)
  let title := title.getD
    (Glyphs.ofChars (Text.capitalize (Glyphs.chars (names.takeWhile fun g => !g.is ' '))))
  if title.isEmpty then box
  else box.append ((Element.withText "p" title).setChars "class" (admonitionClass ++ "-title"))

/-- The element is the box of an admonition. -/
def isAdmonition (e : Element) : Bool :=
  e.tag == "div" &&
    Text.contains admonitionClass.toList (Glyphs.chars ((e.get? "class").getD []))

/-- The place inside an element that an indented block belongs to, in at most `fuel` steps: its depth
below the element and the width of its indentation. -/
def innermostList (n : Nat) : Nat → Element → Glyphs → Option (Nat × Nat)
  | 0, _, _ => none
  | fuel + 1, e, block =>
    let settled := if Glyphs.isIndented n block then some (0, n) else none
    match e.lastChild? with
    | some last =>
      if Glyphs.isIndented (2 * n) block && ["ul", "ol", "dl"].contains last.tag then
        match last.lastChild? with
        | some item =>
          (innermostList n fuel item (block.drop n)).map fun (depth, indent) => (depth + 2, indent + n)
        | none => none
      else settled
    | none => settled

/-- An admonition, or an indented block that belongs to the one before it. -/
def admonition : Rule := fun settings read s =>
  let n := width settings
  if !settings.admonitions then none
  else
    match breakLines? admonition? (Glyphs.lines s.block) with
    | some (before, (names, title), after) =>
      let (parent, notes) :=
        if before.isEmpty then (s.parent, s.notes)
        else read s.place s.parent [Glyphs.joinLines before] s.notes
      let (inside, rest) := detab n (Glyphs.joinLines after)
      let (box, notes) := read s.place (admonitionBox names title) (Glyphs.blocks inside) notes
      some ⟨parent.append box, putBefore rest s.rest, notes⟩
    | none =>
      match s.parent.lastChild? with
      | none => none
      | some last =>
        if !isAdmonition last then none
        else
          match innermostList n (s.block.length + 1) last s.block with
          | none => none
          | some (depth, indent) =>
            let (inside, rest) := detab indent s.block
            match s.parent.lastAt? (depth + 1) with
            | none => none
            | some e =>
              let isItem := e.tag == "li" || e.tag == "dd"
              let e :=
                if isItem && !e.text.isEmpty then
                  { e with text := [] }.append (.withText "p" e.text)
                else e
              let (filled, notes) := read s.place e (Glyphs.blocks inside) s.notes
              some ⟨s.parent.modifyLastAt (fun _ => filled) (depth + 1), putBefore rest s.rest, notes⟩

end StaticSite.Markdown.Block
