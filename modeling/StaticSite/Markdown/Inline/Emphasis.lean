import StaticSite.Markdown.Inline.Basic

/-!
# Emphasis

Stars and underscores around a text make it emphasized, two of them strong, three of them both. The
marks of one text may close within that of another, so there are five forms, which are tried in order;
inside a form only those that come after it are tried. Underscores inside words are no marks, unless
the settings say so.

## Main definitions

* `Emphasis.Form`: a form of emphasis.
* `Emphasis.starForms`, `Emphasis.underscoreForms`, `Emphasis.looseForms`: the forms.
* `Emphasis.pattern`: the pattern of some forms.
-/

namespace StaticSite.Markdown.Inline.Emphasis

/-! ### Finding ends -/

/-- The glyphs of a text before the first place, behind one glyph at least, that a test accepts; the
test sees the glyph before the place and gives what follows. -/
def upTo? (accepts : Glyph → Glyphs → Option Glyphs) : Glyphs → Option (Glyphs × Glyphs)
  | [] => none
  | g :: s =>
    match accepts g s with
    | some rest => some ([g], rest)
    | none => (upTo? accepts s).map fun (inner, rest) => (g :: inner, rest)

/-- So many marks. -/
def marks (mark : Char) (n : Nat) : List Char := Text.copies n mark

/-- The text before the first run of marks, which may be empty, and what follows the run. -/
def before? (run : List Char) (s : Glyphs) : Option (Glyphs × Glyphs) := Glyphs.breakOn? run s

/-- The text before the first run of marks, which may not be empty, and what follows the run. -/
def behindOne? (run : List Char) (s : Glyphs) : Option (Glyphs × Glyphs) :=
  upTo? (fun _ rest => Glyphs.stripStart? run rest) s

/-- The next glyph is not this character. -/
def isNot (c : Char) (s : Glyphs) : Bool := !((s.head?.map (Glyph.is c)).getD false)

/-- The next glyph is part of a word. -/
def wordFollows (s : Glyphs) : Bool := (s.head?.map Glyph.isWord).getD false

/-! ### Forms -/

/-- The texts of a form: that of the first kind, that of the second kind if there is one, and what
follows. -/
abbrev Texts := Glyphs × Option Glyphs × Glyphs

/-- How the elements of a form nest. -/
inductive Nesting
  /-- One element. -/
  | single (tag : String)
  /-- The first text is within both elements, the second one within the outer one. -/
  | closing (outer inner : String)
  /-- The first text is within the outer element, the second one within both. -/
  | opening (outer inner : String)

/-- A form of emphasis. -/
structure Form where
  texts? : Option Glyph → Glyphs → Option Texts
  nesting : Nesting

/-- Three marks; a single one ends the inner text and two end the outer one. -/
def innerFirst (mark : Char) : Form :=
  ⟨fun _ s => do
    let s ← Glyphs.stripStart? (marks mark 3) s
    let (first, s) ← behindOne? (marks mark 1) s
    let (second, rest) ← before? (marks mark 2) s
    pure (first, some second, rest), .closing "strong" "em"⟩

/-- Three marks; two end the inner text and a single one ends the outer one. -/
def strongFirst (mark : Char) : Form :=
  ⟨fun _ s => do
    let s ← Glyphs.stripStart? (marks mark 3) s
    let (first, s) ← behindOne? (marks mark 2) s
    let (second, rest) ← before? (marks mark 1) s
    pure (first, some second, rest), .closing "em" "strong"⟩

/-- Two marks, then a single one, and three that end both texts. -/
def strongThenBoth (mark : Char) : Form :=
  ⟨fun _ s => do
    let s ← Glyphs.stripStart? (marks mark 2) s
    let first := s.takeWhile fun g => !g.is mark
    let s := s.drop first.length
    let s ← Glyphs.stripStart? (marks mark 1) s
    if first.isEmpty || !isNot mark s then none
    else
      let (second, rest) ← behindOne? (marks mark 3) s
      pure (first, some second, rest), .opening "strong" "em"⟩

/-- Two marks around a text. -/
def strong (mark : Char) : Form :=
  ⟨fun _ s => do
    let s ← Glyphs.stripStart? (marks mark 2) s
    let (text, rest) ← behindOne? (marks mark 2) s
    pure (text, none, rest), .single "strong"⟩

/-- Single marks around a text without marks; the first one does not follow another. -/
def single (mark : Char) : Form :=
  ⟨fun previous s => do
    let s ← Glyphs.stripStart? (marks mark 1) s
    let text := s.takeWhile fun g => !g.is mark
    let rest ← Glyphs.stripStart? (marks mark 1) (s.drop text.length)
    if text.isEmpty || (previous.map (Glyph.is mark)).getD false then none
    else pure (text, none, rest), .single "em"⟩

/-- A form whose marks stand at the ends of words: nothing of a word comes before it. -/
def atWord (texts? : Glyphs → Option Texts) (nesting : Nesting) : Form :=
  ⟨fun previous s => if (previous.map Glyph.isWord).getD false then none else texts? s, nesting⟩

/-- Marks that end a text at the end of a word. -/
def endsWord (mark : Char) (n : Nat) (last : Glyph) (s : Glyphs) : Option Glyphs :=
  match Glyphs.stripStart? (marks mark n) s with
  | some rest => if last.is mark || wordFollows rest then none else some rest
  | none => none

/-- Marks around words. -/
def aroundWords (mark : Char) (n : Nat) (tag : String) : Form :=
  atWord (fun s => do
    let s ← Glyphs.stripStart? (marks mark n) s
    if !isNot mark s then none
    else
      let (text, rest) ← upTo? (endsWord mark n) s
      pure (text, none, rest)) (.single tag)

/-- Two marks, then a single one, and three that end both texts, around words. -/
def strongThenBothWords (mark : Char) : Form :=
  atWord (fun s => do
    let s ← Glyphs.stripStart? (marks mark 2) s
    if !isNot mark s then none
    else
      let (first, s) ← upTo? (fun last s =>
        match Glyphs.stripStart? (marks mark 1) s with
        | some rest => if last.isWord || !isNot mark rest then none else some rest
        | none => none) s
      let (second, rest) ← upTo? (fun _ s =>
        match Glyphs.stripStart? (marks mark 3) s with
        | some rest => if wordFollows rest then none else some rest
        | none => none) s
      pure (first, some second, rest)) (.opening "strong" "em")

/-- The forms with stars. -/
def starForms : List Form :=
  [innerFirst '*', strongFirst '*', strongThenBoth '*', strong '*', single '*']

/-- The forms with underscores. -/
def underscoreForms : List Form :=
  [innerFirst '_', strongFirst '_', strongThenBothWords '_', aroundWords '_' 2 "strong",
    aroundWords '_' 1 "em"]

/-- The forms with underscores where they may stand inside words. -/
def looseForms : List Form :=
  [innerFirst '_', strongFirst '_', strongThenBoth '_', strong '_', single '_']

/-! ### Building -/

/-- A text whose emphasis has been read: its beginning, and the elements with the texts behind them. -/
abbrev Emphasized := Glyphs × List Element

/-- Put a text behind the last of some elements. -/
def endWith (tail : Glyphs) (elements : List Element) : List Element :=
  match elements.reverse with
  | last :: before => ({ last with tail := last.tail ++ tail } :: before).reverse
  | [] => []

/-- The element of a form, from its emphasized texts. -/
def build (nesting : Nesting) (first second : Emphasized) : Element :=
  match nesting with
  | .single tag => (Element.withText tag first.1).appendAll first.2
  | .closing outer inner =>
    let e := (Element.withText inner first.1).appendAll first.2
    (Element.bare outer).appendAll ({ e with tail := second.1 } :: second.2)
  | .opening outer inner =>
    let e := (Element.withText inner second.1).appendAll second.2
    (Element.withText outer first.1).appendAll (first.2 ++ [e])

mutual

/-- The element that the first of some forms gives at a place, and the text behind it. -/
def firstForm? (mark : Char) : Nat → List Form → Option Glyph → Glyphs → Option (Element × Glyphs)
  | 0, _, _, _ => none
  | _ + 1, [], _, _ => none
  | fuel + 1, f :: fs, previous, s =>
    match f.texts? previous s with
    | some (first, second, rest) =>
      let read (s : Glyphs) := emphasized mark fuel fs none s
      some (build f.nesting (read first) (read (second.getD [])), rest)
    | none => firstForm? mark fuel fs previous s

/-- The elements that some forms give one behind the other, each tried once, and the text behind. -/
def eachForm (mark : Char) : Nat → List Form → Option Glyph → Glyphs → List Element × Glyphs
  | 0, _, _, s => ([], s)
  | _ + 1, [], _, s => ([], s)
  | fuel + 1, f :: fs, previous, s =>
    match f.texts? previous s with
    | some (first, second, rest) =>
      let read (s : Glyphs) := emphasized mark fuel fs none s
      let e := build f.nesting (read first) (read (second.getD []))
      let (es, rest) := eachForm mark fuel fs (some (.char mark)) rest
      (e :: es, rest)
    | none => eachForm mark fuel fs previous s

/-- A text with the emphasis that some forms give in it. -/
def emphasized (mark : Char) : Nat → List Form → Option Glyph → Glyphs → Emphasized
  | 0, _, _, s => (s, [])
  | _ + 1, _, _, [] => ([], [])
  | fuel + 1, fs, previous, g :: s =>
    let (found, rest) := if g.is mark then eachForm mark fuel fs previous (g :: s) else ([], s)
    if found.isEmpty then
      let (text, es) := emphasized mark fuel fs (some g) s
      (g :: text, es)
    else
      let (text, es) := emphasized mark fuel fs (some (.char mark)) rest
      ([], endWith text found ++ es)

end

/-- The pattern of some forms. -/
def pattern (mark : Char) (forms : List Form) : Pattern := fun previous s =>
  match s with
  | g :: _ =>
    if g.is mark then
      match firstForm? mark (2 * s.length + 2 * forms.length + 2) forms previous s with
      | some (e, rest) => .element e (s.length - rest.length)
      | none => .nothing
    else .nothing
  | [] => .nothing

end StaticSite.Markdown.Inline.Emphasis
