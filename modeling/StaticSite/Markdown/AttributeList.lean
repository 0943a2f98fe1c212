import StaticSite.Markdown.Element

/-!
# Attribute lists

Words in braces set the attributes of an element: a word behind a point is a class, one behind a hash is
the identifier, and any other is an attribute, with a value behind an equals sign or with its own name
as its value. They stand at the end of a heading, a term or a cell, on the last line of any other block,
and directly behind an element in running text.

## Main definitions

* `AttributeList.read`: the attributes that a text sets.
* `Element.withAttributeLists`: a tree with all attribute lists carried out.
-/

namespace StaticSite.Markdown

namespace AttributeList

/-- An attribute that a word sets. -/
inductive Setting
  | addClass (name : Glyphs)
  | value (key : List Char) (value : Glyphs)

/-- The opening brace. -/
def opening : Char := Char.ofNat 123

/-- The closing brace. -/
def closing : Char := Char.ofNat 125

/-- The glyph can be part of a word. -/
def inWord (g : Glyph) : Bool := !(g.is ' ' || g.is '=' || g.is closing)

/-- A value without the quotes around it. -/
def unquoted (quote : Char) (s : Glyphs) : Glyphs :=
  Glyphs.dropWhileEnd (·.is quote) (s.dropWhile (·.is quote))

/-- The value behind an equals sign, and what follows. -/
def value? (s : Glyphs) : Option (Glyphs × Glyphs) :=
  let quoted (quote : Char) : Option (Glyphs × Glyphs) :=
    ((Glyphs.stripStart? [quote] s).bind (Glyphs.breakOn? [quote])).map fun (text, rest) =>
      (unquoted quote text, rest)
  let bare := s.takeWhile inWord
  ((quoted '"').or (quoted '\'')).or
    (if bare.isEmpty then none else some (bare, s.drop bare.length))

/-- The setting that a word without a value makes. -/
def settingOf (word : Glyphs) : Setting :=
  match word with
  | g :: rest =>
    if g.is '.' then .addClass rest
    else if g.is '#' then .value "id".toList rest
    else .value (Glyphs.chars word) word
  | [] => .value [] []

/-- The attributes that a text sets, in at most `fuel` steps, and what it has behind them. -/
def readWithin : Nat → Glyphs → List Setting × Glyphs
  | 0, s => ([], s)
  | _ + 1, [] => ([], [])
  | fuel + 1, g :: s =>
    if g.is ' ' then readWithin fuel s
    else
      let word := (g :: s).takeWhile inWord
      let rest := (g :: s).drop word.length
      if word.isEmpty then ([], g :: s)
      else
        let found := (Glyphs.stripStart? ['='] rest).bind value?
        let (setting, rest) := match found with
          | some (v, rest) => (Setting.value (Glyphs.chars word) v, rest)
          | none => (settingOf word, rest)
        let (settings, rest) := readWithin fuel rest
        (setting :: settings, rest)

/-- The attributes that a text sets, and what it has from the next closing brace on. -/
def read (s : Glyphs) : List Setting × Glyphs :=
  let (settings, rest) := readWithin (s.length + 1) s
  (settings, rest.dropWhile fun g => !g.is closing)

/-- The character can be part of the name of an attribute. -/
def isNameChar (c : Char) : Bool :=
  let n := c.toNat
  c.isAlphanum || c == '_' || c == ':' || c == '-' || c == '.' || n == 0xb7 ||
    (0xc0 ≤ n && n ≤ 0x37d && n != 0xd7 && n != 0xf7) || (0x37f ≤ n && n ≤ 0x1fff) ||
    (0x200c ≤ n && n ≤ 0x200d) || (0x203f ≤ n && n ≤ 0x2040) || (0x2070 ≤ n && n ≤ 0x218f) ||
    (0x2c00 ≤ n && n ≤ 0x2fef) || (0x3001 ≤ n && n ≤ 0xd7ff) || (0xf900 ≤ n && n ≤ 0xfdcf) ||
    (0xfdf0 ≤ n && n ≤ 0xfffd)

/-- The name of an attribute, with runs of other characters as underscores. -/
def cleanName (s : List Char) : String :=
  String.ofList ((s.splitBy fun a b => isNameChar a == isNameChar b).flatMap fun run =>
    if run.all isNameChar then run else ['_'])

/-- Carry out a setting. -/
def apply (e : Element) : Setting → Element
  | .addClass name =>
    match e.get? "class" with
    | some known => if known.isEmpty then e.set "class" name else e.set "class" (known ++ .char ' ' :: name)
    | none => e.set "class" name
  | .value key v => e.set (cleanName key) v

/-- The inside of braces that begin a text, up to the last closing one on its line, and what follows. -/
def braced? (s : Glyphs) : Option (Glyphs × Glyphs) :=
  match Glyphs.stripStart? [opening] s with
  | none => none
  | some inner =>
    let inner := ((Glyphs.stripStart? [':'] inner).getD inner).dropWhile (·.is ' ')
    let line := inner.takeWhile fun g => !g.is '\n'
    let behind := (line.reverse.takeWhile fun g => !g.is closing).length
    let text := line.take (line.length - behind - 1)
    if text.isEmpty || behind == line.length then none
    else some (text, inner.drop (text.length + 1))

/-- The braces behind a mark that end a text: the text before the mark, and their inside. -/
def atEnd? (mark : Glyphs → Option Glyphs) : Glyphs → Option (Glyphs × Glyphs)
  | [] => none
  | g :: s =>
    let found := ((mark (g :: s)).bind braced?).filter fun (_, rest) =>
      rest.all fun h => h.is ' ' || h.is '\n'
    match found with
    | some (inner, _) => some ([], inner)
    | none => (atEnd? mark s).map fun (before, inner) => (g :: before, inner)

/-- Spaces. -/
def spaces? (s : Glyphs) : Option Glyphs :=
  match s with
  | g :: rest => if g.is ' ' then some (rest.dropWhile (·.is ' ')) else none
  | [] => none

/-- A line break and perhaps spaces. -/
def lineBreak? (s : Glyphs) : Option Glyphs :=
  (Glyphs.stripStart? ['\n'] s).map fun rest => rest.dropWhile (·.is ' ')

/-- Carry out the list at the end of a text: the element, and the rest of the text if there is a list. -/
def carryOut? (e : Element) (text : Glyphs) : Option (Element × Glyphs) :=
  let inline := isHeading e.tag || ["dt", "td", "th"].contains e.tag
  match atEnd? (if inline then spaces? else lineBreak?) text with
  | some (before, inner) =>
    let (settings, rest) := read inner
    if rest.isEmpty then
      let before := if isHeading e.tag then
          Glyphs.trimEnd (Glyphs.dropWhileEnd (·.is '#') before) else before
      some (settings.foldl apply e, before)
    else none
  | none => none

/-- Change the tail of the child with a number. -/
def setTail (e : Element) (i : Nat) (tail : Glyphs) : Element :=
  { e with children := e.children.modify i fun child => { child with tail := tail } }

/-- The child behind which the list of an element stands, if it does not stand in its text. -/
def placeOf (e : Element) : Option Nat :=
  let n := e.children.length
  let hasTail (i : Nat) : Bool := ((e.children[i]?).map fun c => !c.tail.isEmpty).getD false
  if n == 0 then none
  else if e.tag == "li" then
    match e.children.findIdx? fun c => c.tag == "ul" || c.tag == "ol" with
    | some 0 => none
    | some (i + 1) => if hasTail i then some i else none
    | none => if hasTail (n - 1) then some (n - 1) else none
  else if hasTail (n - 1) then some (n - 1)
  else none

/-- Carry out the list of an element that stands on its own. -/
def ofBlock (e : Element) : Element :=
  match placeOf e with
  | some i =>
    match carryOut? e (((e.children[i]?).map (·.tail)).getD []) with
    | some (e, tail) => setTail e i tail
    | none => e
  | none =>
    match carryOut? e e.text with
    | some (e, text) => { e with text := text }
    | none => e

/-- Carry out the list behind an element in running text. -/
def ofSpan (e : Element) : Element :=
  match braced? e.tail with
  | some (inner, behind) =>
    let (settings, rest) := read inner
    let back := if rest.isEmpty then [] else rest.drop 1 ++ [.char closing]
    { settings.foldl apply e with tail := back ++ behind }
  | none => e

end AttributeList

namespace Element

/-- Carry out the attribute lists of a tree that is at most `fuel` deep: those of an element before those
inside it. -/
def attributeListsWithin : Nat → Element → Element
  | 0, e => e
  | fuel + 1, e =>
    let e := if isBlockLevel e.tag then AttributeList.ofBlock e else AttributeList.ofSpan e
    { e with children := e.children.map (attributeListsWithin fuel) }

mutual

/-- The depth of a tree. -/
def depth : Element → Nat
  | ⟨_, _, _, _, children, _, _⟩ => depths children + 1

/-- The greatest depth of some trees. -/
def depths : List Element → Nat
  | [] => 0
  | e :: es => max (depth e) (depths es)

end

/-- The tree with all attribute lists carried out. -/
def withAttributeLists (e : Element) : Element := attributeListsWithin e.depth e

end Element

end StaticSite.Markdown
