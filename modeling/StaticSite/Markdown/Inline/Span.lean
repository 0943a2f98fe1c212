import StaticSite.Markdown.Inline.Basic
import StaticSite.Text.Digit

/-!
# Spans

Code, escaped characters, addresses in angle brackets, line breaks, tags and references within running
text, and marks that stand alone.

## Main definitions

* `Span.code`, `Span.escape`, `Span.address`, `Span.mail`, `Span.lineBreak`, `Span.markup`,
  `Span.reference`, `Span.loneMark`, `Span.wikiLink`, `Span.mention`: the patterns.
-/

namespace StaticSite.Markdown.Inline.Span

/-- The glyph before a place is this character. -/
def follows (c : Char) (previous : Option Glyph) : Bool := (previous.map (Glyph.is c)).getD false

/-! ### Code and escapes -/

/-- The text before the first run of exactly `n` grave accents, in a text that begins behind a run of
them, and what follows that run. -/
def untilRun? (n : Nat) : Nat → Glyphs → Option (Glyphs × Glyphs)
  | 0, _ => none
  | fuel + 1, s =>
    let before := s.takeWhile fun g => !g.is '`'
    let rest := s.drop before.length
    let run := rest.takeWhile (·.is '`')
    if run.isEmpty then none
    else if run.length == n then some (before, rest.drop n)
    else
      (untilRun? n fuel (rest.drop run.length)).map fun (text, rest) => (before ++ run ++ text, rest)

/-- The code between two runs of equally many grave accents, the first one with at most `n`. What it has
more than the second one belongs to the code. -/
def codeOf? (length : Nat) (s : Glyphs) : Nat → Option (Glyphs × Glyphs)
  | 0 => none
  | n + 1 =>
    match untilRun? (n + 1) s.length s with
    | some (text, rest) => some (Glyphs.ofChars (Text.copies (length - (n + 1)) '`') ++ text, rest)
    | none => codeOf? length s n

/-- Code between grave accents. Backslashes in pairs before grave accents stand for single ones. -/
def code : Pattern := fun previous s =>
  if follows '\\' previous then .nothing
  else
    let accents := s.takeWhile (·.is '`')
    let escapes := s.takeWhile (·.is '\\')
    if !accents.isEmpty then
      match codeOf? accents.length (s.drop accents.length) accents.length with
      | some (text, rest) =>
        .element (.withFixedText "code" (Glyphs.escapedCode (Glyphs.trim text)))
          (s.length - rest.length)
      | none => .nothing
    else if 2 ≤ escapes.length && escapes.length % 2 == 0 &&
        Glyphs.startsWith ['`'] (s.drop escapes.length) then
      .glyphs (List.replicate (escapes.length / 2) (.literal '\\')) escapes.length
    else .nothing

/-- The characters that a backslash makes stand for themselves. -/
def escapable (settings : Settings) (c : Char) : Bool :=
  "\\`*_[]()>#+-.!|:".toList.contains c || c == Char.ofNat 123 || c == Char.ofNat 125 ||
    (settings.smart.isSome && (c == '"' || c == '\''))

/-- A character behind a backslash. -/
def escape (settings : Settings) : Pattern := fun _ s =>
  match s with
  | .char '\\' :: .char c :: _ =>
    if escapable settings c then .glyphs [.literal c] 2 else .leave 2
  | .char '\\' :: _ :: _ => .leave 2
  | _ => .nothing

/-! ### Addresses -/

/-- The text between angle brackets. -/
def angled? (s : Glyphs) : Option (Glyphs × Glyphs) :=
  match s with
  | g :: inner =>
    let text := inner.takeWhile fun g => !(g.is '<' || g.is '>')
    if g.is '<' then (Glyphs.stripStart? ['>'] (inner.drop text.length)).map fun rest => (text, rest)
    else none
  | [] => none

/-- The text with elements replaced by their contents. -/
def plainText (s : Glyphs) : Glyphs :=
  s.flatMap fun g => match g with
    | .node e => e.content
    | .held c => [.char c]
    | g => [g]

/-- The beginnings of the addresses that are links by themselves. -/
def schemes : List String := ["http://", "https://", "ftp://", "ftps://"]

/-- An address in angle brackets. -/
def address : Pattern := fun _ s =>
  match angled? s with
  | some (text, rest) =>
    let start := String.ofList (Text.lower ((Glyphs.chars (text.take 8))))
    if schemes.any fun scheme => scheme.toList.isPrefixOf start.toList then
      .element ((Element.withFixedText "a" text).set "href" (plainText text)) (s.length - rest.length)
    else .nothing
  | none => .nothing

/-- The names of the references for the characters from 160 to 255. -/
def latinNames : List String := [
  "nbsp", "iexcl", "cent", "pound", "curren", "yen", "brvbar", "sect", "uml", "copy", "ordf", "laquo",
  "not", "shy", "reg", "macr", "deg", "plusmn", "sup2", "sup3", "acute", "micro", "para", "middot",
  "cedil", "sup1", "ordm", "raquo", "frac14", "frac12", "frac34", "iquest", "Agrave", "Aacute",
  "Acirc", "Atilde", "Auml", "Aring", "AElig", "Ccedil", "Egrave", "Eacute", "Ecirc", "Euml",
  "Igrave", "Iacute", "Icirc", "Iuml", "ETH", "Ntilde", "Ograve", "Oacute", "Ocirc", "Otilde", "Ouml",
  "times", "Oslash", "Ugrave", "Uacute", "Ucirc", "Uuml", "Yacute", "THORN", "szlig", "agrave",
  "aacute", "acirc", "atilde", "auml", "aring", "aelig", "ccedil", "egrave", "eacute", "ecirc", "euml",
  "igrave", "iacute", "icirc", "iuml", "eth", "ntilde", "ograve", "oacute", "ocirc", "otilde", "ouml",
  "divide", "oslash", "ugrave", "uacute", "ucirc", "uuml", "yacute", "thorn", "yuml"]

/-- A reference by number. -/
def numbered (c : Char) : Glyph :=
  .raw (.char '&' :: .char '#' :: Glyphs.ofChars (Text.ofNat c.toNat) ++ [.char ';']) .source

/-- A reference by name if there is one, and by number otherwise. -/
def referenceTo (c : Char) : Glyph :=
  let name? : Option String :=
    if c == '&' then some "amp" else if c == '<' then some "lt" else if c == '>' then some "gt"
    else if c == '"' then some "quot"
    else if 160 ≤ c.toNat then latinNames[c.toNat - 160]?
    else none
  match name? with
  | some name => .raw (.char '&' :: Glyphs.ofString name ++ [.char ';']) .source
  | none => numbered c

/-- A mail address in angle brackets; it is written in references. -/
def mail : Pattern := fun _ s =>
  match angled? s with
  | some (text, rest) =>
    let host := text.reverse.takeWhile fun g => !g.is '@'
    let name := text.take (text.length - host.length - 1)
    let barred (g : Glyph) : Bool := g.is ' ' || g.is '!'
    if host.isEmpty || name.isEmpty || host.length == text.length || name.any barred ||
        host.any (·.is ' ') then .nothing
    else
      let address := Glyphs.chars (plainText text)
      let address := (Text.stripStart? "mailto:".toList address).getD address
      .element ((Element.withFixedText "a" (address.map referenceTo)).set "href"
        (("mailto:".toList ++ address).map numbered)) (s.length - rest.length)
  | none => .nothing

/-! ### Line breaks -/

/-- Two spaces at the end of a line. -/
def lineBreak : Pattern := fun _ s =>
  if Glyphs.startsWith [' ', ' ', '\n'] s then .element (.bare "br") 3 else .nothing

/-- The end of a line. -/
def newline : Pattern := fun _ s =>
  if Glyphs.startsWith ['\n'] s then .element (.bare "br") 1 else .nothing

/-! ### Tags and references -/

/-- The comment at the beginning of a text: its glyphs, without those of its end. -/
def comment? : Glyphs → Option (Glyphs × Glyphs)
  | [] => none
  | g :: s =>
    match Glyphs.stripStart? ['-', '-', '>'] (g :: s) with
    | some rest => some ([], rest)
    | none =>
      if Glyphs.startsWith ['<', '!', '-', '-'] (g :: s) then none
      else (comment? s).map fun (inner, rest) => (g :: inner, rest)

/-- The number of glyphs of a tag or comment at the beginning of a text. -/
def markupLength? (s : Glyphs) : Option Nat :=
  match Glyphs.stripStart? ['<', '!', '-', '-'] s with
  | some inner => (comment? inner).map fun (_, rest) => s.length - rest.length
  | none =>
    match Glyphs.stripStart? ['<'] s with
    | none => none
    | some inner =>
      let name := (Glyphs.stripStart? ['/'] inner).getD inner
      let body := name.takeWhile fun g => !(g.is '<' || g.is '>')
      let bare := body.takeWhile fun g => !(g.is '@' || g.is ' ')
      let fits := ((name.head?.map (·.satisfies Char.isAlpha)).getD false) &&
        (bare.length == body.length || ((body[bare.length]?).map (Glyph.is ' ')).getD false)
      match name.drop body.length with
      | g :: rest => if fits && g.is '>' then some (s.length - rest.length) else none
      | [] => none

/-- The markup of a text: elements are written, and characters that stand for themselves are written as
in the source. -/
def sourceOf (settings : Settings) (s : Glyphs) : Glyphs :=
  s.flatMap fun g => match g with
    | .node e => e.written settings.style
    | .literal c => [.char '\\', .char c]
    | .held c => [.char c]
    | .raw markup .source => [.char '\\', .raw markup .source]
    | g => [g]

/-- A tag or comment is finished markup. -/
def markup (settings : Settings) : Pattern := fun _ s =>
  match markupLength? s with
  | some n => .glyphs [.raw (sourceOf settings (s.take n)) .source] n
  | none => .nothing

/-- A reference is finished markup. -/
def reference : Pattern := fun _ s =>
  match s with
  | g :: rest =>
    if g.is '&' && Glyphs.continuesReference rest then
      let n := (s.takeWhile fun g => !g.is ';').length + 1
      .glyphs [.raw (s.take n) .source] n
    else .nothing
  | [] => .nothing

/-! ### Marks -/

/-- One to three stars or underscores that stand alone are no marks. -/
def loneMark : Pattern := fun previous s =>
  let isFree := match previous with
    | none => true
    | some g => g.isBlank
  match s with
  | g :: _ =>
    let c := if g.is '*' then '*' else '_'
    let run := s.takeWhile (·.is c)
    let follows := match s.drop run.length with
      | h :: _ => h.isBlank
      | [] => true
    if isFree && !run.isEmpty && run.length ≤ 3 && follows then
      .glyphs (List.replicate run.length (.held c)) run.length
    else .nothing
  | [] => .nothing

/-! ### Links in double brackets -/

/-- A label with its spaces, and underscores beside them, replaced by underscores. -/
def cleanLabel : Nat → List Char → List Char
  | 0, s => s
  | _ + 1, [] => []
  | fuel + 1, c :: s =>
    let spaces := (c :: s).takeWhile (· == ' ')
    let rest := (c :: s).drop spaces.length
    if c == ' ' then
      match rest with
      | '_' :: after => '_' :: cleanLabel fuel after
      | _ => '_' :: cleanLabel fuel rest
    else if c == '_' && s.head? == some ' ' then '_' :: cleanLabel fuel (s.dropWhile (· == ' '))
    else c :: cleanLabel fuel s

/-- A label in double brackets is a link. -/
def wikiLink (w : WikiLinkSettings) : Pattern := fun _ s =>
  match Glyphs.stripStart? ['[', '['] s with
  | none => .nothing
  | some inner =>
    let inLabel (c : Char) : Bool := Text.isWord c || c == ' ' || c == '-'
    let text := inner.takeWhile (·.satisfies inLabel)
    match Glyphs.stripStart? [']', ']'] (inner.drop text.length) with
    | none => .nothing
    | some rest =>
      let n := s.length - rest.length
      let label := Text.trim Text.isBlank (Glyphs.chars text)
      if text.isEmpty then .nothing
      else if label.isEmpty then .glyphs [] n
      else
        let e := (Element.withText "a" (Glyphs.ofChars label)).set "href"
          (Glyphs.ofChars (w.base ++ cleanLabel label.length label ++ w.ending))
        .element (if w.linkClass.isEmpty then e else e.set "class" (Glyphs.ofChars w.linkClass)) n

/-! ### Footnotes -/

/-- The mention of a footnote that is defined somewhere. -/
def mention (names : List (List Char)) : Pattern := fun _ s =>
  match Glyphs.stripStart? ['[', '^'] s with
  | none => .nothing
  | some inner =>
    match Glyphs.breakOn? [']'] inner with
    | some (name, rest) =>
      match Glyphs.chars? name with
      | some name => if names.contains name then .mention name (s.length - rest.length) else .nothing
      | none => .nothing
    | none => .nothing

end StaticSite.Markdown.Inline.Span
