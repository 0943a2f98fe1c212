import StaticSite.Markdown.Inline.Basic
import StaticSite.Text.Digit

/-!
# Typographic characters

Straight quotes, dashes in a row and three points become the characters that a typesetter would use. A
quote opens or closes by what stands around it; what is left over opens.

## Main definitions

* `Smart.patterns`: the patterns, in the order in which they are tried.
-/

namespace StaticSite.Markdown.Inline.Smart

/-! ### Forms -/

/-- The usual forms. -/
def usualForms : List (String × String) := [
  ("mdash", "&mdash;"), ("ndash", "&ndash;"), ("ellipsis", "&hellip;"),
  ("left-angle-quote", "&laquo;"), ("right-angle-quote", "&raquo;"),
  ("left-single-quote", "&lsquo;"), ("right-single-quote", "&rsquo;"),
  ("left-double-quote", "&ldquo;"), ("right-double-quote", "&rdquo;")]

/-- The finished form of some characters by their names. -/
def form (s : SmartSettings) (names : List String) : Glyph :=
  .raw (Glyphs.ofChars (names.flatMap fun name =>
    (s.forms.lookup name.toList).getD ((usualForms.lookup name).getD "").toList)) .source

/-! ### Contexts -/

/-- The next glyph satisfies a predicate. -/
def next (p : Char → Bool) (s : Glyphs) : Bool := (s.head?.map (·.satisfies p)).getD false

/-- The glyph before satisfies a predicate. -/
def before (p : Char → Bool) (previous : Option Glyph) : Bool :=
  (previous.map (·.satisfies p)).getD false

/-- A quote behind this character closes. -/
def isClosing (c : Char) : Bool :=
  !(c == ' ' || c == '\t' || c == '\r' || c == '\n' || c == '[' || c == Char.ofNat 123 || c == '(' ||
    c == '-')

/-- A mark of punctuation. -/
def isPunctuation (c : Char) : Bool :=
  33 ≤ c.toNat && c.toNat < 127 && !c.isAlphanum && c != '&'

/-- No word begins or ends between this character and what follows. -/
def noBoundary (c : Char) (s : Glyphs) : Bool := Text.isWord c == next Text.isWord s

/-- A single `s` that ends a word. -/
def endingS (s : Glyphs) : Bool :=
  match s with
  | g :: s => g.is 's' && !next Text.isWord s
  | [] => false

/-! ### Patterns -/

/-- A text with a condition on what is around it, and its form. -/
def replace (mark : List Char) (fits : Option Glyph → Glyphs → Bool) (new : Glyph) : Pattern :=
  fun previous s =>
    match Glyphs.stripStart? mark s with
    | some rest => if fits previous rest then .glyphs [new] mark.length else .nothing
    | none => .nothing

/-- So many equal characters and no more of them. -/
def run (c : Char) (n : Nat) (new : Glyph) : Pattern :=
  replace (Text.copies n c) (fun previous rest => !before (· == c) previous && !next (· == c) rest) new

/-- A quote at the very beginning, before punctuation. -/
def leading (quote : Char) (new : Glyph) : Pattern :=
  replace [quote] (fun previous rest =>
    match rest with
    | .char c :: rest => previous.isNone && isPunctuation c && noBoundary c rest
    | _ => false) new

/-- A quote behind a space or a dash and before a word. -/
def opening (quote : Char) (new : Glyph) : Pattern := fun _ s =>
  let fits (rest : Glyphs) : Bool :=
    next (· == quote) rest && next Text.isWord (rest.drop 1)
  match s with
  | .char c :: rest =>
    if (Text.isBlank c || c == '–' || c == '—') && fits rest then .glyphs [.held c, new] 2
    else
      match c, rest with
      | '-', .char '-' :: rest => if fits rest then .glyphs [.held '-', .held '-', new] 3 else .nothing
      | _, _ => .nothing
  | _ => .nothing

/-- A single quote before a blank or an ending. -/
def ending (new : Glyph) : Pattern := fun _ s =>
  match s with
  | .char '\'' :: .char c :: rest =>
    if Text.isBlank c || endingS (.char c :: rest) then .glyphs [new, .held c] 2 else .nothing
  | _ => .nothing

/-- Two digits and an `s`. -/
def isDecade (s : Glyphs) : Bool :=
  next Text.isDecimal s && next Text.isDecimal (s.drop 1) && next (· == 's') (s.drop 2)

/-- The patterns for quotes. -/
def quotePatterns (s : SmartSettings) : List Pattern :=
  let leftSingle := "left-single-quote"
  let rightSingle := "right-single-quote"
  let leftDouble := "left-double-quote"
  let rightDouble := "right-double-quote"
  let always (_ : Option Glyph) (_ : Glyphs) : Bool := true
  let atWord (_ : Option Glyph) (rest : Glyphs) : Bool := next Text.isWord rest
  let behindText (previous : Option Glyph) (_ : Glyphs) : Bool := before isClosing previous
  [leading '\'' (form s [rightSingle]),
    leading '"' (form s [rightDouble]),
    replace ['"', '\''] atWord (form s [leftDouble, leftSingle]),
    replace ['\'', '"'] atWord (form s [leftSingle, leftDouble]),
    replace ['\'', '"'] behindText (form s [rightSingle, rightDouble]),
    replace ['"', '\''] behindText (form s [rightDouble, rightSingle]),
    replace ['\''] (fun previous rest => !before Text.isWord previous && isDecade rest)
      (form s [rightSingle]),
    opening '\'' (form s [leftSingle]),
    replace ['\''] (fun previous rest => before isClosing previous &&
      !(next Text.isBlank rest || endingS rest || next Text.isDecimal rest)) (form s [rightSingle]),
    ending (form s [rightSingle]),
    replace ['\''] always (form s [leftSingle]),
    opening '"' (form s [leftDouble]),
    replace ['"'] (fun _ rest => next Text.isBlank rest) (form s [rightDouble]),
    replace ['"'] behindText (form s [rightDouble]),
    replace ['"'] always (form s [leftDouble])]

/-- The patterns in the order in which they are tried. -/
def patterns (s : SmartSettings) : List Pattern :=
  let always (_ : Option Glyph) (_ : Glyphs) : Bool := true
  (if s.dashes then [run '-' 3 (form s ["mdash"]), run '-' 2 (form s ["ndash"])] else []) ++
    (if s.angledQuotes then
      [replace ['<', '<'] always (form s ["left-angle-quote"]),
        replace ['>', '>'] always (form s ["right-angle-quote"])]
      else []) ++
    (if s.quotes then quotePatterns s else []) ++
    (if s.ellipses then [run '.' 3 (form s ["ellipsis"])] else [])

end StaticSite.Markdown.Inline.Smart
