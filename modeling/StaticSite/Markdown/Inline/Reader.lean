import StaticSite.Markdown.Inline.Emoji
import StaticSite.Markdown.Inline.Emphasis
import StaticSite.Markdown.Inline.Link
import StaticSite.Markdown.Inline.Smart
import StaticSite.Markdown.Inline.Span

/-!
# Reading running text

The patterns in the order in which they are tried, and the reading of all texts of a document with
them.

## Main definitions

* `patterns`: the patterns.
* `readDocument`: read all texts of a document.
* `smarten`: put typographic characters into all texts of a document.
-/

namespace StaticSite.Markdown.Inline

open Block (Notes)

/-- The patterns in the order in which they are tried. -/
def patterns (settings : Settings) (notes : Notes) : List Pattern :=
  let underscores := if settings.emphasisInWords then Emphasis.looseForms else Emphasis.underscoreForms
  [Span.code, Span.escape settings] ++
    (if settings.footnotes.isSome then [Span.mention (notes.footnotes.map (·.1))] else []) ++
    [Link.byTarget .link notes.targets, Link.direct .link, Link.direct .image,
      Link.byTarget .image notes.targets, Link.byText .link notes.targets,
      Link.byText .image notes.targets, Span.address, Span.mail, Span.lineBreak, Span.markup settings,
      Span.reference, Emoji.pattern settings] ++
    (match settings.wikiLinks with
      | some w => [Span.wikiLink w]
      | none => []) ++
    [Span.loneMark, Emphasis.pattern '*' Emphasis.starForms, Emphasis.pattern '_' underscores] ++
    (if settings.lineBreaks then [Span.newline] else [])

/-- Read all texts of a document; the names of the footnotes that are mentioned come with it, in order. -/
def readDocument (settings : Settings) (mentions : Mentions) (notes : Notes) (root : Element) :
    Element × List (List Char) :=
  let (root, mentioned) := readTree (readText mentions (patterns settings notes)) root []
  (root, mentioned.reverse)

/-- Put typographic characters into all texts of a document. -/
def smarten (s : SmartSettings) (root : Element) : Element :=
  (readTree (readText ⟨fun _ _ => .bare "sup"⟩ (Smart.patterns s)) root []).1

end StaticSite.Markdown.Inline
