import StaticSite.Failure
import StaticSite.Markdown.Element
import StaticSite.Number.Reading

/-!
# Settings of the Markdown renderer

What a site can say about the rendering of its documents: the width of a tab stop, the form of the
output, the extensions to use and the options of each. Five extensions are always in use. An extension
that is named again starts afresh, with the options under that name.

## Main definitions

* `Settings`: everything that the renderer needs to know.
* `Extension`: the extensions, with their options.
* `Settings.ofValue`: the settings of a mapping.
-/

namespace StaticSite.Markdown

/-! ### The settings -/

/-- How fenced blocks of code are written. -/
inductive FenceStyle
  /-- As code blocks of the site. -/
  | boxed
  /-- As preformatted code, with a class that is made of a beginning and the language. -/
  | classed (start : List Char)
  deriving Repr

/-- The mark behind a heading that links to it. -/
inductive Permalink
  | absent
  /-- A pilcrow. -/
  | pilcrow
  | text (s : List Char)
  deriving Repr

/-- The settings of tables of contents and of headings. -/
structure ContentsSettings where
  /-- The paragraph that a table takes the place of; none is replaced if it is empty. -/
  marker : List Char := "[TOC]".toList
  title : List Char := []
  titleClass : List Char := "toctitle".toList
  tableClass : List Char := "toc".toList
  /-- Headings link to themselves. -/
  anchors : Bool := false
  anchorClass : List Char := "toclink".toList
  permalink : Permalink := .absent
  permalinkClass : List Char := "headerlink".toList
  permalinkTitle : List Char := "Permanent link".toList
  permalinkFirst : Bool := false
  /-- The level of the greatest heading. -/
  baseLevel : Int := 1
  /-- What stands between the words of an identifier. -/
  separator : List Char := ['-']
  /-- The levels of the headings that a table lists. -/
  top : Int := 1
  bottom : Int := 6

/-- The settings of footnotes. -/
structure FootnoteSettings where
  /-- The paragraph that the footnotes take the place of. -/
  marker : List Char := "///Footnotes Go Here///".toList
  backlink : List Char := "&#8617;".toList
  superscript : List Char := "\x7b\x7d".toList
  backlinkTitle : List Char := "Jump back to footnote \x7b\x7d in the text".toList
  separator : List Char := [':']
  /-- The identifiers are told apart from those of other documents. -/
  apart : Bool := false
  /-- Mentions are numbered in the order of the definitions, and not of the mentions themselves. -/
  byDefinition : Bool := false

/-- The settings of typographic characters. -/
structure SmartSettings where
  quotes : Bool := true
  angledQuotes : Bool := false
  dashes : Bool := true
  ellipses : Bool := true
  /-- The forms that take the place of the usual ones. -/
  forms : List (List Char × List Char) := []

/-- The settings of links in double brackets. -/
structure WikiLinkSettings where
  base : List Char := ['/']
  ending : List Char := ['/']
  linkClass : List Char := "wikilink".toList

/-- Everything that the renderer needs to know. -/
structure Settings where
  /-- The distance of tab stops, unless it is no whole number. -/
  tabLength : Option Nat := some 4
  style : MarkupStyle := .closed
  /-- Indented blocks are code. -/
  indentedCode : Bool := true
  fences : FenceStyle := .boxed
  /-- The alignment of a column is an attribute of its own. -/
  alignAttribute : Bool := false
  contents : ContentsSettings := {}
  /-- The pictures of emoji are those of the usual set. -/
  usualEmoji : Bool := true
  abbreviations : Bool := false
  admonitions : Bool := false
  attributeLists : Bool := false
  definitions : Bool := false
  footnotes : Option FootnoteSettings := none
  lineBreaks : Bool := false
  metadata : Bool := false
  saneLists : Bool := false
  /-- Underscores inside words are marks of emphasis. -/
  emphasisInWords : Bool := false
  smart : Option SmartSettings := none
  wikiLinks : Option WikiLinkSettings := none

/-! ### Reading values -/

/-- The settings have the wrong shape. -/
def wrongShape : Failure := .wrongType "wrong type of a setting"

/-- The elements of a collection, or the characters of a text. -/
def elementsOf (v : Value) : Except Failure (List Value) :=
  match v with
  | .list items | .tuple items | .set items => .ok items
  | .dict entries => .ok (entries.map (·.1))
  | .text s => .ok (s.toList.map fun c => .text (String.ofList [c]))
  | .bytes bs => .ok (bs.map fun b => .int b.toNat)
  | _ => .error wrongShape

/-- The entry that a collection of two elements stands for; `i` is its place among its like. -/
def entryOf (i : Nat) (v : Value) : Except Failure (Value × Value) := do
  match (← elementsOf v) with
  | [key, value] => pure (key, value)
  | items =>
    throw (.badValue ("dictionary update sequence element #" ++ toString i ++ " has length " ++
      toString items.length ++ "; 2 is required"))

/-- The entries of a mapping, or of a collection of pairs. -/
def entriesOf (v : Value) : Except Failure (List (Value × Value)) := do
  match v with
  | .dict entries => pure entries
  | v =>
    let items ← elementsOf v
    let entries ← items.zipIdx.mapM fun (item, i) => entryOf i item
    match Value.ofEntries entries with
    | .dict entries => pure entries
    | _ => pure []

/-- The entries of a mapping. -/
def entriesOfMapping (v : Value) : Except Failure (List (Value × Value)) :=
  match v with
  | .dict entries => .ok entries
  | _ => .error wrongShape

/-- The texts that stand for a truth value. -/
def truthOf? (s : String) : Option Bool :=
  let word := String.ofList (Text.lower s.toList)
  if ["true", "yes", "y", "on", "1"].contains word then some true
  else if ["false", "no", "n", "off", "0", "none"].contains word then some false
  else none

/-- The truth value of an option. -/
def truthOf (v : Value) : Except Failure Bool :=
  match v with
  | .text s =>
    match truthOf? s with
    | some b => .ok b
    | none => .error (.badValue ("Cannot parse bool value: " ++ Text.quote s))
  | v => .ok v.isTruthy

/-- The integer of an option. -/
def integerOf (v : Value) : Except Failure Int :=
  match v with
  | .int n => .ok n
  | .bool b => .ok (if b then 1 else 0)
  | .float x => .ok x.truncate
  | .text s =>
    match Number.readInteger? 10 (Text.trim Text.isBlank s.toList) with
    | some n => .ok n
    | none =>
      .error (.badValue ("invalid literal for int() with base 10: " ++ Text.quote s))
  | _ => .error wrongShape

/-- The text of an option. -/
def textOf (v : Value) : Except Failure (List Char) :=
  match v with
  | .text s => .ok s.toList
  | v => if v.isTruthy then .error wrongShape else .ok []

/-! ### Options of extensions -/

/-- The options of an extension: each key with whether it is a truth value. -/
abbrev OptionTable := List (String × Bool)

/-- The options of an extension with their values, the last one of a key first. -/
abbrev Choices := List (String × Value)

/-- Check the options that are given against those that there are. -/
def choicesOf (table : OptionTable) (entries : List (Value × Value)) : Except Failure Choices :=
  let step (known : Choices) (entry : Value × Value) : Except Failure Choices :=
    match entry.1 with
    | .text key =>
      match table.lookup key with
      | none => .error (.missingKey (Text.quote key))
      | some true => do
        let b ← truthOf entry.2
        pure ((key, .bool b) :: known)
      | some false => .ok ((key, entry.2) :: known)
    | _ => .error wrongShape
  if entries.all fun entry => (match entry.1 with | .text _ => true | _ => false) then
    entries.foldlM step []
  else .error wrongShape

namespace Choices

/-- A truth value, unless it is not given. -/
def truth (choices : Choices) (key : String) (usual : Bool) : Bool :=
  ((choices.lookup key).map Value.isTruthy).getD usual

/-- A text, unless it is not given. -/
def text (choices : Choices) (key : String) (usual : List Char) : Except Failure (List Char) :=
  match choices.lookup key with
  | some v => textOf v
  | none => .ok usual

end Choices

/-- The two levels of a range, or the lower one. -/
def levelsOf (v : Value) : Except Failure (Int × Int) :=
  match v with
  | .text s =>
    if s.toList.contains '-' then
      match Text.splitOn '-' s.toList with
      | [top, bottom] => do
        let top ← integerOf (.text (String.ofList top))
        let bottom ← integerOf (.text (String.ofList bottom))
        pure (top, bottom)
      | pieces => do
        let _ ← pieces.mapM fun piece => integerOf (.text (String.ofList piece))
        throw (.badValue "too many values to unpack (expected 2)")
    else (integerOf v).map fun n => (1, n)
  | v => (integerOf v).map fun n => (1, n)

/-- The mark behind headings. -/
def permalinkOf (v : Value) : Permalink :=
  match v with
  | .text s =>
    match truthOf? s with
    | some true => .pilcrow
    | some false => .absent
    | none => .text s.toList
  | v => if v.isTruthy then .pilcrow else .absent

/-- The options of tables of contents. -/
def contentsOptions : OptionTable := [
  ("marker", false), ("title", false), ("title_class", false), ("toc_class", false),
  ("anchorlink", true), ("anchorlink_class", false), ("permalink", false),
  ("permalink_class", false), ("permalink_title", false), ("permalink_leading", true),
  ("baselevel", false), ("slugify", false), ("separator", false), ("toc_depth", false)]

/-- The settings of tables of contents. -/
def contentsOf (choices : Choices) : Except Failure ContentsSettings := do
  let usual : ContentsSettings := {}
  let baseLevel ← integerOf ((choices.lookup "baselevel").getD (.int 1))
  let (top, bottom) ← levelsOf ((choices.lookup "toc_depth").getD (.int 6))
  pure {
    marker := ← choices.text "marker" usual.marker
    title := ← choices.text "title" usual.title
    titleClass := ← choices.text "title_class" usual.titleClass
    tableClass := ← choices.text "toc_class" usual.tableClass
    anchors := choices.truth "anchorlink" false
    anchorClass := ← choices.text "anchorlink_class" usual.anchorClass
    permalink := permalinkOf ((choices.lookup "permalink").getD (.bool false))
    permalinkClass := ← choices.text "permalink_class" usual.permalinkClass
    permalinkTitle := ← choices.text "permalink_title" usual.permalinkTitle
    permalinkFirst := choices.truth "permalink_leading" false
    baseLevel := baseLevel
    separator := ← choices.text "separator" usual.separator
    top := top
    bottom := bottom }

/-- The options of footnotes. -/
def footnoteOptions : OptionTable := [
  ("PLACE_MARKER", false), ("UNIQUE_IDS", true), ("BACKLINK_TEXT", false),
  ("SUPERSCRIPT_TEXT", false), ("BACKLINK_TITLE", false), ("SEPARATOR", false),
  ("USE_DEFINITION_ORDER", true)]

/-- The settings of footnotes. -/
def footnotesOf (choices : Choices) : Except Failure FootnoteSettings := do
  let usual : FootnoteSettings := {}
  pure {
    marker := ← choices.text "PLACE_MARKER" usual.marker
    backlink := ← choices.text "BACKLINK_TEXT" usual.backlink
    superscript := ← choices.text "SUPERSCRIPT_TEXT" usual.superscript
    backlinkTitle := ← choices.text "BACKLINK_TITLE" usual.backlinkTitle
    separator := ← choices.text "SEPARATOR" usual.separator
    apart := choices.truth "UNIQUE_IDS" false
    byDefinition := choices.truth "USE_DEFINITION_ORDER" false }

/-- The options of typographic characters. -/
def smartOptions : OptionTable := [
  ("smart_quotes", true), ("smart_angled_quotes", true), ("smart_dashes", true),
  ("smart_ellipses", true), ("substitutions", false)]

/-- The settings of typographic characters. -/
def smartOf (choices : Choices) : Except Failure SmartSettings := do
  let forms ← match choices.lookup "substitutions" with
    | some v => do
      (← entriesOf v).mapM fun (key, value) => do pure (← textOf key, ← textOf value)
    | none => pure []
  pure {
    quotes := choices.truth "smart_quotes" true
    angledQuotes := choices.truth "smart_angled_quotes" false
    dashes := choices.truth "smart_dashes" true
    ellipses := choices.truth "smart_ellipses" true
    forms := forms }

/-- The options of links in double brackets. -/
def wikiLinkOptions : OptionTable := [
  ("base_url", false), ("end_url", false), ("html_class", false), ("build_url", false)]

/-- The settings of links in double brackets. -/
def wikiLinksOf (choices : Choices) : Except Failure WikiLinkSettings := do
  let usual : WikiLinkSettings := {}
  pure {
    base := ← choices.text "base_url" usual.base
    ending := ← choices.text "end_url" usual.ending
    linkClass := ← choices.text "html_class" usual.linkClass }

/-- The options of fenced blocks. -/
def fenceOptions : OptionTable := [
  ("disable_indented_code_blocks", true), ("custom_fences", false), ("css_class", false),
  ("preserve_tabs", true), ("relaxed_headers", true)]

/-- The options of emoji. -/
def emojiOptions : OptionTable := [
  ("emoji_index", false), ("emoji_generator", false), ("title", false), ("alt", false),
  ("remove_variation_selector", true), ("options", false), ("strict", true)]

/-! ### Extensions -/

/-- The extensions. -/
inductive Extension
  | fences
  | tables
  | contents
  | emoji
  | innerMarkdown
  | abbreviations
  | admonitions
  | attributeLists
  | definitions
  | plainFences
  | footnotes
  | lineBreaks
  | metadata
  | saneLists
  | emphasisInWords
  | smart
  | wikiLinks
  /-- Several extensions at once. -/
  | several
  /-- An extension that changes nothing about the documents of a site. -/
  | inert
  deriving DecidableEq, Repr

/-- The extensions that have short names: the name, the class that implements it, and the extension. -/
def shortNames : List (String × String × Extension) := [
  ("abbr", "AbbrExtension", .abbreviations), ("admonition", "AdmonitionExtension", .admonitions),
  ("attr_list", "AttrListExtension", .attributeLists), ("codehilite", "CodeHiliteExtension", .inert),
  ("def_list", "DefListExtension", .definitions), ("extra", "ExtraExtension", .several),
  ("fenced_code", "FencedCodeExtension", .plainFences),
  ("footnotes", "FootnoteExtension", .footnotes),
  ("legacy_attrs", "LegacyAttrExtension", .inert), ("legacy_em", "LegacyEmExtension", .emphasisInWords),
  ("md_in_html", "MarkdownInHtmlExtension", .innerMarkdown), ("meta", "MetaExtension", .metadata),
  ("nl2br", "Nl2BrExtension", .lineBreaks), ("sane_lists", "SaneListExtension", .saneLists),
  ("smarty", "SmartyExtension", .smart), ("tables", "TableExtension", .tables),
  ("toc", "TocExtension", .contents), ("wikilinks", "WikiLinkExtension", .wikiLinks)]

/-- The extensions of the second family, behind its name. -/
def secondFamily : List (String × Extension) := [
  ("superfences", .fences), ("emoji", .emoji), ("arithmatex", .inert), ("b64", .inert),
  ("betterem", .inert), ("caret", .inert), ("critic", .inert), ("details", .inert),
  ("escapeall", .inert), ("extra", .several), ("fancylists", .inert), ("highlight", .inert),
  ("inlinehilite", .inert), ("keys", .inert), ("magiclink", .inert), ("mark", .inert),
  ("pathconverter", .inert), ("progressbar", .inert), ("quotes", .inert), ("saneheaders", .inert),
  ("smartsymbols", .inert), ("snippets", .inert), ("striphtml", .inert), ("tabbed", .inert),
  ("tasklist", .inert), ("tilde", .inert)]

/-- The failure to find a module. -/
def noModule (name : List Char) : Failure :=
  .noModule ("No module named '" ++ String.ofList name ++ "'")

/-- The failure of a module that is no extension. -/
def noExtension (name : List Char) : Failure :=
  .noAttribute ("Failed to initiate extension '" ++ String.ofList name ++ "'")

/-- The modules that hold the extensions of a family: the beginning of their names. -/
def families : List (List String) := [["markdown", "extensions"], ["pymdownx"]]

/-- The extension that a module holds. -/
def extensionOfModule (name : List Char) : Except Failure (String × Extension) :=
  let pieces := (Text.splitOn '.' name).map String.ofList
  let upTo (n : Nat) : List Char := Text.join ['.'] ((pieces.take n).map String.toList)
  match pieces with
  | [""] => .error (.badValue "Empty module name")
  | "" :: _ => .error wrongShape
  | "markdown" :: "extensions" :: short :: rest =>
    match shortNames.lookup short with
    | some found => if rest.isEmpty then .ok found else .error (noModule (upTo 4))
    | none => .error (noModule (upTo 3))
  | "pymdownx" :: short :: rest =>
    match secondFamily.lookup short with
    | some x => if rest.isEmpty then .ok ("", x) else .error (noModule (upTo 3))
    | none => .error (noModule (upTo 2))
  | first :: rest =>
    if families.any (·.head? == some first) then
      if families.any (fun family => pieces == family.take pieces.length) then
        .error (noExtension name)
      else .error (noModule (upTo (if rest.isEmpty then 1 else 2)))
    else .error (noModule first.toList)
  | [] => .error wrongShape

/-- The extension with a name: a short one, or that of a module with or without its class. -/
def Extension.named (name : String) : Except Failure Extension :=
  match shortNames.lookup name with
  | some (_, x) => .ok x
  | none => do
    let chars := name.toList
    let moduleName := chars.takeWhile (· != ':')
    let className := (chars.dropWhile (· != ':')).drop 1
    let (known, x) ← extensionOfModule moduleName
    if className.isEmpty || className == known.toList then pure x
    else throw (noExtension chars)

namespace Settings

/-- Add an extension with its options. -/
def load (s : Settings) (x : Extension) (entries : List (Value × Value)) :
    Except Failure Settings := do
  match x with
  | .fences =>
    let choices ← choicesOf fenceOptions entries
    pure { s with
      fences := .boxed
      indentedCode := !(choices.truth "disable_indented_code_blocks" false) }
  | .tables =>
    let choices ← choicesOf [("use_align_attribute", true)] entries
    pure { s with alignAttribute := choices.truth "use_align_attribute" false }
  | .contents =>
    let choices ← choicesOf contentsOptions entries
    pure { s with contents := ← contentsOf choices }
  | .emoji =>
    let choices ← choicesOf emojiOptions entries
    if (choices.lookup "emoji_index").isSome then throw wrongShape
    else pure { s with usualEmoji := false }
  | .innerMarkdown =>
    let _ ← choicesOf [] entries
    pure s
  | .abbreviations =>
    let _ ← choicesOf [("glossary", false)] entries
    pure { s with abbreviations := true }
  | .admonitions =>
    let _ ← choicesOf [] entries
    pure { s with admonitions := true }
  | .attributeLists =>
    let _ ← choicesOf [] entries
    pure { s with attributeLists := true }
  | .definitions =>
    let _ ← choicesOf [] entries
    pure { s with definitions := true }
  | .plainFences =>
    let choices ← choicesOf [("lang_prefix", false)] entries
    let start ← choices.text "lang_prefix" "language-".toList
    pure { s with fences := .classed start }
  | .footnotes =>
    let choices ← choicesOf footnoteOptions entries
    pure { s with footnotes := some (← footnotesOf choices) }
  | .lineBreaks =>
    let _ ← choicesOf [] entries
    pure { s with lineBreaks := true }
  | .metadata =>
    let _ ← choicesOf [] entries
    pure { s with metadata := true }
  | .saneLists =>
    let _ ← choicesOf [] entries
    pure { s with saneLists := true }
  | .emphasisInWords =>
    let _ ← choicesOf [] entries
    pure { s with emphasisInWords := true }
  | .smart =>
    let choices ← choicesOf smartOptions entries
    pure { s with smart := some (← smartOf choices) }
  | .wikiLinks =>
    let choices ← choicesOf wikiLinkOptions entries
    pure { s with wikiLinks := some (← wikiLinksOf choices) }
  | .several | .inert => pure s

/-- The names of the extensions that one extension stands for. -/
def members : List String := [
  "fenced_code", "footnotes", "attr_list", "def_list", "tables", "abbr", "md_in_html"]

/-- Add the extension with a name, with the options under that name. -/
def loadNamed (configs : List (Value × Value)) (s : Settings) (name : Value) :
    Except Failure Settings := do
  match name with
  | .null => pure s
  | .text name =>
    let entries ← match Value.find? (.text name) configs with
      | some v => entriesOf v
      | none => pure []
    let x ← Extension.named name
    if x == .several then
      members.foldlM (fun s short => do
        let inner ← match Value.find? (.text short) entries with
          | some v => entriesOf v
          | none => pure []
        s.load (← Extension.named short) inner) s
    else s.load x entries
  | _ => throw wrongShape

/-- The names of the extensions that are always in use. -/
def usualNames : List String := [
  "pymdownx.superfences", "markdown.extensions.tables", "markdown.extensions.toc", "pymdownx.emoji",
  "markdown.extensions.md_in_html"]

/-- The form of the output with a name. -/
def styleNamed (v : Value) : Except Failure MarkupStyle :=
  match v with
  | .text s =>
    let isVersion (c : Char) : Bool := c == '1' || c == '4' || c == '5'
    match String.ofList (Text.trimEnd isVersion (Text.lower s.toList)) with
    | "html" => .ok .brief
    | "xhtml" => .ok .closed
    | other =>
      .error (.missingKey (Text.quote ("Invalid Output Format: \"" ++ other ++
        "\". Use one of \"html\", \"xhtml\".")))
  | _ => .error (.noAttribute "no lower")

/-- The distance of tab stops: nothing for a number that is not whole. -/
def tabLengthOf (v : Value) : Except Failure (Option Nat) :=
  match v with
  | .int n => .ok (some n.toNat)
  | .bool b => .ok (some (if b then 1 else 0))
  | .float _ => .ok none
  | _ => .error wrongShape

/-- The settings that a value stands for; nothing and everything empty are the usual ones. -/
def ofValue (v : Value) : Except Failure Settings := do
  let entries ← if v.isTruthy then entriesOf v else pure []
  let named (key : String) (usual : Value) : Value := (Value.find? (.text key) entries).getD usual
  let extensions ← elementsOf (named "extensions" (.list []))
  let configs ← entriesOfMapping (named "extension_configs" (.dict []))
  let fences ← entriesOfMapping
    ((Value.find? (.text "pymdownx.superfences") configs).getD (.dict []))
  let others := (entries.filter fun entry =>
    !(Value.same entry.1 (.text "extensions") || Value.same entry.1 (.text "extension_configs")))
  if !others.all (fun entry => (match entry.1 with | .text _ => true | _ => false)) then
    throw wrongShape
  else
    let tabLength ← tabLengthOf (named "tab_length" (.int 4))
    let isUsual (v : Value) : Bool := usualNames.any fun name => Value.same v (.text name)
    let usualEmoji := (Value.find? (.text "pymdownx.emoji") configs).isNone
    let configs := Value.store (.text "pymdownx.superfences") (.dict fences) configs
    let names := usualNames.map Value.text ++ extensions.filter fun v => !isUsual v
    let s ← names.foldlM (loadNamed configs) { tabLength := tabLength }
    let style ← styleNamed (named "output_format" (.text "xhtml"))
    pure { s with style := style, usualEmoji := usualEmoji }

end Settings

end StaticSite.Markdown
