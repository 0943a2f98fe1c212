import StaticSite.Markdown.Element

/-!
# Line breaks between elements

Elements that stand on their own are written on lines of their own: a line break follows each of them,
and one comes before the first child of an element without text. A line break follows every forced
line break of the text. Code ends with exactly one line break.

## Main definitions

* `Element.tidied`: a tree with these line breaks.
-/

namespace StaticSite.Markdown.Element

mutual

/-- Put line breaks around the elements that stand on their own. -/
def spread : Element → Element
  | ⟨tag, attributes, text, fixed, children, tail, tailFixed⟩ =>
    let isOuter := isBlockLevel tag && tag != "code" && tag != "pre"
    let beginsBlock := (children.head?.map fun e => isBlockLevel e.tag).getD false
    let text := if isOuter && Glyphs.isBlank text && beginsBlock then [.char '\n'] else text
    let tail := if Glyphs.isBlank tail then [.char '\n'] else tail
    ⟨tag, attributes, text, fixed, if isOuter then spreadAll children else children, tail, tailFixed⟩

/-- Put line breaks around those elements that stand on their own. -/
def spreadAll : List Element → List Element
  | [] => []
  | e :: es => (if isBlockLevel e.tag then spread e else e) :: spreadAll es

end

/-- Put a line break behind a forced one. -/
def breakBehind (e : Element) : Element :=
  if e.tag == "br" then
    { e with tail := if Glyphs.isBlank e.tail then [.char '\n'] else .char '\n' :: e.tail }
  else e

/-- End code with one line break. -/
def endCode (e : Element) : Element :=
  if e.isCodeBlock then
    e.modifyFirst fun code =>
      if code.children.isEmpty then
        { code with text := Glyphs.trimEnd code.text ++ [.char '\n'], fixed := true }
      else code
  else e

/-- The tree with line breaks between its elements. -/
def tidied (e : Element) : Element := (e.spread.mapAll breakBehind).mapAll endCode

end StaticSite.Markdown.Element
