import StaticSite.Failure
import StaticSite.Html.Tree
import StaticSite.Value.Basic

/-!
# Indenting pages

Every tag and every text of a page is put on a line of its own, indented by its depth; blanks around
texts are dropped. Elements that keep their blanks are written as they are. Attributes are written in
the order of their names, and the encoding that a page declares is the one it is written in.

## Main definitions

* `Html.indentOf`: the unit of indentation that settings ask for.
* `Html.prettify`: a page, indented.
-/

namespace StaticSite.Html

/-! ### Attributes -/

/-- Escape the characters that would be markup. -/
def escapeMarkup (s : List Char) : List Char :=
  s.flatMap fun c =>
    if c == '&' then "&amp;".toList
    else if c == '<' then "&lt;".toList
    else if c == '>' then "&gt;".toList
    else [c]

/-- Quote an escaped value: in single quotes if there are double quotes in it, and both are in it only
after escaping the double ones. -/
def quoteValue (s : List Char) : List Char :=
  if !s.contains '"' then '"' :: s ++ ['"']
  else if s.contains '\'' then '"' :: Text.replaceAll ['"'] "&quot;".toList s ++ ['"']
  else '\'' :: s ++ ['\'']

/-- The attributes that are lists of words, with the elements where they are; an empty name stands for
every element. -/
def wordAttributes : List (String × List String) := [
  ("", ["class", "accesskey", "dropzone"]), ("a", ["rel", "rev"]), ("link", ["rel", "rev"]),
  ("td", ["headers"]), ("th", ["headers"]), ("form", ["accept-charset"]), ("object", ["archive"]),
  ("area", ["rel"]), ("icon", ["sizes"]), ("iframe", ["sandbox"]), ("output", ["for"])]

/-- The attribute is a list of words. -/
def isWordList (element key : List Char) : Bool :=
  wordAttributes.any fun (e, keys) =>
    (e.isEmpty || e.toList == element) && keys.contains (String.ofList key)

/-- A list of words, with one blank between them. -/
def spacedWords (s : List Char) : List Char := Text.join [' '] (Text.words s)

/-- The encoding that pages are written in. -/
def encoding : List Char := "utf-8".toList

/-- Put the encoding into the declaration of a content type, passing over the next `skip` characters,
which have been replaced; `start` says that a declaration can begin here. -/
def declareFrom (start : Bool) : Nat → List Char → List Char
  | _, [] => []
  | skip + 1, _ :: rest => declareFrom false skip rest
  | 0, c :: rest =>
    let mark := "charset=".toList
    if start && mark.isPrefixOf (c :: rest) then
      let old := ((c :: rest).drop mark.length).takeWhile (· != ';')
      mark ++ encoding ++ declareFrom false (mark.length + old.length - 1) rest
    else c :: declareFrom (c == ';' || Text.isBlank c) 0 rest

/-- Put the encoding into the declaration of a content type. -/
def declareEncoding (s : List Char) : List Char := declareFrom true 0 s

/-- Keep of attributes with the same name the last value, in the place of the first one. -/
def lastValues (attributes : Fields) : Fields :=
  attributes.foldl (fun known (k, v) =>
    if known.any fun (l, _) => l == k then known.map fun (l, w) => if l == k then (l, v) else (l, w)
    else known ++ [(k, v)]) []

/-- The attributes of a tag that declares an encoding, with the one that pages are written in. -/
def withEncoding (element : List Char) (attributes : Fields) : Fields :=
  let replaceIn (key : String) (f : List Char → List Char) : Fields :=
    attributes.map fun (k, v) => if k == key.toList then (k, f v) else (k, v)
  let named (key : String) : Option (List Char) := attributes.lookup key.toList
  if element != "meta".toList then attributes
  else if (named "charset").isSome then replaceIn "charset" fun _ => encoding
  else if (named "http-equiv").map Text.lower == some "content-type".toList then
    replaceIn "content" declareEncoding
  else attributes

/-- The attributes of a tag as they are written. -/
def renderAttributes (element : List Char) (attributes : Fields) : List Char :=
  let words := (lastValues attributes).map fun (k, v) =>
    (k, if isWordList element k then spacedWords v else v)
  let sorted := Text.sortBy (fun a b => String.ofList a.1 < String.ofList b.1)
    (withEncoding element words)
  sorted.flatMap fun (k, v) => ' ' :: k ++ '=' :: quoteValue (escapeMarkup v)

/-! ### Nodes -/

/-- A start tag; one without content has a slash. -/
def startTag (name : List Char) (attributes : Fields) (empty : Bool) : List Char :=
  '<' :: name ++ renderAttributes name attributes ++ (if empty then ['/', '>'] else ['>'])

/-- An end tag. -/
def endTag (name : List Char) : List Char := '<' :: '/' :: name ++ ['>']

/-- Markup that is no tag. -/
def renderSpecial (kind : Special) (s : List Char) : List Char :=
  match kind with
  | .comment => "<!--".toList ++ s ++ "-->".toList
  | .doctype => "<!DOCTYPE ".toList ++ s ++ ">\n".toList
  | .verbatim => "<![CDATA[".toList ++ s ++ "]]>".toList
  | .declaration => "<?".toList ++ s ++ "?>".toList
  | .instruction => "<?".toList ++ s ++ ">".toList

/-- A text within an element. -/
def renderText (parent s : List Char) : List Char := if isTextElement parent then s else escapeMarkup s

mutual

/-- A node as it is, within an element. -/
def renderPlain (parent : List Char) : Node → List Char
  | .text s => renderText parent s
  | .special kind s => renderSpecial kind s
  | .element name attributes children =>
    if children.isEmpty && isVoid name then startTag name attributes true
    else startTag name attributes false ++ renderPlainAll name children ++ endTag name

/-- Nodes as they are, within an element. -/
def renderPlainAll (parent : List Char) : List Node → List Char
  | [] => []
  | n :: ns => renderPlain parent n ++ renderPlainAll parent ns

end

/-- A line at a depth; no line if there is nothing on it. -/
def line (unit : List Char) (depth : Nat) (s : List Char) : List Char :=
  if s.isEmpty then [] else (List.replicate depth unit).flatten ++ s ++ ['\n']

mutual

/-- A node on lines of its own, within an element at a depth. -/
def renderLines (unit : List Char) (depth : Nat) (parent : List Char) : Node → List Char
  | .text s => line unit depth (Text.trim Text.isBlank (renderText parent s))
  | .special kind s => line unit depth (Text.trim Text.isBlank (renderSpecial kind s))
  | .element name attributes children =>
    if children.isEmpty && isVoid name then line unit depth (startTag name attributes true)
    else if keepsBlanks name then
      line unit depth (startTag name attributes false ++ renderPlainAll name children ++ endTag name)
    else
      line unit depth (startTag name attributes false) ++
        renderLinesAll unit (depth + 1) name children ++ line unit depth (endTag name)

/-- Nodes on lines of their own, within an element at a depth. -/
def renderLinesAll (unit : List Char) (depth : Nat) (parent : List Char) : List Node → List Char
  | [] => []
  | n :: ns => renderLines unit depth parent n ++ renderLinesAll unit depth parent ns

end

/-! ### Settings -/

/-- That many blanks. -/
def blanks (n : Int) : List Char := List.replicate n.toNat ' '

/-- The unit of indentation that settings ask for: a number of blanks or a text. -/
def indentOf (settings : Value) : List Char :=
  match settings.get? "indent_size" with
  | none => blanks 2
  | some .null => []
  | some (.int n) => blanks n
  | some (.bool b) => blanks (if b then 1 else 0)
  | some (.text s) => s.toList
  | some _ => [' ']

/-- A page, indented. -/
def prettify (settings : Value) (page : String) : Except Failure String :=
  match scan page.toList with
  | .ok tokens =>
    .ok (String.ofList (renderLinesAll (indentOf settings) 0 [] (Node.ofTokens tokens)))
  | .error reason => .error (.markup reason)

end StaticSite.Html
