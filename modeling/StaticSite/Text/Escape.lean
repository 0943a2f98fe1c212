import StaticSite.Text.Basic

/-!
# Markup escapes

A character with a meaning in HTML is written as a character reference, so that the escaped text can
stand anywhere in a page. `unescape` reads the five references back in one pass.

## Main definitions

* `escape`, `unescape`: the escaped form with `&quot;` and `&#39;`, and the way back.
-/

namespace StaticSite.Text

/-- The escaped form of one character. -/
def escapeChar (c : Char) : List Char :=
  if c == '&' then ['&', 'a', 'm', 'p', ';']
  else if c == '<' then ['&', 'l', 't', ';']
  else if c == '>' then ['&', 'g', 't', ';']
  else if c == '"' then ['&', 'q', 'u', 'o', 't', ';']
  else if c == '\'' then ['&', '#', '3', '9', ';']
  else [c]

/-- The escaped form of a text. -/
def escape (s : List Char) : List Char := s.flatMap escapeChar

/-- The text of an escaped form. -/
def unescape : List Char → List Char
  | '&' :: 'a' :: 'm' :: 'p' :: ';' :: rest => '&' :: unescape rest
  | '&' :: 'l' :: 't' :: ';' :: rest => '<' :: unescape rest
  | '&' :: 'g' :: 't' :: ';' :: rest => '>' :: unescape rest
  | '&' :: 'q' :: 'u' :: 'o' :: 't' :: ';' :: rest => '"' :: unescape rest
  | '&' :: '#' :: '3' :: '9' :: ';' :: rest => '\'' :: unescape rest
  | c :: rest => c :: unescape rest
  | [] => []

/-- A block of code: the escaped source between the tags of a preformatted block. -/
def codeBlock (source : List Char) : List Char :=
  "<div class=\"code-block\"><pre>".toList ++ escape source ++ "</pre></div>".toList

end StaticSite.Text
