import StaticSite.Text.Case
import StaticSite.Text.Reference

/-!
# Tags

The tokens of a page and the reading of its tags. Tags are read leniently: slashes between attributes
count as blanks, an attribute needs no value, and a value needs no quotes as long as it ends at a blank
or at the end of the tag. Where tags stand among other markup, some characters may be barred from names
and from values without quotes.

## Main definitions

* `Html.Token`: the tokens.
* `Html.readOpening`: a start tag.
* `Html.readClosing`: an end tag.
-/

namespace StaticSite.Html

/-- The kinds of markup that are no tags. -/
inductive Special
  | comment
  | doctype
  /-- A section of verbatim characters. -/
  | verbatim
  /-- Any other section. -/
  | declaration
  | instruction
  deriving DecidableEq, Repr

/-- The attributes of a tag in order, each with its value if it has one. -/
abbrev Attributes := List (List Char × Option (List Char))

/-- A token of a page. -/
inductive Token
  /-- Characters, with references resolved. -/
  | text (s : List Char)
  /-- A start tag; it is closed at once if a slash stands at its end. -/
  | opening (name : List Char) (attributes : Attributes) (closed : Bool)
  /-- An end tag. -/
  | closing (name : List Char)
  /-- Other markup. -/
  | special (kind : Special) (s : List Char)
  deriving Repr

/-- The end of a text has been reached before something was complete. -/
inductive Reading (α : Type)
  | complete (value : α) (rest : List Char)
  | incomplete

/-! ### Names and gaps -/

/-- An unaccented letter. -/
def isLetter (c : Char) : Bool := c.isAlpha

/-- The character can stand in the name of a tag. -/
def isTagChar (c : Char) : Bool :=
  !(c == '\t' || c == '\n' || c == '\r' || c == Char.ofNat 12 || c == ' ' || c == '/' || c == '>' ||
    c == Char.ofNat 0)

/-- Pass over blanks and over slashes that do not end a tag, with the last character passed over. -/
def skipGap (last : Char) : List Char → Char × List Char
  | '/' :: '>' :: rest => (last, '/' :: '>' :: rest)
  | c :: rest => if c == '/' || Text.isBlank c then skipGap c rest else (last, c :: rest)
  | [] => (last, [])

/-! ### Attributes -/

/-- Split at a mark, which is passed over. -/
def untilMark? (mark : Char) (s : List Char) : Option (List Char × List Char) :=
  match s.dropWhile (· != mark) with
  | _ :: rest => some (s.takeWhile (· != mark), rest)
  | [] => none

/-- A value without quotes. -/
def bareValue (barred : Char → Bool) (s : List Char) : List Char × List Char :=
  let inside (c : Char) : Bool := !(c == '>' || Text.isBlank c || barred c)
  (s.takeWhile inside, s.dropWhile inside)

/-- The value behind an equals sign. A quote that is never closed belongs to no value: then the value is
empty if there are blanks before it, and begins with an equals sign if there are several. -/
def valueAfter? (barred : Char → Bool) (equals blanks s : List Char) :
    Option (List Char × List Char) :=
  match s with
  | q :: rest =>
    if q == '\'' || q == '"' then
      match untilMark? q rest with
      | some found => some found
      | none =>
        if !blanks.isEmpty then some ([], blanks.drop (blanks.length - 1) ++ s)
        else if 1 < equals.length then some (bareValue barred ('=' :: s))
        else none
    else some (bareValue barred s)
  | [] => some ([], [])

/-- The value of an attribute, if there is one. -/
def attributeValue? (barred : Char → Bool) (s : List Char) : Option (List Char × List Char) :=
  let afterBlanks := s.dropWhile Text.isBlank
  let equals := afterBlanks.takeWhile (· == '=')
  let afterEquals := afterBlanks.dropWhile (· == '=')
  if equals.isEmpty then none
  else valueAfter? barred equals (afterEquals.takeWhile Text.isBlank) (afterEquals.dropWhile Text.isBlank)

/-- The character can come before an attribute. -/
def precedesAttribute (c : Char) : Bool := c == '\'' || c == '"' || c == '/' || Text.isBlank c

/-- The last character of a text that was passed over. -/
def lastOf (before : Char) (s rest : List Char) : Char :=
  ((s.take (s.length - rest.length)).getLast?).getD before

/-- Pass over commas behind a value, each of which may have blanks before it. -/
def skipCommas : Nat → List Char → List Char
  | 0, s => s
  | fuel + 1, s =>
    match s.dropWhile Text.isBlank with
    | ',' :: rest => skipCommas fuel rest
    | _ => s

/-- A comma behind a value is followed by what cannot follow it. -/
def endsAtComma (value : Option (List Char)) (s : List Char) : Bool :=
  let rest := skipCommas s.length s
  value.isSome && rest.length != s.length &&
    (rest.head?.map fun c => !(Text.isBlank c || c == '/' || c == '>')).getD false

/-- Read attributes, at most `fuel`, behind the character `last`. -/
def readAttributes (barred : Char → Bool) : Nat → Char → List Char → Attributes × List Char
  | 0, _, s => ([], s)
  | fuel + 1, last, s =>
    match s with
    | c :: tail =>
      if precedesAttribute last && !(Text.isBlank c || c == '/' || c == '>' || barred c) then
        let inName (c : Char) : Bool := !(Text.isBlank c || c == '/' || c == '=' || c == '>')
        let name := c :: tail.takeWhile inName
        let (value, rest) := match attributeValue? barred (tail.dropWhile inName) with
          | some (v, rest) => (some (Text.resolveReferences v), rest)
          | none => (none, tail.dropWhile inName)
        if endsAtComma value rest then ([], skipCommas rest.length rest)
        else
          let (last, rest) := skipGap (lastOf c s rest) rest
          let (others, rest) := readAttributes barred fuel last rest
          ((Text.lower name, value) :: others, rest)
      else ([], s)
    | [] => ([], [])

/-! ### Tags -/

/-- Read a start tag from its name on. A tag that does not end like one is text. -/
def readOpening (barred : Char → Bool) (s : List Char) : Reading Token :=
  let inName (c : Char) : Bool := isTagChar c && !barred c
  let name := s.takeWhile inName
  let (last, afterName) := skipGap (name.getLast?.getD 'a') (s.dropWhile inName)
  let (attributes, rest) := readAttributes barred s.length last afterName
  match rest with
  | '>' :: rest => .complete (.opening (Text.lower name) attributes false) rest
  | '/' :: '>' :: rest => .complete (.opening (Text.lower name) attributes true) rest
  | [] => .incomplete
  | c :: _ =>
    if isLetter c || c == '=' || c == '/' then .incomplete
    else .complete (.text ('<' :: s.take (s.length - rest.length))) rest

/-- The name of an end tag that holds nothing else. -/
def plainEnd? (s : List Char) : Option (List Char × List Char) :=
  match s.dropWhile Text.isBlank with
  | c :: tail =>
    let inName (c : Char) : Bool := c.isAlphanum || c == '-' || c == '.' || c == ':' || c == '_'
    if isLetter c then
      match (tail.dropWhile inName).dropWhile Text.isBlank with
      | '>' :: rest => some (Text.lower (c :: tail.takeWhile inName), rest)
      | _ => none
    else none
  | [] => none

/-- Read markup up to the next closing bracket. -/
def readSpecial (kind : Special) (s : List Char) : Reading (List Token) :=
  match untilMark? '>' s with
  | some (inner, rest) => .complete [.special kind inner] rest
  | none => .incomplete

/-- Read an end tag from behind its slash on. An end tag without a name is a comment. -/
def readClosing (s : List Char) : Reading (List Token) :=
  if !s.contains '>' then .incomplete
  else
    match plainEnd? s with
    | some (name, rest) => .complete [.closing name] rest
    | none =>
      match s with
      | '>' :: rest => .complete [] rest
      | c :: _ =>
        if isLetter c then
          let afterName := (skipGap c (s.dropWhile isTagChar)).2
          match untilMark? '>' afterName with
          | some (_, rest) => .complete [.closing (Text.lower (s.takeWhile isTagChar))] rest
          | none => .incomplete
        else readSpecial .comment s
      | [] => .incomplete

end StaticSite.Html
