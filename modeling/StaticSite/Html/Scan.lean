import StaticSite.Html.Token
import StaticSite.Text.Quoted

/-!
# The tokens of a page

A page is scanned twice. The first scan stops where it looks as if the page went on, at markup that is
not complete or at a reference that cannot be read; the second scan goes on from there and takes
whatever is not complete as text. The contents of scripts and styles are text up to their end tag.

## Main definitions

* `Html.scan`: the tokens of a page.
-/

namespace StaticSite.Html

/-- What a step of a scan does. -/
inductive Step
  /-- Go on behind some tokens, within the named element if its content is text. -/
  | advance (tokens : List Token) (inside : Option (List Char)) (rest : List Char)
  /-- Stop behind some tokens. -/
  | halt (tokens : List Token) (rest : List Char)
  /-- The page cannot be read, for a reason. -/
  | fail (reason : String)

/-! ### References -/

/-- The characters of the Windows code page from 128 on; zero where it has none. -/
def windowsCodes : List Nat := [
  0x20ac, 0, 0x201a, 0x192, 0x201e, 0x2026, 0x2020, 0x2021, 0x2c6, 0x2030, 0x160, 0x2039, 0x152, 0,
  0x17d, 0, 0, 0x2018, 0x2019, 0x201c, 0x201d, 0x2022, 0x2013, 0x2014, 0x2dc, 0x2122, 0x161, 0x203a,
  0x153, 0, 0x17e, 0x178]

/-- The character with a number; a number below 256 is one of the Windows code page. -/
def numberedChar (n : Nat) : Char :=
  let n := match windowsCodes[n - 128]? with
    | some code => if 128 ≤ n && code != 0 then code else n
    | none => n
  if h : n.isValidChar then Char.ofNatAux n h else Char.ofNat 0xfffd

/-- The digits of a numeric reference behind its mark, with their base. -/
def numericDigits (s : List Char) : Nat × List Char × List Char :=
  let isHex (c : Char) : Bool := (Number.digitValue? 16 c).isSome && c.toNat < 128
  match s with
  | x :: rest =>
    if (x == 'x' || x == 'X') && (rest.head?.map isHex).getD false then
      (16, rest.takeWhile isHex, rest.dropWhile isHex)
    else (10, s.takeWhile Char.isDigit, s.dropWhile Char.isDigit)
  | [] => (10, [], [])

/-- Pass over a semicolon. -/
def skipSemicolon : List Char → List Char
  | ';' :: rest => rest
  | rest => rest

/-- The character of a numeric reference behind its mark; another character has to follow, which is no
digit in hexadecimal. -/
def numericReference? (s : List Char) : Option (Char × List Char) :=
  let (base, digits, rest) := numericDigits s
  match rest with
  | c :: _ =>
    if digits.isEmpty || ((Number.digitValue? 16 c).isSome && c.toNat < 128) then none
    else some (numberedChar ((Number.readDigits? base false 0 digits).getD 0), skipSemicolon rest)
  | [] => none

/-- The name of a reference behind its mark; another character has to follow. -/
def referenceName? (s : List Char) : Option (List Char × List Char) :=
  let inName (c : Char) : Bool := c.isAlphanum || c == '-' || c == '.'
  let name := s.takeWhile inName
  let rest := s.dropWhile inName
  if !(s.head?.map isLetter).getD false then none
  else if !rest.isEmpty then some (name, rest)
  else
    let tail := name.reverse.takeWhile Char.isAlphanum
    let before := name.reverse.dropWhile Char.isAlphanum
    match before with
    | mark :: start => some (start.reverse, mark :: tail.reverse)
    | [] => none

/-- The characters of a named reference; one that is not known is left as it is, without its
semicolon. -/
def namedChars (name : List Char) : List Char :=
  (Text.namedReference? true name).getD ('&' :: name)

/-- A step at an ampersand, behind it. -/
def referenceStep (closing : Bool) (s : List Char) : Step :=
  match s with
  | '#' :: rest =>
    match numericReference? rest with
    | some (c, rest) => .advance [.text [c]] none rest
    | none => if rest.contains ';' then .halt [.text ['&', '#']] rest else .halt [] ('&' :: s)
  | _ =>
    match referenceName? s with
    | some (name, rest) => .advance [.text (namedChars name)] none (skipSemicolon rest)
    | none =>
      match s with
      | c :: rest =>
        if isLetter c then
          if closing && rest.isEmpty then .halt [] s else .halt [] ('&' :: s)
        else .advance [.text ['&']] none s
      | [] => .halt [] ['&']

/-! ### Markup -/

/-- Find a mark that may have blanks before its last characters: the text before it and the rest. -/
def findLoose? (first : List Char) (last : List Char) : List Char → Option (List Char × List Char)
  | [] => none
  | c :: tail =>
    match (Text.stripStart? first (c :: tail)).bind fun rest =>
        endsLoosely? last rest with
    | some rest => some ([], rest)
    | none => (findLoose? first last tail).map fun (before, rest) => (c :: before, rest)
where
  /-- Pass over characters, each of which may have blanks before it. -/
  endsLoosely? : List Char → List Char → Option (List Char)
    | [], s => some s
    | m :: ms, s =>
      match s.dropWhile Text.isBlank with
      | c :: rest => if c == m then endsLoosely? ms rest else none
      | [] => none

/-- A comment from behind its opening on. -/
def readComment (s : List Char) : Reading (List Token) :=
  match findLoose? ['-', '-'] ['>'] s with
  | some (inner, rest) => .complete [.special .comment inner] rest
  | none => .incomplete

/-- The sections that end with two brackets. -/
def doubleEnded : List String := ["temp", "cdata", "ignore", "include", "rcdata"]

/-- The sections that end with one bracket. -/
def singleEnded : List String := ["if", "else", "endif"]

/-- The kind and content of a section. -/
def sectionToken (s : List Char) : Token :=
  let mark := "CDATA[".toList
  if Text.upper (s.take mark.length) == mark then .special .verbatim (s.drop mark.length)
  else .special .declaration s

/-- A section from behind its opening on. -/
def readSection (s : List Char) : Except String (Reading (List Token)) :=
  let inName (c : Char) : Bool := c.isAlphanum || c == '-' || c == '_' || c == '.'
  match s with
  | [] => .ok .incomplete
  | c :: _ =>
    if !isLetter c then
      .error ("expected name token at " ++
        Text.quote (String.ofList (("<![".toList ++ s).take 20)))
    else
      let name := s.takeWhile inName
      let rest := (s.dropWhile inName).dropWhile Text.isBlank
      let known := String.ofList (Text.lower name)
      if rest.isEmpty then .ok .incomplete
      else
        let found := if doubleEnded.contains known then some (findLoose? [']'] [']', '>'] s)
          else if singleEnded.contains known then some (findLoose? [']'] ['>'] s)
          else none
        match found with
        | none =>
          .error ("unknown status keyword " ++
            Text.quote (String.ofList (s.take (s.length - rest.length))) ++ " in marked section")
        | some none => .ok .incomplete
        | some (some (inner, rest)) => .ok (.complete [sectionToken inner] rest)

/-- A declaration from behind its opening on. -/
def readDeclaration (s : List Char) : Except String (Reading (List Token)) :=
  match s with
  | '[' :: rest => readSection rest
  | _ =>
    if Text.lower (s.take 7) == "doctype".toList then
      .ok (match untilMark? '>' (s.drop 7) with
        | some (inner, rest) => .complete [.special .doctype (inner.drop 1)] rest
        | none => .incomplete)
    else .ok (readSpecial .comment s)

/-- The elements whose content is text. -/
def isTextElement (name : List Char) : Bool := name == "script".toList || name == "style".toList

/-- The element that a token opens if its content is text. -/
def textElement? : List Token → Option (List Char)
  | [.opening name _ false] => if isTextElement name then some name else none
  | _ => none

/-- The markup behind a bracket; nothing if the bracket begins none. -/
def readMarkup? (s : List Char) : Except String (Option (Reading (List Token))) :=
  match s with
  | '/' :: rest => .ok (some (readClosing rest))
  | '!' :: '-' :: '-' :: rest => .ok (some (readComment rest))
  | '?' :: rest => .ok (some (readSpecial .instruction rest))
  | '!' :: rest => (readDeclaration rest).map some
  | c :: _ =>
    .ok <|
      if isLetter c then
        some (match readOpening (fun _ => false) s with
          | .complete t rest => .complete [t] rest
          | .incomplete => .incomplete)
      else none
  | [] => .ok none

/-- Take markup that is not complete as text, up to the next closing bracket or else the next opening
one. -/
def asText (s : List Char) : List Char × List Char :=
  match untilMark? '>' s with
  | some (before, rest) => ('<' :: before ++ ['>'], rest)
  | none =>
    if s.contains '<' then ('<' :: s.takeWhile (· != '<'), s.dropWhile (· != '<'))
    else (['<'], s)

/-- A step at an opening bracket, behind it. -/
def markupStep (closing : Bool) (s : List Char) : Step :=
  match readMarkup? s with
  | .error reason => .fail reason
  | .ok none => if s.isEmpty then .halt [] ['<'] else .advance [.text ['<']] none s
  | .ok (some (.complete tokens rest)) => .advance tokens (textElement? tokens) rest
  | .ok (some .incomplete) =>
    if closing then
      let (text, rest) := asText s
      .advance [.text text] none rest
    else .halt [] ('<' :: s)

/-- The end tag of an element, at the beginning of a text. -/
def endTagOf? (name s : List Char) : Option (List Char) :=
  match s with
  | '<' :: '/' :: rest =>
    match plainEnd? rest with
    | some (found, rest) => if found == name then some rest else none
    | none => none
  | _ => none

/-- Find the end tag of an element: the text before it and the rest. -/
def findEnd? (name : List Char) : List Char → Option (List Char × List Char)
  | [] => none
  | c :: tail =>
    match endTagOf? name (c :: tail) with
    | some rest => some ([], rest)
    | none => (findEnd? name tail).map fun (before, rest) => (c :: before, rest)

/-- Text tokens without empty ones. -/
def textToken (s : List Char) : List Token := if s.isEmpty then [] else [.text s]

/-- A step of a scan, within the named element if its content is text. -/
def step (closing : Bool) (inside : Option (List Char)) (s : List Char) : Step :=
  match inside with
  | some name =>
    match findEnd? name s with
    | some (before, rest) => .advance (textToken before ++ [.closing name]) none rest
    | none => .halt [] s
  | none =>
    let isMark (c : Char) : Bool := c == '<' || c == '&'
    if (s.head?.map isMark).getD false then
      match s with
      | '<' :: rest => markupStep closing rest
      | _ => referenceStep closing (s.drop 1)
    else .advance (textToken (s.takeWhile fun c => !isMark c)) none (s.dropWhile fun c => !isMark c)

/-! ### Scans -/

/-- One scan: its tokens, the element it ended in and what it left. -/
def scanWithin (closing : Bool) :
    Nat → Option (List Char) → List Char → Except String (List Token × Option (List Char) × List Char)
  | 0, inside, s => .ok ([], inside, s)
  | fuel + 1, inside, s =>
    if s.isEmpty then .ok ([], inside, [])
    else
      match step closing inside s with
      | .fail reason => .error reason
      | .halt tokens rest => .ok (tokens, inside, rest)
      | .advance tokens inside rest =>
        match scanWithin closing fuel inside rest with
        | .ok (others, inside, rest) => .ok (tokens ++ others, inside, rest)
        | .error reason => .error reason

/-- The tokens of a page. What follows a script or style that never ends is lost. -/
def scan (s : List Char) : Except String (List Token) := do
  let (first, inside, rest) ← scanWithin false (s.length + 1) none s
  let (second, inside, rest) ← scanWithin true (rest.length + 1) inside rest
  pure (first ++ second ++ (if inside.isSome then [] else textToken rest))

end StaticSite.Html
