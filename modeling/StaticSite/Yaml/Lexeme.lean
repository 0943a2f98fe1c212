import StaticSite.Yaml.Cursor

/-!
# Lexemes of settings texts

The scalars, tags, anchors and directives of a settings text, each read from a cursor that stands at
its first character. Lines inside a scalar are folded: one line break counts as a space, each further
one as itself.

## Main definitions

* `anchorName`, `tag`, `directive`: the lexemes around nodes.
* `flowScalar`, `plainScalar`, `blockScalar`: the three families of scalars.
-/

namespace StaticSite.Yaml

/-- How a scalar is written. -/
inductive Style
  | plain
  | quoted
  | block
  deriving DecidableEq, Repr

/-- A tag as it is written: the handle, if there is one, and what follows it. -/
structure TagText where
  /-- The handle, between exclamation marks. -/
  handle : Option String
  /-- The rest of the tag. -/
  suffix : String
  deriving DecidableEq, Repr

/-- A directive before a document. -/
inductive DirectiveText
  | version (major minor : Nat)
  | tag (handle start : String)
  | other
  deriving DecidableEq, Repr

/-- The value of a hexadecimal digit. -/
def hexValue? (c : Char) : Option Nat :=
  if c.isDigit then some (c.toNat - 0x30)
  else if 'a' ≤ c && c ≤ 'f' then some (c.toNat - 0x57)
  else if 'A' ≤ c && c ≤ 'F' then some (c.toNat - 0x37)
  else none

/-- The number with these hexadecimal digits. -/
def hexNumber (digits : List Char) : Nat :=
  digits.foldl (fun n c => 16 * n + (hexValue? c).getD 0) 0

/-! ### Anchors and tags -/

/-- Read the name of an anchor or alias after its indicator. -/
def anchorName : Reading String := do
  let start ← here
  let context := "while scanning an " ++ (if (← peek 0) == '*' then "alias" else "anchor")
  advance 1
  let name ← takeRun isNameChar
  let c ← peek 0
  let follows := isGap c || "?:,]\x7d%@`".toList.contains c
  if name.isEmpty || !follows then
    problem .tokens context start
      ("expected alphabetic or numeric character, but found " ++ shown c)
  pure (String.ofList name)

/-- Read a handle: a name between exclamation marks, or one exclamation mark before a space. -/
def tagHandle (what : String) (start : Mark) : Reading String := do
  let context := "while scanning a " ++ what
  if (← peek 0) != '!' then
    problem .tokens context start ("expected '!', but found " ++ shown (← peek 0))
  let rest := (← get).rest.drop 1
  if rest.head? == some ' ' then
    advance 1
    pure "!"
  else
    let name := rest.takeWhile isNameChar
    match rest.dropWhile isNameChar with
    | '!' :: _ =>
      advance (name.length + 2)
      pure (String.ofList ('!' :: name ++ ['!']))
    | other =>
      advance (name.length + 1)
      problem .tokens context start
        ("expected '!', but found " ++ shown (other.head?.getD endOfText))

/-- The character may stand in a tag. -/
def isTagChar (c : Char) : Bool :=
  c.isAlphanum || "-;/?:@&=+$,_.!~*'()[]%".toList.contains c

/-- Read bytes written as percent signs with two hexadecimal digits. -/
def percentBytes (what : String) (start : Mark) : Nat → Reading (List UInt8)
  | 0 => pure []
  | fuel + 1 => do
    if (← peek 0) != '%' then pure []
    else
      advance 1
      for k in [0, 1] do
        let c ← peek k
        if (hexValue? c).isNone then
          problem .tokens ("while scanning a " ++ what) start
            ("expected URI escape sequence of 2 hexadecimal numbers, but found " ++ shown c)
      let code := hexNumber ((← get).rest.take 2)
      advance 2
      let more ← percentBytes what start fuel
      pure (UInt8.ofNat code :: more)

/-- Read the characters of a tag. -/
def tagChars (what : String) (start : Mark) : Nat → Reading (List Char)
  | 0 => pure []
  | fuel + 1 => do
    let c ← peek 0
    if c == '%' then
      let mark ← here
      let bytes ← percentBytes what start (fuel + 1)
      match Text.Utf8.decode bytes with
      | .ok text => pure (text ++ (← tagChars what start fuel))
      | .error fault =>
        throw (.at .tokens (some ("while scanning a " ++ what)) (some start) fault.message mark)
    else if isTagChar c then
      advance 1
      pure (c :: (← tagChars what start fuel))
    else pure []

/-- Read the nonempty name of a tag. -/
def tagName (what : String) (start : Mark) : Reading String := do
  let chars ← tagChars what start ((← get).rest.length + 1)
  if chars.isEmpty then
    problem .tokens ("while parsing a " ++ what) start
      ("expected URI, but found " ++ shown (← peek 0))
  pure (String.ofList chars)

/-- Read a tag. -/
def tag : Reading TagText := do
  let start ← here
  let c ← peek 1
  let value ←
    if c == '<' then do
      advance 2
      let suffix ← tagName "tag" start
      if (← peek 0) != '>' then
        problem .tokens "while parsing a tag" start
          ("expected '>', but found " ++ shown (← peek 0))
      advance 1
      pure (TagText.mk none suffix)
    else if isGap c then do
      advance 1
      pure (TagText.mk none "!")
    else do
      let word := ((← get).rest.drop 1).takeWhile fun c => !isSpaceOrBreak c
      let handle ←
        if word.contains '!' then tagHandle "tag" start
        else do
          advance 1
          pure "!"
      let suffix ← tagName "tag" start
      pure (TagText.mk (some handle) suffix)
  let c ← peek 0
  if !isSpaceOrBreak c then
    problem .tokens "while scanning a tag" start ("expected ' ', but found " ++ shown c)
  pure value

/-! ### Directives -/

/-- The context of problems in directives. -/
def inDirective : String := "while scanning a directive"

/-- Read a part of a version number. -/
def versionNumber (start : Mark) : Reading Nat := do
  let c ← peek 0
  if !c.isDigit then
    problem .tokens inDirective start ("expected a digit, but found " ++ shown c)
  return decimalNumber (← takeRun Char.isDigit)

/-- Read a directive up to the end of its line. -/
def directive : Reading DirectiveText := do
  let start ← here
  advance 1
  let name ← takeRun isNameChar
  let c ← peek 0
  if name.isEmpty || !isSpaceOrBreak c then
    problem .tokens inDirective start
      ("expected alphabetic or numeric character, but found " ++ shown c)
  let value ←
    if name == "YAML".toList then do
      let _ ← takeRun (· == ' ')
      let major ← versionNumber start
      if (← peek 0) != '.' then
        problem .tokens inDirective start
          ("expected a digit or '.', but found " ++ shown (← peek 0))
      advance 1
      let minor ← versionNumber start
      if !isSpaceOrBreak (← peek 0) then
        problem .tokens inDirective start
          ("expected a digit or ' ', but found " ++ shown (← peek 0))
      pure (DirectiveText.version major minor)
    else if name == "TAG".toList then do
      let _ ← takeRun (· == ' ')
      let handle ← tagHandle "directive" start
      if (← peek 0) != ' ' then
        problem .tokens inDirective start ("expected ' ', but found " ++ shown (← peek 0))
      let _ ← takeRun (· == ' ')
      let text ← tagName "directive" start
      if !isSpaceOrBreak (← peek 0) then
        problem .tokens inDirective start ("expected ' ', but found " ++ shown (← peek 0))
      pure (DirectiveText.tag handle text)
    else do
      let _ ← takeRun fun c => !isBreakOrEnd c
      pure DirectiveText.other
  ignoreLine inDirective start
  pure value

/-! ### Quoted scalars -/

/-- The character that a simple escape stands for. -/
def escaped? (c : Char) : Option Char :=
  [('0', 0x00), ('a', 0x07), ('b', 0x08), ('t', 0x09), ('\t', 0x09), ('n', 0x0a), ('v', 0x0b),
    ('f', 0x0c), ('r', 0x0d), ('e', 0x1b), (' ', 0x20), ('"', 0x22), ('\\', 0x5c), ('/', 0x2f),
    ('N', 0x85), ('_', 0xa0), ('L', 0x2028), ('P', 0x2029)].lookup c |>.map Char.ofNat

/-- The number of hexadecimal digits of a numeric escape. -/
def escapeLength? (c : Char) : Option Nat := [('x', 2), ('u', 4), ('U', 8)].lookup c

/-- Read the line breaks inside a quoted scalar, with the blanks that begin the lines. -/
def quotedBreaks (start : Mark) : Nat → Reading (List Char)
  | 0 => pure []
  | fuel + 1 => do
    if ← atSeparator then
      problem .tokens "while scanning a quoted scalar" start "found unexpected document separator"
    let _ ← takeRun fun c => c == ' ' || c == '\t'
    if isBreak (← peek 0) then
      let first ← lineBreak
      pure (first ++ (← quotedBreaks start fuel))
    else pure []

/-- Read the blanks between two words of a quoted scalar, folding line breaks. -/
def quotedBlanks (start : Mark) : Reading (List Char) := do
  let blanks ← takeRun fun c => c == ' ' || c == '\t'
  let c ← peek 0
  if c == endOfText then
    problem .tokens "while scanning a quoted scalar" start "found unexpected end of stream"
  else if isBreak c then
    let first ← lineBreak
    let more ← quotedBreaks start ((← get).rest.length + 1)
    pure ((if first != ['\n'] then first else if more.isEmpty then [' '] else []) ++ more)
  else pure blanks

/-- Read an escape of a double-quoted scalar, after the backslash. -/
def escapeSequence (start : Mark) : Reading (List Char) := do
  let context := "while scanning a double-quoted scalar"
  let c ← peek 0
  match escaped? c, escapeLength? c with
  | some x, _ =>
    advance 1
    pure [x]
  | none, some n =>
    advance 1
    for k in List.range n do
      let d ← peek k
      if (hexValue? d).isNone then
        problem .tokens context start
          ("expected escape sequence of " ++ toString n ++
            " hexadecimal numbers, but found " ++ shown d)
    let code := hexNumber ((← get).rest.take n)
    if 0x110000 ≤ code then
      throw (.value (.badValue "chr() arg not in range(0x110000)"))
    advance n
    pure [Char.ofNat code]
  | none, none =>
    if isBreak c then
      let _ ← lineBreak
      quotedBreaks start ((← get).rest.length + 1)
    else
      problem .tokens context start ("found unknown escape character " ++ shown c)

/-- Read a word of a quoted scalar. -/
def quotedWord (double : Bool) (start : Mark) : Nat → Reading (List Char)
  | 0 => pure []
  | fuel + 1 => do
    let run ← takeRun fun c => !(isGap c || c == '\'' || c == '"' || c == '\\')
    let c ← peek 0
    if !double && c == '\'' && (← peek 1) == '\'' then
      advance 2
      pure (run ++ '\'' :: (← quotedWord double start fuel))
    else if (double && c == '\'') || (!double && (c == '"' || c == '\\')) then
      advance 1
      pure (run ++ c :: (← quotedWord double start fuel))
    else if double && c == '\\' then
      advance 1
      let chars ← escapeSequence start
      pure (run ++ chars ++ (← quotedWord double start fuel))
    else pure run

/-- Read the words of a quoted scalar up to its closing quote. -/
def quotedWords (double : Bool) (quote : Char) (start : Mark) : Nat → Reading (List Char)
  | 0 => pure []
  | fuel + 1 => do
    if (← peek 0) == quote then pure []
    else
      let blanks ← quotedBlanks start
      let word ← quotedWord double start ((← get).rest.length + 1)
      pure (blanks ++ word ++ (← quotedWords double quote start fuel))

/-- Read a quoted scalar. -/
def flowScalar : Reading (List Char) := do
  let start ← here
  let quote ← peek 0
  let double := quote == '"'
  advance 1
  let fuel := (← get).rest.length + 2
  let first ← quotedWord double start fuel
  let more ← quotedWords double quote start fuel
  advance 1
  pure (first ++ more)

/-! ### Plain scalars -/

/-- Read the breaks between the lines of a plain scalar; nothing if a document ends there. -/
def plainBreaks : Nat → Reading (Option (List Char))
  | 0 => pure (some [])
  | fuel + 1 => do
    if (← peek 0) == ' ' then
      advance 1
      plainBreaks fuel
    else if isBreak (← peek 0) then
      let first ← lineBreak
      if ← atSeparator then pure none
      else
        match ← plainBreaks fuel with
        | some more => pure (some (first ++ more))
        | none => pure none
    else pure (some [])

/-- Read the blanks after a word of a plain scalar: the folded blanks, and whether a line ended. -/
def plainBlanks : Reading (List Char × Bool) := do
  let blanks ← takeRun (· == ' ')
  if isBreak (← peek 0) then
    let first ← lineBreak
    if ← atSeparator then pure ([], true)
    else
      match ← plainBreaks ((← get).rest.length + 1) with
      | none => pure ([], true)
      | some more =>
        pure ((if first != ['\n'] then first else if more.isEmpty then [' '] else []) ++ more, true)
  else pure (blanks, false)

/-- The word of a plain scalar at the beginning of a text. -/
def plainWord (inFlow : Bool) : List Char → List Char
  | [] => []
  | c :: rest =>
    let next := rest.head?.getD endOfText
    let indicator (x : Char) := x == ',' || x == '[' || x == ']' || x == '{' || x == '}'
    if isGap c || (c == ':' && (isGap next || (inFlow && indicator next))) ||
        (inFlow && (c == '?' || indicator c)) then []
    else c :: plainWord inFlow rest

/-- Read the words of a plain scalar after the blanks in hand: the text, the place where the last word
ends, and whether a line ended after it. -/
def plainWords (inFlow : Bool) (indent : Int) (blanks : List Char) (last : Mark)
    (broke : Bool) : Nat → Reading (List Char × Mark × Bool)
  | 0 => pure ([], last, broke)
  | fuel + 1 => do
    if (← peek 0) == '#' then pure ([], last, broke)
    else
      let word := plainWord inFlow (← get).rest
      if word.isEmpty then pure ([], last, broke)
      else
        advance word.length
        let stop ← here
        let (more, broke) ← plainBlanks
        let column : Int := (← get).column
        if more.isEmpty || (← peek 0) == '#' || (!inFlow && column < indent) then
          pure (blanks ++ word, stop, broke)
        else
          let (rest, stop, broke) ← plainWords inFlow indent more stop broke fuel
          pure (blanks ++ word ++ rest, stop, broke)

/-- Read a plain scalar inside the indentation `indent`: its text, its end, and whether the cursor
stands on a new line. -/
def plainScalar (inFlow : Bool) (indent : Int) : Reading (List Char × Mark × Bool) := do
  plainWords inFlow indent [] (← here) false ((← get).rest.length + 1)

/-! ### Block scalars -/

/-- What happens to the line breaks at the end of a block scalar. -/
inductive Chomping
  | strip
  | clip
  | keep
  deriving DecidableEq

/-- Read an explicit indentation. -/
def indentationDigit (start : Mark) : Reading (Option Nat) := do
  let c ← peek 0
  if c.isDigit then
    if c == '0' then
      problem .tokens "while scanning a block scalar" start
        "expected indentation indicator in the range 1-9, but found 0"
    advance 1
    pure (some (c.toNat - 0x30))
  else pure none

/-- Read a chomping indicator. -/
def chompingSign : Reading (Option Chomping) := do
  let c ← peek 0
  if c == '+' then
    advance 1
    pure (some .keep)
  else if c == '-' then
    advance 1
    pure (some .strip)
  else pure none

/-- Read the indicators of a block scalar, in either order. -/
def blockIndicators (start : Mark) : Reading (Chomping × Option Nat) := do
  let result ← (do
    match ← chompingSign with
    | some chomping => pure (chomping, ← indentationDigit start)
    | none =>
      match ← indentationDigit start with
      | some n => pure ((← chompingSign).getD .clip, some n)
      | none => pure (.clip, none))
  let c ← peek 0
  if !isSpaceOrBreak c then
    problem .tokens "while scanning a block scalar" start
      ("expected chomping or indentation indicators, but found " ++ shown c)
  pure result

/-- Read the empty lines before the first line of a block scalar: the breaks, and the greatest
column reached. -/
def leadingLines (widest : Nat) : Nat → Reading (List Char × Nat)
  | 0 => pure ([], widest)
  | fuel + 1 => do
    let c ← peek 0
    if c == ' ' then
      advance 1
      leadingLines (max widest (← get).column) fuel
    else if isBreak c then
      let first ← lineBreak
      let (more, widest) ← leadingLines widest fuel
      pure (first ++ more, widest)
    else pure ([], widest)

/-- Pass over the indentation of a line, at most up to a column. -/
def skipIndent (indent : Nat) : Reading Unit := do
  let c ← get
  let blanks := (c.rest.takeWhile (· == ' ')).length
  advance (min blanks (indent - c.column))

/-- Read the empty lines between the lines of a block scalar. -/
def emptyLines (indent : Nat) : Nat → Reading (List Char)
  | 0 => pure []
  | fuel + 1 => do
    skipIndent indent
    if isBreak (← peek 0) then
      let first ← lineBreak
      pure (first ++ (← emptyLines indent fuel))
    else pure []

/-- Read the lines of a block scalar after the breaks in hand: the text, the last line break and the
breaks after it. -/
def blockLines (folded : Bool) (indent : Nat) (breaks : List Char) :
    Nat → Reading (List Char × List Char × List Char)
  | 0 => pure ([], [], breaks)
  | fuel + 1 => do
    let leading := !((← peek 0) == ' ' || (← peek 0) == '\t')
    let line ← takeRun fun c => !isBreakOrEnd c
    let ending ← lineBreak
    let more ← emptyLines indent ((← get).rest.length + 1)
    if (← get).column == indent && (← peek 0) != endOfText then
      let next ← peek 0
      let glue :=
        if folded && ending == ['\n'] && leading && !(next == ' ' || next == '\t') then
          (if more.isEmpty then [' '] else [])
        else ending
      let (rest, lastBreak, after) ← blockLines folded indent more fuel
      pure (breaks ++ line ++ glue ++ rest, lastBreak, after)
    else pure (breaks ++ line, ending, more)

/-- Read a block scalar inside the indentation `parent`. -/
def blockScalar (parent : Int) : Reading (List Char) := do
  let start ← here
  let folded := (← peek 0) == '>'
  advance 1
  let (chomping, explicit) ← blockIndicators start
  ignoreLine "while scanning a block scalar" start
  let least := (max (parent + 1) 1).toNat
  let fuel := (← get).rest.length + 1
  let (breaks, indent) ← (do
    match explicit with
    | none =>
      let (breaks, widest) ← leadingLines 0 fuel
      pure (breaks, max least widest)
    | some n =>
      let indent := least + n - 1
      pure (← emptyLines indent fuel, indent))
  let (text, lastBreak, after) ←
    if (← get).column == indent && (← peek 0) != endOfText then
      blockLines folded indent breaks fuel
    else pure ([], [], breaks)
  pure <| text ++ (if chomping == .strip then [] else lastBreak) ++
    (if chomping == .keep then after else [])

end StaticSite.Yaml
