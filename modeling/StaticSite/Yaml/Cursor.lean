import StaticSite.Failure

/-!
# A cursor over a settings text

The position from which a settings text is read on: the characters that remain, with the index, line
and column of the first of them. A line ends at a line feed, a carriage return with or without a
line feed, a next-line control and the two separators; the byte order mark has no width.

## Main definitions

* `Mark`, `Fault`: a place in the text, and what is wrong there; `ScalarFault` for its scalars.
* `Cursor`, `Reading`: the position, and computations that move it and may fail.
* `peek`, `advance`, `lineBreak`: looking ahead and moving on.
-/

namespace StaticSite.Yaml

/-- A place in a text. -/
structure Mark where
  /-- The number of characters before it. -/
  index : Nat
  /-- The number of lines before it. -/
  line : Nat
  /-- The number of columns before it in its line. -/
  column : Nat
  deriving DecidableEq, Repr, Inhabited

/-- The wording of a place in the text called `name`. -/
def Mark.place (name : String) (m : Mark) : String :=
  "  in \"" ++ name ++ "\", line " ++ toString (m.line + 1) ++ ", column " ++ toString (m.column + 1)

/-- Why a scalar has no value of its type. -/
inductive ScalarFault
  /-- It is no word of the type. -/
  | missingKey (shown : String)
  /-- It is out of the range of the type. -/
  | badValue (text : String)
  /-- It has not the form of the type. -/
  | noAttribute (text : String)
  /-- It is too short. -/
  | outOfRange (text : String)
  deriving DecidableEq, Repr

/-- The failure that a scalar without a value amounts to. -/
def ScalarFault.failure : ScalarFault → Failure
  | .missingKey shown => .missingKey shown
  | .badValue text => .badValue text
  | .noAttribute text => .noAttribute text
  | .outOfRange text => .outOfRange text

/-- What is wrong with a text. -/
inductive Fault
  /-- A problem at a place, seen while something that began elsewhere was read. -/
  | at (stage : SettingsStage) (context : Option String) (contextMark : Option Mark)
      (problem : String) (mark : Mark)
  /-- A character that may not occur. -/
  | character (c : Char) (index : Nat)
  /-- A scalar without a value of its type. -/
  | value (fault : ScalarFault)
  /-- The structure nests too deeply. -/
  | tooDeep

/-- The failure that a fault of the text called `name` amounts to. The place of the context is left
out when the problem has the same one. -/
def Fault.failure (name : String) : Fault → Failure
  | .at stage context contextMark problem mark =>
    let contextLines := match context with
      | some text => [text]
      | none => []
    let contextPlace := match contextMark with
      | some m => if m.line == mark.line && m.column == mark.column then [] else [m.place name]
      | none => []
    .settings stage
      (String.intercalate "\n" (contextLines ++ contextPlace ++ [problem, mark.place name]))
  | .character c index =>
    .settings .characters
      ("unacceptable character #x" ++ String.ofList (Text.padded 16 4 c.toNat) ++
        ": special characters are not allowed\n  in \"" ++ name ++ "\", position " ++
        toString index)
  | .value fault => fault.failure
  | .tooDeep => .tooDeep

/-- The position in a text. -/
structure Cursor where
  /-- The characters that remain. -/
  rest : List Char
  /-- The number of characters read. -/
  index : Nat := 0
  /-- The number of lines read. -/
  line : Nat := 0
  /-- The number of columns read of the current line. -/
  column : Nat := 0

/-- A computation that moves a cursor and may find a fault. -/
abbrev Reading := StateT Cursor (Except Fault)

/-- The place of a cursor. -/
def Cursor.mark (c : Cursor) : Mark := ⟨c.index, c.line, c.column⟩

/-- The character that stands for the end of the text. -/
def endOfText : Char := Char.ofNat 0

/-- The character `k` places ahead. -/
def Cursor.peek (c : Cursor) (k : Nat) : Char := c.rest[k]?.getD endOfText

/-- The character ends a line. -/
def isBreak (c : Char) : Bool :=
  c == '\n' || c == '\r' || c.toNat == 0x85 || c.toNat == 0x2028 || c.toNat == 0x2029

/-- The character ends a line or the text. -/
def isBreakOrEnd (c : Char) : Bool := isBreak c || c == endOfText

/-- The character is a space, or ends a line or the text. -/
def isSpaceOrBreak (c : Char) : Bool := c == ' ' || isBreakOrEnd c

/-- The character is a space or a tab, or ends a line or the text. -/
def isGap (c : Char) : Bool := isSpaceOrBreak c || c == '\t'

/-- The character is one of an anchor, a handle or a directive's name. -/
def isNameChar (c : Char) : Bool := c.isAlphanum || c == '-' || c == '_'

/-- The cursor after one character. -/
def Cursor.step (c : Cursor) : Cursor :=
  match c.rest with
  | [] => c
  | x :: rest =>
    let ends := (isBreak x && x != '\r') || (x == '\r' && rest.head? != some '\n')
    if ends then { rest := rest, index := c.index + 1, line := c.line + 1, column := 0 }
    else
      { rest := rest, index := c.index + 1, line := c.line,
        column := if x.toNat == 0xfeff then c.column else c.column + 1 }

/-- The cursor after `n` characters. -/
def Cursor.advance : Nat → Cursor → Cursor
  | 0, c => c
  | n + 1, c => Cursor.advance n c.step

/-! ### Reading -/

/-- The place of the cursor. -/
def here : Reading Mark := return (← get).mark

/-- The character `k` places ahead. -/
def peek (k : Nat) : Reading Char := return (← get).peek k

/-- Move on by `n` characters. -/
def advance (n : Nat) : Reading Unit := modify (Cursor.advance n)

/-- A problem at the cursor. -/
def problem (stage : SettingsStage) (context : String) (start : Mark) (text : String) : Reading α := do
  throw (.at stage (some context) (some start) text (← here))

/-- A character in the wording of a problem. -/
def shown (c : Char) : String := Text.quote (String.singleton c)

/-- Read the longest run of a class. -/
def takeRun (p : Char → Bool) : Reading (List Char) := do
  let run := ((← get).rest.takeWhile p)
  advance run.length
  pure run

/-- Read the end of a line, if the cursor stands at one: the break that it stands for. -/
def lineBreak : Reading (List Char) := do
  let c ← peek 0
  if c == '\r' && (← peek 1) == '\n' then
    advance 2
    pure ['\n']
  else if c == '\r' || c == '\n' || c.toNat == 0x85 then
    advance 1
    pure ['\n']
  else if isBreak c then
    advance 1
    pure [c]
  else pure []

/-- A document separator stands at the cursor. -/
def atSeparator : Reading Bool := do
  let three := (← get).rest.take 3
  pure ((three == ['-', '-', '-'] || three == ['.', '.', '.']) && isGap (← peek 3))

/-- Pass over spaces, a comment and the end of the line; anything else is a problem. -/
def ignoreLine (context : String) (start : Mark) : Reading Unit := do
  let _ ← takeRun (· == ' ')
  if (← peek 0) == '#' then
    let _ ← takeRun fun c => !isBreakOrEnd c
  let c ← peek 0
  if !isBreakOrEnd c then
    problem .tokens context start
      ("expected a comment or a line break, but found " ++ shown c)
  let _ ← lineBreak

/-- Every character of a settings text is printable or a blank. -/
def isAdmissible (c : Char) : Bool :=
  let n := c.toNat
  n == 0x09 || n == 0x0a || n == 0x0d || (0x20 ≤ n && n ≤ 0x7e) || n == 0x85 ||
    (0xa0 ≤ n && n ≤ 0xd7ff) || (0xe000 ≤ n && n ≤ 0xfffd) || 0x10000 ≤ n

/-- The first character that may not occur, with its index. -/
def firstInadmissible? (index : Nat) : List Char → Option (Char × Nat)
  | [] => none
  | c :: cs => if isAdmissible c then firstInadmissible? (index + 1) cs else some (c, index)

end StaticSite.Yaml
