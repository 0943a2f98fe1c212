import StaticSite.Yaml.Lexeme

/-!
# Tokens of settings texts

The tokens of a settings text, produced on demand. Indentation opens and closes block collections;
a scalar, alias or flow collection may turn out to be a key when a colon follows it on the same line,
so its place in the queue of tokens is remembered until that is decided.

## Main definitions

* `Token`, `Kind`: a token and what it is.
* `Stream`: the tokens in hand and what decides about the next ones.
* `Stream.peek`, `Stream.next`: the next token, left or taken.
-/

namespace StaticSite.Yaml

/-- What a token is. -/
inductive Kind
  | streamStart
  | streamEnd
  | directive (text : DirectiveText)
  | documentStart
  | documentEnd
  | blockSequenceStart
  | blockMappingStart
  | blockEnd
  | flowSequenceStart
  | flowMappingStart
  | flowSequenceEnd
  | flowMappingEnd
  | flowEntry
  | blockEntry
  | key
  | value
  | aliasName (name : String)
  | anchor (name : String)
  | tag (text : TagText)
  | scalar (text : String) (style : Style)
  deriving DecidableEq, Repr

/-- The name of a kind in messages. -/
def Kind.name : Kind → String
  | streamStart => "<stream start>"
  | streamEnd => "<stream end>"
  | directive _ => "<directive>"
  | documentStart => "<document start>"
  | documentEnd => "<document end>"
  | blockSequenceStart => "<block sequence start>"
  | blockMappingStart => "<block mapping start>"
  | blockEnd => "<block end>"
  | flowSequenceStart => "["
  | flowMappingStart => "\x7b"
  | flowSequenceEnd => "]"
  | flowMappingEnd => "\x7d"
  | flowEntry => ","
  | blockEntry => "-"
  | key => "?"
  | value => ":"
  | aliasName _ => "<alias>"
  | anchor _ => "<anchor>"
  | tag _ => "<tag>"
  | scalar _ _ => "<scalar>"

/-- A token with its place. -/
structure Token where
  /-- What it is. -/
  kind : Kind
  /-- Where it begins. -/
  start : Mark
  /-- Where it ends. -/
  stop : Mark
  deriving Repr

/-- A place where a key may begin. -/
structure PossibleKey where
  /-- The depth of flow collections around it. -/
  level : Int
  /-- The number of tokens before it. -/
  number : Nat
  /-- Nothing else than a key may stand there. -/
  required : Bool
  /-- Where it begins. -/
  mark : Mark

/-- The tokens in hand and what decides about the next ones. -/
structure Stream where
  /-- Where reading goes on. -/
  cursor : Cursor
  /-- The end has been read. -/
  done : Bool := false
  /-- The depth of flow collections. -/
  flowLevel : Int := 0
  /-- The number of tokens taken. -/
  taken : Nat := 0
  /-- The tokens in hand. -/
  queue : List Token := []
  /-- The indentation of the innermost block collection. -/
  indent : Int := -1
  /-- The indentations around it. -/
  indents : List Int := []
  /-- A key may begin here. -/
  allowKey : Bool := true
  /-- The places where a key may begin. -/
  keys : List PossibleKey := []

/-- Computations on a stream. -/
abbrev Streaming := StateT Stream (Except Fault)

namespace Stream

/-- Run a computation on the cursor. -/
def reading (r : Reading α) : Streaming α := do
  let s ← get
  match r.run s.cursor with
  | .ok (a, c) =>
    set { s with cursor := c }
    pure a
  | .error f => throw f

/-- Append a token. -/
def push (kind : Kind) (start stop : Mark) : Streaming Unit :=
  modify fun s => { s with queue := s.queue ++ [⟨kind, start, stop⟩] }

/-- The problem of a required key that never came. -/
def missingColon (key : PossibleKey) : Streaming Unit := do
  throw (.at .tokens (some "while scanning a simple key") (some key.mark)
    "could not find expected ':'" (← get).cursor.mark)

/-- Forget the possible keys that end on an earlier line or began too long ago. -/
def dropStaleKeys : Streaming Unit := do
  let s ← get
  let c := s.cursor
  let stale (k : PossibleKey) := k.mark.line != c.line || 1024 < c.index - k.mark.index
  match s.keys.find? fun k => stale k && k.required with
  | some k => missingColon k
  | none => set { s with keys := s.keys.filter fun k => !stale k }

/-- Forget the possible key of the current flow level. -/
def dropKey : Streaming Unit := do
  let s ← get
  match s.keys.find? fun k => k.level == s.flowLevel with
  | none => pure ()
  | some k =>
    if k.required then missingColon k
    else set { s with keys := s.keys.filter fun k => k.level != s.flowLevel }

/-- Remember that a key may begin at the cursor. -/
def saveKey : Streaming Unit := do
  let s ← get
  if s.allowKey then
    let required := s.flowLevel == 0 && s.indent == Int.ofNat s.cursor.column
    let key : PossibleKey :=
      ⟨s.flowLevel, s.taken + s.queue.length, required, s.cursor.mark⟩
    dropKey
    modify fun s => { s with keys := s.keys ++ [key] }

/-- Close the block collections that are indented deeper than a column. -/
def unwindTo (column : Int) : List Int → Streaming Unit
  | [] => pure ()
  | outer :: others => do
    let s ← get
    if column < s.indent then
      let m := s.cursor.mark
      set { s with indent := outer, indents := others, queue := s.queue ++ [Token.mk .blockEnd m m] }
      unwindTo column others

/-- Close the block collections that are indented deeper than a column; flow collections ignore
indentation. -/
def unwind (column : Int) : Streaming Unit := do
  let s ← get
  if s.flowLevel == 0 then unwindTo column s.indents

/-- Open a deeper indentation, if the column is one. -/
def addIndent (column : Int) : Streaming Bool := do
  let s ← get
  if s.indent < column then
    set { s with indent := column, indents := s.indent :: s.indents }
    pure true
  else pure false

/-- Allow or forbid a key at the next token. -/
def setAllowKey (b : Bool) : Streaming Unit := modify fun s => { s with allowKey := b }

/-- A problem at the cursor without a context. -/
def misplaced (text : String) : Streaming α := do
  throw (.at .tokens none none text (← get).cursor.mark)

/-- Pass over blanks, comments and line breaks. -/
def skipBlanks : Nat → Streaming Unit
  | 0 => pure ()
  | fuel + 1 => do
    let _ ← reading (takeRun (· == ' '))
    if (← reading (peek 0)) == '#' then
      let _ ← reading (takeRun fun c => !isBreakOrEnd c)
    let ending ← reading lineBreak
    if !ending.isEmpty then
      if (← get).flowLevel == 0 then setAllowKey true
      skipBlanks fuel

/-- Read a token of `n` characters. -/
def fixed (kind : Kind) (n : Nat) : Streaming Unit := do
  let start ← reading here
  reading (advance n)
  push kind start (← reading here)

/-- Read a lexeme as a token. -/
def lexeme (r : Reading Kind) : Streaming Unit := do
  let start ← reading here
  let kind ← reading r
  push kind start (← reading here)

/-- Close every block collection before something that stands outside of them. -/
def leaveBlocks : Streaming Unit := do
  unwind (-1)
  dropKey
  setAllowKey false

/-- Read the end of the stream. -/
def fetchEnd : Streaming Unit := do
  leaveBlocks
  let m ← reading here
  modify fun s => { s with keys := [], done := true }
  push .streamEnd m m

/-- Read the beginning of a flow collection. -/
def fetchFlowStart (kind : Kind) : Streaming Unit := do
  saveKey
  modify fun s => { s with flowLevel := s.flowLevel + 1, allowKey := true }
  fixed kind 1

/-- Read the end of a flow collection. -/
def fetchFlowEnd (kind : Kind) : Streaming Unit := do
  dropKey
  modify fun s => { s with flowLevel := s.flowLevel - 1, allowKey := false }
  fixed kind 1

/-- Open a block collection at the cursor, if its column is a deeper indentation. -/
def openBlock (kind : Kind) : Streaming Unit := do
  let m ← reading here
  if ← addIndent m.column then push kind m m

/-- Read the indicator of a block sequence entry. -/
def fetchBlockEntry : Streaming Unit := do
  if (← get).flowLevel == 0 then
    if !(← get).allowKey then misplaced "sequence entries are not allowed here"
    openBlock .blockSequenceStart
  setAllowKey true
  dropKey
  fixed .blockEntry 1

/-- Read the indicator of a key. -/
def fetchKey : Streaming Unit := do
  let outside := (← get).flowLevel == 0
  if outside then
    if !(← get).allowKey then misplaced "mapping keys are not allowed here"
    openBlock .blockMappingStart
  setAllowKey outside
  dropKey
  fixed .key 1

/-- Insert a token into the queue. -/
def insertAt (position : Nat) (kind : Kind) (m : Mark) : Streaming Unit :=
  modify fun s =>
    { s with queue := s.queue.take position ++ [Token.mk kind m m] ++ s.queue.drop position }

/-- Read the indicator of a value; what stood before it may become a key. -/
def fetchValue : Streaming Unit := do
  let s ← get
  match s.keys.find? fun k => k.level == s.flowLevel with
  | some k =>
    set { s with keys := s.keys.filter fun k => k.level != s.flowLevel }
    let position := k.number - s.taken
    insertAt position .key k.mark
    if s.flowLevel == 0 then
      if ← addIndent k.mark.column then insertAt position .blockMappingStart k.mark
    setAllowKey false
  | none =>
    let outside := s.flowLevel == 0
    if outside then
      if !s.allowKey then misplaced "mapping values are not allowed here"
      openBlock .blockMappingStart
    setAllowKey outside
    dropKey
  fixed .value 1

/-- Read a lexeme that may be a key. -/
def fetchKeyLike (r : Reading Kind) : Streaming Unit := do
  saveKey
  setAllowKey false
  lexeme r

/-- Read a plain scalar. -/
def fetchPlain : Streaming Unit := do
  saveKey
  setAllowKey false
  let start ← reading here
  let s ← get
  let (text, stop, broke) ← reading (plainScalar (s.flowLevel != 0) (s.indent + 1))
  if broke then setAllowKey true
  push (.scalar (String.ofList text) .plain) start stop

/-- Read a block scalar. -/
def fetchBlock : Streaming Unit := do
  setAllowKey true
  dropKey
  let parent := (← get).indent
  lexeme do return .scalar (String.ofList (← blockScalar parent)) .block

/-- A plain scalar may begin with the character `c` before the character `next`. -/
def beginsPlain (inFlow : Bool) (c next : Char) : Bool :=
  !(isGap c || "-?:,[]\x7b\x7d#&*!|>'\"%@`".toList.contains c) ||
    (!isGap next && (c == '-' || (!inFlow && (c == '?' || c == ':'))))

/-- Read the next token into the queue. -/
def fetch : Streaming Unit := do
  skipBlanks ((← get).cursor.rest.length + 1)
  dropStaleKeys
  unwind (← get).cursor.column
  let s ← get
  let c := s.cursor.peek 0
  let next := s.cursor.peek 1
  let inFlow := s.flowLevel != 0
  let three := s.cursor.rest.take 3
  let marker := s.cursor.column == 0 && isGap (s.cursor.peek 3)
  if c == endOfText && s.cursor.rest.isEmpty then fetchEnd
  else if c == '%' && s.cursor.column == 0 then
    leaveBlocks
    lexeme do return .directive (← directive)
  else if marker && three == ['-', '-', '-'] then
    leaveBlocks
    fixed .documentStart 3
  else if marker && three == ['.', '.', '.'] then
    leaveBlocks
    fixed .documentEnd 3
  else if c == '[' then fetchFlowStart .flowSequenceStart
  else if c == '{' then fetchFlowStart .flowMappingStart
  else if c == ']' then fetchFlowEnd .flowSequenceEnd
  else if c == '}' then fetchFlowEnd .flowMappingEnd
  else if c == ',' then
    setAllowKey true
    dropKey
    fixed .flowEntry 1
  else if c == '-' && isGap next then fetchBlockEntry
  else if c == '?' && (inFlow || isGap next) then fetchKey
  else if c == ':' && (inFlow || isGap next) then fetchValue
  else if c == '*' then fetchKeyLike do return .aliasName (← anchorName)
  else if c == '&' then fetchKeyLike do return .anchor (← anchorName)
  else if c == '!' then fetchKeyLike do return .tag (← tag)
  else if (c == '|' || c == '>') && !inFlow then fetchBlock
  else if c == '\'' || c == '"' then
    fetchKeyLike do return .scalar (String.ofList (← flowScalar)) .quoted
  else if beginsPlain inFlow c next then fetchPlain
  else
    throw (.at .tokens (some "while scanning for the next token") none
      ("found character " ++ shown c ++ " that cannot start any token") s.cursor.mark)

/-- The first token in the queue may still move behind a key. -/
def undecided (s : Stream) : Bool := s.keys.any fun k => k.number == s.taken

/-- Read tokens until the first one in the queue is decided. -/
def fill : Nat → Streaming Unit
  | 0 => throw .tooDeep
  | fuel + 1 => do
    if (← get).done then pure ()
    else if (← get).queue.isEmpty then
      fetch
      fill fuel
    else
      dropStaleKeys
      if (← get).undecided then
        fetch
        fill fuel

/-- The next token. -/
def peek : Streaming Token := do
  fill ((← get).cursor.rest.length + 2)
  let s ← get
  pure (s.queue.head?.getD ⟨.streamEnd, s.cursor.mark, s.cursor.mark⟩)

/-- Take the next token. -/
def next : Streaming Token := do
  let t ← peek
  modify fun s => { s with queue := s.queue.drop 1, taken := s.taken + 1 }
  pure t

/-- The stream of a text. A byte order mark at its beginning is passed over. -/
def ofText (text : List Char) : Stream :=
  let cursor : Cursor := { rest := text }
  { cursor := if text.head? == some (Char.ofNat 0xfeff) then cursor.step else cursor }

end Stream

end StaticSite.Yaml
