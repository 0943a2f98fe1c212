import StaticSite.Template.Grammar

/-!
# The grammar of statements

A body is a run of texts, expressions to print and statements, up to a statement word that ends it.
A statement may have bodies of its own, so the reader of bodies is built level by level, once for each
token that could open a statement.

## Main definitions

* `bodyUntil`: a body up to one of the words that end it.
* `Parsed`, `readBody`: a whole template.
-/

namespace StaticSite.Template

open Reading

/-- A body up to a statement that begins with one of these words; the word is the current token. -/
abbrev BodyReader := List String → Reading (List Stmt)

/-- A body and the brace before it; the template may not end first. -/
def block (body : BodyReader) (endings : List String) : Reading (List Stmt) := do
  let _ ← accept (.operator ":")
  let _ ← expect .blockEnd
  let stmts ← body endings
  if (← kind) == .eof then
    modify fun r => { r with endings := endings :: r.endings }
    complainOfEnd none
  pure stmts

/-- A body that only one word ends, with that word. -/
def closedBlock (body : BodyReader) (ending : String) : Reading (List Stmt) := do
  let stmts ← block body [ending]
  let _ ← advance
  pure stmts

/-- The current token is a word and the next one is another word. -/
def atWords (first second : String) : Reading Bool := do
  if (← atWord first) then pure ((← nextKind) == .name second) else pure false

/-- `with context` or `without context`, if it stands there. -/
def contextWords : Reading (Option Bool) := do
  if (← atWords "with" "context") then
    let _ ← advance
    let _ ← advance
    pure (some true)
  else if (← atWords "without" "context") then
    let _ ← advance
    let _ ← advance
    pure (some false)
  else pure none

/-! ### Statements -/

/-- A loop. -/
def loopStmt (body : BodyReader) : Reading Stmt := do
  expectWord "for"
  let target ← assignTarget ["in"] false
  expectWord "in"
  let source ← expressions false ["recursive"]
  let test ← if (← acceptWord "if") then some <$> expression else pure none
  let recursive ← acceptWord "recursive"
  let stmts ← block body ["endfor", "else"]
  let ending ← advance
  let otherwise ← if ending.kind == .name "endfor" then pure [] else closedBlock body "endfor"
  pure (.loop target source test recursive stmts otherwise)

/-- The conditions after the first one, and the last body. -/
def branches (body : BodyReader) : Nat → List (Expr × List Stmt) →
    Reading (List (Expr × List Stmt) × List Stmt)
  | 0, others => pure (others.reverse, [])
  | fuel + 1, others => do
    let ending ← advance
    if ending.kind == .name "elif" then
      let test ← expressions false []
      let stmts ← block body ["elif", "else", "endif"]
      branches body fuel ((test, stmts) :: others)
    else if ending.kind == .name "else" then
      pure (others.reverse, ← closedBlock body "endif")
    else pure (others.reverse, [])

/-- A choice between bodies. -/
def branchStmt (body : BodyReader) : Reading Stmt := do
  expectWord "if"
  let test ← expressions false []
  let stmts ← block body ["elif", "else", "endif"]
  let (others, otherwise) ← branches body (← remaining) []
  pure (.branch test stmts others otherwise)

/-- An assignment. -/
def setStmt (body : BodyReader) : Reading Stmt := do
  let _ ← advance
  let target ← assignTarget [] true
  if (← accept (.operator "=")) then pure (.assign target (← expressions true []))
  else
    let filter ← filterChain false
    pure (.assignBlock target filter (← closedBlock body "endset"))

/-- Bindings with commas between them. -/
def bindings : Nat → List (Target × Expr) → Reading (List (Target × Expr))
  | 0, all => pure all.reverse
  | fuel + 1, all => do
    if (← kind) == .blockEnd then pure all.reverse
    else
      if !all.isEmpty then expectOperator ","
      let target ← assignTarget [] false
      expectOperator "="
      bindings fuel ((target, ← expression) :: all)

/-- A body with names of its own. -/
def withStmt (body : BodyReader) : Reading Stmt := do
  let _ ← advance
  let all ← bindings (← remaining) []
  pure (.withBlock all (← closedBlock body "endwith"))

/-- A text without anything but blanks. -/
def isBlankText (s : String) : Bool := !s.isEmpty && s.toList.all Text.isBlank

/-- A body that holds comments and blanks only. -/
def isHollow (stmts : List Stmt) : Bool :=
  stmts.all fun s => match s with
    | .output pieces => pieces.all fun p => match p with
      | .data s => isBlankText s
      | .print _ => false
    | _ => false

/-- A block. -/
def blockStmt (body : BodyReader) : Reading Stmt := do
  let _ ← advance
  let name ← expectName
  let seesScope ← acceptWord "scoped"
  let required ← acceptWord "required"
  if (← atOperator "-") then
    fail "Block names in Jinja have to be valid Python identifiers and may not contain hyphens, use an underscore instead."
  let stmts ← closedBlock body "endblock"
  if required && !isHollow stmts then fail "Required blocks can only contain comments or whitespace"
  let _ ← acceptWord name
  pure (.block name seesScope required stmts)

/-- The template that is extended. -/
def extendsStmt : Reading Stmt := do
  let _ ← advance
  pure (.extending (← expression))

/-- The output of another template. -/
def includeStmt : Reading Stmt := do
  let _ ← advance
  let template ← expression
  let ignoreMissing ← atWords "ignore" "missing"
  if ignoreMissing then
    let _ ← advance
    let _ ← advance
  pure (.including template ignoreMissing ((← contextWords).getD true))

/-- The names of another template, under one name. -/
def importStmt : Reading Stmt := do
  let _ ← advance
  let template ← expression
  expectWord "as"
  let name ← targetName
  pure (.importAs template name ((← contextWords).getD false))

/-- The names to import. -/
def importNames : Nat → List (String × String) → Reading (List (String × String) × Bool)
  | 0, names => pure (names.reverse, false)
  | fuel + 1, names => do
    if !names.isEmpty then expectOperator ","
    match (← contextWords) with
    | some withContext => pure (names.reverse, withContext)
    | none =>
      let name ← targetName
      if name.startsWith "_" then fail "names starting with an underline can not be imported"
      let newName ← if (← acceptWord "as") then targetName else pure name
      let names := (name, newName) :: names
      match (← contextWords) with
      | some withContext => pure (names.reverse, withContext)
      | none => if (← atOperator ",") then importNames fuel names else pure (names.reverse, false)

/-- Some names of another template. -/
def fromStmt : Reading Stmt := do
  let line := (← advance).line
  let template ← expression
  expectWord "import"
  let (names, withContext) ← importNames (← remaining) []
  pure (.importFrom template names withContext line)

/-- Parameters up to the closing bracket. -/
def parameters : Nat → Signature → Reading Signature
  | 0, s => pure s
  | fuel + 1, s => do
    if (← atOperator ")") then pure s
    else
      if !s.params.isEmpty then expectOperator ","
      let name ← targetName
      if (← accept (.operator "=")) then
        parameters fuel ⟨s.params ++ [name], s.defaults ++ [← expression]⟩
      else if !s.defaults.isEmpty then fail "non-default argument follows default argument"
      else parameters fuel ⟨s.params ++ [name], s.defaults⟩

/-- The parameters of a macro. -/
def signature : Reading Signature := do
  expectOperator "("
  let s ← parameters (← remaining) ⟨[], []⟩
  expectOperator ")"
  pure s

/-- A macro. -/
def macroStmt (body : BodyReader) : Reading Stmt := do
  let _ ← advance
  let name ← targetName
  let s ← signature
  pure (.macroDef name s (← closedBlock body "endmacro"))

/-- A call that is given a body. -/
def callStmt (body : BodyReader) : Reading Stmt := do
  let _ ← advance
  let s ← if (← atOperator "(") then signature else pure ⟨[], []⟩
  let call ← expression
  match call with
  | .call _ _ _ _ _ => pure (.callBlock call s (← closedBlock body "endcall"))
  | _ => fail "expected call"

/-- A body passed through filters. -/
def filterStmt (body : BodyReader) : Reading Stmt := do
  let _ ← advance
  let filter ← filterChain true
  pure (.filterBlock (filter.getD .hole) (← closedBlock body "endfilter"))

/-- A body with or without escaping. -/
def escapingStmt (body : BodyReader) : Reading Stmt := do
  let _ ← advance
  let value ← expression
  pure (.escaping value (← closedBlock body "endautoescape"))

/-- Expressions to print, with commas between them. -/
def printItems : Nat → List Piece → Reading (List Piece)
  | 0, pieces => pure pieces.reverse
  | fuel + 1, pieces => do
    if (← kind) == .blockEnd then pure pieces.reverse
    else
      if !pieces.isEmpty then expectOperator ","
      printItems fuel (.print (← expression) :: pieces)

/-- A statement that prints. -/
def printStmt : Reading Stmt := do
  let _ ← advance
  pure (.output (← printItems (← remaining) []))

/-- The reader of the statement with this word. -/
def statementOf? (body : BodyReader) (word : String) : Option (Reading Stmt) :=
  [("for", loopStmt body), ("if", branchStmt body), ("block", blockStmt body),
    ("extends", extendsStmt), ("print", printStmt), ("macro", macroStmt body),
    ("include", includeStmt), ("from", fromStmt), ("import", importStmt), ("set", setStmt body),
    ("with", withStmt body), ("autoescape", escapingStmt body), ("call", callStmt body),
    ("filter", filterStmt body)].lookup word

/-- A statement at its word. -/
def statement (body : BodyReader) : Reading Stmt := do
  match (← kind) with
  | .name word =>
    match statementOf? body word with
    | none => complainOfEnd (some word)
    | some read =>
      modify fun r => { r with opened := word :: r.opened }
      let s ← read
      modify fun r => { r with opened := r.opened.drop 1 }
      pure s
  | _ => fail "tag name expected"

/-! ### Bodies -/

/-- The statements read so far with the pieces of an output after them; both are in reverse order. -/
def flush (stmts : List Stmt) (pieces : List Piece) : List Stmt :=
  if pieces.isEmpty then stmts else .output pieces.reverse :: stmts

/-- The items of a body; `stmts` and `pieces` hold what was read, in reverse order. -/
def bodyItems (body : BodyReader) (endings : List String) : Nat → List Stmt → List Piece →
    Reading (List Stmt)
  | 0, stmts, pieces => pure (flush stmts pieces).reverse
  | fuel + 1, stmts, pieces => do
    match (← kind) with
    | .data s =>
      let _ ← advance
      bodyItems body endings fuel stmts (.data s :: pieces)
    | .printBegin =>
      let _ ← advance
      let e ← expressions true []
      let _ ← expect .printEnd
      bodyItems body endings fuel stmts (.print e :: pieces)
    | .blockBegin =>
      let _ ← advance
      let isEnd ← match (← kind) with
        | .name word => pure (endings.contains word)
        | _ => pure false
      if isEnd then pure (flush stmts pieces).reverse
      else
        let s ← statement body
        let _ ← expect .blockEnd
        bodyItems body endings fuel (s :: flush stmts pieces) []
    | _ => pure (flush stmts pieces).reverse

/-- The reader of bodies with at most `n` levels of statements. -/
def bodyAt : Nat → BodyReader
  | 0, _ => throw .tooDeep
  | n + 1, endings => do
    if !endings.isEmpty then modify fun r => { r with endings := endings :: r.endings }
    let stmts ← bodyItems (bodyAt n) endings ((← remaining) + 1) [] []
    if !endings.isEmpty then modify fun r => { r with endings := r.endings.drop 1 }
    pure stmts

/-- A template that has been read. -/
structure Parsed where
  /-- The name of the template. -/
  name : String
  /-- Its body. -/
  body : List Stmt
  deriving Inhabited

/-- Read a template. -/
def readBody (source : String) : Except Failure (List Stmt) :=
  let ts := tokens source
  match ts.list, ts.fault with
  | [], some message => .error (.template .grammar message)
  | list, fault => ((bodyAt (list.length + 1) []).run ⟨list, fault, [], []⟩).map (·.1)

end StaticSite.Template
