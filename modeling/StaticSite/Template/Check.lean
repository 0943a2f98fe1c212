import StaticSite.Template.Statement

/-!
# Checks before a template runs

A template that can be read may still be wrong in ways that show without running it: a filter or a test
that does not exist, a block that is defined twice, a template that is extended from inside a body, an
assignment to the name of the loop. A filter or a test that stands under a condition is let through, as
the condition may guard against it.

## Main definitions

* `knownFilters`, `knownTests`: the names of filters and tests.
* `checkTemplate`: the first complaint about a template.
-/

namespace StaticSite.Template

/-- The names of the filters. -/
def knownFilters : List String :=
  ["abs", "attr", "batch", "capitalize", "center", "count", "d", "default", "dictsort", "e", "escape",
    "filesizeformat", "first", "float", "forceescape", "format", "groupby", "indent", "int", "items",
    "join", "last", "length", "list", "lower", "map", "max", "min", "pprint", "random", "reject",
    "rejectattr", "replace", "reverse", "round", "safe", "select", "selectattr", "slice", "sort",
    "string", "striptags", "sum", "title", "tojson", "trim", "truncate", "unique", "upper",
    "urlencode", "urlize", "wordcount", "wordwrap", "xmlattr"]

/-- The names of the tests. -/
def knownTests : List String :=
  ["!=", "<", "<=", "==", ">", ">=", "boolean", "callable", "defined", "divisibleby", "eq", "equalto",
    "escaped", "even", "false", "filter", "float", "ge", "greaterthan", "gt", "in", "integer",
    "iterable", "le", "lessthan", "lower", "lt", "mapping", "ne", "none", "number", "odd", "sameas",
    "sequence", "string", "test", "true", "undefined", "upper"]

/-- The first complaint of several. -/
def firstOf (complaints : List (Option String)) : Option String := complaints.findSome? id

/-- The complaint about an unknown name. -/
def unknownName (kind name : String) : String :=
  "No " ++ kind ++ " named " ++ Text.quote name ++ "."

/-! ### Expressions -/

mutual

/-- The complaint about an expression; `soft` says that it stands under a condition. -/
def checkExpr (soft : Bool) : Expr → Option String
  | .literal _ => none
  | .name _ => none
  | .tuple items => checkExprs soft items
  | .list items => checkExprs soft items
  | .dict entries => checkEntries soft entries
  | .choice test yes no =>
    firstOf [checkExpr true test, checkExpr true yes, checkOption true no]
  | .both a b => firstOf [checkExpr soft a, checkExpr soft b]
  | .either a b => firstOf [checkExpr soft a, checkExpr soft b]
  | .opposite e => checkExpr soft e
  | .negative e => checkExpr soft e
  | .positive e => checkExpr soft e
  | .binary _ a b => firstOf [checkExpr soft a, checkExpr soft b]
  | .concat items => checkExprs soft items
  | .compare e rest => firstOf [checkExpr soft e, checkOperands soft rest]
  | .attribute e _ => checkExpr soft e
  | .entry e i => firstOf [checkExpr soft e, checkExpr soft i]
  | .slice a b c => firstOf [checkOption soft a, checkOption soft b, checkOption soft c]
  | .call f positional named rest namedRest =>
    firstOf [checkExpr soft f, checkExprs soft positional, checkNamed soft named,
      checkOption soft rest, checkOption soft namedRest]
  | .filter e name positional named rest namedRest =>
    if !soft && !knownFilters.contains name then some (unknownName "filter" name)
    else
      firstOf [checkExpr soft e, checkExprs soft positional, checkNamed soft named,
        checkOption soft rest, checkOption soft namedRest]
  | .test e name positional named rest namedRest =>
    if !soft && !knownTests.contains name then some (unknownName "test" name)
    else
      firstOf [checkExpr soft e, checkExprs soft positional, checkNamed soft named,
        checkOption soft rest, checkOption soft namedRest]
  | .hole => none

/-- The first complaint about expressions. -/
def checkExprs (soft : Bool) : List Expr → Option String
  | [] => none
  | e :: es => (checkExpr soft e).or (checkExprs soft es)

/-- The complaint about an expression, if there is one. -/
def checkOption (soft : Bool) : Option Expr → Option String
  | none => none
  | some e => checkExpr soft e

/-- The first complaint about the entries of a mapping. -/
def checkEntries (soft : Bool) : List (Expr × Expr) → Option String
  | [] => none
  | (k, v) :: es => firstOf [checkExpr soft k, checkExpr soft v, checkEntries soft es]

/-- The first complaint about named arguments. -/
def checkNamed (soft : Bool) : List (String × Expr) → Option String
  | [] => none
  | (_, e) :: es => (checkExpr soft e).or (checkNamed soft es)

/-- The first complaint about the operands of comparisons. -/
def checkOperands (soft : Bool) : List (CompareOp × Expr) → Option String
  | [] => none
  | (_, e) :: es => (checkExpr soft e).or (checkOperands soft es)

end

/-! ### Statements -/

/-- The target assigns to the name of the loop. -/
def Target.setsLoop : Target → Bool
  | .name s => s == "loop"
  | .attribute _ _ => false
  | .tuple items => setsLoopAll items
where
  /-- Some target assigns to the name of the loop. -/
  setsLoopAll : List Target → Bool
    | [] => false
    | t :: ts => t.setsLoop || setsLoopAll ts

mutual

/-- The statement assigns to the name of the loop. -/
def Stmt.setsLoop : Stmt → Bool
  | .output _ => false
  | .loop target _ _ _ body otherwise =>
    target.setsLoop || setsLoopAny body || setsLoopAny otherwise
  | .branch _ body others otherwise =>
    setsLoopAny body || setsLoopBranches others || setsLoopAny otherwise
  | .macroDef _ _ body => setsLoopAny body
  | .callBlock _ _ body => setsLoopAny body
  | .filterBlock _ body => setsLoopAny body
  | .withBlock _ body => setsLoopAny body
  | .block _ _ _ body => setsLoopAny body
  | .extending _ => false
  | .including _ _ _ => false
  | .importAs _ _ _ => false
  | .importFrom _ _ _ _ => false
  | .assign target _ => target.setsLoop
  | .assignBlock target _ body => target.setsLoop || setsLoopAny body
  | .escaping _ body => setsLoopAny body

/-- Some statement assigns to the name of the loop. -/
def setsLoopAny : List Stmt → Bool
  | [] => false
  | s :: ss => s.setsLoop || setsLoopAny ss

/-- Some body of a choice assigns to the name of the loop. -/
def setsLoopBranches : List (Expr × List Stmt) → Bool
  | [] => false
  | (_, body) :: rest => setsLoopAny body || setsLoopBranches rest

end

mutual

/-- The blocks of a statement: their names and bodies, an outer one before the inner ones. -/
def Stmt.blocks : Stmt → List (String × Bool × List Stmt)
  | .output _ => []
  | .loop _ _ _ _ body otherwise => blocksOf body ++ blocksOf otherwise
  | .branch _ body others otherwise => blocksOf body ++ blocksOfBranches others ++ blocksOf otherwise
  | .macroDef _ _ body => blocksOf body
  | .callBlock _ _ body => blocksOf body
  | .filterBlock _ body => blocksOf body
  | .withBlock _ body => blocksOf body
  | .block name _ required body => (name, required, body) :: blocksOf body
  | .extending _ => []
  | .including _ _ _ => []
  | .importAs _ _ _ => []
  | .importFrom _ _ _ _ => []
  | .assign _ _ => []
  | .assignBlock _ _ body => blocksOf body
  | .escaping _ body => blocksOf body

/-- The blocks of a body. -/
def blocksOf : List Stmt → List (String × Bool × List Stmt)
  | [] => []
  | s :: ss => s.blocks ++ blocksOf ss

/-- The blocks of the bodies of a choice. -/
def blocksOfBranches : List (Expr × List Stmt) → List (String × Bool × List Stmt)
  | [] => []
  | (_, body) :: rest => blocksOf body ++ blocksOfBranches rest

end

/-- The complaint about a piece of an output. -/
def checkPiece (soft : Bool) : Piece → Option String
  | .data _ => none
  | .print e => checkExpr soft e

mutual

/-- The complaint about a statement; `top` says that it stands outside all scopes. -/
def checkStmt (top soft : Bool) : Stmt → Option String
  | .output pieces => pieces.findSome? (checkPiece soft)
  | .loop target source test recursive body otherwise =>
    if Stmt.setsLoop (.loop target source test recursive body otherwise) then
      some "Can't assign to special loop variable in for-loop target"
    else
      firstOf [checkOption false test, checkExpr soft source, checkBody false false body,
        checkBody false false otherwise]
  | .branch test body others otherwise =>
    firstOf [checkExpr true test, checkBody top true body, checkBranches top others,
      checkBody top true otherwise]
  | .macroDef _ s body => firstOf [checkExprs false s.defaults, checkBody false false body]
  | .callBlock call s body =>
    firstOf [checkExprs false s.defaults, checkBody false false body, checkExpr soft call]
  | .filterBlock filter body => firstOf [checkBody false false body, checkExpr false filter]
  | .withBlock bindings body =>
    firstOf [bindings.findSome? fun (_, e) => checkExpr soft e, checkBody false false body]
  | .block _ _ _ _ => none
  | .extending e =>
    if top then checkExpr soft e else some "cannot use extend from a non top-level scope"
  | .including e _ _ => checkExpr soft e
  | .importAs e _ _ => checkExpr soft e
  | .importFrom e _ _ _ => checkExpr soft e
  | .assign _ e => checkExpr soft e
  | .assignBlock _ filter body => firstOf [checkBody false false body, checkOption false filter]
  | .escaping e body => firstOf [checkExpr false e, checkBody false false body]

/-- The first complaint about a body. -/
def checkBody (top soft : Bool) : List Stmt → Option String
  | [] => none
  | s :: ss => (checkStmt top soft s).or (checkBody top soft ss)

/-- The first complaint about the conditions and bodies of a choice. -/
def checkBranches (top : Bool) : List (Expr × List Stmt) → Option String
  | [] => none
  | (e, body) :: rest => firstOf [checkExpr true e, checkBody top true body, checkBranches top rest]

end

/-- The first name that stands in a list twice. -/
def firstRepeated : List String → List String → Option String
  | _, [] => none
  | seen, s :: rest => if seen.contains s then some s else firstRepeated (s :: seen) rest

/-- The first complaint about a template. -/
def checkTemplate (body : List Stmt) : Option String :=
  let blocks := blocksOf body
  match firstRepeated [] (blocks.map (·.1)) with
  | some name => some ("block " ++ Text.quote name ++ " defined twice")
  | none => firstOf [checkBody true false body, blocks.findSome? fun (_, _, b) => checkBody false false b]

/-- Read and check a template. -/
def Parsed.ofSource (name source : String) : Except Failure Parsed :=
  match readBody source with
  | .error e => .error e
  | .ok body =>
    match checkTemplate body with
    | some message => .error (.template .grammar message)
    | none => .ok ⟨name, body⟩

end StaticSite.Template
