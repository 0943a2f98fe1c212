import StaticSite.Template.Filter
import StaticSite.Template.Scope

/-!
# Running templates

The meaning of expressions, statements, macros, blocks and whole templates. Each is defined on its own
and refers to the others through a record, the interpreter; the interpreter with a budget of `n + 1`
levels is built from the one with `n`, so that a template that goes round in circles uses up its budget
and fails.

## Main definitions

* `Interpreter`, `interpreterAt`: the meanings, with a budget.
* `evaluate`, `execute`, `callDatum`, `runRoot`: the four meanings.
* `render`: the output of a template.
-/

namespace StaticSite.Template

open Rendering

/-- The meanings that refer to each other. -/
structure Interpreter where
  /-- The datum of an expression. -/
  evaluate : Frame → Expr → Rendering Datum
  /-- The output of a body. -/
  execute : Frame → List Stmt → Rendering String
  /-- The result of a call. -/
  call : Frame → Datum → Given → Rendering Datum
  /-- The output of a template in a context. -/
  root : Ref → String → List Stmt → Rendering String

/-! ### Other templates -/

/-- The template with a name. -/
def loadTemplate (d : Datum) : Rendering Parsed := do
  d.requireSome
  match d with
  | .text name _ =>
    let text ← source name
    Rendering.ofExcept (Parsed.ofSource name text)
  | _ =>
    throw (.noAttribute ("'" ++ d.typeName ++ "' object has no attribute 'split'"))

/-- The first of several templates that is there. -/
def firstTemplate (shown : String) : List Datum → Rendering Parsed
  | [] => throw (.template .notFound ("none of the templates given were found: " ++ shown))
  | d :: ds => do
    match (← attempt (loadTemplate d)) with
    | .ok t => pure t
    | .error (.template .notFound _) => firstTemplate shown ds
    | .error (.template .undefined _) => firstTemplate shown ds
    | .error e => throw e

/-- The template with a name, or the first one of several. -/
def chooseTemplate (d : Datum) : Rendering Parsed := do
  match d with
  | .text _ _ => loadTemplate d
  | _ =>
    if (← d.isTruthy) then
      let names ← d.elements
      let shown ← names.mapM Datum.plain
      firstTemplate (String.intercalate ", " shown) names
    else throw (.template .notFound "Tried to select from an empty list of templates.")

/-- The definitions of the blocks of a template. -/
def blockBodies (t : Parsed) : List (String × BlockBody) :=
  (blocksOf t.body).map fun (name, required, body) => (name, ⟨t.name, required, body⟩)

/-- More definitions of blocks, behind those that are there. -/
def addBlocks (known : List (String × List BlockBody)) (more : List (String × BlockBody)) :
    List (String × List BlockBody) :=
  more.foldl (fun all (name, b) =>
    if (all.lookup name).isSome then
      all.map fun (n, bs) => if n == name then (n, bs ++ [b]) else (n, bs)
    else all ++ [(name, [b])]) known

/-- A context for a template. -/
def newContext (t : Parsed) (names : Names) : Rendering Ref :=
  alloc (.context ⟨names, [], [], addBlocks [] (blockBodies t), none⟩)

/-- The output of a template that is given names. -/
def renderNew (self : Interpreter) (t : Parsed) (names : Names) : Rendering (Ref × String) := do
  let r ← newContext t names
  let output ← self.root r t.name t.body
  pure (r, output)

/-- A template as a module. -/
def importModule (self : Interpreter) (t : Parsed) (names : Names) : Rendering Datum := do
  let (r, output) ← renderNew self t names
  let c := (← get).context r
  let vars := c.vars.filter fun (n, _) => c.exported.contains n
  pure (.module (← alloc (.module t.name output vars)))

/-- What an imported or included template is given. -/
def namesFor (p : Frame) (withContext : Bool) : Rendering Names := do
  if withContext then pure (visibleNames (← get) p) else pure globalNames

/-! ### Expressions -/

/-- The datum of a constant. -/
def literal : Literal → Datum
  | .none => .null
  | .bool b => .bool b
  | .int n => natDatum n
  | .float x => .float x
  | .text s => .text s false

/-- The named arguments of a mapping. -/
def namedArguments (d : Datum) : Rendering (List (String × Datum)) := do
  match d with
  | .dict r =>
    ((← get).entries r).mapM fun (k, v) =>
      match k with
      | .text s _ => pure (s, v)
      | _ => wrongType "keywords must be strings"
  | _ => wrongType ("argument after ** must be a mapping, not " ++ d.typeName)

/-- The arguments of a call. -/
def arguments (self : Interpreter) (p : Frame) (positional : List Expr)
    (named : List (String × Expr)) (rest namedRest : Option Expr) : Rendering Given := do
  let items ← positional.mapM (self.evaluate p)
  let more ← match rest with
    | some e => do
      let d ← self.evaluate p e
      d.require
      match (← elements? d) with
      | some xs => pure xs
      | none => wrongType ("argument after * must be an iterable, not " ++ d.typeName)
    | none => pure []
  let keyed ← named.mapM fun (k, e) => do pure (k, ← self.evaluate p e)
  let others ← match namedRest with
    | some e => do namedArguments (← self.evaluate p e)
    | none => pure []
  pure ⟨items ++ more, keyed ++ others⟩

/-- A chain of comparisons from a datum on. -/
def compareChain (self : Interpreter) (p : Frame) (left : Datum) :
    List (CompareOp × Expr) → Rendering Datum
  | [] => pure (.bool true)
  | (op, e) :: rest => do
    let right ← self.evaluate p e
    if (← compareBy op left right) then compareChain self p right rest else pure (.bool false)

/-- An optional bound of a part. -/
def bound (self : Interpreter) (p : Frame) : Option Expr → Rendering Datum
  | some e => self.evaluate p e
  | none => pure .null

/-- The complaint about a choice without a second value. -/
def noElse (p : Frame) : Datum :=
  .absent ("the inline if-expression on line 1 in " ++ Text.quote p.template ++
    " evaluated to false and no else section was defined.")

/-- The entries of a mapping, a later one replacing an earlier one with the same key. -/
def dictEntries (self : Interpreter) (p : Frame) :
    List (Expr × Expr) → List (Datum × Datum) → Rendering (List (Datum × Datum))
  | [], done => pure done
  | (k, v) :: rest, done => do
    let key ← self.evaluate p k
    let value ← self.evaluate p v
    requireKey key
    dictEntries self p rest (storeEntry (← get) key value done)

/-- The datum of an expression. -/
def evaluate (self : Interpreter) (p : Frame) : Expr → Rendering Datum
  | .literal l => pure (literal l)
  | .name s => lookupName p s
  | .tuple items => do pure (.tuple (← items.mapM (self.evaluate p)))
  | .list items => do newList (← items.mapM (self.evaluate p))
  | .dict entries => do newDict (← dictEntries self p entries [])
  | .choice test yes no => do
    if (← (← self.evaluate p test).isTruthy) then self.evaluate p yes
    else match no with
      | some e => self.evaluate p e
      | none => pure (noElse p)
  | .both a b => do
    let d ← self.evaluate p a
    if (← d.isTruthy) then self.evaluate p b else pure d
  | .either a b => do
    let d ← self.evaluate p a
    if (← d.isTruthy) then pure d else self.evaluate p b
  | .opposite e => do pure (.bool !(← (← self.evaluate p e).isTruthy))
  | .negative e => do negate (← self.evaluate p e)
  | .positive e => do keepSign (← self.evaluate p e)
  | .binary op a b => do
    let x ← self.evaluate p a
    let y ← self.evaluate p b
    binary op x y
  | .concat items => do concatenate p.escaping (← items.mapM (self.evaluate p))
  | .compare e rest => do compareChain self p (← self.evaluate p e) rest
  | .attribute e name => do attributeOrEntry (← self.evaluate p e) name
  | .entry e (.slice a b c) => do
    let d ← self.evaluate p e
    partOf d (← bound self p a) (← bound self p b) (← bound self p c)
  | .entry e i => do
    let d ← self.evaluate p e
    entryOrAttribute d (← self.evaluate p i)
  | .slice _ _ _ => pure .null
  | .call f positional named rest namedRest => do
    let callee ← self.evaluate p f
    let given ← arguments self p positional named rest namedRest
    self.call p callee given
  | .filter e name positional named rest namedRest => do
    if !knownFilters.contains name then
      misuse ("No filter named " ++ Text.quote name ++ " found.")
    else
      let d ← self.evaluate p e
      let given ← arguments self p positional named rest namedRest
      runFilter p.escaping name d given
  | .test e name positional named rest namedRest => do
    if !knownTests.contains name then misuse ("No test named " ++ Text.quote name ++ " found.")
    else
      let d ← self.evaluate p e
      let given ← arguments self p positional named rest namedRest
      pure (.bool (← runTest name d given))
  | .hole => pure (.text p.hole p.escaping)

/-! ### Calls -/

/-- A text that is markup where output is escaped. -/
def outputText (p : Frame) (s : String) : Datum := .text s p.escaping

/-- The complaint about an argument that is not there. -/
def missingParameter (name : String) : Datum :=
  .undefined ("parameter " ++ Text.quote name ++ " was not provided")

/-- Bind the parameters of a macro: what was given, else the default value, else nothing. -/
def bindParameters (self : Interpreter) (p : Frame) (count : Nat) (defaults : List Expr) :
    List (String × Option Datum) → Rendering Unit
  | [] => pure ()
  | (name, given) :: rest => do
    let left := rest.length + 1
    let d ← match given with
      | some d => pure d
      | none =>
        if left ≤ defaults.length then
          match defaults[defaults.length - left]? with
          | some e => self.evaluate p e
          | none => pure (missingParameter name)
        else pure (missingParameter name)
    assignName p name d false
    bindParameters self p count defaults rest

/-- The name of a macro in messages. -/
def macroName (m : Macro) : String :=
  match m.name with
  | some s => Text.quote s
  | none => "None"

/-- Call a macro. -/
def callMacro (self : Interpreter) (p : Frame) (m : Macro) (g : Given) : Rendering Datum := do
  let params := m.signature.params
  let count := params.length
  let byPosition := g.positional.take count
  let left := params.drop byPosition.length
  let byName := left.map fun name => (name, g.named.lookup name)
  let named := g.named.filter fun (k, _) => !left.contains k
  let explicit := params.contains "caller"
  let foundCaller := explicit
  let takesCaller := m.takesCaller && !foundCaller
  let caller := if takesCaller then named.lookup "caller" else none
  let named := if takesCaller then named.filter fun (k, _) => k != "caller" else named
  if !m.takesNamed then
    match named with
    | [] => pure ()
    | (k, _) :: _ =>
      if (named.lookup "caller").isSome then
        wrongType ("macro " ++ macroName m ++ " was invoked with two values for the special caller" ++
          " argument. This is most likely a bug.")
      else
        wrongType ("macro " ++ macroName m ++ " takes no keyword argument " ++ Text.quote k)
  if !m.takesRest && count < g.positional.length then
    wrongType ("macro " ++ macroName m ++ " takes not more than " ++ toString count ++ " argument(s)")
  let inner ← enterScope { m.frame with guarded := false } []
  if takesCaller then
    assignName inner "caller" (caller.getD (.undefined "No caller defined")) false
  if m.takesNamed then assignName inner "kwargs" (← newDict (namedEntries named)) false
  if m.takesRest then assignName inner "varargs" (.tuple (g.positional.drop count)) false
  let bound := (params.zip byPosition).map (fun (n, d) => (n, some d)) ++ byName
  bindParameters self inner count m.signature.defaults bound
  pure (outputText p (← self.execute inner m.body))

/-- The output of a definition of a block. -/
def renderBlock (self : Interpreter) (context : Ref) (name : String) (depth : Nat) :
    Rendering String := do
  let chain := (((← get).context context).blocks.lookup name).getD []
  match chain[depth]? with
  | none => undefinedUse ("there is no parent block called " ++ Text.quote name ++ ".")
  | some b =>
    let above : Datum :=
      if depth + 1 < chain.length then .block name context (depth + 1)
      else .undefined ("there is no parent block called " ++ Text.quote name ++ ".")
    let frame : Frame := ⟨b.template, context, [], false, false, false, ""⟩
    self.execute (← enterScope frame [("super", above)]) b.body

/-- A range of numbers. -/
def makeRange (g : Given) : Rendering Datum := do
  let numbers ← g.positional.mapM intOf
  match numbers with
  | [stop] => pure (.range 0 stop 1)
  | [start, stop] => pure (.range start stop 1)
  | [start, stop, step] =>
    if step == 0 then badValue "range() arg 3 must not be zero" else pure (.range start stop step)
  | [] => wrongType "range expected at least 1 argument, got 0"
  | _ => wrongType ("range expected at most 3 arguments, got " ++ toString numbers.length)

/-- The entries of a mapping from arguments. -/
def entriesFrom (function : String) (g : Given) : Rendering (List (Datum × Datum)) := do
  let first ← match g.positional with
    | [] => pure []
    | [d] => makeEntries d
    | ds =>
      wrongType (function ++ " expected at most 1 argument, got " ++ toString ds.length)
  pure (updated (← get) [] (first ++ namedEntries g.named))

/-- The reference of a fragment. -/
def referenceOf (d : Datum) : Except Failure String :=
  match d with
  | .text s _ => .ok s
  | .undefined _ =>
    .error (.wrongType "expected str, bytes or os.PathLike object, not StrictUndefined")
  | _ =>
    .error (.wrongType ("expected str, bytes or os.PathLike object, not " ++ d.typeName))

/-- The arguments of an include: the reference and the locals. -/
def includeArguments (g : Given) : Rendering (Datum × Datum) := do
  let function := "Project.include()"
  match g.named.find? fun (k, _) => k != "reference" && k != "locals" with
  | some (k, _) =>
    wrongType (function ++ " got an unexpected keyword argument " ++ Text.quote k)
  | none =>
    if 2 < g.positional.length then
      wrongType (function ++ " takes from 2 to 3 positional arguments but " ++
        toString (g.positional.length + 1) ++ " were given")
    else
      match g.get? 0 "reference" with
      | some reference => pure (reference, (g.get? 1 "locals").getD .null)
      | none => wrongType (function ++ " missing 1 required positional argument: 'reference'")

/-- Call a function that every template can call. -/
def callBuiltin (b : Builtin) (g : Given) : Rendering Datum := do
  if let some text := builtinComplaint? b g then wrongType text
  match b with
  | .range => makeRange g
  | .dict => newDict (← entriesFrom "dict" g)
  | .namespace => pure (.space (← alloc (.entries (← entriesFrom "dict" g))))
  | .lipsum => pure (.text "" true)
  | .cycler =>
    if g.positional.isEmpty then misuse "at least one item has to be provided"
    else pure (.cycler (← alloc (.cycle g.positional 0)))
  | .joiner =>
    pure (.joiner (← alloc (.separator ((g.get? 0 "sep").getD (.text ", " false)) false)))
  | .include =>
    let (reference, locals) ← includeArguments g
    let names ← attempt (localsOf locals)
    pure (.text (← fragment (referenceOf reference) names) false)

/-- The output of a loop over the items that pass its test. -/
def runLoop (self : Interpreter) (l : LoopBody) (again : Option LoopBody) (depth : Nat)
    (items : List Datum) : Rendering String := do
  let passes (d : Datum) : Rendering Bool := do
    match l.test with
    | none => pure true
    | some test =>
      let inner ← enterScope l.frame []
      assign inner d l.target
      (← self.evaluate inner test).isTruthy
  let tracked := mentions "loop" l.body
  let known ← if tracked then items.filterM passes else pure items
  let state ← alloc (.loop ⟨known, 0, depth, again, none⟩)
  let rec visit : Nat → List Datum → Rendering (String × Bool)
    | _, [] => pure ("", false)
    | i, d :: ds => do
      if (← if tracked then pure true else passes d) then
        modify fun s => match s.cell state with
          | .loop c => s.put state (.loop { c with index := i })
          | _ => s
        let inner ← enterScope l.frame [("loop", .loop state)]
        assign inner d l.target
        let output ← self.execute inner l.body
        let (rest, _) ← visit (i + 1) ds
        pure (output ++ rest, true)
      else visit i ds
  let (output, any) ← visit 0 known
  if any then pure output
  else
    let inner ← enterScope l.frame []
    pure (output ++ (← self.execute inner l.otherwise))

/-- The result of a call. -/
def callDatum (self : Interpreter) (p : Frame) (callee : Datum) (g : Given) : Rendering Datum := do
  callee.requireSome
  let store ← get
  match callee with
  | .macroAt r =>
    match store.cell r with
    | .macroBody m => callMacro self p m g
    | _ => pure .null
  | .method object name => callMethod object name g
  | .builtin b => callBuiltin b g
  | .block name context depth => do
    pure (outputText p (← renderBlock self context name depth))
  | .joiner r =>
    match store.cell r with
    | .separator text used =>
      put r (.separator text true)
      pure (if used then text else .text "" false)
    | _ => pure .null
  | .loop r =>
    match store.cell r with
    | .loop l =>
      match l.again, g.positional with
      | none, _ =>
        wrongType "The loop must have the 'recursive' marker to be called recursively."
      | some body, d :: _ =>
        let items ← d.elements
        pure (outputText p (← runLoop self body l.again (l.depth + 1) items))
      | some _, [] => wrongType "LoopContext.__call__() missing 1 required positional argument: 'iterable'"
    | _ => pure .null
  | d => wrongType ("'" ++ d.typeName ++ "' object is not callable")

/-! ### Statements -/

/-- The output of a piece. -/
def printPiece (self : Interpreter) (p : Frame) : Piece → Rendering String
  | .data s => pure s
  | .print e => do
    let d ← self.evaluate p e
    if p.escaping then d.escaped else d.plain

/-- A macro that is defined at a place. -/
def makeMacro (p : Frame) (name : Option String) (signature : Signature) (body : List Stmt) :
    Macro :=
  ⟨name, signature, body, mentions "varargs" body && !signature.params.contains "varargs",
    mentions "kwargs" body && !signature.params.contains "kwargs", mentions "caller" body, p⟩

/-- The first body whose condition holds. -/
def chooseBody (self : Interpreter) (p : Frame) (otherwise : List Stmt) :
    List (Expr × List Stmt) → Rendering (List Stmt)
  | [] => pure otherwise
  | (test, body) :: rest => do
    if (← (← self.evaluate p test).isTruthy) then pure body
    else chooseBody self p otherwise rest

/-- Bind the names of an import. -/
def bindImports (p : Frame) (module : Datum) (template : String) (line : Nat) :
    List (String × String) → Rendering Unit
  | [] => pure ()
  | (name, newName) :: rest => do
    let d := (attribute? (← get) module name).getD
      (.undefined ("the template " ++ Text.quote template ++ " (imported on line " ++ toString line ++
        " in " ++ Text.quote p.template ++ ") does not export the requested name " ++
        Text.quote name))
    assignName p newName d false
    bindImports p module template line rest

/-- The text of a datum that is put out as it is. -/
def rawOutput (d : Datum) : Rendering String := do
  match d with
  | .text s _ => pure s
  | _ =>
    wrongType ("sequence item 0: expected str instance, " ++ d.typeName ++ " found")

/-- The context extends another template. -/
def isExtended (p : Frame) : Rendering Bool := do
  pure ((← get).context p.context).extended.isSome

/-- The output of a block where it is defined. -/
def placeBlock (self : Interpreter) (p : Frame) (name : String) (seesScope required : Bool) :
    Rendering String := do
  let store ← get
  let c := store.context p.context
  let chain := (c.blocks.lookup name).getD []
  if required && chain.length ≤ 1 then
    misuse ("Required block " ++ Text.quote name ++ " not found")
  else if seesScope then
    let r ← alloc (.context { c with names := visibleNames store p, vars := [], exported := [] })
    renderBlock self r name 0
  else renderBlock self p.context name 0

/-- The output of a statement. -/
def executeStmt (self : Interpreter) (p : Frame) : Stmt → Rendering String
  | .output pieces => do
    if p.guarded && (← isExtended p) then pure ""
    else pure (String.join (← pieces.mapM (printPiece self p)))
  | .loop target source test recursive body otherwise => do
    let items ← (← self.evaluate p source).elements
    let l : LoopBody := ⟨target, test, body, otherwise, p⟩
    runLoop self l (if recursive then some l else none) 0 items
  | .branch test body others otherwise => do
    self.execute p (← chooseBody self p otherwise ((test, body) :: others))
  | .macroDef name signature body => do
    let r ← alloc (.macroBody (makeMacro p (some name) signature body))
    assignName p name (.macroAt r) true
    pure ""
  | .callBlock call signature body => do
    let r ← alloc (.macroBody (makeMacro p none signature body))
    match call with
    | .call f positional named rest namedRest =>
      let callee ← self.evaluate p f
      let given ← arguments self p positional named rest namedRest
      rawOutput (← self.call p callee { given with named := given.named ++ [("caller", .macroAt r)] })
    | _ => pure ""
  | .filterBlock filter body => do
    let inner ← enterScope p []
    let text ← self.execute inner body
    rawOutput (← self.evaluate { inner with hole := text } filter)
  | .withBlock bindings body => do
    let values ← bindings.mapM fun (t, e) => do pure (t, ← self.evaluate p e)
    let inner ← enterScope p []
    for (t, d) in values do
      assign inner d t
    self.execute inner body
  | .block name seesScope required _ => do
    if p.top && (← isExtended p) then pure ""
    else placeBlock self p name seesScope required
  | .extending e => do
    if (← isExtended p) then misuse "extended multiple times"
    else
      let t ← loadTemplate (← self.evaluate p e)
      modify fun s =>
        let c := s.context p.context
        s.put p.context (.context
          { c with blocks := addBlocks c.blocks (blockBodies t), extended := some (t.name, t.body) })
      pure ""
  | .including e ignoreMissing withContext => do
    let d ← self.evaluate p e
    match (← attempt (chooseTemplate d)) with
    | .error (.template .notFound message) =>
      if ignoreMissing then pure "" else throw (.template .notFound message)
    | .error e => throw e
    | .ok t => do
      let names ← namesFor p withContext
      pure (← renderNew self t names).2
  | .importAs e name withContext => do
    let t ← loadTemplate (← self.evaluate p e)
    assignName p name (← importModule self t (← namesFor p withContext)) false
    pure ""
  | .importFrom e names withContext line => do
    let t ← loadTemplate (← self.evaluate p e)
    let module ← importModule self t (← namesFor p withContext)
    bindImports p module t.name line names
    pure ""
  | .assign target e => do
    requireSpace p target
    assign p (← self.evaluate p e) target
    pure ""
  | .assignBlock target filter body => do
    requireSpace p target
    let inner ← enterScope { p with guarded := false } []
    let text ← self.execute inner body
    let d ← match filter with
      | some f => self.evaluate { inner with hole := text } f
      | none => pure (.text text false)
    let d ← if p.escaping then do pure (.text (← d.plain) true) else pure d
    assign p d target
    pure ""
  | .escaping e body => do
    let on ← (← self.evaluate p e).isTruthy
    let inner ← enterScope { p with escaping := on } []
    self.execute inner body

/-- The output of a body. -/
def execute (self : Interpreter) (p : Frame) (body : List Stmt) : Rendering String := do
  pure (String.join (← body.mapM (executeStmt self p)))

/-! ### Whole templates -/

/-- The output of a template in a context: its own output, and then that of the template it extends. -/
def runRoot (self : Interpreter) (context : Ref) (name : String) (body : List Stmt) :
    Rendering String := do
  let scope ← alloc (.scope [])
  let output ← self.execute ⟨name, context, [scope], true, true, false, ""⟩ body
  let c := (← get).context context
  match c.extended with
  | none => pure output
  | some (parent, parentBody) =>
    put context (.context { c with extended := none })
    pure (output ++ (← self.root context parent parentBody))

/-- The interpreter with a budget of levels. -/
def interpreterAt : Nat → Interpreter
  | 0 => ⟨fun _ _ => throw .tooDeep, fun _ _ => throw .tooDeep, fun _ _ _ => throw .tooDeep,
      fun _ _ _ => throw .tooDeep⟩
  | n + 1 =>
    let self := interpreterAt n
    ⟨evaluate self, execute self, callDatum self, runRoot self⟩

/-- The budget of a rendering. -/
def renderBudget : Nat := 1200

/-- The output of a template. The names that it is given have to be texts. -/
def render (name source : String) (names : Names) (regular : Bool) : Rendering String := do
  let t ← Rendering.ofExcept (Parsed.ofSource name source)
  if !regular then wrongType "keywords must be strings"
  else
    let (_, output) ← renderNew (interpreterAt renderBudget) t (Names.orElse names globalNames)
    pure output

end StaticSite.Template
