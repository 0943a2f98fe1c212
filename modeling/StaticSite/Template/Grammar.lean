import StaticSite.Template.Reader
import StaticSite.Template.Tree

/-!
# The grammar of expressions

One definition for each level of precedence, from the loosest (a choice by a condition) to the tightest
(a name, a literal or something in brackets). A level refers to the tighter one below it; only brackets,
signs and `not` lead back up, and they do so through a record of readers that is built level by level,
once for each token that could open a bracket.

## Main definitions

* `Readers`, `readersAt`: the readers that brackets, signs and `not` lead back to.
* `expression`, `tupleOf`, `filterChain`, `assignTarget`: what statements are made of.
-/

namespace StaticSite.Template

open Reading

/-- The readers that the grammar leads back to from inside. -/
structure Readers where
  /-- A whole expression. -/
  expr : Reading Expr
  /-- An operand of a logical operator. -/
  logical : Reading Expr
  /-- What a sign stands before. -/
  signed : Reading Expr

/-- Read on while there is an operator, grouping to the left. -/
def leftChain (operator? : Reading (Option (Expr → Expr → Expr))) (operand : Reading Expr) :
    Nat → Expr → Reading Expr
  | 0, left => pure left
  | fuel + 1, left => do
    match (← operator?) with
    | none => pure left
    | some make => leftChain operator? operand fuel (make left (← operand))

/-- An operand, and more operands after operators. -/
def leftLevel (operators : List (String × BinaryOp)) (operand : Reading Expr) : Reading Expr := do
  let operator? : Reading (Option (Expr → Expr → Expr)) := do
    match (← kind) with
    | .operator s =>
      match operators.lookup s with
      | some op =>
        let _ ← advance
        pure (some (.binary op))
      | none => pure none
    | _ => pure none
  let first ← operand
  leftChain operator? operand (← remaining) first

/-- An operand, and more operands after a word. -/
def wordLevel (word : String) (make : Expr → Expr → Expr) (operand : Reading Expr) :
    Reading Expr := do
  let first ← operand
  let operator? : Reading (Option (Expr → Expr → Expr)) := do
    if (← acceptWord word) then pure (some make) else pure none
  leftChain operator? operand (← remaining) first

/-! ### Brackets -/

/-- The end of a sequence of elements. -/
def atTupleEnd (words : List String) : Reading Bool := do
  match (← kind) with
  | .printEnd => pure true
  | .blockEnd => pure true
  | .operator ")" => pure true
  | .name s => pure (words.contains s)
  | _ => pure false

/-- Elements with commas between them: the elements, and whether there was a comma. -/
def tupleItems (item : Reading α) (words : List String) : Nat → Bool → List α → Bool →
    Reading (List α × Bool)
  | 0, _, items, isTuple => pure (items.reverse, isTuple)
  | fuel + 1, started, items, isTuple => do
    if started then expectOperator ","
    if (← atTupleEnd words) then pure (items.reverse, isTuple)
    else
      let e ← item
      if (← atOperator ",") then tupleItems item words fuel true (e :: items) true
      else pure ((e :: items).reverse, isTuple)

/-- An expression, or a tuple without brackets around it. -/
def tupleOf (item : Reading Expr) (words : List String) (bracketed : Bool) : Reading Expr := do
  let (items, isTuple) ← tupleItems item words ((← remaining) + 1) false [] false
  match isTuple, items with
  | false, e :: _ => pure e
  | false, [] =>
    if bracketed then pure (.tuple [])
    else fail ("Expected an expression, got " ++ Text.quote (← kind).describe)
  | true, _ => pure (.tuple items)

/-- Items with commas between them up to a closing bracket, which may follow a comma. -/
def listItems (close : String) (item : Reading α) : Nat → List α → Reading (List α)
  | 0, items => pure items.reverse
  | fuel + 1, items => do
    if (← atOperator close) then pure items.reverse
    else
      if !items.isEmpty then expectOperator ","
      if (← atOperator close) then pure items.reverse
      else listItems close item fuel ((← item) :: items)

/-- An index, or a part of a sequence. -/
def subscribed (self : Readers) : Reading Expr := do
  let atEnd : Reading Bool := do
    pure ((← atOperator "]") || (← atOperator ","))
  let bound : Reading (Option Expr) := do
    if (← atEnd) then pure none else pure (some (← self.expr))
  let sliceFrom (start : Option Expr) : Reading Expr := do
    let stop ← if (← atOperator ":") then pure none else bound
    let step ← if (← accept (.operator ":")) then bound else pure none
    pure (.slice start stop step)
  if (← accept (.operator ":")) then sliceFrom none
  else
    let e ← self.expr
    if (← accept (.operator ":")) then sliceFrom (some e) else pure e

/-- The indices between brackets. -/
def indices (self : Readers) : Nat → List Expr → Reading (List Expr)
  | 0, items => pure items.reverse
  | fuel + 1, items => do
    if (← atOperator "]") then pure items.reverse
    else
      if !items.isEmpty then expectOperator ","
      indices self fuel ((← subscribed self) :: items)

/-- An attribute or an index after an object. -/
def subscript (self : Readers) (object : Expr) : Reading Expr := do
  if (← accept (.operator ".")) then
    match (← advance).kind with
    | .name s => pure (.attribute object s)
    | .integer n => pure (.entry object (.literal (.int n)))
    | _ => fail "expected name or number"
  else
    let _ ← advance
    let items ← indices self (← remaining) []
    expectOperator "]"
    match items with
    | [e] => pure (.entry object e)
    | _ => pure (.entry object (.tuple items))

/-- The complaint about arguments in the wrong order. -/
def ensureOrder (ok : Bool) : Reading Unit :=
  if ok then pure () else fail "invalid syntax for function call expression"

/-- The arguments of a call up to the closing bracket. -/
def callItems (self : Readers) : Nat → Bool → Arguments → Reading Arguments
  | 0, _, a => pure a
  | fuel + 1, started, a => do
    if (← atOperator ")") then pure a
    else
      if started then expectOperator ","
      if (← atOperator ")") then pure a
      else if (← atOperator "*") then
        ensureOrder (a.rest.isNone && a.namedRest.isNone)
        let _ ← advance
        callItems self fuel true { a with rest := some (← self.expr) }
      else if (← atOperator "**") then
        ensureOrder a.namedRest.isNone
        let _ ← advance
        callItems self fuel true { a with namedRest := some (← self.expr) }
      else
        match (← kind) with
        | .name key =>
          if (← nextKind) == .operator "=" then
            ensureOrder a.namedRest.isNone
            let _ ← advance
            let _ ← advance
            callItems self fuel true { a with named := a.named ++ [(key, ← self.expr)] }
          else positional a fuel
        | _ => positional a fuel
where
  /-- An argument by position. -/
  positional (a : Arguments) (fuel : Nat) : Reading Arguments := do
    ensureOrder (a.rest.isNone && a.namedRest.isNone && a.named.isEmpty)
    callItems self fuel true { a with positional := a.positional ++ [← self.expr] }

/-- The arguments of a call. -/
def callArguments (self : Readers) : Reading Arguments := do
  expectOperator "("
  let a ← callItems self ((← remaining) + 1) false .none
  expectOperator ")"
  pure a

/-- The arguments of a call, if there are any. -/
def optionalArguments (self : Readers) : Reading Arguments := do
  if (← atOperator "(") then callArguments self else pure .none

/-- A call. -/
def callOf (self : Readers) (callee : Expr) : Reading Expr := do
  let a ← callArguments self
  pure (.call callee a.positional a.named a.rest a.namedRest)

/-! ### Primary expressions -/

/-- The literal that a name stands for. -/
def literalName? (s : String) : Option Literal :=
  if s == "true" || s == "True" then some (.bool true)
  else if s == "false" || s == "False" then some (.bool false)
  else if s == "none" || s == "None" then some .none
  else none

/-- String literals one after the other. -/
def strings : Nat → String → Reading String
  | 0, s => pure s
  | fuel + 1, s => do
    match (← kind) with
    | .string more =>
      let _ ← advance
      strings fuel (s ++ more)
    | _ => pure s

/-- A name, a literal or something in brackets. -/
def primary (self : Readers) : Reading Expr := do
  match (← kind) with
  | .name s =>
    let _ ← advance
    match literalName? s with
    | some l => pure (.literal l)
    | none => pure (.name s)
  | .string _ => pure (.literal (.text (← strings (← remaining) "")))
  | .integer n =>
    let _ ← advance
    pure (.literal (.int n))
  | .float x =>
    let _ ← advance
    pure (.literal (.float x))
  | .operator "(" =>
    let _ ← advance
    let e ← tupleOf self.expr [] true
    expectOperator ")"
    pure e
  | .operator "[" =>
    let _ ← advance
    let items ← listItems "]" self.expr ((← remaining) + 1) []
    expectOperator "]"
    pure (.list items)
  | .operator "\x7b" =>
    let _ ← advance
    let item : Reading (Expr × Expr) := do
      let key ← self.expr
      expectOperator ":"
      pure (key, ← self.expr)
    let items ← listItems "\x7d" item ((← remaining) + 1) []
    expectOperator "\x7d"
    pure (.dict items)
  | k => fail ("unexpected " ++ Text.quote k.describe)

/-- Attributes, indices and calls after an expression. -/
def postfixes (self : Readers) : Nat → Expr → Reading Expr
  | 0, e => pure e
  | fuel + 1, e => do
    match (← kind) with
    | .operator "." => postfixes self fuel (← subscript self e)
    | .operator "[" => postfixes self fuel (← subscript self e)
    | .operator "(" => postfixes self fuel (← callOf self e)
    | _ => pure e

/-! ### Filters and tests -/

/-- A filter by its name, with its arguments. -/
def filterOf (self : Readers) (input : Expr) : Reading Expr := do
  let name ← dottedName (← remaining)
  let a ← optionalArguments self
  pure (.filter input name a.positional a.named a.rest a.namedRest)

/-- Filters after an expression. -/
def filters (self : Readers) : Nat → Expr → Reading Expr
  | 0, e => pure e
  | fuel + 1, e => do
    if (← accept (.operator "|")) then filters self fuel (← filterOf self e) else pure e

/-- The arguments of a test: in brackets, or a single one without. -/
def testArguments (self : Readers) : Reading Arguments := do
  let single : Reading Arguments := do
    let e ← postfixes self (← remaining) (← primary self)
    pure { Arguments.none with positional := [e] }
  match (← kind) with
  | .operator "(" => callArguments self
  | .name s =>
    if s == "else" || s == "or" || s == "and" then pure .none
    else if s == "is" then fail "You cannot chain multiple tests with is"
    else single
  | .string _ => single
  | .integer _ => single
  | .float _ => single
  | .operator "[" => single
  | .operator "\x7b" => single
  | _ => pure .none

/-- A test after an expression. -/
def testOf (self : Readers) (input : Expr) : Reading Expr := do
  let negated ← acceptWord "not"
  let name ← dottedName (← remaining)
  let a ← testArguments self
  let e := Expr.test input name a.positional a.named a.rest a.namedRest
  pure (if negated then .opposite e else e)

/-- Filters, tests and calls after an expression. -/
def suffixes (self : Readers) : Nat → Expr → Reading Expr
  | 0, e => pure e
  | fuel + 1, e => do
    match (← kind) with
    | .operator "|" => suffixes self fuel (← filters self (← remaining) e)
    | .operator "(" => suffixes self fuel (← callOf self e)
    | .name "is" =>
      let _ ← advance
      suffixes self fuel (← testOf self e)
    | _ => pure e

/-! ### Operators -/

/-- An expression after signs. -/
def unary (self : Readers) (withFilter : Bool) : Reading Expr := do
  let base : Expr ← do
    match (← kind) with
    | .operator "-" =>
      let _ ← advance
      pure (.negative (← self.signed))
    | .operator "+" =>
      let _ ← advance
      pure (.positive (← self.signed))
    | _ => primary self
  let e ← postfixes self (← remaining) base
  if withFilter then suffixes self (← remaining) e else pure e

/-- Powers, grouped to the left. -/
def power (self : Readers) : Reading Expr := leftLevel [("**", .pow)] (unary self true)

/-- Products and quotients. -/
def product (self : Readers) : Reading Expr :=
  leftLevel [("*", .mul), ("/", .div), ("//", .floorDiv), ("%", .mod)] (power self)

/-- More operands of a concatenation. -/
def concatItems (self : Readers) : Nat → List Expr → Reading (List Expr)
  | 0, items => pure items.reverse
  | fuel + 1, items => do
    if (← accept (.operator "~")) then concatItems self fuel ((← product self) :: items)
    else pure items.reverse

/-- Concatenations. -/
def concatenation (self : Readers) : Reading Expr := do
  let first ← product self
  match (← concatItems self (← remaining) [first]) with
  | [e] => pure e
  | items => pure (.concat items)

/-- Sums and differences. -/
def sum (self : Readers) : Reading Expr := leftLevel [("+", .add), ("-", .sub)] (concatenation self)

/-- The comparison by an operator. -/
def compareOp? (op : String) : Option CompareOp :=
  [("==", .eq), ("!=", .ne), ("<", .lt), ("<=", .le), (">", .gt), (">=", .ge)].lookup op

/-- A comparison sign, if there is one. -/
def comparison? : Reading (Option CompareOp) := do
  match (← kind) with
  | .operator s =>
    match compareOp? s with
    | some op =>
      let _ ← advance
      pure (some op)
    | none => pure none
  | .name "in" =>
    let _ ← advance
    pure (some .mem)
  | .name "not" =>
    if (← nextKind) == .name "in" then
      let _ ← advance
      let _ ← advance
      pure (some .notMem)
    else pure none
  | _ => pure none

/-- More operands of a chain of comparisons. -/
def compareItems (self : Readers) : Nat → List (CompareOp × Expr) → Reading (List (CompareOp × Expr))
  | 0, items => pure items.reverse
  | fuel + 1, items => do
    match (← comparison?) with
    | some op => compareItems self fuel ((op, ← sum self) :: items)
    | none => pure items.reverse

/-- Chains of comparisons. -/
def comparison (self : Readers) : Reading Expr := do
  let first ← sum self
  match (← compareItems self (← remaining) []) with
  | [] => pure first
  | items => pure (.compare first items)

/-- A comparison after `not`. -/
def logical (self : Readers) : Reading Expr := do
  if (← acceptWord "not") then pure (.opposite (← self.logical)) else comparison self

/-- An expression without a choice at its top. -/
def alternative (self : Readers) : Reading Expr :=
  wordLevel "or" .either (wordLevel "and" .both (logical self))

/-- More conditions of a choice. -/
def choices (self : Readers) : Nat → Expr → Reading Expr
  | 0, e => pure e
  | fuel + 1, e => do
    if (← acceptWord "if") then
      let test ← alternative self
      let no ← if (← acceptWord "else") then some <$> self.expr else pure none
      choices self fuel (.choice test e no)
    else pure e

/-- A choice by a condition. -/
def choice (self : Readers) : Reading Expr := do
  let e ← alternative self
  choices self (← remaining) e

/-! ### Whole expressions -/

/-- The readers for expressions with at most `n` levels of brackets, signs and `not`. -/
def readersAt : Nat → Readers
  | 0 => ⟨throw .tooDeep, throw .tooDeep, throw .tooDeep⟩
  | n + 1 =>
    let self := readersAt n
    ⟨choice self, logical self, unary self false⟩

/-- The readers for the tokens that remain. -/
def readers : Reading Readers := do
  pure (readersAt ((← remaining) + 1))

/-- An expression. -/
def expression : Reading Expr := do
  (← readers).expr

/-- An expression or a tuple; `conditional` says that choices may stand in it. -/
def expressions (conditional : Bool) (words : List String) : Reading Expr := do
  let self ← readers
  tupleOf (if conditional then self.expr else alternative self) words false

/-- A chain of filters on the text of a block; the first one needs no bar if `inline`. -/
def filterChain (inline : Bool) : Reading (Option Expr) := do
  let self ← readers
  if inline then some <$> (filters self (← remaining) (← filterOf self .hole))
  else if (← atOperator "|") then some <$> filters self (← remaining) .hole
  else pure none

/-! ### Targets -/

/-- The kind of an expression in the complaint that it cannot be assigned to. -/
def unassignable : Expr → String
  | .list _ => "list"
  | .dict _ => "dict"
  | .tuple _ => "tuple"
  | .name _ => "name"
  | _ => "const"

/-- The complaint about something that cannot be assigned to. -/
def cannotAssign (what : String) : Reading α := fail ("can't assign to " ++ Text.quote what)

/-- An expression as a target; the elements of a tuple have to be targets themselves. -/
def targetOf? : Expr → Option Target
  | .name s => some (.name s)
  | .tuple items => (targetsOf? items).map .tuple
  | .attribute (.name space) name => some (.attribute space name)
  | _ => none
where
  /-- Expressions as targets. -/
  targetsOf? : List Expr → Option (List Target)
    | [] => some []
    | e :: es =>
      match targetOf? e, targetsOf? es with
      | some t, some ts => some (t :: ts)
      | _, _ => none

/-- A name that can be assigned to. -/
def targetName : Reading String := do
  let s ← expectName
  if (literalName? s).isSome then cannotAssign "name" else pure s

/-- A target: names, tuples of targets and, if `spaces`, attributes of namespaces. -/
def assignTarget (words : List String) (spaces : Bool) : Reading Target := do
  let self ← readers
  let item : Reading Expr := do
    let e ← primary self
    match e with
    | .name s =>
      if spaces && (← accept (.operator ".")) then pure (.attribute (.name s) (← expectName))
      else pure e
    | _ => pure e
  let e ← tupleOf item words false
  match targetOf? e with
  | some t => pure t
  | none => cannotAssign (unassignable e)

end StaticSite.Template
