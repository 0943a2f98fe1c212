import StaticSite.Template.Check
import StaticSite.Template.Method

/-!
# Tests

A test says yes or no about a datum, perhaps with arguments.

## Main definitions

* `runTest`: a test by its name.
-/

namespace StaticSite.Template

open Rendering

/-- The complaint about an unknown test that is asked for while the template runs. -/
def noSuch (kind name : String) : Rendering α := misuse (unknownName kind name)

/-- The datum can be called. -/
def isCallable : Datum → Bool
  | .macroAt _ => true
  | .method _ _ => true
  | .builtin _ => true
  | .block _ _ _ => true
  | .joiner _ => true
  | .loop _ => true
  | .undefined _ => true
  | _ => false

/-- The two data are one and the same. -/
def isSame (store : Store) (a b : Datum) : Bool :=
  match a, b with
  | .list r, .list q => r == q
  | .dict r, .dict q => r == q
  | .set r, .set q => r == q
  | .undefined m, .undefined n => m == n
  | .tuple [], .tuple [] => true
  | .tuple _, .tuple _ => false
  | .bool x, .bool y => x == y
  | .int x, .int y => x == y
  | .float _, .float _ => false
  | a, b => a.typeName == b.typeName && sameDatum store a b

/-- The datum has elements that can be reached by keys. -/
def isSequenceLike : Datum → Bool
  | .text _ _ => true
  | .bytes _ => true
  | .list _ => true
  | .dict _ => true
  | .tuple _ => true
  | .range _ _ _ => true
  | _ => false

/-- The datum has elements. -/
def isIterable : Datum → Bool
  | .set _ => true
  | .view _ _ => true
  | .stream _ => true
  | .loop _ => true
  | d => isSequenceLike d

/-- A test by its name, with arguments that fit. -/
def answerTest (name : String) (d : Datum) (g : Given) : Rendering Bool := do
  let store ← get
  let other : Rendering Datum := g.need name 0 "other"
  let remainderIs (n : Int) (m : Datum) : Rendering Bool := do
    let r ← binary .mod d m
    r.same (.int n)
  let characters : Rendering (List Char) := do pure (← d.plain).toList
  match name with
  | "defined" => match d with
    | .undefined _ => pure false
    | .absent _ => pure false
    | _ => pure true
  | "undefined" => match d with
    | .undefined _ => pure true
    | .absent _ => pure true
    | _ => pure false
  | "none" => match d with
    | .null => pure true
    | _ => pure false
  | "boolean" => match d with
    | .bool _ => pure true
    | _ => pure false
  | "true" => match d with
    | .bool b => pure b
    | _ => pure false
  | "false" => match d with
    | .bool b => pure !b
    | _ => pure false
  | "integer" => match d with
    | .int _ => pure true
    | _ => pure false
  | "float" => match d with
    | .float _ => pure true
    | _ => pure false
  | "number" => pure d.float?.isSome
  | "string" => match d with
    | .text _ _ => pure true
    | _ => pure false
  | "mapping" => match d with
    | .dict _ => pure true
    | _ => pure false
  | "sequence" => pure (isSequenceLike d)
  | "iterable" =>
    d.require
    pure (isIterable d)
  | "callable" => pure (isCallable d)
  | "escaped" => match d with
    | .text _ safe => pure safe
    | .module _ => pure true
    | _ => pure false
  | "sameas" => pure (isSame store d (← other))
  | "odd" => remainderIs 1 (.int 2)
  | "even" => remainderIs 0 (.int 2)
  | "divisibleby" => remainderIs 0 (← g.need name 0 "num")
  | "lower" =>
    let s ← characters
    pure (casedAs (fun c => Text.isCased c && !Text.isLower c) s)
  | "upper" =>
    let s ← characters
    pure (casedAs (fun c => Text.isCased c && !Text.isUpper c) s)
  | "in" => (← g.need name 0 "seq").has d
  | "filter" => match d with
    | .text s _ => pure (knownFilters.contains s)
    | _ => pure false
  | "test" => match d with
    | .text s _ => pure (knownTests.contains s)
    | _ => pure false
  | "eq" | "==" | "equalto" => compareBy .eq d (← other)
  | "ne" | "!=" => compareBy .ne d (← other)
  | "lt" | "<" | "lessthan" => compareBy .lt d (← other)
  | "le" | "<=" => compareBy .le d (← other)
  | "gt" | ">" | "greaterthan" => compareBy .gt d (← other)
  | "ge" | ">=" => compareBy .ge d (← other)
  | _ => noSuch "test" name

/-- A test by its name. -/
def runTest (name : String) (d : Datum) (g : Given) : Rendering Bool :=
  match testComplaint? name g with
  | some text => wrongType text
  | none => answerTest name d g

end StaticSite.Template
