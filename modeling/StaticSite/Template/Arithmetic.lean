import StaticSite.Template.Format

/-!
# Operators

What the operators do with data of each type. Whole numbers are exact; a quotient, and an operation with
a machine number, is a machine number. Texts and sequences are put together and repeated. Putting safe
markup together with a text escapes the text.

## Main definitions

* `binary`, `negate`, `keepSign`: the operators.
* `concatenate`: texts put together.
-/

namespace StaticSite.Template

open Rendering

/-- The complaint about operands of an operator. -/
def unsupported (op : String) (a b : Datum) : Rendering α :=
  wrongType ("unsupported operand type(s) for " ++ op ++ ": '" ++ a.typeName ++ "' and '" ++
    b.typeName ++ "'")

/-- The characters of a text as markup. -/
def asMarkup (s : String) (safe : Bool) : String :=
  if safe then s else String.ofList (Text.escape s.toList)

/-- Put two texts together. -/
def joinTexts (a : String) (safeA : Bool) (b : String) (safeB : Bool) : Datum :=
  if safeA || safeB then .text (asMarkup a safeA ++ asMarkup b safeB) true
  else .text (a ++ b) false

/-- A text several times. -/
def repeatText (s : String) (n : Int) : String := String.join (List.replicate n.toNat s)

/-- Elements several times. -/
def repeatItems (xs : List Datum) (n : Int) : List Datum := (List.replicate n.toNat xs).flatten

/-- A machine number from an operation on two. -/
def floatResult (op : Float → Float → Float) (x y : Float) : Datum :=
  .float (Binary64.ofFloat (op x y))

/-- The complaint about a division by zero. -/
def zeroDivision (message : String) : Rendering α := throw (.arithmetic message)

/-- The bits of a number. -/
def machine (d : Datum) : Binary64 := Binary64.ofFloat (d.float?.getD 0)

/-- The sum of two data. -/
def add (a b : Datum) : Rendering Datum := do
  match a, b with
  | .text s x, .text t y => pure (joinTexts s x t y)
  | .list r, .list q =>
    let store ← get
    newList (store.items r ++ store.items q)
  | .tuple xs, .tuple ys => pure (.tuple (xs ++ ys))
  | _, _ =>
    match a.int?, b.int? with
    | some m, some n => pure (.int (m + n))
    | _, _ =>
      match a.float?, b.float? with
      | some x, some y => pure (floatResult (· + ·) x y)
      | _, _ =>
        let only (name : String) : Rendering Datum :=
          wrongType ("can only concatenate " ++ name ++ " (not \"" ++ b.typeName ++ "\") to " ++ name)
        match a with
        | .text _ false => only "str"
        | .list _ => only "list"
        | .tuple _ => only "tuple"
        | _ => unsupported "+" a b

/-- The difference of two data. -/
def subtract (a b : Datum) : Rendering Datum := do
  match a, b with
  | .set r, .set q =>
    let store ← get
    let xs := (store.items r).filter fun x => !(store.items q).any (sameDatum store x)
    pure (.set (← alloc (.items xs)))
  | _, _ =>
    match a.int?, b.int? with
    | some m, some n => pure (.int (m - n))
    | _, _ =>
      match a.float?, b.float? with
      | some x, some y => pure (floatResult (· - ·) x y)
      | _, _ => unsupported "-" a b

/-- A sequence several times. -/
def repeated (a : Datum) (n : Int) : Rendering (Option Datum) := do
  match a with
  | .text s safe => pure (some (.text (repeatText s n) safe))
  | .tuple xs => pure (some (.tuple (repeatItems xs n)))
  | .list r => some <$> newList (repeatItems ((← get).items r) n)
  | _ => pure none

/-- The datum is a sequence that can be repeated. -/
def isSequence : Datum → Bool
  | .text _ _ => true
  | .tuple _ => true
  | .list _ => true
  | _ => false

/-- The product of two data. -/
def multiply (a b : Datum) : Rendering Datum := do
  match a.int?, b.int? with
  | some m, some n => pure (.int (m * n))
  | _, _ =>
    match a.float?, b.float? with
    | some x, some y => pure (floatResult (· * ·) x y)
    | _, _ =>
      let right ← match b.int? with
        | some n => repeated a n
        | none => pure none
      let left ← match a.int? with
        | some n => repeated b n
        | none => pure none
      match right.or left with
      | some d => pure d
      | none =>
        if isSequence a then
          wrongType ("can't multiply sequence by non-int of type '" ++ b.typeName ++ "'")
        else if isSequence b then
          wrongType ("can't multiply sequence by non-int of type '" ++ a.typeName ++ "'")
        else unsupported "*" a b

/-- The quotient of two numbers. -/
def divide (a b : Datum) : Rendering Datum := do
  match a.int?, b.int? with
  | some m, some n =>
    if n == 0 then zeroDivision "division by zero"
    else pure (.float (Binary64.ofRatio ((m < 0) != (n < 0)) m.natAbs n.natAbs))
  | _, _ =>
    match a.float?, b.float? with
    | some x, some y =>
      if y == 0 then zeroDivision "float division by zero" else pure (floatResult (· / ·) x y)
    | _, _ => unsupported "/" a b

/-- The quotient of two numbers, rounded down. -/
def floorDivide (a b : Datum) : Rendering Datum := do
  match a.int?, b.int? with
  | some m, some n =>
    if n == 0 then zeroDivision "integer division or modulo by zero" else pure (.int (Int.fdiv m n))
  | _, _ =>
    match a.float?, b.float? with
    | some _, some y =>
      if y == 0 then zeroDivision "float floor division by zero"
      else pure (.float ((machine a).floorQuotient (machine b)))
    | _, _ => unsupported "//" a b

/-- The remainder of two numbers, or a text with its places filled. -/
def remainderOf (a b : Datum) : Rendering Datum := do
  match a with
  | .text s false => pure (.text (← fillPercent s b) false)
  | .text s true =>
    let escapeItem (d : Datum) : Datum := match d with
      | .text t safe => .text (asMarkup t safe) true
      | other => other
    let args := match b with
      | .tuple xs => Datum.tuple (xs.map escapeItem)
      | d => escapeItem d
    pure (.text (← fillPercent s args) true)
  | _ =>
    match a.int?, b.int? with
    | some m, some n =>
      if n == 0 then zeroDivision "integer modulo by zero" else pure (.int (Int.fmod m n))
    | _, _ =>
      match a.float?, b.float? with
      | some _, some y =>
        if y == 0 then zeroDivision "float modulo"
        else pure (.float ((machine a).remainder (machine b)))
      | _, _ => unsupported "%" a b

/-- The power of two numbers. -/
def powerOf (a b : Datum) : Rendering Datum := do
  match a.int?, b.int? with
  | some m, some (.ofNat n) => pure (.int (Int.pow m n))
  | _, _ =>
    match a.float?, b.float? with
    | some x, some y =>
      if x == 0 && y < 0 then zeroDivision "0.0 cannot be raised to a negative power"
      else pure (floatResult Float.pow x y)
    | _, _ => unsupported BinaryOp.pow.spelling a b

/-- An operator on two data. -/
def binary (op : BinaryOp) (a b : Datum) : Rendering Datum := do
  a.requireSome
  b.requireSome
  match op with
  | .add => add a b
  | .sub => subtract a b
  | .mul => multiply a b
  | .div => divide a b
  | .floorDiv => floorDivide a b
  | .mod => remainderOf a b
  | .pow => powerOf a b

/-- The complaint about the operand of a sign. -/
def badSign (sign : String) (d : Datum) : Rendering α :=
  wrongType ("bad operand type for unary " ++ sign ++ ": '" ++ d.typeName ++ "'")

/-- The number with the opposite sign. -/
def negate (d : Datum) : Rendering Datum := do
  d.requireSome
  match d with
  | .float x => pure (.float (Binary64.ofFloat (-x.toFloat)))
  | _ =>
    match d.int? with
    | some n => pure (.int (-n))
    | none => badSign "-" d

/-- The number with its sign. -/
def keepSign (d : Datum) : Rendering Datum := do
  d.requireSome
  match d with
  | .float x => pure (.float x)
  | _ =>
    match d.int? with
    | some n => pure (.int n)
    | none => badSign "+" d

/-- The texts of data put together; with escaping they are markup. -/
def concatenate (escaping : Bool) (items : List Datum) : Rendering Datum := do
  if escaping then
    let isSafe (d : Datum) : Bool := match d with
      | .text _ true => true
      | _ => false
    if items.any isSafe then pure (.text (String.join (← items.mapM Datum.escaped)) true)
    else pure (.text (String.join (← items.mapM Datum.plain)) false)
  else pure (.text (String.join (← items.mapM Datum.plain)) false)

/-- One comparison. -/
def compareBy (op : CompareOp) (a b : Datum) : Rendering Bool := do
  let order (sign : String) (strict upward : Bool) : Rendering Bool := do
    Rendering.ofExcept (orderAt (← get) sign strict upward compareDepth a b)
  match op with
  | .eq => a.same b
  | .ne => not <$> a.same b
  | .lt => order "<" true true
  | .le => order "<=" false true
  | .gt => order ">" true false
  | .ge => order ">=" false false
  | .mem => b.has a
  | .notMem => not <$> b.has a

end StaticSite.Template
