import StaticSite.Template.Display

/-!
# Comparing data

Equality goes by what data are worth: numbers by their value, texts by their characters, collections by
their elements. An order exists between numbers, between texts, and between sequences of the same type.

## Main definitions

* `sameAt`, `Datum.same`: equality.
* `lessAt`, `Datum.less`: the strict order, where there is one.
* `Datum.isTruthy`, `Datum.size`, `Datum.elements`: truth, length and elements.
* `Datum.has`: membership.
-/

namespace StaticSite.Template

open Rendering

/-! ### Equality -/

/-- A datum without cells as a value of the settings. -/
def Datum.scalar? : Datum → Option Value
  | null => some .null
  | bool b => some (.bool b)
  | int n => some (.int n)
  | float x => some (.float x)
  | text s _ => some (.text s)
  | bytes bs => some (.bytes bs)
  | date d => some (.date d)
  | moment t => some (.moment t)
  | _ => none

/-- A datum that is one and the same object wherever it stands. -/
def Datum.identity? : Datum → Option (String × Nat)
  | space r => some ("space", r)
  | loop r => some ("loop", r)
  | cycler r => some ("cycler", r)
  | joiner r => some ("joiner", r)
  | stream r => some ("stream", r)
  | module r => some ("module", r)
  | macroAt r => some ("macro", r)
  | view part r =>
    some (match part with
      | .keys => ("keys", r)
      | .values => ("values", r)
      | .items => ("items", r))
  | _ => none

/-- Equality, up to a depth. -/
def sameAt (store : Store) : Nat → Datum → Datum → Bool
  | 0, _, _ => false
  | fuel + 1, a, b =>
    let sameItems (xs ys : List Datum) : Bool :=
      xs.length == ys.length && (xs.zip ys).all fun (x, y) => sameAt store fuel x y
    let within (xs ys : List Datum) : Bool := xs.all fun x => ys.any fun y => sameAt store fuel x y
    match a, b with
    | .tuple xs, .tuple ys => sameItems xs ys
    | .list r, .list q => r == q || sameItems (store.items r) (store.items q)
    | .set r, .set q =>
      let xs := store.items r
      let ys := store.items q
      xs.length == ys.length && within xs ys
    | .dict r, .dict q =>
      let xs := store.entries r
      let ys := store.entries q
      r == q || (xs.length == ys.length && xs.all fun (k, v) =>
        ys.any fun (l, w) => sameAt store fuel k l && sameAt store fuel v w)
    | .range a b c, .range d e f => sameItems (rangeItems a b c) (rangeItems d e f)
    | .builtin a, .builtin b => a == b
    | .absent _, .absent _ => true
    | a, b =>
      match a.scalar?, b.scalar? with
      | some x, some y => x.same y
      | _, _ =>
        match a.identity?, b.identity? with
        | some x, some y => x == y
        | _, _ => false

/-- The greatest depth of collections that are compared. -/
def compareDepth : Nat := 400

/-- Equality of two data. -/
def sameDatum (store : Store) (a b : Datum) : Bool := sameAt store compareDepth a b

/-- Fail if a datum may not be used at all. -/
def Datum.require (d : Datum) : Rendering Unit := do
  match d with
  | undefined message => undefinedUse message
  | _ => pure ()

/-- Fail if there is nothing. -/
def Datum.requireSome (d : Datum) : Rendering Unit := do
  match d with
  | undefined message => undefinedUse message
  | absent message => undefinedUse message
  | _ => pure ()

/-- Equality of two data that are not undefined. -/
def Datum.same (a b : Datum) : Rendering Bool := do
  a.require
  b.require
  pure (sameDatum (← get) a b)

/-- The value of the first entry with a key. -/
def findEntry (store : Store) (key : Datum) (entries : List (Datum × Datum)) : Option Datum :=
  (entries.find? fun (k, _) => sameDatum store k key).map (·.2)

/-- The entries with a new value for a key: in place, or at the end. -/
def storeEntry (store : Store) (key value : Datum) :
    List (Datum × Datum) → List (Datum × Datum)
  | [] => [(key, value)]
  | (k, v) :: rest =>
    if sameDatum store k key then (k, value) :: rest else (k, v) :: storeEntry store key value rest

/-- The type of a datum that cannot be a key. -/
def unhashable? : Datum → Option String
  | .list _ => some "list"
  | .dict _ => some "dict"
  | .set _ => some "set"
  | .tuple items => unhashableIn? items
  | _ => none
where
  /-- The type of an element that cannot be a part of a key. -/
  unhashableIn? : List Datum → Option String
    | [] => none
    | d :: ds => (unhashable? d).or (unhashableIn? ds)

/-- Fail for something that cannot be a key. -/
def requireKey (d : Datum) : Rendering Unit := do
  d.require
  match unhashable? d with
  | some name => wrongType ("unhashable type: '" ++ name ++ "'")
  | none => pure ()

/-! ### Order -/

/-- A number as a machine number. -/
def Datum.float? : Datum → Option Float
  | bool b => some (if b then 1 else 0)
  | int n => some (Binary64.ofInt n).toFloat
  | float x => some x.toFloat
  | _ => none

/-- A whole number. -/
def Datum.int? : Datum → Option Int
  | bool b => some (if b then 1 else 0)
  | int n => some n
  | _ => none

/-- The complaint about two data without an order. -/
def unordered (sign : String) (a b : Datum) : Failure :=
  .wrongType ("'" ++ sign ++ "' not supported between instances of '" ++ a.typeName ++ "' and '" ++
    b.typeName ++ "'")

/-- The strict order of texts by their characters. -/
def textLess (a b : String) : Bool := a < b

/-- Compare two data by a sign, of which `strict` and `upward` are the meaning. -/
def orderAt (store : Store) (sign : String) (strict upward : Bool) :
    Nat → Datum → Datum → Except Failure Bool
  | 0, a, b => .error (unordered sign a b)
  | fuel + 1, a, b =>
    let decide (less same : Bool) : Bool :=
      if same then !strict else if upward then less else !less
    let rec items : List Datum → List Datum → Except Failure Bool
      | [], [] => .ok (decide false true)
      | [], _ :: _ => .ok (decide true false)
      | _ :: _, [] => .ok (decide false false)
      | x :: xs, y :: ys =>
        if sameDatum store x y then items xs ys else orderAt store sign strict upward fuel x y
    match a, b with
    | .undefined message, _ => .error (.template .undefined message)
    | _, .undefined message => .error (.template .undefined message)
    | .absent message, _ => .error (.template .undefined message)
    | _, .absent message => .error (.template .undefined message)
    | .text x _, .text y _ => .ok (decide (textLess x y) (x == y))
    | .list r, .list q => items (store.items r) (store.items q)
    | .tuple xs, .tuple ys => items xs ys
    | .date x, .date y => .ok (decide (x.iso < y.iso) (x == y))
    | .moment x, .moment y => .ok (decide (x.iso < y.iso) (x == y))
    | a, b =>
      match a.int?, b.int? with
      | some x, some y => .ok (decide (x < y) (x == y))
      | _, _ =>
        match a.float?, b.float? with
        | some x, some y =>
          if x.isNaN || y.isNaN then .ok false else .ok (decide (x < y) (x == y))
        | _, _ => .error (unordered sign a b)

/-- The first datum is less than the second one. -/
def lessDatum (store : Store) (a b : Datum) : Except Failure Bool :=
  orderAt store "<" true true compareDepth a b

/-- Insert a datum into a sorted list, behind those that are not greater. -/
def insertBy (before : α → α → Except Failure Bool) (x : α) : List α → Except Failure (List α)
  | [] => .ok [x]
  | y :: ys => do
    if (← before x y) then pure (x :: y :: ys) else pure (y :: (← insertBy before x ys))

/-- Sort by a strict order that may fail; equal data keep their order. -/
def sortBy (before : α → α → Except Failure Bool) (xs : List α) : Except Failure (List α) :=
  xs.foldlM (fun sorted x => insertBy before x sorted) []

/-! ### Truth, length and elements -/

/-- The number of elements of a datum that has a length. -/
def sizeOf? (store : Store) : Datum → Option Nat
  | .text s _ => some s.length
  | .bytes bs => some bs.length
  | .absent _ => some 0
  | .tuple items => some items.length
  | .range a b c => some (rangeLength a b c)
  | .list r => some (store.items r).length
  | .set r => some (store.items r).length
  | .dict r => some (store.entries r).length
  | .view _ r => some (store.entries r).length
  | .loop r => match store.cell r with
    | .loop l => some l.items.length
    | _ => some 0
  | _ => none

/-- A datum counts as true. -/
def Datum.isTruthy (d : Datum) : Rendering Bool := do
  match d with
  | null => pure false
  | bool b => pure b
  | int n => pure (n != 0)
  | float x => pure !x.isZero
  | undefined message => undefinedUse message
  | _ => pure ((sizeOf? (← get) d).all (· != 0))

/-- The length of a datum. -/
def Datum.size (d : Datum) : Rendering Nat := do
  d.require
  match sizeOf? (← get) d with
  | some n => pure n
  | none => wrongType ("object of type '" ++ d.typeName ++ "' has no len()")

/-- A character as a text. -/
def charText (c : Char) : Datum := .text (String.singleton c) false

/-- The elements of a datum that has elements; a stream is gone through. -/
def elements? (d : Datum) : Rendering (Option (List Datum)) := do
  let store ← get
  match d with
  | .text s _ => pure (some (s.toList.map charText))
  | .bytes bs => pure (some (bs.map fun b => .int b.toNat))
  | .tuple items => pure (some items)
  | .absent _ => pure (some [])
  | .range a b c => pure (some (rangeItems a b c))
  | .list r => pure (some (store.items r))
  | .set r => pure (some (store.items r))
  | .dict r => pure (some ((store.entries r).map (·.1)))
  | .view .keys r => pure (some ((store.entries r).map (·.1)))
  | .view .values r => pure (some ((store.entries r).map (·.2)))
  | .view .items r => pure (some ((store.entries r).map fun (k, v) => .tuple [k, v]))
  | .stream r =>
    match store.cell r with
    | .stream kind rest fault =>
      put r (.stream kind [] none)
      match fault with
      | some e => throw e
      | none => pure (some rest)
    | _ => pure (some [])
  | .undefined message => undefinedUse message
  | _ => pure none

/-- The complaint about a datum without elements. -/
def notIterable (d : Datum) : String := "'" ++ d.typeName ++ "' object is not iterable"

/-- The elements of a datum. -/
def Datum.elements (d : Datum) : Rendering (List Datum) := do
  match (← elements? d) with
  | some xs => pure xs
  | none => wrongType (notIterable d)

/-- A datum is among the elements of another one. -/
def Datum.has (whole part : Datum) : Rendering Bool := do
  whole.require
  let store ← get
  match whole with
  | text s _ =>
    part.require
    match part with
    | text p _ => pure (p.isEmpty || Text.contains p.toList s.toList)
    | _ => wrongType ("'in <string>' requires string as left operand, not " ++ part.typeName)
  | dict r =>
    requireKey part
    pure (findEntry store part (store.entries r)).isSome
  | set r =>
    requireKey part
    pure ((store.items r).any (sameDatum store part))
  | _ =>
    part.require
    match (← elements? whole) with
    | some xs => pure (xs.any (sameDatum store part))
    | none => wrongType ("argument of type '" ++ whole.typeName ++ "' is not iterable")

end StaticSite.Template
