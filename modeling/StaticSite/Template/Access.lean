import StaticSite.Template.Compare

/-!
# Attributes, entries and parts

An object has attributes by name and entries by key, and each kind of access falls back to the other
one. What is found by neither is undefined, with a complaint that names the object.

## Main definitions

* `attribute?`, `element?`: the two kinds of access.
* `attributeOrEntry`, `entryOrAttribute`: access with the fallback.
* `partOf`: a part of a sequence.
-/

namespace StaticSite.Template

open Rendering

/-! ### Attributes -/

/-- The functions of a text. -/
def textMethods : List String :=
  ["capitalize", "casefold", "center", "count", "encode", "endswith", "expandtabs", "find", "format",
    "format_map", "index", "isalnum", "isalpha", "isascii", "isdecimal", "isdigit", "isidentifier",
    "islower", "isnumeric", "isprintable", "isspace", "istitle", "isupper", "join", "ljust", "lower",
    "lstrip", "partition", "removeprefix", "removesuffix", "replace", "rfind", "rindex", "rjust",
    "rpartition", "rsplit", "rstrip", "split", "splitlines", "startswith", "strip", "swapcase",
    "title", "translate", "upper", "zfill"]

/-- The functions of a list. -/
def listMethods : List String :=
  ["append", "clear", "copy", "count", "extend", "index", "insert", "pop", "remove", "reverse", "sort"]

/-- The functions of a mapping. -/
def dictMethods : List String :=
  ["clear", "copy", "fromkeys", "get", "items", "keys", "pop", "popitem", "setdefault", "update",
    "values"]

/-- The functions of a set. -/
def setMethods : List String :=
  ["add", "clear", "copy", "difference", "discard", "intersection", "isdisjoint", "issubset",
    "issuperset", "pop", "remove", "symmetric_difference", "union", "update"]

/-- The functions of a date. -/
def dateMethods : List String :=
  ["ctime", "isoformat", "isoweekday", "strftime", "toordinal", "weekday"]

/-- The functions of a point in time. -/
def momentMethods : List String := dateMethods ++ ["date", "time", "timestamp"]

/-- A whole number as a datum. -/
def natDatum (n : Nat) : Datum := .int n

/-- The attribute of a loop. -/
def loopAttribute? (self : Datum) (l : Loop) (name : String) : Option Datum :=
  let count := l.items.length
  match name with
  | "index" => some (natDatum (l.index + 1))
  | "index0" => some (natDatum l.index)
  | "revindex" => some (.int (Int.ofNat count - Int.ofNat l.index))
  | "revindex0" => some (.int (Int.ofNat count - Int.ofNat l.index - 1))
  | "first" => some (.bool (l.index == 0))
  | "last" => some (.bool (l.index + 1 == count))
  | "length" => some (natDatum count)
  | "depth" => some (natDatum (l.depth + 1))
  | "depth0" => some (natDatum l.depth)
  | "previtem" =>
    some (if l.index == 0 then .undefined "there is no previous item"
      else l.items[l.index - 1]?.getD .null)
  | "nextitem" => some (l.items[l.index + 1]?.getD (.undefined "there is no next item"))
  | "cycle" => some (.method self name)
  | "changed" => some (.method self name)
  | _ => none

/-- The attribute of a macro. -/
def macroAttribute? (m : Macro) (name : String) : Option Datum :=
  match name with
  | "name" => some (match m.name with
      | some s => .text s false
      | none => .null)
  | "arguments" => some (.tuple (m.signature.params.map fun p => .text p false))
  | "catch_kwargs" => some (.bool m.takesNamed)
  | "catch_varargs" => some (.bool m.takesRest)
  | "caller" => some (.bool m.takesCaller)
  | _ => none

/-- The complaint about a block without a definition further up. -/
def noParentBlock (name : String) : Datum :=
  .undefined ("there is no parent block called " ++ Text.quote name ++ ".")

/-- The attribute of an object. -/
def attribute? (store : Store) (d : Datum) (name : String) : Option Datum :=
  let method (names : List String) : Option Datum :=
    if names.contains name then some (.method d name) else none
  match d with
  | .text _ safe =>
    method (if safe then textMethods ++ ["escape", "striptags", "unescape"] else textMethods)
  | .list _ => method listMethods
  | .dict _ => method dictMethods
  | .set _ => method setMethods
  | .tuple items =>
    match name, items with
    | "grouper", [key, .list _] => some key
    | "list", [_, .list r] => some (.list r)
    | _, _ => method ["count", "index"]
  | .bytes _ => method ["decode", "hex"]
  | .range a b c =>
    match name with
    | "start" => some (.int a)
    | "stop" => some (.int b)
    | "step" => some (.int c)
    | _ => method ["count", "index"]
  | .date t =>
    match name with
    | "year" => some (natDatum t.year)
    | "month" => some (natDatum t.month)
    | "day" => some (natDatum t.day)
    | _ => method dateMethods
  | .moment t =>
    match name with
    | "year" => some (natDatum t.date.year)
    | "month" => some (natDatum t.date.month)
    | "day" => some (natDatum t.date.day)
    | "hour" => some (natDatum t.hour)
    | "minute" => some (natDatum t.minute)
    | "second" => some (natDatum t.second)
    | "microsecond" => some (natDatum t.micro)
    | _ => method momentMethods
  | .bool b =>
    match name with
    | "real" => some (.int (if b then 1 else 0))
    | "imag" => some (.int 0)
    | _ => method ["bit_count", "bit_length", "conjugate"]
  | .int n =>
    match name with
    | "real" => some (.int n)
    | "numerator" => some (.int n)
    | "imag" => some (.int 0)
    | "denominator" => some (.int 1)
    | _ => method ["bit_count", "bit_length", "conjugate"]
  | .float x =>
    match name with
    | "real" => some (.float x)
    | "imag" => some (.float (Binary64.ofInt 0))
    | _ => method ["is_integer", "conjugate"]
  | .space r => findEntry store (.text name false) (store.entries r)
  | .loop r =>
    match store.cell r with
    | .loop l => loopAttribute? d l name
    | _ => none
  | .cycler r =>
    match store.cell r with
    | .cycle items index =>
      if name == "current" then items[index]? else method ["next", "reset"]
    | _ => none
  | .module r =>
    match store.cell r with
    | .module own _ vars =>
      if name == "__name__" then some (.text own false) else vars.lookup name
    | _ => none
  | .macroAt r =>
    match store.cell r with
    | .macroBody m => macroAttribute? m name
    | _ => none
  | .block own context depth =>
    if name == "super" then
      let chain := ((store.context context).blocks.lookup own).getD []
      some (if depth + 1 < chain.length then .block own context (depth + 1) else noParentBlock own)
    else none
  | _ => none

/-! ### Entries -/

/-- The element of a list at an index, which counts from the end if it is negative. -/
def atIndex? (items : List α) (i : Int) : Option α :=
  let j := if i < 0 then i + Int.ofNat items.length else i
  if j < 0 then none else items[j.toNat]?

/-- The entry of an object under a key. -/
def element? (store : Store) (d key : Datum) : Option Datum :=
  let at? (items : List Datum) : Option Datum := key.int?.bind (atIndex? items)
  match d with
  | .dict r => if (unhashable? key).isSome then none else findEntry store key (store.entries r)
  | .list r => at? (store.items r)
  | .tuple items => at? items
  | .text s safe =>
    key.int?.bind fun i => (atIndex? s.toList i).map fun c => .text (String.singleton c) safe
  | .bytes bs => key.int?.bind fun i => (atIndex? bs i).map fun b => natDatum b.toNat
  | .range a b c => at? (rangeItems a b c)
  | .blocks context =>
    match key with
    | .text name _ =>
      match (store.context context).blocks.lookup name with
      | some (_ :: _) => some (.block name context 0)
      | _ => none
    | _ => none
  | _ => none

/-! ### Access -/

/-- The undefined result of an access. -/
def noAttribute (store : Store) (d key : Datum) : Datum :=
  match key with
  | .text name _ =>
    .undefined (Text.quote d.objectName ++ " has no attribute " ++ Text.quote name)
  | _ => .undefined (d.objectName ++ " has no element " ++ String.ofList (key.quoted store))

/-- The attribute of an object, or else its entry. -/
def attributeOrEntry (d : Datum) (name : String) : Rendering Datum := do
  d.requireSome
  let store ← get
  let key := Datum.text name false
  match (attribute? store d name).or (element? store d key) with
  | some x => pure x
  | none => pure (noAttribute store d key)

/-- The entry of an object, or else its attribute. -/
def entryOrAttribute (d key : Datum) : Rendering Datum := do
  d.requireSome
  let store ← get
  match d with
  | .dict _ => key.require
  | _ => pure ()
  match element? store d key with
  | some x => pure x
  | none =>
    let other := match key with
      | .text name _ => attribute? store d name
      | _ => none
    pure (other.getD (noAttribute store d key))

/-! ### Parts -/

/-- A bound of a part, as an index between the ends. -/
def clampBound (length : Int) (low high : Int) (i : Int) : Int :=
  let j := if i < 0 then i + length else i
  if j < low then low else if high < j then high else j

/-- The indices of a part. -/
def partIndices (length : Nat) (start stop : Option Int) (step : Int) : List Nat :=
  let n := Int.ofNat length
  let (low, high) := if 0 < step then (0, n) else (-1, n - 1)
  let first := (start.map (clampBound n low high)).getD (if 0 < step then low else high)
  let last := (stop.map (clampBound n low high)).getD (if 0 < step then high else low)
  (List.range (rangeLength first last step)).map fun (i : Nat) => (first + step * i).toNat

/-- A bound as it is given. -/
def boundOf (d : Datum) : Rendering (Option Int) := do
  match d with
  | .null => pure none
  | _ =>
    match d.int? with
    | some n => pure (some n)
    | none => wrongType "slice indices must be integers or None or have an __index__ method"

/-- A part of a sequence. -/
def partOf (d start stop step : Datum) : Rendering Datum := do
  d.require
  let indices (length : Nat) : Rendering (List Nat) := do
    let a ← boundOf start
    let b ← boundOf stop
    let c ← boundOf step
    if c == some 0 then badValue "slice step cannot be zero"
    else pure (partIndices length a b (c.getD 1))
  let pick {α : Type} (items : List α) : Rendering (List α) := do
    pure ((← indices items.length).filterMap fun i => items[i]?)
  match d with
  | .text s safe => pure (.text (String.ofList (← pick s.toList)) safe)
  | .bytes bs => pure (.bytes (← pick bs))
  | .tuple items => pure (.tuple (← pick items))
  | .list r => newList (← pick ((← get).items r))
  | .range a b c =>
    let numbers ← pick (rangeItems a b c)
    let first := numbers.head?.bind Datum.int?
    let step' := c * ((← boundOf step).getD 1)
    match first with
    | some x => pure (.range x (x + step' * numbers.length) step')
    | none => pure (.range a a step')
  | .dict _ => wrongType "unhashable type: 'slice'"
  | _ => wrongType ("'" ++ d.typeName ++ "' object is not subscriptable")

end StaticSite.Template
