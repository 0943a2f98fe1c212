import StaticSite.Number.Binary64
import StaticSite.Value.Calendar

/-!
# Values of settings

The values that a settings file can hold. A mapping is a list of entries in the order of their
insertion, with at most one entry for a key; keys are compared by `Value.same`, which takes a truth
value for the number one or zero and an integral float for its integer.

## Main definitions

* `Value`: the value type.
* `Value.same`: equality of keys and elements.
* `Value.get?`, `Value.put`: reading and writing an entry of a mapping by a text key.
* `Value.isTruthy`: everything but null, false, zero and the empty collections.
-/

namespace StaticSite

/-- A value of a settings file. -/
inductive Value
  | null
  | bool (b : Bool)
  | int (n : Int)
  | float (x : Binary64)
  | text (s : String)
  | bytes (bs : List UInt8)
  | date (d : Date)
  | moment (t : Moment)
  | list (items : List Value)
  | tuple (items : List Value)
  | set (items : List Value)
  | dict (entries : List (Value × Value))
  deriving Inhabited

namespace Value

/-- The name of a value's type in messages. -/
def typeName : Value → String
  | null => "NoneType"
  | bool _ => "bool"
  | int _ => "int"
  | float _ => "float"
  | text _ => "str"
  | bytes _ => "bytes"
  | date _ => "date"
  | moment _ => "datetime"
  | list _ => "list"
  | tuple _ => "tuple"
  | set _ => "set"
  | dict _ => "dict"

/-- The name of a value's type where the module of calendar types is named too. -/
def fullTypeName : Value → String
  | date _ => "datetime.date"
  | moment _ => "datetime.datetime"
  | v => v.typeName

/-- The exact integer that a number is equal to. -/
def asInteger? : Value → Option Int
  | bool b => some (if b then 1 else 0)
  | int n => some n
  | float x => if x.isInteger then some x.truncate else none
  | _ => none

mutual

/-- Equality of values; numbers are compared by what they are worth. -/
def same : Value → Value → Bool
  | null, null => true
  | text a, text b => a == b
  | bytes a, bytes b => a == b
  | date a, date b => a == b
  | moment a, moment b => a == b
  | list xs, list ys => sameItems xs ys
  | tuple xs, tuple ys => sameItems xs ys
  | set xs, set ys => xs.length == ys.length && sameItems xs ys
  | dict xs, dict ys => sameEntries xs ys
  | float a, float b =>
    match (float a).asInteger?, (float b).asInteger? with
    | some m, some n => m == n
    | _, _ => a == b && !a.isNaN
  | a, b =>
    match a.asInteger?, b.asInteger? with
    | some m, some n => m == n
    | _, _ => false

/-- Equality of the elements in order. -/
def sameItems : List Value → List Value → Bool
  | [], [] => true
  | x :: xs, y :: ys => same x y && sameItems xs ys
  | _, _ => false

/-- Equality of the entries in order. -/
def sameEntries : List (Value × Value) → List (Value × Value) → Bool
  | [], [] => true
  | (k, x) :: xs, (l, y) :: ys => same k l && same x y && sameEntries xs ys
  | _, _ => false

end

/-! ### Mappings -/

/-- The value of the first entry whose key is `key`. -/
def find? (key : Value) : List (Value × Value) → Option Value
  | [] => none
  | (k, v) :: entries => if same k key then some v else find? key entries

/-- Write an entry: in place if the key is there, at the end if it is new. -/
def store (key value : Value) : List (Value × Value) → List (Value × Value)
  | [] => [(key, value)]
  | (k, v) :: entries =>
    if same k key then (k, value) :: entries else (k, v) :: store key value entries

/-- The mapping without the entry of a key. -/
def discard (key : Value) : List (Value × Value) → List (Value × Value)
  | [] => []
  | (k, v) :: entries => if same k key then entries else (k, v) :: discard key entries

/-- The value under a text key of a mapping; nothing for any other value. -/
def get? (key : String) : Value → Option Value
  | dict entries => find? (text key) entries
  | _ => none

/-- The mapping with these entries, a later one overriding an earlier one in its place. -/
def ofEntries (entries : List (Value × Value)) : Value :=
  dict (entries.foldl (fun all (k, v) => store k v all) [])

/-- The value is a mapping. -/
def isDict : Value → Bool
  | dict _ => true
  | _ => false

/-- The value counts as true in a condition. -/
def isTruthy : Value → Bool
  | null => false
  | bool b => b
  | int n => n != 0
  | float x => !x.isZero
  | text s => !s.isEmpty
  | bytes bs => !bs.isEmpty
  | date _ => true
  | moment _ => true
  | list items => !items.isEmpty
  | tuple items => !items.isEmpty
  | set items => !items.isEmpty
  | dict entries => !entries.isEmpty

end Value

end StaticSite
