import StaticSite.Text.Basic
import StaticSite.Text.Letter
import StaticSite.Value.Basic

/-!
# Fields by dotted path

A dotted path walks through nested mappings by key and through lists by decimal index. The first
segment that cannot be followed is the missing field.

## Main definitions

* `Value.step`: one segment.
* `Value.field`: the whole path.
-/

namespace StaticSite

/-- Why a path leads to no value, or to none that can be shown. -/
inductive FieldError
  /-- The segment `key` of `path` cannot be followed. -/
  | missing (path key : String)
  /-- The segment is a digit without a decimal value, or a number too long to be read. -/
  | badIndex (reason : String)
  /-- The value at the end of the path cannot be shown. -/
  | unshown (reason : String)
  deriving DecidableEq, Repr

/-- The wording of a missing field. -/
def FieldError.message : FieldError → String
  | missing path key => "'" ++ path ++ "' has no field '" ++ key ++ "'"
  | badIndex reason => reason
  | unshown reason => reason

/-- The greatest number of digits of an integer in a text. -/
def maxIntegerDigits : Nat := 4300

/-- The reason why a text of so many digits is no integer. -/
def tooManyDigits (count : Nat) : String :=
  "Exceeds the limit (4300 digits) for integer string conversion: value has " ++ toString count ++
    " digits; use sys.set_int_max_str_digits() to increase the limit"

/-- The value of a run of decimal digits, most significant first. -/
def decimalNumber (digits : List Char) : Nat :=
  digits.foldl (fun n c => 10 * n + (Text.decimalValue? c).getD 0) 0

namespace Value

/-- The elements of an indexed collection. -/
def elements? : Value → Option (List Value)
  | list items => some items
  | tuple items => some items
  | bytes bs => some (bs.map fun b => int b.toNat)
  | _ => none

/-- The element of an indexed collection under a segment made of digits: nothing if the index is
too great, an error if the digits have no decimal value. -/
def index (items : List Value) (key : List Char) : Except String (Option Value) :=
  if key.isEmpty || !(key.all Text.isDigit) then .ok none
  else if !(key.all Text.isDecimal) then
    .error ("invalid literal for int() with base 10: '" ++ String.ofList key ++ "'")
  else if maxIntegerDigits < key.length then .error (tooManyDigits key.length)
  else .ok items[decimalNumber key]?

/-- Follow one segment. -/
def step (v : Value) (key : List Char) : Except String (Option Value) :=
  match v.get? (String.ofList key) with
  | some w => .ok (some w)
  | none =>
    match v.elements? with
    | some items => index items key
    | none => .ok none

/-- Follow the segments one after the other. -/
def follow (path : String) (v : Value) : List (List Char) → Except FieldError Value
  | [] => .ok v
  | key :: keys =>
    match v.step key with
    | .ok (some w) => follow path w keys
    | .ok none => .error (.missing path (String.ofList key))
    | .error reason => .error (.badIndex reason)

/-- The value at the end of a dotted path. -/
def field (v : Value) (path : String) : Except FieldError Value :=
  follow path v (Text.splitOn '.' path.toList)

end Value

end StaticSite
