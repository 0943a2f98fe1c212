import StaticSite.Template.Compare

/-!
# Data as JSON

The JSON text of a datum, with the keys of every mapping sorted and with the characters of markup
escaped, so that it can stand anywhere in a page.

## Main definitions

* `Datum.json`: the JSON text of a datum.
-/

namespace StaticSite.Template

open Rendering

/-- A code unit as an escape. -/
def unitEscape (n : Nat) : List Char := '\\' :: 'u' :: Text.padded 16 4 n

/-- A character of a JSON string. -/
def jsonChar (c : Char) : List Char :=
  let n := c.toNat
  if c == '"' then ['\\', '"']
  else if c == '\\' then ['\\', '\\']
  else if c == '\n' then ['\\', 'n']
  else if c == '\r' then ['\\', 'r']
  else if c == '\t' then ['\\', 't']
  else if n == 12 then ['\\', 'f']
  else if n == 8 then ['\\', 'b']
  else if c == '<' || c == '>' || c == '&' || c == '\'' then unitEscape n
  else if 0x20 ≤ n && n < 0x7f then [c]
  else if n < 0x10000 then unitEscape n
  else unitEscape (0xd800 + (n - 0x10000) / 0x400) ++ unitEscape (0xdc00 + (n - 0x10000) % 0x400)

/-- A JSON string. -/
def jsonString (s : List Char) : List Char := '"' :: s.flatMap jsonChar ++ ['"']

/-- The text of a machine number. -/
def jsonFloat (x : Binary64) : List Char :=
  if x.isNaN then "NaN".toList
  else if x.isInfinite then if x.isNegative then "-Infinity".toList else "Infinity".toList
  else x.renderChars

/-- The text of a key. -/
def jsonKey (d : Datum) : Rendering (List Char) := do
  match d with
  | .text s _ => pure s.toList
  | .int n => pure (Text.ofInt n)
  | .bool b => pure (if b then "true".toList else "false".toList)
  | .null => pure "null".toList
  | .float x => pure (jsonFloat x)
  | _ =>
    wrongType ("keys must be str, int, float, bool or None, not " ++
      (((d.typeName.splitOn ".").getLast?).getD ""))

/-- Items between brackets, on one line or on lines of their own. -/
def jsonItems (indent : Option Nat) (level : Nat) (opening closing : Char)
    (items : List (List Char)) : List Char :=
  if items.isEmpty then [opening, closing]
  else match indent with
    | none => opening :: Text.join [',', ' '] items ++ [closing]
    | some n =>
      let line (k : Nat) : List Char := '\n' :: Text.copies (n * k) ' '
      opening :: line (level + 1) ++ Text.join (',' :: line (level + 1)) items ++ line level ++
        [closing]

/-- The JSON text of a datum, up to a depth. -/
def jsonAt (indent : Option Nat) : Nat → Nat → Datum → Rendering (List Char)
  | 0, _, _ => badValue "Circular reference detected"
  | fuel + 1, level, d => do
    let store ← get
    let list (items : List Datum) : Rendering (List Char) := do
      pure (jsonItems indent level '[' ']' (← items.mapM (jsonAt indent fuel (level + 1))))
    match d with
    | .null => pure "null".toList
    | .bool b => pure (if b then "true".toList else "false".toList)
    | .int n => pure (Text.ofInt n)
    | .float x => pure (jsonFloat x)
    | .text s _ => pure (jsonString s.toList)
    | .list r => list (store.items r)
    | .tuple items => list items
    | .dict r =>
      let entries ← Rendering.ofExcept
        (sortBy (fun a b => lessDatum store a.1 b.1) (store.entries r))
      let items ← entries.mapM fun (k, v) => do
        let key ← jsonKey k
        pure (jsonString key ++ [':', ' '] ++ (← jsonAt indent fuel (level + 1) v))
      pure (jsonItems indent level '\x7b' '\x7d' items)
    | _ =>
      wrongType ("Object of type " ++ ((d.typeName.splitOn ".").getLast?).getD "" ++
        " is not JSON serializable")

/-- The JSON text of a datum. -/
def Datum.json (indent : Option Nat) (d : Datum) : Rendering String := do
  pure (String.ofList (← jsonAt indent compareDepth 0 d))

end StaticSite.Template
