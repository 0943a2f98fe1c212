import StaticSite.Template.Dialogue
import StaticSite.Text.Escape

/-!
# The texts of data

The text of a datum on a page and inside a collection. A collection that contains itself is cut off
where it comes round again.

## Main definitions

* `Datum.typeName`, `Datum.objectName`: the names of types in messages.
* `quotedAt`: the text of a datum inside a collection.
* `Datum.plain`: the text of a datum on a page, which the undefined does not have.
-/

namespace StaticSite.Template

/-! ### Names of types -/

/-- The name of a datum's type. -/
def Datum.typeName : Datum → String
  | null => "NoneType"
  | bool _ => "bool"
  | int _ => "int"
  | float _ => "float"
  | text _ safe => if safe then "Markup" else "str"
  | bytes _ => "bytes"
  | date _ => "datetime.date"
  | moment _ => "datetime.datetime"
  | tuple _ => "tuple"
  | range _ _ _ => "range"
  | undefined _ => "StrictUndefined"
  | absent _ => "Undefined"
  | list _ => "list"
  | dict _ => "dict"
  | set _ => "set"
  | space _ => "Namespace"
  | loop _ => "LoopContext"
  | cycler _ => "Cycler"
  | joiner _ => "Joiner"
  | stream _ => "generator"
  | module _ => "TemplateModule"
  | macroAt _ => "Macro"
  | view .keys _ => "dict_keys"
  | view .values _ => "dict_values"
  | view .items _ => "dict_items"
  | method (text _ true) _ => "method"
  | method (space _) _ => "method"
  | method (loop _) _ => "method"
  | method (cycler _) _ => "method"
  | method _ _ => "builtin_function_or_method"
  | builtin .include => "method"
  | builtin .lipsum => "function"
  | builtin _ => "type"
  | block _ _ _ => "BlockReference"
  | blocks _ => "TemplateReference"

/-- The name of a datum's type in the complaint that it has no attribute. -/
def Datum.objectName : Datum → String
  | null => "None"
  | text s true => "markupsafe." ++ (text s true).typeName ++ " object"
  | space _ => "jinja2.utils.Namespace object"
  | cycler _ => "jinja2.utils.Cycler object"
  | joiner _ => "jinja2.utils.Joiner object"
  | loop _ => "jinja2.runtime.LoopContext object"
  | macroAt _ => "jinja2.runtime.Macro object"
  | block _ _ _ => "jinja2.runtime.BlockReference object"
  | blocks _ => "jinja2.runtime.TemplateReference object"
  | module _ => "jinja2.environment.TemplateModule object"
  | undefined _ => "jinja2.runtime.StrictUndefined object"
  | absent _ => "jinja2.runtime.Undefined object"
  | d => d.typeName ++ " object"

/-! ### Ranges -/

/-- The number of elements of a range. -/
def rangeLength (start stop step : Int) : Nat :=
  if 0 < step then (Int.fdiv (stop - start + step - 1) step).toNat
  else if step < 0 then (Int.fdiv (start - stop - step - 1) (-step)).toNat
  else 0

/-- The elements of a range. -/
def rangeItems (start stop step : Int) : List Datum :=
  (List.range (rangeLength start stop step)).map fun (i : Nat) => .int (start + step * (i : Nat))

/-! ### Texts -/

/-- The text of a range. -/
def rangeChars (start stop step : Int) : List Char :=
  "range(".toList ++ Text.ofInt start ++ [',', ' '] ++ Text.ofInt stop ++
    (if step == 1 then [] else [',', ' '] ++ Text.ofInt step) ++ [')']

/-- Items between two brackets. -/
def bracketed (opening : String) (items : List (List Char)) (closing : String) : List Char :=
  opening.toList ++ Text.join [',', ' '] items ++ closing.toList

/-- The name of a type between the brackets of its text. -/
def classChars (name : String) : List Char := "<class '".toList ++ name.toList ++ "'>".toList

/-- The text of a datum inside a collection; `seen` holds the collections around it, and `fuel` bounds
the depth. -/
def quotedAt (store : Store) : Nat → List Ref → Datum → List Char
  | 0, _, _ => ['.', '.', '.']
  | fuel + 1, seen, d =>
    let entryChars (seen : List Ref) (e : Datum × Datum) : List Char :=
      quotedAt store fuel seen e.1 ++ [':', ' '] ++ quotedAt store fuel seen e.2
    match d with
    | .null => "None".toList
    | .bool b => (if b then "True" else "False").toList
    | .int n => Text.ofInt n
    | .float x => x.renderChars
    | .text s false => Text.quoted s.toList
    | .text s true => "Markup(".toList ++ Text.quoted s.toList ++ [')']
    | .bytes bs => Text.quotedBytes bs
    | .date t => t.quotedChars
    | .moment t => t.quotedChars
    | .tuple items =>
      match items.map (quotedAt store fuel seen) with
      | [item] => '(' :: item ++ [',', ')']
      | shown => bracketed "(" shown ")"
    | .range a b c => rangeChars a b c
    | .undefined _ => "Undefined".toList
    | .absent _ => "Undefined".toList
    | .list r =>
      if seen.contains r then "[...]".toList
      else bracketed "[" ((store.items r).map (quotedAt store fuel (r :: seen))) "]"
    | .set r =>
      match store.items r with
      | [] => "set()".toList
      | items => bracketed "\x7b" (items.map (quotedAt store fuel (r :: seen))) "\x7d"
    | .dict r =>
      if seen.contains r then "\x7b...\x7d".toList
      else bracketed "\x7b" ((store.entries r).map (entryChars (r :: seen))) "\x7d"
    | .space r =>
      "<Namespace ".toList ++
        bracketed "\x7b" ((store.entries r).map (entryChars (r :: seen))) "\x7d" ++ ['>']
    | .view .keys r =>
      bracketed "dict_keys([" ((store.entries r).map fun e => quotedAt store fuel seen e.1) "])"
    | .view .values r =>
      bracketed "dict_values([" ((store.entries r).map fun e => quotedAt store fuel seen e.2) "])"
    | .view .items r =>
      bracketed "dict_items(["
        ((store.entries r).map fun e => quotedAt store fuel seen (.tuple [e.1, e.2])) "])"
    | .loop r =>
      match store.cell r with
      | .loop l =>
        "<LoopContext ".toList ++ Text.ofNat (l.index + 1) ++ ['/'] ++ Text.ofNat l.items.length ++
          ['>']
      | _ => []
    | .macroAt r =>
      match store.cell r with
      | .macroBody m =>
        match m.name with
        | some name => "<Macro ".toList ++ Text.quoted name.toList ++ ['>']
        | none => "<Macro anonymous>".toList
      | _ => []
    | .module r =>
      match store.cell r with
      | .module name _ _ => "<TemplateModule ".toList ++ Text.quoted name.toList ++ ['>']
      | _ => []
    | .stream r =>
      match store.cell r with
      | .stream kind _ _ => "<generator object ".toList ++ kind.toList ++ ['>']
      | _ => []
    | .builtin .range => classChars "range"
    | .builtin .dict => classChars "dict"
    | .builtin .cycler => classChars "jinja2.utils.Cycler"
    | .builtin .joiner => classChars "jinja2.utils.Joiner"
    | .builtin .namespace => classChars "jinja2.utils.Namespace"
    | other => '<' :: other.objectName.toList ++ ['>']

/-- The greatest depth of a collection that is shown. -/
def displayDepth : Nat := 400

/-- The text of a datum inside a collection. -/
def Datum.quoted (store : Store) (d : Datum) : List Char := quotedAt store displayDepth [] d

/-- The text of a datum that is not undefined. -/
def Datum.plainChars (store : Store) : Datum → List Char
  | text s _ => s.toList
  | absent _ => []
  | date d => d.isoChars
  | moment t => t.charsWith ' '
  | module r =>
    match store.cell r with
    | .module _ output _ => output.toList
    | _ => []
  | d => d.quoted store

/-- The text of a datum on a page. -/
def Datum.plain (d : Datum) : Rendering String := do
  match d with
  | undefined message => Rendering.undefinedUse message
  | _ => pure (String.ofList (d.plainChars (← get)))

/-- The text of a datum with its markup escaped, unless it is safe. -/
def Datum.escaped (d : Datum) : Rendering String := do
  match d with
  | text s true => pure s
  | module _ => d.plain
  | _ => pure (String.ofList (Text.escape (← d.plain).toList))

end StaticSite.Template
