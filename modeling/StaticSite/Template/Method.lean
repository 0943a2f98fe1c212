import StaticSite.Template.Access
import StaticSite.Template.Argument
import StaticSite.Template.Arithmetic
import StaticSite.Text.Case

/-!
# Functions of objects

The functions that texts, lists, mappings, sets and dates have. Those of lists, mappings and sets change
the object in its cell.

## Main definitions

* `makeEntries`: the entries of a mapping from a mapping or from pairs.
* `callMethod`: a function of an object.
-/

namespace StaticSite.Template

open Rendering

/-! ### Arguments -/

/-- The complaint about a missing argument. -/
def missingArgument (function : String) : Rendering α :=
  wrongType (function ++ "() takes at least 1 argument (0 given)")

/-- The argument that has to be there. -/
def Given.need (g : Given) (function : String) (position : Nat) (name : String) :
    Rendering Datum :=
  match g.get? position name with
  | some d => pure d
  | none => missingArgument function

/-- The characters of an argument that is a text. -/
def textOf (function : String) (d : Datum) : Rendering (List Char) := do
  d.require
  match d with
  | .text s _ => pure s.toList
  | _ => wrongType (function ++ "() argument must be str, not " ++ d.typeName)

/-- The type of an argument as it is complained about. -/
def givenType (d : Datum) : String :=
  match d with
  | .null => "None"
  | _ => d.typeName

/-- The complaint about an argument of a function of a text that is no text. -/
def notText (function : String) (position : Nat) (d : Datum) : Rendering α :=
  wrongType (match function with
    | "replace" =>
      "replace() argument " ++ toString (position + 1) ++ " must be str, not " ++ givenType d
    | "removeprefix" | "removesuffix" => function ++ "() argument must be str, not " ++ givenType d
    | _ => "must be str, not " ++ d.typeName)

/-- An argument that is a whole number. -/
def intOf (d : Datum) : Rendering Int := do
  d.require
  match d.int? with
  | some n => pure n
  | none => wrongType ("'" ++ d.typeName ++ "' object cannot be interpreted as an integer")

/-- An optional whole number. -/
def Given.intOr (g : Given) (position : Nat) (name : String) (standard : Int) : Rendering Int :=
  match g.get? position name with
  | some d => intOf d
  | none => pure standard

/-! ### Texts -/

/-- Cut at a mark at most `count` times; a negative count cuts everywhere. -/
def cutAt (mark : List Char) : Nat → Int → List Char → List (List Char)
  | 0, _, s => [s]
  | fuel + 1, count, s =>
    if count == 0 then [s]
    else match Text.breakOn? mark s with
      | none => [s]
      | some (before, after) => before :: cutAt mark fuel (count - 1) after

/-- Cut at blanks at most `count` times; blanks at the ends are dropped. -/
def cutAtBlanks : Nat → Int → List Char → List (List Char)
  | 0, _, s => [s]
  | fuel + 1, count, s =>
    let s := s.dropWhile Text.isBlank
    if s.isEmpty then []
    else if count == 0 then [Text.trimEnd Text.isBlank s]
    else
      let word := s.takeWhile fun c => !Text.isBlank c
      word :: cutAtBlanks fuel (count - 1) (s.drop word.length)

/-- The last occurrence of a mark: what stands before and after it. -/
def breakAtLast? (mark s : List Char) : Option (List Char × List Char) :=
  (Text.breakOn? mark.reverse s.reverse).map fun (after, before) => (before.reverse, after.reverse)

/-- Cut at a mark at most `count` times from the right. -/
def cutAtLast (mark : List Char) : Nat → Int → List Char → List (List Char)
  | 0, _, s => [s]
  | fuel + 1, count, s =>
    if count == 0 then [s]
    else match breakAtLast? mark s with
      | none => [s]
      | some (before, after) => cutAtLast mark fuel (count - 1) before ++ [after]

/-- Replace at most `count` occurrences; a negative count replaces all. -/
def replaceSome (old new : List Char) (count : Int) (s : List Char) : List Char :=
  if count < 0 then Text.replaceAll old new s
  else if old.isEmpty then
    let n := count.toNat
    let head := (s.take (n - 1)).flatMap fun c => c :: new
    if n == 0 then s else new ++ head ++ s.drop (n - 1)
  else Text.join new (cutAt old (s.length + 1) count s)

/-- Exchange upper and lower case. -/
def swapCase (s : List Char) : List Char :=
  s.flatMap fun c =>
    if Text.isUpper c then Text.toLower c else if Text.isLower c then Text.toUpper c else [c]

/-- There is a character, and all are of a class. -/
def allOf (p : Char → Bool) (s : List Char) : Bool := !s.isEmpty && s.all p

/-- There is a cased character, and none is of the other case. -/
def casedAs (other : Char → Bool) (s : List Char) : Bool :=
  s.any Text.isCased && !s.any other

/-- Every word begins in upper case and goes on in lower case. -/
def isTitle (s : List Char) : Bool :=
  s.any Text.isCased && Text.titleCase s == s

/-- Replace tabs by blanks up to the next multiple of a width. -/
def expandTabs (width : Nat) : Nat → List Char → List Char
  | _, [] => []
  | column, c :: cs =>
    if c == '\t' then
      if width == 0 then expandTabs width column cs
      else
        let n := width - column % width
        Text.copies n ' ' ++ expandTabs width (column + n) cs
    else if c == '\n' || c == '\r' then c :: expandTabs width 0 cs
    else c :: expandTabs width (column + 1) cs

/-- The lines of a text, with or without their endings. -/
def splitLines (keep : Bool) (s : List Char) : List (List Char) :=
  if keep then Text.linesWithEndings s else Text.lines s

/-- The part of a text that a search looks at, and where it begins. -/
def searched (g : Given) (s : List Char) : Rendering (List Char × Nat) := do
  let n := Int.ofNat s.length
  let bound (i : Nat) (standard : Int) : Rendering Int := do
    match g.positional[i]? with
    | none => pure standard
    | some .null => pure standard
    | some d =>
      match d.int? with
      | some j => pure (clampBound n 0 n j)
      | none => wrongType "slice indices must be integers or None or have an __index__ method"
  let first ← bound 1 0
  let last ← bound 2 n
  pure ((s.take last.toNat).drop first.toNat, first.toNat)

/-- A text begins or ends with a text, or with one of a tuple. -/
def endMatches (function : String) (test : List Char → Bool) (d : Datum) : Rendering Bool := do
  d.require
  match d with
  | .text t _ => pure (test t.toList)
  | .tuple items =>
    pure (items.any fun i => match i with
      | .text t _ => test t.toList
      | _ => false)
  | _ =>
    wrongType (function ++ " first arg must be str or a tuple of str, not " ++ d.typeName)

/-- The characters to strip at the ends of a text. -/
def stripClass (function : String) (g : Given) : Rendering (Char → Bool) := do
  match g.positional.head? with
  | none => pure Text.isBlank
  | some .null => pure Text.isBlank
  | some (.text t _) => pure fun c => t.toList.contains c
  | some d => do
    d.require
    wrongType (function ++ " arg must be None or str")

/-- The character to fill up with. -/
def fillChar (g : Given) : Rendering Char := do
  match g.positional[1]? with
  | none => pure ' '
  | some d =>
    match d with
    | .text t _ =>
      match t.toList with
      | [c] => pure c
      | _ => wrongType "The fill character must be exactly one character long"
    | _ => wrongType ("The fill character must be a unicode character, not " ++ d.typeName)

/-- Fill up on both sides, where an odd blank goes to the side that `width` decides. -/
def centered (width : Nat) (c : Char) (s : List Char) : List Char :=
  let room := width - s.length
  let left := room / 2 + (if room % 2 == 1 && width % 2 == 1 then 1 else 0)
  Text.copies left c ++ s ++ Text.copies (room - left) c

/-- Zeros after the sign up to a width. -/
def zeroFilled (width : Nat) (s : List Char) : List Char :=
  match s with
  | '-' :: rest => '-' :: padLeft (width - 1) '0' rest
  | '+' :: rest => '+' :: padLeft (width - 1) '0' rest
  | _ => padLeft width '0' s

/-- The complaint about an element of a place that is not there. -/
def noElement (d key : Datum) : Rendering α := do
  match d, key with
  | .list _, .text _ _ => wrongType "list indices must be integers or slices, not str"
  | .tuple _, .text _ _ => wrongType "tuple indices must be integers or slices, not str"
  | .text _ _, .text _ _ => wrongType "string indices must be integers, not 'str'"
  | .list _, _ => throw (.outOfRange "list index out of range")
  | .tuple _, _ => throw (.outOfRange "tuple index out of range")
  | .text _ _, _ => throw (.outOfRange "string index out of range")
  | .dict _, _ => throw (.missingKey (String.ofList (key.quoted (← get))))
  | _, _ => wrongType (Text.quote d.typeName ++ " object is not subscriptable")

/-- Follow the attributes and indices behind the name of a place. -/
def followPlace : Nat → Datum → List Char → Rendering Datum
  | 0, d, _ => pure d
  | _ + 1, d, [] => pure d
  | fuel + 1, d, '.' :: rest => do
    let name := rest.takeWhile fun c => c != '.' && c != '['
    if name.isEmpty then badValue "Empty attribute in format string"
    else
      d.require
      match attribute? (← get) d (String.ofList name) with
      | some x => followPlace fuel x (rest.drop name.length)
      | none =>
        throw (.noAttribute ("'" ++ d.typeName ++ "' object has no attribute " ++
          Text.quote (String.ofList name)))
  | fuel + 1, d, '[' :: rest => do
    let key := rest.takeWhile (· != ']')
    if key.length == rest.length then badValue "Missing ']' in format string"
    else if key.isEmpty then badValue "Empty attribute in format string"
    else
      d.require
      let index : Datum :=
        if key.all Char.isDigit then natDatum (decimalNumber key) else .text (String.ofList key) false
      match element? (← get) d index with
      | some x => followPlace fuel x (rest.drop (key.length + 1))
      | none => noElement d index
  | _ + 1, _, _ :: _ => badValue "Only '.' or '[' may follow ']' in format field specifier"

/-- The argument of a place between braces. -/
def braceArgument (g : Given) (first path : List Char) : Rendering Datum := do
  let start ←
    if !first.isEmpty && first.all Char.isDigit then
      let n := decimalNumber first
      match g.positional[n]? with
      | some d => pure d
      | none =>
        throw (.outOfRange ("Replacement index " ++ toString n ++
          " out of range for positional args tuple"))
    else
      match g.named.lookup (String.ofList first) with
      | some d => pure d
      | none => throw (.missingKey (Text.quote (String.ofList first)))
  followPlace (path.length + 1) start path

/-- The argument of a place in a format for a mapping, where places have names. -/
def mappingArgument (d : Datum) (first path : List Char) : Rendering Datum := do
  if first.all Char.isDigit then badValue "Format string contains positional fields"
  else
    let key := Datum.text (String.ofList first) false
    match element? (← get) d key with
    | some x => followPlace (path.length + 1) x path
    | none => noElement d key

/-- A datum laid out in a place of a markup text. -/
def applyEscaped (written : List Char) (d : Datum) : Rendering (List Char) := do
  match d with
  | .text s true =>
    if written.isEmpty then pure s.toList
    else badValue "Unsupported format specification for Markup."
  | _ => pure (Text.escape (← applySpec written d))

/-- The bytes of a text in hexadecimal. -/
def hexChars (bs : List UInt8) : List Char := bs.flatMap fun b => Text.padded 16 2 b.toNat

/-- A function of a text; `safe` says that the text is markup. -/
def callText (s : List Char) (safe : Bool) (name : String) (g : Given) : Rendering Datum := do
  let result (t : List Char) : Rendering Datum := pure (.text (String.ofList t) safe)
  let results (ts : List (List Char)) : Rendering Datum :=
    newList (ts.map fun t => .text (String.ofList t) safe)
  let truth (b : Bool) : Rendering Datum := pure (.bool b)
  let textArg (i : Nat) (key : String) : Rendering (List Char) := do
    let d ← g.need name i key
    match d with
    | .text t marked => pure (if safe then asMarkup t marked else t).toList
    | _ => notText name i d
  let width : Rendering Nat := do
    pure (← intOf (← g.need name 0 "width")).toNat
  let find (last : Bool) : Rendering (Option Nat) := do
    let mark ← textArg 0 "sub"
    let (part, offset) ← searched g s
    let found := if last then breakAtLast? mark part else Text.breakOn? mark part
    pure (found.map fun (before, _) => before.length + offset)
  let separator : Rendering (Option (List Char)) := do
    match g.get? 0 "sep" with
    | none => pure none
    | some .null => pure none
    | some d =>
      d.require
      match d with
      | .text t _ => if t.isEmpty then badValue "empty separator" else pure (some t.toList)
      | _ => wrongType ("must be str or None, not " ++ d.typeName)
  match name with
  | "capitalize" => result (Text.capitalize s)
  | "casefold" => result (Text.lower s)
  | "lower" => result (Text.lower s)
  | "upper" => result (Text.upper s)
  | "title" => result (Text.titleCase s)
  | "swapcase" => result (swapCase s)
  | "center" => result (centered (← width) (← fillChar g) s)
  | "ljust" => result (padRight (← width) (← fillChar g) s)
  | "rjust" => result (padLeft (← width) (← fillChar g) s)
  | "zfill" => result (zeroFilled (← width) s)
  | "expandtabs" => result (expandTabs (← g.intOr 0 "tabsize" 8).toNat 0 s)
  | "strip" => result (Text.trim (← stripClass name g) s)
  | "lstrip" => result (Text.trimStart (← stripClass name g) s)
  | "rstrip" => result (Text.trimEnd (← stripClass name g) s)
  | "removeprefix" =>
    let mark ← textArg 0 "prefix"
    result ((Text.stripStart? mark s).getD s)
  | "removesuffix" =>
    let mark ← textArg 0 "suffix"
    result ((Text.stripEnd? mark s).getD s)
  | "replace" =>
    let old ← textArg 0 "old"
    let new ← textArg 1 "new"
    result (replaceSome old new (← g.intOr 2 "count" (-1)) s)
  | "join" =>
    let items ← match (← elements? (← g.need name 0 "iterable")) with
      | some items => pure items
      | none => wrongType "can only join an iterable"
    let rec texts : Nat → List Datum → Rendering (List (List Char))
      | _, [] => pure []
      | i, d :: ds => do
        d.require
        match d with
        | .text t marked =>
          let t := if safe then asMarkup t marked else t
          pure (t.toList :: (← texts (i + 1) ds))
        | _ =>
          if safe then pure ((← d.escaped).toList :: (← texts (i + 1) ds))
          else
            wrongType ("sequence item " ++ toString i ++ ": expected str instance, " ++
              d.typeName ++ " found")
    result (Text.join s (← texts 0 items))
  | "split" =>
    let count ← g.intOr 1 "maxsplit" (-1)
    match (← separator) with
    | none => results (cutAtBlanks (s.length + 1) count s)
    | some mark => results (cutAt mark (s.length + 1) count s)
  | "rsplit" =>
    let count ← g.intOr 1 "maxsplit" (-1)
    match (← separator) with
    | none =>
      results ((cutAtBlanks (s.length + 1) count s.reverse).reverse.map List.reverse)
    | some mark => results (cutAtLast mark (s.length + 1) count s)
  | "splitlines" =>
    results (splitLines ((← g.intOr 0 "keepends" 0) != 0) s)
  | "partition" =>
    let mark ← textArg 0 "sep"
    if mark.isEmpty then badValue "empty separator"
    let parts := match Text.breakOn? mark s with
      | some (a, b) => [a, mark, b]
      | none => [s, [], []]
    pure (.tuple (parts.map fun t => .text (String.ofList t) safe))
  | "rpartition" =>
    let mark ← textArg 0 "sep"
    if mark.isEmpty then badValue "empty separator"
    let parts := match breakAtLast? mark s with
      | some (a, b) => [a, mark, b]
      | none => [[], [], s]
    pure (.tuple (parts.map fun t => .text (String.ofList t) safe))
  | "format" =>
    pure (.text (← fillBraces (braceArgument g) (if safe then applyEscaped else applySpec)
      (String.ofList s)) safe)
  | "format_map" =>
    let d ← g.need name 0 "mapping"
    pure (.text (← fillBraces (mappingArgument d) (if safe then applyEscaped else applySpec)
      (String.ofList s)) safe)
  | "startswith" =>
    let (part, _) ← searched g s
    truth (← endMatches name (fun p => Text.startsWith p part) (← g.need name 0 "prefix"))
  | "endswith" =>
    let (part, _) ← searched g s
    truth (← endMatches name (fun p => Text.endsWith p part) (← g.need name 0 "suffix"))
  | "count" =>
    let mark ← textArg 0 "sub"
    let (part, _) ← searched g s
    pure (natDatum (if mark.isEmpty then part.length + 1 else Text.occurrences mark part))
  | "find" => pure (((← find false).map natDatum).getD (.int (-1)))
  | "rfind" => pure (((← find true).map natDatum).getD (.int (-1)))
  | "index" =>
    match (← find false) with
    | some n => pure (natDatum n)
    | none => badValue "substring not found"
  | "rindex" =>
    match (← find true) with
    | some n => pure (natDatum n)
    | none => badValue "substring not found"
  | "isalnum" => truth (allOf Text.isAlnum s)
  | "isalpha" => truth (allOf Text.isLetter s)
  | "isascii" => truth (s.all fun c => c.toNat < 128)
  | "isdecimal" => truth (allOf Text.isDecimal s)
  | "isdigit" => truth (allOf Text.isDigit s)
  | "isnumeric" => truth (allOf (fun c => Text.isAlnum c && !Text.isLetter c) s)
  | "isidentifier" =>
    truth (allOf Text.isWord s && !(s.head?.all Text.isDecimal))
  | "islower" => truth (casedAs (fun c => Text.isCased c && !Text.isLower c) s)
  | "isupper" => truth (casedAs (fun c => Text.isCased c && !Text.isUpper c) s)
  | "istitle" => truth (isTitle s)
  | "isprintable" => truth (s.all Text.isPrintable)
  | "isspace" => truth (allOf Text.isBlank s)
  | "encode" => pure (.bytes (Text.Utf8.encode s))
  | "escape" => pure (.text (String.ofList (Text.escape s)) true)
  | "unescape" => pure (.text (String.ofList (Text.unescape s)) false)
  | _ => wrongType (name ++ "() takes no such arguments")

/-! ### Lists -/

/-- The complaint about a function of a list that takes one argument. -/
def oneArgument (type name : String) (g : Given) : Rendering Datum :=
  match g.positional with
  | [d] => pure d
  | ds =>
    wrongType (type ++ "." ++ name ++ "() takes exactly one argument (" ++ toString ds.length ++
      " given)")

/-- The list with an element at an index. -/
def insertAt (items : List Datum) (i : Int) (d : Datum) : List Datum :=
  let n := Int.ofNat items.length
  let j := (clampBound n 0 n i).toNat
  items.take j ++ d :: items.drop j

/-- The first index at which a datum stands. -/
def indexOf? (store : Store) (items : List Datum) (d : Datum) : Option Nat :=
  items.findIdx? (sameDatum store d)

/-- The first index, between bounds that may be given, at which a datum stands. -/
def indexWithin? (store : Store) (items : List Datum) (g : Given) : Rendering (Option Nat) := do
  let n := Int.ofNat items.length
  let bound (i : Nat) (standard : Int) : Rendering Int := do
    match g.positional[i]? with
    | none => pure standard
    | some d =>
      match d.int? with
      | some j => pure (clampBound n 0 n j)
      | none => wrongType "slice indices must be integers or have an __index__ method"
  let first ← bound 1 0
  let last ← bound 2 n
  let d ← g.need "index" 0 "value"
  pure ((indexOf? store ((items.take last.toNat).drop first.toNat) d).map (· + first.toNat))

/-- A function of a list. -/
def callList (r : Ref) (name : String) (g : Given) : Rendering Datum := do
  let store ← get
  let items := store.items r
  let become (xs : List Datum) : Rendering Datum := do
    put r (.items xs)
    pure .null
  match name with
  | "append" =>
    let d ← oneArgument "list" name g
    become (items ++ [d])
  | "extend" =>
    let d ← oneArgument "list" name g
    become (items ++ (← d.elements))
  | "insert" =>
    match g.positional with
    | [i, d] => become (insertAt items (← intOf i) d)
    | ds => wrongType ("insert expected 2 arguments, got " ++ toString ds.length)
  | "pop" =>
    let i ← g.intOr 0 "index" (-1)
    if items.isEmpty then throw (.outOfRange "pop from empty list")
    else
      let j := if i < 0 then i + Int.ofNat items.length else i
      match (if j < 0 then none else items[j.toNat]?) with
      | some d =>
        put r (.items (items.eraseIdx j.toNat))
        pure d
      | none => throw (.outOfRange "pop index out of range")
  | "remove" =>
    let d ← oneArgument "list" name g
    match indexOf? store items d with
    | some i => become (items.eraseIdx i)
    | none => badValue "list.remove(x): x not in list"
  | "clear" => become []
  | "copy" => newList items
  | "reverse" => become items.reverse
  | "sort" =>
    let sorted ← Rendering.ofExcept (sortBy (lessDatum store) items)
    let backward ← match g.named.lookup "reverse" with
      | some d => d.isTruthy
      | none => pure false
    if backward then
      become (← Rendering.ofExcept (sortBy (fun a b => lessDatum store b a) items))
    else become sorted
  | "count" =>
    let d ← oneArgument "list" name g
    pure (natDatum (items.filter (sameDatum store d)).length)
  | "index" =>
    let d ← g.need name 0 "value"
    match (← indexWithin? store items g) with
    | some i => pure (natDatum i)
    | none => badValue (String.ofList (d.quoted store) ++ " is not in list")
  | _ => wrongType (name ++ "() takes no such arguments")

/-! ### Mappings -/

/-- A pair of an update. -/
def pairOf (i : Nat) (d : Datum) : Rendering (Datum × Datum) := do
  match (← elements? d) with
  | none =>
    wrongType ("cannot convert dictionary update sequence element #" ++ toString i ++
      " to a sequence")
  | some [k, v] => pure (k, v)
  | some xs =>
    badValue ("dictionary update sequence element #" ++ toString i ++ " has length " ++
      toString xs.length ++ "; 2 is required")

/-- The pairs of an update. -/
def pairsFrom : Nat → List Datum → Rendering (List (Datum × Datum))
  | _, [] => pure []
  | i, d :: ds => do
    let p ← pairOf i d
    requireKey p.1
    pure (p :: (← pairsFrom (i + 1) ds))

/-- The entries that a mapping or a sequence of pairs gives. -/
def makeEntries (d : Datum) : Rendering (List (Datum × Datum)) := do
  match d with
  | .dict r => pure ((← get).entries r)
  | _ => pairsFrom 0 (← d.elements)

/-- Entries with more entries stored into them. -/
def updated (store : Store) (entries more : List (Datum × Datum)) : List (Datum × Datum) :=
  more.foldl (fun es (k, v) => storeEntry store k v es) entries

/-- Named arguments as entries. -/
def namedEntries (named : List (String × Datum)) : List (Datum × Datum) :=
  named.map fun (k, v) => (.text k false, v)

/-- A function of a mapping. -/
def callDict (r : Ref) (name : String) (g : Given) : Rendering Datum := do
  let store ← get
  let entries := store.entries r
  let key : Rendering Datum := do
    match g.positional.head? with
    | some k =>
      requireKey k
      pure k
    | none => wrongType (name ++ " expected at least 1 argument, got 0")
  let without (k : Datum) : List (Datum × Datum) :=
    entries.filter fun (l, _) => !sameDatum store k l
  match name with
  | "get" =>
    let k ← key
    pure ((findEntry store k entries).getD (g.positional[1]?.getD .null))
  | "keys" => pure (.view .keys r)
  | "values" => pure (.view .values r)
  | "items" => pure (.view .items r)
  | "copy" => newDict entries
  | "clear" =>
    put r (.entries [])
    pure .null
  | "update" =>
    let more ← match g.positional.head? with
      | some d => makeEntries d
      | none => pure []
    put r (.entries (updated store entries (more ++ namedEntries g.named)))
    pure .null
  | "setdefault" =>
    let k ← key
    match findEntry store k entries with
    | some v => pure v
    | none =>
      let v := g.positional[1]?.getD .null
      put r (.entries (entries ++ [(k, v)]))
      pure v
  | "pop" =>
    let k ← key
    match findEntry store k entries with
    | some v =>
      put r (.entries (without k))
      pure v
    | none =>
      match g.positional[1]? with
      | some v => pure v
      | none => throw (.missingKey (String.ofList (k.quoted store)))
  | "popitem" =>
    match entries.getLast? with
    | some (k, v) =>
      put r (.entries entries.dropLast)
      pure (.tuple [k, v])
    | none => throw (.missingKey "'popitem(): dictionary is empty'")
  | "fromkeys" =>
    let keys ← (← g.need name 0 "iterable").elements
    newDict (updated store [] (keys.map fun k => (k, g.positional[1]?.getD .null)))
  | _ => wrongType (name ++ "() takes no such arguments")

/-! ### Sets -/

/-- Elements without repetition. -/
def distinct (store : Store) (items : List Datum) : List Datum :=
  items.foldl (fun seen d => if seen.any (sameDatum store d) then seen else seen ++ [d]) []

/-- A function of a set. -/
def callSet (r : Ref) (name : String) (g : Given) : Rendering Datum := do
  let store ← get
  let items := store.items r
  let other : Rendering (List Datum) := do
    (← g.need name 0 "other").elements
  let inside (xs : List Datum) (d : Datum) : Bool := xs.any (sameDatum store d)
  let fresh (xs : List Datum) : Rendering Datum := do
    pure (.set (← alloc (.items (distinct store xs))))
  let become (xs : List Datum) : Rendering Datum := do
    put r (.items (distinct store xs))
    pure .null
  match name with
  | "add" => become (items ++ [← oneArgument "set" name g])
  | "discard" =>
    let d ← oneArgument "set" name g
    become (items.filter fun x => !sameDatum store d x)
  | "remove" =>
    let d ← oneArgument "set" name g
    if inside items d then become (items.filter fun x => !sameDatum store d x)
    else throw (.missingKey (String.ofList (d.quoted store)))
  | "update" => become (items ++ (← other))
  | "clear" => become []
  | "copy" => fresh items
  | "union" => fresh (items ++ (← other))
  | "intersection" =>
    let xs ← other
    fresh (items.filter (inside xs))
  | "difference" =>
    let xs ← other
    fresh (items.filter fun d => !inside xs d)
  | "symmetric_difference" =>
    let xs ← other
    fresh (items.filter (fun d => !inside xs d) ++ xs.filter fun d => !inside items d)
  | "issubset" =>
    let xs ← other
    pure (.bool (items.all (inside xs)))
  | "issuperset" =>
    let xs ← other
    pure (.bool (xs.all (inside items)))
  | "isdisjoint" =>
    let xs ← other
    pure (.bool (!items.any (inside xs)))
  | "pop" =>
    match items with
    | d :: rest =>
      put r (.items rest)
      pure d
    | [] => throw (.missingKey "'pop from an empty set'")
  | _ => wrongType (name ++ "() takes no such arguments")

/-! ### Dates -/

/-- A function of a point in time; `isDate` says that it is only a date. -/
def callMoment (t : Moment) (isDate : Bool) (name : String) (g : Given) : Rendering Datum := do
  match name with
  | "isoformat" =>
    if isDate then pure (.text t.date.iso false)
    else
      match g.positional.head? with
      | some (.text s _) =>
        pure (.text (String.ofList (t.charsWith (s.toList.head?.getD 'T'))) false)
      | _ => pure (.text t.iso false)
  | "strftime" =>
    let pattern ← textOf name (← g.need name 0 "format")
    pure (.text (String.ofList (t.byPattern pattern)) false)
  | "weekday" => pure (natDatum t.date.weekday)
  | "isoweekday" => pure (natDatum (t.date.weekday + 1))
  | "toordinal" => pure (natDatum t.date.ordinal)
  | "ctime" => pure (.text (String.ofList (t.byPattern "%a %b %e %T %Y".toList)) false)
  | "date" => pure (.date t.date)
  | _ => wrongType (name ++ "() is not available")

/-! ### Any object -/

/-- The number of bits of a whole number. -/
def bitLength (n : Nat) : Nat := if n == 0 then 0 else n.log2 + 1

/-- The number of ones among so many bits of a whole number. -/
def bitCount : Nat → Nat → Nat
  | 0, _ => 0
  | bits + 1, n => n % 2 + bitCount bits (n / 2)

/-- The complaint about the arguments of a function of an object. Texts that are markup take theirs as
they come. -/
def methodComplaint? (self : Datum) (name : String) (g : Given) : Option String :=
  let type := self.typeName
  match self with
  | .text _ true => none
  | .dict _ =>
    if name == "update" then Arity.outOfBounds? name 0 1 g.positional.length
    else (arityOf? type name).bind (Arity.complaint? type name g)
  | _ => (arityOf? type name).bind (Arity.complaint? type name g)

/-- A function of an object whose arguments fit. -/
def callFitting (self : Datum) (name : String) (g : Given) : Rendering Datum := do
  let store ← get
  match self with
  | .text s safe => callText s.toList safe name g
  | .list r => callList r name g
  | .dict r => callDict r name g
  | .set r => callSet r name g
  | .date d => callMoment (Moment.ofDate d) true name g
  | .moment t => callMoment t false name g
  | .tuple items =>
    let d ← g.need name 0 "value"
    if name == "count" then pure (natDatum (items.filter (sameDatum store d)).length)
    else
      match (← indexWithin? store items g) with
      | some i => pure (natDatum i)
      | none => badValue "tuple.index(x): x not in tuple"
  | .range a b c =>
    let d ← oneArgument "range" name g
    let items := rangeItems a b c
    if name == "count" then pure (natDatum (items.filter (sameDatum store d)).length)
    else
      match indexOf? store items d with
      | some i => pure (natDatum i)
      | none => badValue (String.ofList (d.quoted store) ++ " is not in range")
  | .bytes bs =>
    if name == "hex" then pure (.text (String.ofList (hexChars bs)) false)
    else
      match Text.Utf8.decode bs with
      | .ok s => pure (.text (String.ofList s) false)
      | .error fault => throw (.undecodable fault)
  | .float x =>
    if name == "is_integer" then pure (.bool x.isInteger) else pure self
  | .loop r =>
    match store.cell r with
    | .loop l =>
      if name == "cycle" then
        match g.positional[l.index % g.positional.length]? with
        | some d => pure d
        | none => wrongType "no items for cycling given"
      else
        let now := Datum.tuple g.positional
        let changed := match l.last with
          | some before => !sameDatum store before now
          | none => true
        if changed then put r (.loop { l with last := some now })
        pure (.bool changed)
    | _ => pure .null
  | .cycler r =>
    match store.cell r with
    | .cycle items index =>
      if name == "reset" then
        put r (.cycle items 0)
        pure .null
      else
        put r (.cycle items ((index + 1) % items.length))
        pure (items[index]?.getD .null)
    | _ => pure .null
  | _ =>
    let n := (self.int?.getD 0).natAbs
    if name == "bit_length" then pure (natDatum (bitLength n))
    else if name == "bit_count" then pure (natDatum (bitCount (bitLength n) n))
    else pure (((self.int?).map Datum.int).getD self)

/-- A function of an object. -/
def callMethod (self : Datum) (name : String) (g : Given) : Rendering Datum :=
  match methodComplaint? self name g with
  | some text => wrongType text
  | none => callFitting self name g

end StaticSite.Template
