import StaticSite.Template.Json
import StaticSite.Template.Markup
import StaticSite.Template.Predicate

/-!
# Filters

A filter makes a datum from a datum, perhaps with arguments. Some filters apply other filters or tests
to the elements of a sequence.

## Main definitions

* `runFilter`: a filter by its name.
-/

namespace StaticSite.Template

open Rendering

/-- The complaint about the arguments of a filter. -/
def badArgument (message : String) : Rendering α := misuse message

/-- The datum is undefined. -/
def isUndefined : Datum → Bool
  | .undefined _ => true
  | .absent _ => true
  | _ => false

/-- An argument that is not left out. -/
def given? (g : Given) (position : Nat) (name : String) : Option Datum :=
  match g.get? position name with
  | some .null => none
  | d => d

/-- An argument that counts as true. -/
def flagged (g : Given) (position : Nat) (name : String) (standard : Bool) : Rendering Bool :=
  match g.get? position name with
  | some d => d.isTruthy
  | none => pure standard

/-! ### Texts -/

/-- A text with its mark of safe markup; any other datum by its text. -/
def softText (d : Datum) : Rendering (List Char × Bool) := do
  match d with
  | .text s safe => pure (s.toList, safe)
  | _ => pure ((← d.plain).toList, false)

/-- A text changed by a function. -/
def mapText (f : List Char → List Char) (d : Datum) : Rendering Datum := do
  let (s, safe) ← softText d
  pure (.text (String.ofList (f s)) safe)

/-- The character begins a word for the sake of capitals. -/
def beginsWord (c : Char) : Bool := c == '-' || Text.isBlank c || "(\x7b[<".toList.contains c

/-- The pieces of a text between runs of such characters, and the runs. -/
def wordPieces (s : List Char) : List (List Char) :=
  s.splitBy fun a b => beginsWord a == beginsWord b

/-- A text with the first letter of each word in upper case and the others in lower case. -/
def titled (s : List Char) : List Char :=
  (wordPieces s).flatMap fun piece =>
    match piece with
    | [] => []
    | c :: rest => Text.upper [c] ++ Text.lower rest

/-- The lines of a text after the first one, moved to the right. -/
def indented (step : List Char) (first blank : Bool) (s : List Char) : List Char :=
  let lines := Text.lines (s ++ ['\n'])
  let body :=
    if blank then Text.join ('\n' :: step) lines
    else match lines with
      | [] => []
      | [line] => line
      | line :: rest =>
        line ++ '\n' :: Text.join ['\n'] (rest.map fun l => if l.isEmpty then l else step ++ l)
  if first then step ++ body else body

/-- A text cut to a length at a blank, unless it is hardly longer. -/
def truncated (length leeway : Nat) (killWords : Bool) (ending s : List Char) : List Char :=
  if s.length ≤ length + leeway then s
  else
    let cut := s.take (length - ending.length)
    if killWords then cut ++ ending
    else match breakAtLast? [' '] cut with
      | some (before, _) => before ++ ending
      | none => cut ++ ending

/-- The number of runs of word characters. -/
def countWords (s : List Char) : Nat :=
  ((s.splitBy fun a b => Text.isWord a == Text.isWord b).filter fun p => p.any Text.isWord).length

/-- The pieces of a line between which it can be broken: words with a hyphen at their end, and blanks. -/
def breakPieces (onHyphens : Bool) (s : List Char) : List (List Char) :=
  let runs := s.splitBy fun a b => Text.isBlank a == Text.isBlank b
  runs.flatMap fun run =>
    if run.any Text.isBlank || !onHyphens then [run]
    else
      let rec cut : Nat → List Char → List (List Char)
        | 0, w => [w]
        | fuel + 1, w =>
          let head := w.takeWhile (· != '-')
          match w.drop head.length with
          | '-' :: c :: rest =>
            let isLetter (x : Option Char) : Bool := (x.map Text.isLetter).getD false
            if isLetter head.getLast? && isLetter (some c) && 2 ≤ head.length then
              (head ++ ['-']) :: cut fuel (c :: rest)
            else
              match cut fuel (c :: rest) with
              | next :: more => (head ++ '-' :: next) :: more
              | [] => [head ++ ['-']]
          | _ => [w]
      cut run.length run

/-- A line broken into lines that are not longer than a width, as far as its words allow it. -/
def wrapLine (width : Nat) (breakLong onHyphens : Bool) (s : List Char) : List (List Char) :=
  let rec go : Nat → List (List Char) → List Char → List (List Char)
    | 0, _, line => [line]
    | _, [], line => if (Text.trimEnd Text.isBlank line).isEmpty then [] else [line]
    | fuel + 1, piece :: rest, line =>
      let isBlankPiece := piece.all Text.isBlank
      if line.isEmpty && isBlankPiece && fuel + 1 < s.length + 2 then go fuel rest line
      else if line.length + piece.length ≤ width then go fuel rest (line ++ piece)
      else if isBlankPiece then Text.trimEnd Text.isBlank line :: go fuel rest []
      else if width < piece.length && breakLong then
        let room := max 1 (width - line.length)
        (line ++ piece.take room) :: go fuel (piece.drop room :: rest) []
      else if line.isEmpty then piece :: go fuel rest []
      else Text.trimEnd Text.isBlank line :: go fuel (piece :: rest) []
  (go (2 * s.length + 2) (breakPieces onHyphens s) []).map (Text.trimEnd Text.isBlank)

/-- A count of bytes with a unit. -/
def byteSize (binary : Bool) (x : Binary64) : List Char :=
  let base : Nat := if binary then 1024 else 1000
  let units := if binary then ["KiB", "MiB", "GiB", "TiB", "PiB", "EiB", "ZiB", "YiB"]
    else ["kB", "MB", "GB", "TB", "PB", "EB", "ZB", "YB"]
  let value := x.toFloat
  if value == 1 then "1 Byte".toList
  else if value < base.toFloat then Text.ofInt x.truncate ++ " Bytes".toList
  else
    let rec pick : Nat → List String → List Char
      | _, [] => []
      | i, u :: us =>
        let unit := (Nat.pow base (i + 2)).toFloat
        if value < unit || us.isEmpty then
          (Binary64.ofFloat (base.toFloat * value / unit)).fixedChars 1 false ++ ' ' :: u.toList
        else pick (i + 1) us
    pick 0 units

/-! ### Numbers -/

/-- A datum as a machine number, if it can be read as one. -/
def readFloat? (d : Datum) : Option Binary64 :=
  match d with
  | .float x => some x
  | .text s _ => Number.readFloat? (Text.trim Text.isBlank s.toList)
  | _ => d.int?.map Binary64.ofInt

/-- A datum as a whole number, if it can be read as one. -/
def readInt? (base : Nat) (d : Datum) : Option Int :=
  let whole (x : Binary64) : Option Int := if x.isFinite then some x.truncate else none
  match d with
  | .float x => whole x
  | .text s _ =>
    let chars := Text.trim Text.isBlank s.toList
    let (negative, digits) := Number.splitSign chars
    let digits := match base, digits with
      | 16, '0' :: 'x' :: rest => rest
      | 16, '0' :: 'X' :: rest => rest
      | 8, '0' :: 'o' :: rest => rest
      | 2, '0' :: 'b' :: rest => rest
      | _, ds => ds
    match Number.readInteger? base digits with
    | some n => some (if negative then -n else n)
    | none => (Number.readFloat? chars).bind whole
  | _ => d.int?

/-- A number rounded to so many places. -/
def roundedNumber (places : Int) (d : Datum) : Rendering Datum := do
  d.require
  match d with
  | .float x => pure (.float (x.roundTo places))
  | _ =>
    match d.int? with
    | none => wrongType ("type " ++ d.typeName ++ " doesn't define __round__ method")
    | some n =>
      if 0 ≤ places then pure (.int n)
      else
        let unit := Binary64.tenTo places.natAbs
        let rounded := Int.ofNat (Binary64.roundDiv n.natAbs unit * unit)
        pure (.int (if n < 0 then -rounded else rounded))

/-- A number rounded up or down to so many places. -/
def roundedTowards (up : Bool) (places : Int) (d : Datum) : Rendering Datum := do
  let unit ← binary .pow (.int 10) (.int places)
  let scaled ← binary .mul d unit
  let whole ← match scaled with
    | .float x => pure (Datum.int (if up then x.ceil else x.floor))
    | other => pure other
  binary .div whole unit

/-! ### Attributes of elements -/

/-- The steps of a dotted path, where digits are an index. -/
def pathOf (d : Datum) : List Datum :=
  match d with
  | .null => []
  | .text s _ =>
    (Text.splitOn '.' s.toList).map fun part =>
      if !part.isEmpty && part.all Text.isDigit then natDatum (decimalNumber part)
      else .text (String.ofList part) false
  | other => [other]

/-- Follow a path from a datum; what is missing is replaced by the standard, if there is one. -/
def follow (standard : Option Datum) : List Datum → Datum → Rendering Datum
  | [], d => pure d
  | key :: path, d => do
    let x ← entryOrAttribute d key
    let x := match standard with
      | some s => if isUndefined x then s else x
      | none => x
    follow standard path x

/-- A text in lower case; any other datum as it is. -/
def withoutCase (d : Datum) : Datum :=
  match d with
  | .text s safe => .text (String.ofList (Text.lower s.toList)) safe
  | other => other

/-- What elements are compared by: their attribute, perhaps without regard to case. -/
def sortKey (path : Option Datum) (standard : Option Datum) (caseSensitive : Bool)
    (d : Datum) : Rendering Datum := do
  let x ← follow standard ((path.map pathOf).getD []) d
  pure (if caseSensitive then x else withoutCase x)

/-- What elements are compared by: several attributes with commas between them. -/
def sortKeys (paths : Option Datum) (caseSensitive : Bool) (d : Datum) : Rendering Datum := do
  let all : List (Option Datum) := match paths with
    | some (.text s _) =>
      (Text.splitOn ',' s.toList).map fun a => some (.text (String.ofList a) false)
    | a => [a]
  pure (.tuple (← all.mapM fun a => sortKey a none caseSensitive d))

/-- Sort elements by keys. -/
def sortByKey (backward : Bool) (key : Datum → Rendering Datum) (items : List Datum) :
    Rendering (List Datum) := do
  let keyed ← items.mapM fun d => do pure (← key d, d)
  let store ← get
  let before (a b : Datum × Datum) : Except Failure Bool :=
    if backward then lessDatum store b.1 a.1 else lessDatum store a.1 b.1
  pure ((← Rendering.ofExcept (sortBy before keyed)).map (·.2))

/-- The least or the greatest element by its key; the first one of several. -/
def extreme (greatest : Bool) (key : Datum → Rendering Datum) (items : List Datum) :
    Rendering Datum := do
  match items with
  | [] => pure (.undefined "No aggregated item, sequence was empty.")
  | first :: rest =>
    let mut best := first
    let mut bestKey ← key first
    for d in rest do
      let k ← key d
      let better ← Rendering.ofExcept
        (orderAt (← get) (if greatest then ">" else "<") true (!greatest) compareDepth k bestKey)
      if better then
        best := d
        bestKey := k
    pure best

/-! ### Sequences -/

/-- Pieces of so many elements. -/
def batches (count : Nat) : Nat → List Datum → List (List Datum)
  | 0, _ => []
  | fuel + 1, items =>
    if items.isEmpty then []
    else items.take count :: batches count fuel (items.drop count)

/-- So many pieces of nearly equal length, with the greater ones first. -/
def slices (count : Nat) (fill : Option Datum) (items : List Datum) : List (List Datum) :=
  let size := items.length / count
  let extra := items.length % count
  (List.range count).map fun i =>
    let start := i * size + min i extra
    let stop := (i + 1) * size + min (i + 1) extra
    let piece := (items.take stop).drop start
    match fill with
    | some d => if extra ≤ i then piece ++ [d] else piece
    | none => piece

/-- Elements that follow each other and have the same key. -/
def groupRuns (store : Store) : List (Datum × Datum) → List (Datum × List Datum)
  | [] => []
  | (k, d) :: rest =>
    match groupRuns store rest with
    | (l, ds) :: groups =>
      if sameDatum store k l then (k, d :: ds) :: groups else (k, [d]) :: (l, ds) :: groups
    | [] => [(k, [d])]

/-- The elements with different keys, the first one of each. -/
def uniqueBy (key : Datum → Rendering Datum) (items : List Datum) : Rendering (List Datum) := do
  let mut seen : List Datum := []
  let mut kept : List Datum := []
  for d in items do
    let k ← key d
    requireKey k
    if !seen.any (sameDatum (← get) k) then
      seen := seen ++ [k]
      kept := kept ++ [d]
  pure kept

/-- The texts of elements with a separator between them. -/
def joined (escaping : Bool) (separator : Datum) (items : List Datum) : Rendering Datum := do
  if !escaping then
    let sep ← separator.plain
    let texts ← items.mapM Datum.plain
    pure (.text (String.intercalate sep texts) false)
  else
    let isSafe (d : Datum) : Bool := match d with
      | .text _ safe => safe
      | _ => false
    if isSafe separator || items.any isSafe then
      let sep ← separator.escaped
      let texts ← items.mapM Datum.escaped
      pure (.text (String.intercalate sep texts) true)
    else
      let sep ← separator.plain
      let texts ← items.mapM Datum.plain
      pure (.text (String.intercalate sep texts) false)

/-- The elements in reverse order, or a text backwards. -/
def reversed (d : Datum) : Rendering Datum := do
  match d with
  | .text s safe => pure (.text (String.ofList s.toList.reverse) safe)
  | _ =>
    match (← elements? d) with
    | some items => newStream "reversed" items.reverse
    | none => badArgument "argument must be iterable"

/-- The form in which a datum is inspected: mappings by sorted keys. -/
def inspected (store : Store) : Nat → Datum → List Char
  | 0, d => d.quoted store
  | fuel + 1, d =>
    match d with
    | .dict r =>
      let entries := store.entries r
      let sorted := match sortBy (fun a b => lessDatum store a.1 b.1) entries with
        | .ok es => es
        | .error _ => entries
      bracketed "\x7b" (sorted.map fun (k, v) =>
        inspected store fuel k ++ [':', ' '] ++ inspected store fuel v) "\x7d"
    | .list r => bracketed "[" ((store.items r).map (inspected store fuel)) "]"
    | other => other.quoted store

/-! ### All filters -/

/-- The value of `items` of a mapping, which other data do not have. -/
def mappingEntries (d : Datum) : Rendering (List (Datum × Datum)) := do
  d.require
  match d with
  | .dict r => pure ((← get).entries r)
  | _ => throw (.noAttribute ("'" ++ d.typeName ++ "' object has no attribute 'items'"))

/-- A filter by its name, once its arguments fit. Filters that apply other filters do so up to a depth. -/
def filterAt : Nat → Bool → String → Datum → Given → Rendering Datum
  | 0, _, _, _, _ => throw .tooDeep
  | fuel + 1, escaping, name, d, g => do
    if let some text := filterComplaint? name g then wrongType text
    let stream (kind : String) (items : List Datum) : Rendering Datum := newStream kind items
    let truth (b : Bool) : Rendering Datum := pure (.bool b)
    let pathArgument (i : Nat) : Option Datum := given? g i "attribute"
    let caseSensitive (i : Nat) : Rendering Bool := flagged g i "case_sensitive" false
    let lists (kind : String) (pieces : List (List Datum)) : Rendering Datum := do
      stream kind (← pieces.mapM newList)
    let choose (byAttribute keep : Bool) : Rendering Datum := do
      if !(← d.isTruthy) then stream name []
      else
        let (path, rest) ←
          if byAttribute then
            match g.positional with
            | a :: rest => pure (pathOf a, rest)
            | [] => badArgument "Missing parameter for attribute name"
          else pure ([], g.positional)
        let kept ← (← d.elements).filterM fun x => do
          let y ← follow none path x
          let answer ← match rest with
            | [] => y.isTruthy
            | .text test _ :: more =>
              if knownTests.contains test then runTest test y ⟨more, g.named⟩
              else noSuch "test" test
            | other :: _ => noSuch "test" (String.ofList (other.plainChars (← get)))
          pure (answer == keep)
        stream name kept
    match name with
    | "abs" =>
      d.require
      match d with
      | .float x => pure (.float (Binary64.ofFloat x.toFloat.abs))
      | _ =>
        match d.int? with
        | some n => pure (natDatum n.natAbs)
        | none => wrongType ("bad operand type for abs(): '" ++ d.typeName ++ "'")
    | "attr" =>
      let key ← g.need name 0 "name"
      match key with
      | .text s _ =>
        d.require
        let store ← get
        pure ((attribute? store d s).getD (noAttribute store d key))
      | _ => wrongType "attribute name must be string"
    | "batch" =>
      let count ← intOf (← g.need name 0 "linecount")
      let items ← d.elements
      let pieces := batches (max 1 count.toNat) items.length items
      let filled := match given? g 1 "fill_with", pieces.reverse with
        | some f, last :: before =>
          (before.reverse) ++ [last ++ List.replicate (count.toNat - last.length) f]
        | _, _ => pieces
      lists "do_batch" filled
    | "capitalize" => mapText Text.capitalize d
    | "center" =>
      let width ← g.intOr 0 "width" 80
      mapText (centered width.toNat ' ') d
    | "count" | "length" => pure (natDatum (← d.size))
    | "d" | "default" =>
      let standard := (g.get? 0 "default_value").getD (.text "" false)
      if isUndefined d then pure standard
      else if (← flagged g 1 "boolean" false) then
        if (← d.isTruthy) then pure d else pure standard
      else pure d
    | "dictsort" =>
      let step := (g.get? 1 "by").getD (.text "key" false)
      let reverse ← flagged g 2 "reverse" false
      let sensitive ← caseSensitive 0
      let second ← match step with
        | .text "key" _ => pure false
        | .text "value" _ => pure true
        | _ => badArgument "You can only sort by either \"key\" or \"value\""
      let entries ← mappingEntries d
      let items := entries.map fun (k, v) => Datum.tuple [k, v]
      let key (x : Datum) : Rendering Datum := do
        match x with
        | .tuple [k, v] =>
          let y := if second then v else k
          pure (if sensitive then y else withoutCase y)
        | other => pure other
      newList (← sortByKey reverse key items)
    | "e" | "escape" => pure (.text (← d.escaped) true)
    | "forceescape" => pure (.text (String.ofList (Text.escape (← d.plain).toList)) true)
    | "filesizeformat" =>
      let binary ← flagged g 0 "binary" false
      match readFloat? d with
      | some x => pure (.text (String.ofList (byteSize binary x)) false)
      | none =>
        d.require
        match d with
        | .text s _ =>
          badValue ("could not convert string to float: " ++ Text.quote s)
        | _ =>
          wrongType ("float() argument must be a string or a real number, not '" ++ d.typeName ++ "'")
    | "first" =>
      match (← d.elements) with
      | x :: _ => pure x
      | [] => pure (.undefined "No first item, sequence was empty.")
    | "last" =>
      match d with
      | .stream _ => wrongType "'generator' object is not reversible"
      | .set _ => wrongType "'set' object is not reversible"
      | _ =>
        d.require
        match (← elements? d) with
        | none => wrongType ("'" ++ d.typeName ++ "' object is not reversible")
        | some items =>
          match items.getLast? with
          | some x => pure x
          | none => pure (.undefined "No last item, sequence was empty.")
    | "float" =>
      d.require
      match readFloat? d with
      | some x => pure (.float x)
      | none => pure ((g.get? 0 "default").getD (.float (Binary64.ofInt 0)))
    | "int" =>
      d.require
      let base ← g.intOr 1 "base" 10
      match readInt? base.toNat d with
      | some n => pure (.int n)
      | none => pure ((g.get? 0 "default").getD (.int 0))
    | "format" =>
      if !g.positional.isEmpty && !g.named.isEmpty then
        badArgument "can't handle positional and keyword arguments at the same time"
      else
        let (s, safe) ← softText d
        let args ←
          if g.named.isEmpty then pure (Datum.tuple g.positional)
          else newDict (namedEntries g.named)
        remainderOf (.text (String.ofList s) safe) args
    | "groupby" =>
      let path := pathArgument 0
      let standard := given? g 1 "default"
      let sensitive ← caseSensitive 2
      let key := sortKey path standard sensitive
      let sorted ← sortByKey false key (← d.elements)
      let keyed ← sorted.mapM fun x => do pure (← key x, x)
      let groups := groupRuns (← get) keyed
      let shown ← groups.mapM fun (k, items) => do
        let k ← match items with
          | x :: _ => if sensitive then pure k else sortKey path standard true x
          | [] => pure k
        pure (Datum.tuple [k, ← newList items])
      newList shown
    | "indent" =>
      let step ← match g.get? 0 "width" with
        | some (.text s _) => pure s.toList
        | some w => pure (Text.copies (← intOf w).toNat ' ')
        | none => pure (Text.copies 4 ' ')
      let first ← flagged g 1 "first" false
      let blank ← flagged g 2 "blank" false
      d.require
      match d with
      | .text s safe => pure (.text (String.ofList (indented step first blank s.toList)) safe)
      | _ =>
        unsupported "+=" d (.text "" false)
    | "items" =>
      match d with
      | .undefined _ => stream "do_items" []
      | .absent _ => stream "do_items" []
      | .dict r =>
        stream "do_items" (((← get).entries r).map fun (k, v) => .tuple [k, v])
      | _ => wrongType "Can only get item pairs from a mapping."
    | "join" =>
      let separator := (g.get? 0 "d").getD (.text "" false)
      let items ← d.elements
      let items ← match pathArgument 1 with
        | some a => items.mapM (follow none (pathOf a))
        | none => pure items
      joined escaping separator items
    | "list" => newList (← d.elements)
    | "lower" => mapText Text.lower d
    | "upper" => mapText Text.upper d
    | "title" =>
      let (s, _) ← softText d
      pure (.text (String.ofList (titled s)) false)
    | "map" =>
      if !(← d.isTruthy) then stream "sync_do_map" []
      else if g.positional.isEmpty && (g.named.lookup "attribute").isSome then
        let a := (g.named.lookup "attribute").getD .null
        let standard := given? ⟨[], g.named⟩ 0 "default"
        match g.named.find? fun (k, _) => k != "attribute" && k != "default" with
        | some (k, _) => badArgument ("Unexpected keyword argument " ++ Text.quote k)
        | none =>
          stream "sync_do_map" (← (← d.elements).mapM (follow standard (pathOf a)))
      else
        match g.positional with
        | [] => badArgument "map requires a filter argument"
        | .text filter _ :: more =>
          if knownFilters.contains filter then
            stream "sync_do_map"
              (← (← d.elements).mapM fun x => filterAt fuel escaping filter x ⟨more, g.named⟩)
          else noSuch "filter" filter
        | other :: _ => noSuch "filter" (String.ofList (other.plainChars (← get)))
    | "select" => choose false true
    | "reject" => choose false false
    | "selectattr" => choose true true
    | "rejectattr" => choose true false
    | "max" | "min" =>
      let sensitive ← caseSensitive 0
      extreme (name == "max") (sortKey (pathArgument 1) none sensitive) (← d.elements)
    | "pprint" => pure (.text (String.ofList (inspected (← get) displayDepth d)) false)
    | "random" =>
      match (← d.elements) with
      | x :: _ => pure x
      | [] => pure (.undefined "No random item, sequence was empty.")
    | "replace" =>
      let old ← g.need name 0 "old"
      let new ← g.need name 1 "new"
      let count ← match given? g 2 "count" with
        | some n => intOf n
        | none => pure (-1)
      let isSafe (x : Datum) : Bool := match x with
        | .text _ safe => safe
        | _ => false
      if !escaping then
        let s ← d.plain
        let o ← old.plain
        let n ← new.plain
        pure (.text (String.ofList (replaceSome o.toList n.toList count s.toList)) false)
      else if isSafe d || isSafe old || isSafe new then
        let s ← d.escaped
        let o ← old.escaped
        let n ← new.escaped
        pure (.text (String.ofList (replaceSome o.toList n.toList count s.toList)) true)
      else
        let s ← d.plain
        let o ← old.plain
        let n ← new.plain
        pure (.text (String.ofList (replaceSome o.toList n.toList count s.toList)) false)
    | "reverse" =>
      d.require
      reversed d
    | "round" =>
      let places ← g.intOr 0 "precision" 0
      match (g.get? 1 "method").getD (.text "common" false) with
      | .text "common" _ => roundedNumber places d
      | .text "ceil" _ => roundedTowards true places d
      | .text "floor" _ => roundedTowards false places d
      | _ => badArgument "method must be common, ceil or floor"
    | "safe" =>
      match d with
      | .text s _ => pure (.text s true)
      | _ => pure (.text (← d.plain) true)
    | "slice" =>
      let count ← intOf (← g.need name 0 "slices")
      let items ← d.elements
      if count == 0 then throw (.arithmetic "integer division or modulo by zero")
      else lists "sync_do_slice" (slices count.toNat (given? g 1 "fill_with") items)
    | "sort" =>
      let reverse ← flagged g 0 "reverse" false
      let sensitive ← caseSensitive 1
      newList (← sortByKey reverse (sortKeys (pathArgument 2) sensitive) (← d.elements))
    | "string" =>
      match d with
      | .text s safe => pure (.text s safe)
      | _ => pure (.text (← d.plain) false)
    | "striptags" => pure (.text (String.ofList (stripTags (← d.plain).toList)) false)
    | "sum" =>
      let start := (g.get? 1 "start").getD (.int 0)
      let items ← d.elements
      let items ← match pathArgument 0 with
        | some a => items.mapM (follow none (pathOf a))
        | none => pure items
      match start with
      | .text _ _ => wrongType "sum() can't sum strings [use ''.join(seq) instead]"
      | _ => items.foldlM (fun total x => binary .add total x) start
    | "tojson" =>
      let indent ← match given? g 0 "indent" with
        | some n => (fun n => some n.toNat) <$> intOf n
        | none => pure none
      pure (.text (← d.json indent) true)
    | "trim" =>
      let isDropped ← match given? g 0 "chars" with
        | some (.text t _) => pure fun c => t.toList.contains c
        | _ => pure Text.isBlank
      mapText (Text.trim isDropped) d
    | "truncate" =>
      let length ← g.intOr 0 "length" 255
      let killWords ← flagged g 1 "killwords" false
      let ending ← match g.get? 2 "end" with
        | some e => pure (← e.plain).toList
        | none => pure "...".toList
      let leeway ← match given? g 3 "leeway" with
        | some n => intOf n
        | none => pure 5
      d.require
      if length < ending.length then
        misuse ("expected length >= " ++ toString ending.length ++ ", got " ++ toString length)
      else
        match d with
        | .text s safe =>
          pure (.text (String.ofList (truncated length.toNat leeway.toNat killWords ending s.toList))
            safe)
        | _ => wrongType ("object of type '" ++ d.typeName ++ "' has no len()")
    | "unique" =>
      let sensitive ← caseSensitive 0
      stream "do_unique" (← uniqueBy (sortKey (pathArgument 1) none sensitive) (← d.elements))
    | "urlencode" =>
      let pair (x : Datum) : Rendering (List Char) := do
        match (← elements? x) with
        | some [k, v] =>
          pure (percentEncoded true (← k.plain).toList ++
            '=' :: percentEncoded true (← v.plain).toList)
        | some xs =>
          badValue (if xs.length < 2 then
              "not enough values to unpack (expected 2, got " ++ toString xs.length ++ ")"
            else "too many values to unpack (expected 2)")
        | none => wrongType ("cannot unpack non-iterable " ++ x.typeName ++ " object")
      let pairs (items : List Datum) : Rendering Datum := do
        pure (.text (String.ofList (Text.join ['&'] (← items.mapM pair))) false)
      match d with
      | .text s _ => pure (.text (String.ofList (percentEncoded false s.toList)) false)
      | .dict r => pairs (((← get).entries r).map fun (k, v) => .tuple [k, v])
      | _ =>
        if isIterable d then pairs (← d.elements)
        else pure (.text (String.ofList (percentEncoded false (← d.plain).toList)) false)
    | "urlize" =>
      let limit ← match given? g 0 "trim_url_limit" with
        | some n => (fun n => some n.toNat) <$> intOf n
        | none => pure none
      let nofollow ← flagged g 1 "nofollow" false
      let rel ← match given? g 3 "rel" with
        | some r => pure (Text.words (← r.plain).toList)
        | none => pure []
      let words := rel ++ (if nofollow then ["nofollow".toList] else []) ++ ["noopener".toList]
      let sorted := Text.sortBy (fun a b => decide (String.ofList a < String.ofList b))
        (words.eraseDups)
      let target ← match given? g 2 "target" with
        | some t => pure (" target=\"".toList ++ (← t.escaped).toList ++ ['"'])
        | none => pure []
      let attributes := " rel=\"".toList ++ Text.join [' '] sorted ++ ['"'] ++ target
      let s ← d.escaped
      pure (.text (String.ofList (linkify ⟨limit, attributes⟩ s.toList)) escaping)
    | "wordcount" => pure (natDatum (countWords (← softText d).1))
    | "wordwrap" =>
      let width ← g.intOr 0 "width" 79
      let breakLong ← flagged g 1 "break_long_words" true
      let wrapper ← match given? g 2 "wrapstring" with
        | some w => pure (← w.plain).toList
        | none => pure ['\n']
      let onHyphens ← flagged g 3 "break_on_hyphens" true
      let s ← textOf name d
      let lines := (Text.lines s).map fun line =>
        Text.join wrapper (wrapLine width.toNat breakLong onHyphens line)
      pure (.text (String.ofList (Text.join wrapper lines)) false)
    | "xmlattr" =>
      let autospace ← flagged g 0 "autospace" true
      let s ← attributes (← mappingEntries d)
      let s := if autospace && !s.isEmpty then ' ' :: s else s
      pure (.text (String.ofList s) escaping)
    | _ => do
      let _ ← truth true
      noSuch "filter" name

/-- A filter by its name. -/
def runFilter (escaping : Bool) (name : String) (d : Datum) (g : Given) : Rendering Datum :=
  filterAt 8 escaping name d g

end StaticSite.Template
