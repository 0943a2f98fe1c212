import StaticSite.Template.Layout
import StaticSite.Value.CalendarPattern

/-!
# Format strings

Two kinds of format strings fill values into a text. In the first kind a percent sign begins a place,
and the arguments are a sequence or a mapping. In the second kind a place stands between braces and
names its argument by position or by name.

## Main definitions

* `fillPercent`: places with a percent sign.
* `fillBraces`: places between braces.
* `applySpec`: a datum laid out in a place between braces.
-/

namespace StaticSite.Template

open Rendering

/-! ### Places with a percent sign -/

/-- A place with a percent sign. -/
structure PercentPlace where
  /-- The key of its argument in a mapping. -/
  key : Option String
  /-- The flags. -/
  flags : List Char
  /-- The least width: a number, or an argument. -/
  width : Option (Option Nat)
  /-- The precision: a number, or an argument. -/
  precision : Option (Option Nat)
  /-- The letter of the conversion. -/
  letter : Char

/-- The text up to the bracket that closes the one before it, and what follows; brackets inside nest. -/
def untilBracket? : Nat → List Char → Option (List Char × List Char)
  | _, [] => none
  | 0, ')' :: rest => some ([], rest)
  | depth + 1, ')' :: rest => (untilBracket? depth rest).map fun (s, r) => (')' :: s, r)
  | depth, '(' :: rest => (untilBracket? (depth + 1) rest).map fun (s, r) => ('(' :: s, r)
  | depth, c :: rest => (untilBracket? depth rest).map fun (s, r) => (c :: s, r)

/-- The key of a place between brackets. -/
def placeKey : List Char → Except String (Option String × List Char)
  | '(' :: rest =>
    match untilBracket? 0 rest with
    | some (key, rest) => .ok (some (String.ofList key), rest)
    | none => .error "incomplete format key"
  | s => .ok (none, s)

/-- A number or an asterisk. -/
def placeNumber (s : List Char) : Option (Option Nat) × List Char :=
  match s with
  | '*' :: rest => (some none, rest)
  | _ =>
    let digits := s.takeWhile Char.isDigit
    if digits.isEmpty then (none, s)
    else (some (some (decimalNumber digits)), s.dropWhile Char.isDigit)

/-- Read a place after its percent sign. -/
def percentPlace (s : List Char) : Except String (PercentPlace × List Char) := do
  let (key, s) ← placeKey s
  let isFlag (c : Char) : Bool := "-+ #0".toList.contains c
  let flags := s.takeWhile isFlag
  let (width, s) := placeNumber (s.dropWhile isFlag)
  let (precision, s) := match s with
    | '.' :: rest =>
      match placeNumber rest with
      | (none, r) => (some (some 0), r)
      | (some p, r) => (some p, r)
    | _ => (none, s)
  let s := match s with
    | c :: rest => if c == 'l' || c == 'h' || c == 'L' then rest else s
    | [] => s
  match s with
  | c :: rest => pure (⟨key, flags, width, precision, c⟩, rest)
  | [] => throw "incomplete format"

/-- The text of a number with sign and width by flags. -/
def flaggedNumber (flags : List Char) (width : Nat) (n : NumberText) : List Char :=
  let sign := if flags.contains '+' then some '+' else if flags.contains ' ' then some ' ' else none
  let front := n.signChars sign ++ n.mark
  let back := n.digits ++ n.rest
  if flags.contains '-' then padRight width ' ' (front ++ back)
  else if flags.contains '0' then front ++ padLeft (width - front.length) '0' back
  else padLeft width ' ' (front ++ back)

/-- The form of a text in which other characters than ASCII ones are numbered. -/
def asciiForm (s : List Char) : List Char :=
  s.flatMap fun c =>
    let n := c.toNat
    if n < 0x80 then [c]
    else if n < 0x100 then '\\' :: 'x' :: Text.padded 16 2 n
    else if n < 0x10000 then '\\' :: 'u' :: Text.padded 16 4 n
    else '\\' :: 'U' :: Text.padded 16 8 n

/-- The whole number that a conversion shows. -/
def wholeNumber (letter : Char) (d : Datum) : Rendering Int := do
  d.require
  match d.int?, d with
  | some n, _ => pure n
  | none, .float x =>
    if letter == 'd' || letter == 'i' || letter == 'u' then
      if x.isNaN then badValue "cannot convert float NaN to integer"
      else if x.isInfinite then throw (.arithmetic "cannot convert float infinity to integer")
      else pure x.truncate
    else
      wrongType ("%" ++ String.singleton letter ++ " format: an integer is required, not float")
  | none, _ =>
    let wanted := if letter == 'd' || letter == 'i' || letter == 'u' then "a real number" else "an integer"
    wrongType ("%" ++ String.singleton letter ++ " format: " ++ wanted ++ " is required, not " ++
      d.typeName)

/-- The number that a conversion shows. -/
def realNumber (d : Datum) : Rendering Binary64 := do
  d.require
  match d with
  | .float x => pure x
  | _ =>
    match d.int? with
    | some n => pure (Binary64.ofInt n)
    | none => wrongType ("must be real number, not " ++ d.typeName)

/-- The text of a datum in a place with a percent sign, whose letter is known. -/
def percentText (p : PercentPlace) (width : Nat) (precision : Option Nat) (d : Datum) :
    Rendering (List Char) := do
  let filled (s : List Char) : List Char :=
    if p.flags.contains '-' then padRight width ' ' s else padLeft width ' ' s
  let textual (s : List Char) : List Char := filled (s.take (precision.getD s.length))
  let based (base : Nat) (mark : String) : Rendering (List Char) := do
    let n := NumberText.ofInt (if p.flags.contains '#' then mark.toList else []) base
      (← wholeNumber p.letter d)
    let digits := padLeft (precision.getD 0) '0' n.digits
    pure (flaggedNumber p.flags width
      { n with digits := if p.letter == 'X' then upperAscii digits else digits })
  match p.letter with
  | 's' => pure (textual (← d.plain).toList)
  | 'r' => pure (textual (d.quoted (← get)))
  | 'a' => pure (textual (asciiForm (d.quoted (← get))))
  | 'c' =>
    match d with
    | .text s _ => if s.length == 1 then pure (filled s.toList) else wrongType "%c requires int or char"
    | _ =>
      match d.int? with
      | some n =>
        if n < 0 || 0x10ffff < n then throw (.arithmetic "%c arg not in range(0x110000)")
        else pure (filled [Char.ofNat n.toNat])
      | none => wrongType "%c requires int or char"
  | 'x' => based 16 "0x"
  | 'X' => based 16 "0X"
  | 'o' => based 8 "0o"
  | c =>
    if "eEfFgG".toList.contains c then
      let s := realChars c (precision.getD 6) (p.flags.contains '#') (← realNumber d)
      pure (flaggedNumber p.flags width (NumberText.ofChars s))
    else based 10 ""

/-- The complaint about a letter that stands for no conversion, at an index. -/
def unsupportedLetter (c : Char) (index : Nat) : String :=
  let shown := if 31 ≤ c.toNat && c.toNat < 126 then c else '?'
  "unsupported format character '" ++ String.singleton shown ++ "' (0x" ++
    String.ofList (Nat.toDigits 16 c.toNat) ++ ") at index " ++ toString index

/-- Fill the places of a text of `whole` characters; `byKey` finds an argument in a mapping. -/
def percentFrom (whole : Nat) (byKey : String → Rendering Datum) :
    Nat → List Char → List Datum → Rendering (List Char × List Datum)
  | 0, _, args => pure ([], args)
  | _, [], args => pure ([], args)
  | fuel + 1, '%' :: '%' :: rest, args => do
    let (more, left) ← percentFrom whole byKey fuel rest args
    pure ('%' :: more, left)
  | fuel + 1, '%' :: rest, args => do
    match percentPlace rest with
    | .error text => badValue text
    | .ok (p, after) =>
      let args ← match p.key with
        | some k => pure [← byKey k]
        | none => pure args
      let next (args : List Datum) : Rendering (Datum × List Datum) :=
        match args with
        | [] => wrongType "not enough arguments for format string"
        | d :: ds => pure (d, ds)
      let number (n : Option (Option Nat)) (args : List Datum) :
          Rendering (Option Int × List Datum) := do
        match n with
        | none => pure (none, args)
        | some (some n) => pure (some n, args)
        | some none =>
          let (d, ds) ← next args
          match d.int? with
          | some n => pure (some n, ds)
          | none => wrongType "* wants int"
      let (width, args) ← number p.width args
      let (precision, args) ← number p.precision args
      let (d, args) ← next args
      if !"sraciduxXoeEfFgG".toList.contains p.letter then
        badValue (unsupportedLetter p.letter (whole - after.length - 1))
      else
        let width := width.getD 0
        let p := if width < 0 then { p with flags := '-' :: p.flags } else p
        let s ← percentText p width.natAbs (precision.map Int.toNat) d
        let (more, left) ← percentFrom whole byKey fuel after args
        pure (s ++ more, left)
  | fuel + 1, c :: rest, args => do
    let (more, left) ← percentFrom whole byKey fuel rest args
    pure (c :: more, left)

/-- Fill the places of a text with a percent sign from a tuple, a mapping or a single datum. -/
def fillPercent (format : String) (args : Datum) : Rendering String := do
  let store ← get
  let (items, mapping) : List Datum × Option Ref := match args with
    | .tuple items => (items, none)
    | .dict r => ([args], some r)
    | d => ([d], none)
  let byKey (k : String) : Rendering Datum := do
    match mapping with
    | none => wrongType "format requires a mapping"
    | some r =>
      match findEntry store (.text k false) (store.entries r) with
      | some d => pure d
      | none => throw (.missingKey (Text.quote k))
  let s := format.toList
  let (out, left) ← percentFrom s.length byKey (s.length + 1) s items
  let lenient := match args with
    | .dict _ | .list _ | .range _ _ _ | .bytes _ | .undefined _ => true
    | _ => false
  if !left.isEmpty && !lenient then
    wrongType "not all arguments converted during string formatting"
  pure (String.ofList out)

/-! ### Places between braces -/

/-- A datum laid out in a place between braces. -/
def applySpec (written : List Char) (d : Datum) : Rendering (List Char) := do
  if written.isEmpty then pure (← d.plain).toList
  else
    match d with
    | .date t => pure ((Moment.ofDate t).byPattern written)
    | .moment t => pure (t.byPattern written)
    | _ => layOut written d

/-- A place between braces: the characters of its name, of its conversion and of its layout. -/
structure BracePlace where
  name : List Char
  conversion : Option Char
  written : List Char

/-- Cut the name of a place at the mark that ends it; between square brackets no mark does. -/
def placeName : Bool → List Char → Except String (List Char × List Char)
  | _, [] => .ok ([], [])
  | true, c :: rest => (placeName (c != ']') rest).map fun (s, r) => (c :: s, r)
  | false, c :: rest =>
    if c == '{' then .error "unexpected '\x7b' in field name"
    else if c == '}' || c == ':' || c == '!' then .ok ([], c :: rest)
    else (placeName (c == '[') rest).map fun (s, r) => (c :: s, r)

/-- Cut a layout at the closing brace of its place; braces inside nest. -/
def placeLayout : Nat → List Char → Except String (List Char × List Char)
  | _, [] => .error "unmatched '\x7b' in format spec"
  | 0, '}' :: rest => .ok ([], rest)
  | depth + 1, '}' :: rest => (placeLayout depth rest).map fun (s, r) => ('}' :: s, r)
  | depth, '{' :: rest => (placeLayout (depth + 1) rest).map fun (s, r) => ('{' :: s, r)
  | depth, c :: rest => (placeLayout depth rest).map fun (s, r) => (c :: s, r)

/-- Read a place behind its opening brace. -/
def bracePlace (s : List Char) : Except String (BracePlace × List Char) := do
  let (name, rest) ← placeName false s
  let laid (conversion : Option Char) (rest : List Char) : Except String (BracePlace × List Char) :=
    (placeLayout 0 rest).map fun (written, rest) => (⟨name, conversion, written⟩, rest)
  match rest with
  | '}' :: rest => pure (⟨name, none, []⟩, rest)
  | ':' :: rest => laid none rest
  | '!' :: c :: '}' :: rest => pure (⟨name, some c, []⟩, rest)
  | '!' :: c :: ':' :: rest => laid (some c) rest
  | ['!', c] => laid (some c) []
  | '!' :: _ :: _ => throw "expected ':' after conversion specifier"
  | ['!'] => throw "end of string while looking for conversion specifier"
  | _ => throw "expected '\x7d' before end of string"

/-- The first part of a name, and the attributes and indices after it. -/
def splitName (s : List Char) : List Char × List Char :=
  let first := s.takeWhile fun c => c != '.' && c != '['
  (first, s.drop first.length)

/-- How the places so far were numbered. -/
inductive Numbering
  /-- No place has had a number. -/
  | unused
  /-- In order; this is the next number. -/
  | inOrder (next : Nat)
  /-- Each by a number of its own. -/
  | explicit

/-- The name of a place once it is numbered. Places that are numbered in order and places with numbers
of their own do not mix. -/
def Numbering.advance (n : Numbering) (name : List Char) : Rendering (List Char × Numbering) :=
  match n with
  | .unused =>
    if name.isEmpty then pure (['0'], .inOrder 1)
    else pure (name, if name.all Char.isDigit then .explicit else .unused)
  | .inOrder next =>
    if name.isEmpty then pure (Text.ofNat next, .inOrder (next + 1))
    else if name.all Char.isDigit then
      badValue "cannot switch from automatic field numbering to manual field specification"
    else pure (name, n)
  | .explicit =>
    if name.isEmpty then
      badValue "cannot switch from manual field specification to automatic field numbering"
    else pure (name, n)

/-- A datum as a conversion shows it. -/
def converted (conversion : Option Char) (d : Datum) : Rendering Datum := do
  let quoted : Rendering (List Char) := do pure (d.quoted (← get))
  match conversion with
  | none => pure d
  | some 's' => pure (.text (← d.plain) false)
  | some 'r' => pure (.text (String.ofList (← quoted)) false)
  | some 'a' => pure (.text (String.ofList (asciiForm (← quoted))) false)
  | some c =>
    let shown := if 32 < c.toNat && c.toNat < 127 then String.singleton c
      else "\\x" ++ String.ofList (Nat.toDigits 16 c.toNat)
    badValue ("Unknown conversion specifier " ++ shown)

/-- Fill the places between braces. `argument` finds a datum by its name and its path, and `present` lays one
out. Places stand inside of layouts, to a depth. -/
def bracesFrom (argument : List Char → List Char → Rendering Datum)
    (present : List Char → Datum → Rendering (List Char)) :
    Nat → Nat → Numbering → List Char → Rendering (List Char × Numbering)
  | 0, _, numbers, _ => pure ([], numbers)
  | _, _, numbers, [] => pure ([], numbers)
  | fuel + 1, depth, numbers, '{' :: '{' :: rest => do
    let (more, numbers) ← bracesFrom argument present fuel depth numbers rest
    pure ('{' :: more, numbers)
  | fuel + 1, depth, numbers, '}' :: '}' :: rest => do
    let (more, numbers) ← bracesFrom argument present fuel depth numbers rest
    pure ('}' :: more, numbers)
  | _ + 1, _, _, '}' :: _ => badValue "Single '\x7d' encountered in format string"
  | _ + 1, _, _, ['{'] => badValue "Single '\x7b' encountered in format string"
  | fuel + 1, depth, numbers, '{' :: rest => do
    match bracePlace rest with
    | .error text => badValue text
    | .ok (place, after) =>
      let (first, path) := splitName place.name
      let (first, numbers) ← numbers.advance first
      let d ← converted place.conversion (← argument first path)
      let (written, numbers) ←
        if !place.written.contains '{' then pure (place.written, numbers)
        else match depth with
          | 0 => badValue "Max string recursion exceeded"
          | depth + 1 => bracesFrom argument present fuel depth numbers place.written
      let s ← present written d
      let (more, numbers) ← bracesFrom argument present fuel depth numbers after
      pure (s ++ more, numbers)
  | fuel + 1, depth, numbers, c :: rest => do
    let (more, numbers) ← bracesFrom argument present fuel depth numbers rest
    pure (c :: more, numbers)

/-- Fill the places between braces, where layouts may hold places of their own. -/
def fillBraces (argument : List Char → List Char → Rendering Datum)
    (present : List Char → Datum → Rendering (List Char)) (format : String) : Rendering String := do
  let s := format.toList
  pure (String.ofList (← bracesFrom argument present (s.length + 1) 1 .unused s).1)

end StaticSite.Template
