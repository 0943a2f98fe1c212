import StaticSite.Number.Fixed
import StaticSite.Template.Compare

/-!
# Layouts

How a value is laid out in its place: filled up to a width on one side or between sign and digits, with
a sign, with separated groups of digits, with so many digits. A layout is written as a text such as
`*>+12,.2f` and is read before the value is looked at.

## Main definitions

* `Layout`, `Layout.read`: a layout and its written form.
* `NumberText`, `Layout.number`: the parts of the text of a number, and the number laid out.
* `layOut`: a datum that is a text or a number, laid out.
-/

namespace StaticSite.Template

open Rendering

/-! ### Widths -/

/-- Fill up a text on the left to a width. -/
def padLeft (width : Nat) (c : Char) (s : List Char) : List Char :=
  Text.copies (width - s.length) c ++ s

/-- Fill up a text on the right to a width. -/
def padRight (width : Nat) (c : Char) (s : List Char) : List Char :=
  s ++ Text.copies (width - s.length) c

/-- Fill up a text on both sides to a width; the right side gets the greater half. -/
def padBoth (width : Nat) (c : Char) (s : List Char) : List Char :=
  let room := width - s.length
  Text.copies (room / 2) c ++ s ++ Text.copies (room - room / 2) c

/-- Upper case letters for the ASCII ones. -/
def upperAscii (s : List Char) : List Char := s.map Char.toUpper

/-! ### The written form -/

/-- How a value is laid out in its place. -/
structure Layout where
  fill : Char
  /-- One of `<`, `>`, `^` and `=`; the last one fills between the sign and the digits. -/
  align : Char
  sign : Option Char
  /-- A zero has no minus sign. -/
  unsignedZero : Bool
  /-- Bases are marked, and a point stays even if nothing follows it. -/
  alternate : Bool
  width : Nat
  separator : Option Char
  precision : Option Nat
  letter : Option Char

/-- A character between quotes in a complaint. -/
def shownLetter (c : Char) : String :=
  if 32 < c.toNat && c.toNat < 128 then String.singleton c
  else "\\x" ++ String.ofList (Nat.toDigits 16 c.toNat)

/-- The complaint about a letter that does not fit the type of the value. -/
def unknownCode (c : Char) (typeName : String) : String :=
  "Unknown format code '" ++ shownLetter c ++ "' for object of type '" ++ typeName ++ "'"

namespace Layout

/-- The sign of an alignment. -/
def isAlign (c : Char) : Bool := "<>=^".toList.contains c

/-- Take a character of a class off the front. -/
def take? (p : Char → Bool) : List Char → Option Char × List Char
  | c :: rest => if p c then (some c, rest) else (none, c :: rest)
  | [] => (none, [])

/-- Take the fill character and the alignment off the front. -/
def takeAlign (s : List Char) : Option Char × Option Char × List Char :=
  match s with
  | c :: a :: rest =>
    if isAlign a then (some c, some a, rest)
    else if isAlign c then (none, some c, a :: rest) else (none, none, s)
  | [c] => if isAlign c then (none, some c, []) else (none, none, s)
  | [] => (none, none, [])

/-- Take a count off the front. -/
def takeCount (s : List Char) : Except String (Option Nat × List Char) :=
  let digits := s.takeWhile Char.isDigit
  if digits.isEmpty then .ok (none, s)
  else if Nat.pow 2 63 ≤ decimalNumber digits then .error "Too many decimal digits in format string"
  else .ok (some (decimalNumber digits), s.drop digits.length)

/-- Take the separator of groups off the front. -/
def takeSeparator (s : List Char) : Except String (Option Char × List Char) :=
  match s with
  | ',' :: '_' :: _ => .error "Cannot specify both ',' and '_'."
  | '_' :: ',' :: _ => .error "Cannot specify both ',' and '_'."
  | ',' :: rest => .ok (some ',', rest)
  | '_' :: rest => .ok (some '_', rest)
  | _ => .ok (none, s)

/-- Take the precision off the front. -/
def takePrecision (s : List Char) : Except String (Option Nat × List Char) :=
  match s with
  | '.' :: rest =>
    match takeCount rest with
    | .ok (none, _) => .error "Format specifier missing precision"
    | found => found
  | _ => .ok (none, s)

/-- Groups with this separator can be asked for together with this letter, or with the standard letter of
numbers. -/
def separates (separator : Char) (numeric : Bool) (letter : Option Char) : Bool :=
  match letter with
  | none => numeric
  | some c => "defgEG%F".toList.contains c || (separator == '_' && "boxX".toList.contains c)

/-- Read a layout for a value of a type. Numbers stand on the right of their place, other values on the
left. -/
def read (typeName : String) (numeric : Bool) (s : List Char) : Except String Layout := do
  let (fill, align, rest) := takeAlign s
  let (sign, rest) := take? (fun c => c == '+' || c == '-' || c == ' ') rest
  let (z, rest) := take? (· == 'z') rest
  let (hash, rest) := take? (· == '#') rest
  let (zero, rest) := if fill.isNone then take? (· == '0') rest else (none, rest)
  let (width, rest) ← takeCount rest
  let (separator, rest) ← takeSeparator rest
  let (precision, rest) ← takePrecision rest
  let letter ← match rest with
    | [] => pure none
    | [c] => pure (some c)
    | _ =>
      throw ("Invalid format specifier '" ++ String.ofList s ++ "' for object of type '" ++ typeName ++
        "'")
  match separator with
  | some mark =>
    if !separates mark numeric letter then
      throw ("Cannot specify '" ++ String.singleton mark ++ "' with '" ++
        shownLetter (letter.getD 's') ++ "'.")
  | none => pure ()
  let standard := if !numeric then '<' else if zero.isSome then '=' else '>'
  pure {
    fill := fill.getD (zero.getD ' '), align := align.getD standard, sign, unsignedZero := z.isSome
    alternate := hash.isSome, width := width.getD 0, separator, precision, letter }

end Layout

/-! ### Numbers -/

/-- The text of a number in parts. -/
structure NumberText where
  negative : Bool
  /-- The mark of the base. -/
  mark : List Char
  /-- The digits before the point. -/
  digits : List Char
  /-- What follows these digits. -/
  rest : List Char

namespace NumberText

/-- A whole number in a base. -/
def ofInt (mark : List Char) (base : Nat) (n : Int) : NumberText :=
  ⟨n < 0, mark, Nat.toDigits base n.natAbs, []⟩

/-- The parts of the text of a number in base ten. -/
def ofChars (s : List Char) : NumberText :=
  let (negative, s) := match s with
    | '-' :: rest => (true, rest)
    | _ => (false, s)
  ⟨negative, [], s.takeWhile Char.isDigit, s.dropWhile Char.isDigit⟩

/-- Every digit is a zero, and there is one. -/
def isZero (n : NumberText) : Bool :=
  !n.digits.isEmpty && n.digits.all (· == '0') &&
    (n.rest.takeWhile (· != 'e')).all (fun c => c == '0' || c == '.' || c == '%')

/-- The sign by the sign that is asked for. -/
def signChars (n : NumberText) (sign : Option Char) : List Char :=
  if n.negative then ['-']
  else match sign with
    | some '+' => ['+']
    | some ' ' => [' ']
    | _ => []

end NumberText

/-- Digits, reversed, in groups from the right, filled up with zeros to a width. A group is only begun if
there is a digit or a zero to begin it with. -/
def groupedFrom (separator : Char) (size : Nat) : Nat → Nat → List Char → List Char → List Char
  | 0, _, _, done => done
  | fuel + 1, width, digits, done =>
    let count := min size (max (max digits.length width) 1)
    let group := padLeft count '0' (digits.take count).reverse
    let done := group ++ (if done.isEmpty then [] else separator :: done)
    if digits.length ≤ count && width ≤ count then done
    else groupedFrom separator size fuel (width - count - 1) (digits.drop count) done

/-- Digits in groups from the right, filled up with zeros to a width. -/
def grouped (separator : Char) (size width : Nat) (digits : List Char) : List Char :=
  groupedFrom separator size (digits.length + width + 1) width digits.reverse []

/-- Lay out the text of a number, with digits in groups of a size. -/
def Layout.number (l : Layout) (size : Nat) (n : NumberText) : List Char :=
  let front := n.signChars l.sign ++ n.mark
  let least :=
    if l.fill == '0' && l.align == '=' then l.width - (front.length + n.rest.length) else 0
  let digits := if n.digits.isEmpty then [] else match l.separator with
    | some c => grouped c size least n.digits
    | none => padLeft least '0' n.digits
  let back := digits ++ n.rest
  match l.align with
  | '<' => padRight l.width l.fill (front ++ back)
  | '^' => padBoth l.width l.fill (front ++ back)
  | '=' => front ++ padLeft (l.width - front.length) l.fill back
  | _ => padLeft l.width l.fill (front ++ back)

/-- The text of a number with a letter for its form. -/
def realChars (letter : Char) (precision : Nat) (keep : Bool) (x : Binary64) : List Char :=
  let s := match letter.toLower with
    | 'f' => x.fixedChars precision keep
    | 'e' => x.exponentChars precision keep
    | _ => x.generalChars precision keep
  if letter.isUpper then upperAscii s else s

/-- Put a point before an exponent that has none before it. -/
def withPoint (s : List Char) : List Char :=
  if s.contains '.' || !s.contains 'e' then s
  else s.takeWhile (· != 'e') ++ '.' :: s.dropWhile (· != 'e')

namespace Layout

/-- Lay out a machine number. -/
def real (l : Layout) (typeName : String) (x : Binary64) : Rendering (List Char) := do
  let places := l.precision.getD 6
  let s ← match l.letter with
    | none =>
      match l.precision with
      | none => pure (if l.alternate then withPoint x.renderChars else x.renderChars)
      | some count => pure (x.decimalChars count l.alternate)
    | some '%' =>
      pure ((Binary64.ofFloat (x.toFloat * 100)).fixedChars places l.alternate ++ ['%'])
    | some 'n' => pure (x.generalChars places l.alternate)
    | some c =>
      if "eEfFgG".toList.contains c then pure (realChars c places l.alternate x)
      else badValue (unknownCode c typeName)
  let n := NumberText.ofChars s
  pure (l.number 3 (if l.unsignedZero && n.isZero then { n with negative := false } else n))

/-- Lay out the character with a number. -/
def character (l : Layout) (n : Int) : Rendering (List Char) := do
  if l.sign.isSome then badValue "Sign not allowed with integer format specifier 'c'"
  else if l.alternate then
    badValue "Alternate form (#) not allowed with integer format specifier 'c'"
  else if n < 0 || 0x10ffff < n then throw (.arithmetic "%c arg not in range(0x110000)")
  else pure (l.number 3 ⟨false, [], [], [Char.ofNat n.toNat]⟩)

/-- Lay out a whole number in a base with a mark. -/
def whole (l : Layout) (base : Nat) (mark : String) (n : Int) : List Char :=
  let text := NumberText.ofInt (if l.alternate then mark.toList else []) base n
  l.number (if base == 10 then 3 else 4)
    (if l.letter == some 'X' then { text with digits := upperAscii text.digits } else text)

/-- Lay out a whole number. -/
def integer (l : Layout) (typeName : String) (n : Int) : Rendering (List Char) := do
  let letter := l.letter.getD 'd'
  if "bcdnoxX".toList.contains letter then
    if l.precision.isSome then badValue "Precision not allowed in integer format specifier"
    else if l.unsignedZero then
      badValue "Negative zero coercion (z) not allowed in integer format specifier"
    else match letter with
      | 'c' => l.character n
      | 'b' => pure (l.whole 2 "0b" n)
      | 'o' => pure (l.whole 8 "0o" n)
      | 'x' => pure (l.whole 16 "0x" n)
      | 'X' => pure (l.whole 16 "0X" n)
      | _ => pure (l.whole 10 "" n)
  else if "eEfFgG%".toList.contains letter then
    let x := Binary64.ofInt n
    if x.isFinite then l.real typeName x
    else throw (.arithmetic "int too large to convert to float")
  else badValue (unknownCode letter typeName)

/-- Lay out a text. -/
def text (l : Layout) (s : List Char) : Rendering (List Char) := do
  let refuse (what : String) : Rendering (List Char) :=
    badValue (what ++ " not allowed in string format specifier")
  let letter := l.letter.getD 's'
  if letter != 's' then badValue (unknownCode letter "str")
  else if l.sign == some ' ' then refuse "Space"
  else if l.sign.isSome then refuse "Sign"
  else if l.unsignedZero then refuse "Negative zero coercion (z)"
  else if l.alternate then refuse "Alternate form (#)"
  else if l.align == '=' then refuse "'=' alignment"
  else
    let cut := s.take (l.precision.getD s.length)
    pure (match l.align with
      | '>' => padLeft l.width l.fill cut
      | '^' => padBoth l.width l.fill cut
      | _ => padRight l.width l.fill cut)

end Layout

/-- Lay out a text or a number. -/
def layOut (written : List Char) (d : Datum) : Rendering (List Char) := do
  let layout (numeric : Bool) : Rendering Layout :=
    match Layout.read d.typeName numeric written with
    | .ok l => pure l
    | .error text => badValue text
  match d with
  | .text s _ => (← layout false).text s.toList
  | .float x => (← layout true).real d.typeName x
  | _ =>
    match d.int? with
    | some n => (← layout true).integer d.typeName n
    | none => wrongType ("unsupported format string passed to " ++ d.typeName ++ ".__format__")

end StaticSite.Template
