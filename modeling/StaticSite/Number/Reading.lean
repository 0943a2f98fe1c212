import StaticSite.Number.Binary64
import StaticSite.Text.Digit

/-!
# Numbers in texts

Reading a whole text as a number. Blanks around the number are passed over, a sign may stand before
it, and single underscores may stand between digits; digits of every script count.

## Main definitions

* `readInteger?`: an integer in a base up to sixteen.
* `readFloat?`: a decimal, an infinity or a number that is none.
-/

namespace StaticSite.Number

/-- The value of a digit in a base up to sixteen. -/
def digitValue? (base : Nat) (c : Char) : Option Nat :=
  let value := match Text.decimalValue? c with
    | some v => some v
    | none =>
      if 'a' ≤ c && c ≤ 'f' then some (c.toNat - 0x57)
      else if 'A' ≤ c && c ≤ 'F' then some (c.toNat - 0x37)
      else none
  value.filter (· < base)

/-- Read digits with single underscores between them; `digit` says that a digit stands before. -/
def readDigits? (base : Nat) (digit : Bool) (value : Nat) : List Char → Option Nat
  | [] => if digit then some value else none
  | '_' :: rest => if digit then readDigits? base false value rest else none
  | c :: rest =>
    match digitValue? base c with
    | some v => readDigits? base true (base * value + v) rest
    | none => none

/-- Split a sign off a text. -/
def splitSign : List Char → Bool × List Char
  | '-' :: rest => (true, rest)
  | '+' :: rest => (false, rest)
  | rest => (false, rest)

/-- Read a text as an integer. -/
def readInteger? (base : Nat) (s : List Char) : Option Int :=
  let (negative, digits) := splitSign (Text.trim Text.isBlank s)
  (readDigits? base false 0 digits).map fun n =>
    if negative then -Int.ofNat n else Int.ofNat n

/-- The digits of a text without its underscores, if each of them stands between two digits. -/
def plainDigits? (previous : Bool) : List Char → Option (List Char)
  | [] => some []
  | '_' :: rest =>
    match rest with
    | next :: _ =>
      if previous && (Text.decimalValue? next).isSome then plainDigits? false rest else none
    | [] => none
  | c :: rest =>
    (plainDigits? (Text.decimalValue? c).isSome rest).map fun others =>
      ((Text.decimalValue? c).map fun v => Char.ofNat (0x30 + v)).getD c :: others

/-- Read the exponent of a decimal. -/
def readExponent? : List Char → Option Int
  | [] => some 0
  | c :: rest =>
    if c == 'e' || c == 'E' then
      let (negative, digits) := splitSign rest
      if digits.all Char.isDigit && !digits.isEmpty then
        (readDigits? 10 false 0 digits).map fun n =>
          if negative then -Int.ofNat n else Int.ofNat n
      else none
    else none

/-- Read a decimal without a sign. -/
def readDecimal? (negative : Bool) (s : List Char) : Option Binary64 := do
  let whole := s.takeWhile Char.isDigit
  let afterWhole := s.dropWhile Char.isDigit
  let (fraction, tail) := match afterWhole with
    | '.' :: rest => (rest.takeWhile Char.isDigit, rest.dropWhile Char.isDigit)
    | rest => ([], rest)
  if whole.isEmpty && fraction.isEmpty then none
  else
    let exponent ← readExponent? tail
    let digits ← readDigits? 10 true 0 (whole ++ fraction)
    some (Binary64.ofDecimal negative digits (exponent - Int.ofNat fraction.length))

/-- Read a text as a number of the binary64 format. -/
def readFloat? (s : List Char) : Option Binary64 := do
  let chars ← plainDigits? false (Text.trim Text.isBlank s)
  let (negative, body) := splitSign chars
  let small := body.map Char.toLower
  if small == "inf".toList || small == "infinity".toList then some (Binary64.infinity negative)
  else if small == "nan".toList then some Binary64.nan
  else readDecimal? negative body

end StaticSite.Number
