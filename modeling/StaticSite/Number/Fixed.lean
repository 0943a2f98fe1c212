import StaticSite.Number.Binary64

/-!
# Numbers with a given number of digits

The texts of a number with so many digits after the point, or with so many digits altogether. The exact
value is rounded once, a tie going to the even digit.

## Main definitions

* `Binary64.fixedChars`: digits after the point.
* `Binary64.exponentChars`: one digit before the point, with an exponent.
* `Binary64.generalChars`: so many digits altogether, in the shorter of the two forms.
* `Binary64.decimalChars`: the same, with a digit after the point.
* `Binary64.roundTo`: the number nearest to the rounded decimal.
* `Binary64.remainder`, `Binary64.floorQuotient`: division with a remainder.
-/

namespace StaticSite.Binary64

/-- The absolute value of a finite number as a fraction. -/
def fraction (x : Binary64) : Nat × Nat :=
  let (up, down) := powerFraction x.scale
  (x.significand * up, down)

/-- The sign and the text of a number that is not finite. -/
def specialChars? (x : Binary64) : Option (List Char) :=
  if x.isNaN then some "nan".toList
  else if x.isInfinite then some ((if x.isNegative then ['-'] else []) ++ "inf".toList)
  else none

/-- A minus sign for a negative number. -/
def signChars (x : Binary64) : List Char := if x.isNegative then ['-'] else []

/-- Digits with a point before the last `places` ones; a point that nothing follows is only kept on
demand. -/
def pointed (digits : Nat) (places : Nat) (keep : Bool) : List Char :=
  let all := Text.padded 10 (places + 1) digits
  let whole := all.length - places
  if places == 0 && !keep then all else all.take whole ++ '.' :: all.drop whole

/-- The text of a number with digits after the point. -/
def fixedChars (x : Binary64) (places : Nat) (keep : Bool) : List Char :=
  match x.specialChars? with
  | some s => s
  | none =>
    let (num, den) := x.fraction
    x.signChars ++ pointed (roundDiv (num * tenTo places) den) places keep

/-- A fraction times a power of ten. -/
def timesPowerOfTen (num den : Nat) : Int → Nat × Nat
  | .ofNat n => (num * tenTo n, den)
  | .negSucc n => (num, den * tenTo (n + 1))

/-- So many digits of a positive number, and the decimal exponent of the first one. -/
def digitsAndExponent (x : Binary64) (count : Nat) : Nat × Int :=
  let (num, den) := x.fraction
  if num == 0 then (0, 0)
  else
    let top := magnitude num den 700 (-330)
    let (n, d) := timesPowerOfTen num den (Int.ofNat count - top)
    let digits := roundDiv n d
    if digits == tenTo count then (tenTo (count - 1), top) else (digits, top - 1)

/-- The text of a decimal exponent. -/
def exponentPart (e : Int) : List Char :=
  'e' :: (if e < 0 then '-' else '+') :: Text.padded 10 2 e.natAbs

/-- The text of a number with one digit before the point and an exponent. -/
def exponentChars (x : Binary64) (places : Nat) (keep : Bool) : List Char :=
  match x.specialChars? with
  | some s => s
  | none =>
    let (digits, e) := x.digitsAndExponent (places + 1)
    x.signChars ++ pointed digits places keep ++ exponentPart e

/-- Drop the zeros at the end of a fraction, and the point if nothing follows it. -/
def dropFraction (s : List Char) : List Char :=
  if s.contains '.' then Text.trimEnd (· == '.') (Text.trimEnd (· == '0') s) else s

/-- The text of a number with so many digits altogether, with an exponent if it is below `1e-4` or not
below that power of ten. Zeros at the end of a fraction are only kept on demand. -/
def significantChars (x : Binary64) (count : Nat) (power : Int) (keep : Bool) : List Char :=
  match x.specialChars? with
  | some s => s
  | none =>
    let (digits, e) := x.digitsAndExponent count
    let short (s : List Char) : List Char := if keep then s else dropFraction s
    if -4 ≤ e && e < power then
      x.signChars ++ short (pointed digits (Int.ofNat count - 1 - e).toNat keep)
    else x.signChars ++ short (pointed digits (count - 1) keep) ++ exponentPart e

/-- The text of a number with so many digits altogether. -/
def generalChars (x : Binary64) (count : Nat) (keep : Bool) : List Char :=
  x.significantChars (max count 1) (Int.ofNat (max count 1)) keep

/-- The text of a number with so many digits altogether, of which one stands behind the point. -/
def decimalChars (x : Binary64) (count : Nat) (keep : Bool) : List Char :=
  let s := x.significantChars (max count 1) (Int.ofNat (max count 1) - 1) keep
  if !x.isFinite || s.contains '.' || s.contains 'e' then s else s ++ ['.', '0']

/-- The number nearest to the decimal that a number is rounded to. -/
def roundTo (x : Binary64) (places : Int) : Binary64 :=
  if !x.isFinite then x
  else
    let (num, den) := x.fraction
    let (n, d) := timesPowerOfTen num den places
    ofDecimal x.isNegative (roundDiv n d) (-places)

/-- A finite number as a fraction with a sign. -/
def signedFraction (x : Binary64) : Int × Nat :=
  let (num, den) := x.fraction
  (if x.isNegative then -Int.ofNat num else Int.ofNat num, den)

/-- The number nearest to a fraction with a sign; a zero gets the sign of `zero`. -/
def ofSigned (num : Int) (den : Nat) (zero : Binary64) : Binary64 :=
  if num == 0 then ofFields zero.isNegative 0 0 else ofRatio (num < 0) num.natAbs den

/-- What remains after dividing by `y`, with the sign of `y`. -/
def remainder (x y : Binary64) : Binary64 :=
  if !x.isFinite || y.isNaN then nan
  else if y.isInfinite then if x.isNegative == y.isNegative || x.isZero then x else y
  else
    let (a, b) := x.signedFraction
    let (c, d) := y.signedFraction
    ofSigned (Int.fmod (a * d) (c * b)) (b * d) y

/-- The quotient by `y`, rounded down. -/
def floorQuotient (x y : Binary64) : Binary64 :=
  if !x.isFinite || !y.isFinite then ofFloat (x.toFloat / y.toFloat).floor
  else
    let (a, b) := x.signedFraction
    let (c, d) := y.signedFraction
    ofSigned (Int.fdiv (a * d) (c * b)) 1 (ofFields (x.isNegative != y.isNegative) 0 0)

/-- Round down. -/
def floor (x : Binary64) : Int :=
  let (num, den) := x.signedFraction
  Int.fdiv num den

/-- Round up. -/
def ceil (x : Binary64) : Int :=
  let (num, den) := x.signedFraction
  0 - Int.fdiv (-num) den

end StaticSite.Binary64
