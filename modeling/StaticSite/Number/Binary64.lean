import StaticSite.Text.Basic

/-!
# Double precision numbers

A number of the binary64 format, kept as its bits so that equality is decidable, with its exact
value as an integer times a power of two. Reading a decimal rounds to the nearest number, a tie going
to the even significand; writing gives the fewest decimal digits that read back.

## Main definitions

* `Binary64.ofDecimal`: the number nearest to `m * 10 ^ e`.
* `Binary64.shortest`: the fewest digits that read back, the nearest of those.
* `Binary64.render`: the text of a number, positional from `1e-4` up to below `1e16`.
-/

namespace StaticSite

/-- A number of the binary64 format, by its bits. -/
structure Binary64 where
  /-- Sign, eleven bits of exponent and fifty-two bits of fraction. -/
  bits : UInt64
  deriving DecidableEq, Repr, Inhabited

namespace Binary64

/-- A power of two. -/
def twoTo (n : Nat) : Nat := Nat.pow 2 n

/-- A power of ten. -/
def tenTo (n : Nat) : Nat := Nat.pow 10 n

/-! ### Parts -/

/-- The machine number. -/
def toFloat (x : Binary64) : Float := Float.ofBits x.bits

/-- The bits of a machine number. -/
def ofFloat (x : Float) : Binary64 := ⟨x.toBits⟩

/-- The sign bit is set. -/
def isNegative (x : Binary64) : Bool := x.bits.toNat / twoTo 63 == 1

/-- The biased exponent. -/
def exponentField (x : Binary64) : Nat := x.bits.toNat / twoTo 52 % twoTo 11

/-- The fraction field. -/
def fractionField (x : Binary64) : Nat := x.bits.toNat % twoTo 52

/-- The number is finite. -/
def isFinite (x : Binary64) : Bool := x.exponentField != 2047

/-- The number is not a number. -/
def isNaN (x : Binary64) : Bool := x.exponentField == 2047 && x.fractionField != 0

/-- The number is plus or minus infinity. -/
def isInfinite (x : Binary64) : Bool := x.exponentField == 2047 && x.fractionField == 0

/-- The significand of a finite number. -/
def significand (x : Binary64) : Nat :=
  if x.exponentField == 0 then x.fractionField else x.fractionField + twoTo 52

/-- The power of two that multiplies the significand of a finite number. -/
def scale (x : Binary64) : Int :=
  if x.exponentField == 0 then -1074 else Int.ofNat x.exponentField - 1075

/-- The number is zero, of either sign. -/
def isZero (x : Binary64) : Bool := x.isFinite && x.significand == 0

/-- The number with these parts. -/
def ofFields (negative : Bool) (exponent fraction : Nat) : Binary64 :=
  ⟨UInt64.ofNat ((if negative then twoTo 63 else 0) + exponent * twoTo 52 + fraction)⟩

/-- Infinity with a sign. -/
def infinity (negative : Bool) : Binary64 := ofFields negative 2047 0

/-- The quiet number that is not a number. -/
def nan : Binary64 := ofFields false 2047 (twoTo 51)

/-! ### Reading -/

/-- Round `num / den` to an integer, a tie going to the even one. -/
def roundDiv (num den : Nat) : Nat :=
  let q := num / den
  let r := num % den
  if 2 * r < den then q
  else if den < 2 * r then q + 1
  else if q % 2 == 0 then q else q + 1

/-- A power of two as a fraction. -/
def powerFraction (e : Int) : Nat × Nat :=
  match e with
  | .ofNat n => (twoTo n, 1)
  | .negSucc n => (1, twoTo (n + 1))

/-- The number nearest to `num / den`. -/
def ofRatio (negative : Bool) (num den : Nat) : Binary64 :=
  if num == 0 then ofFields negative 0 0
  else
    let guess : Int := Int.ofNat num.log2 - Int.ofNat den.log2 - 53
    let quotient (e : Int) : Nat × Nat :=
      let (up, down) := powerFraction e
      (num * down, den * up)
    let e0 := max guess (-1074)
    let (n0, d0) := quotient e0
    let e1 := if twoTo 53 ≤ n0 / d0 then e0 + 1 else e0
    let (n1, d1) := quotient e1
    let m := roundDiv n1 d1
    let (m, e) := if m == twoTo 53 then (twoTo 52, e1 + 1) else (m, e1)
    if m < twoTo 52 then ofFields negative 0 m
    else if 2047 ≤ e + 1075 then infinity negative
    else ofFields negative (e + 1075).toNat (m - twoTo 52)

/-- The number nearest to `m * 10 ^ e`; exponents far outside the range are cut off first. -/
def ofDecimal (negative : Bool) (m : Nat) (e : Int) : Binary64 :=
  if m == 0 then ofFields negative 0 0
  else
    let size : Int := e + Int.ofNat (Nat.toDigits 10 m).length
    if 400 < size then infinity negative
    else if size < -400 then ofFields negative 0 0
    else match e with
      | .ofNat n => ofRatio negative (m * tenTo n) 1
      | .negSucc n => ofRatio negative m (tenTo (n + 1))

/-- The number nearest to an integer. -/
def ofInt (n : Int) : Binary64 := ofRatio (n < 0) n.natAbs 1

/-! ### Writing -/

/-- The decimal `c * 10 ^ p` lies in the interval of reals that round to `m * 2 ^ e`, whose ends
belong to it when `m` is even; below a power of two the interval is half as wide. -/
def rounds (m : Nat) (e : Int) (c : Nat) (p : Int) : Bool :=
  -- all quantities are multiplied by the same positive number, so that they are integers
  let (dn, dd) : Nat × Nat := match p with
    | .ofNat n => (tenTo n, 1)
    | .negSucc n => (1, tenTo (n + 1))
  let (bn, bd) := powerFraction (e - 2)
  let value := c * dn * bd
  let lowGap := if m == twoTo 52 && e != -1074 then 1 else 2
  let low := (4 * m - lowGap) * bn * dd
  let high := (4 * m + 2) * bn * dd
  if m % 2 == 0 then low ≤ value && value ≤ high else low < value && value < high

/-- The digits on one decimal grid that read back: of the two neighbours of `m * 2 ^ e` among the
multiples of `10 ^ p` the nearer one that rounds to it, an exact tie going to the even one. -/
def onGrid? (m : Nat) (e p : Int) : Option Nat :=
  let (dn, dd) : Nat × Nat := match p with
    | .ofNat n => (tenTo n, 1)
    | .negSucc n => (1, tenTo (n + 1))
  let (bn, bd) := powerFraction e
  let num := m * bn * dd
  let den := bd * dn
  let near := roundDiv num den
  let far := if near == num / den then near + 1 else near - 1
  if rounds m e near p then some near
  else if rounds m e far p then some far
  else none

/-- The decimal exponent of `m * 2 ^ e`: the least `k` with `m * 2 ^ e < 10 ^ k`, from a lower
bound on, with `fuel` steps. -/
def magnitude (num den : Nat) : Nat → Int → Int
  | 0, k => k
  | fuel + 1, k =>
    let below : Bool := match k with
      | .ofNat n => num < tenTo n * den
      | .negSucc n => num * tenTo (n + 1) < den
    if below then k else magnitude num den fuel (k + 1)

/-- Try grids of growing precision. -/
def shortestFrom (m : Nat) (e k : Int) : Nat → Nat → Nat × Int
  | 0, _ => (m, 0)
  | fuel + 1, digits =>
    match onGrid? m e (k - Int.ofNat digits) with
    | some c => (c, k - Int.ofNat digits)
    | none => shortestFrom m e k fuel (digits + 1)

/-- The fewest digits that read back as a positive finite number, with their decimal exponent. -/
def shortest (x : Binary64) : Nat × Int :=
  let m := x.significand
  let e := x.scale
  let (bn, bd) := powerFraction e
  let estimate := (Int.ofNat (m * bn).log2 - Int.ofNat bd.log2) * 3 / 10 - 3
  let k := magnitude (m * bn) bd 60 estimate
  shortestFrom m e k 17 1

/-- Drop the zeros at the end of a digit string and count them. -/
def dropZeros (digits : List Char) : List Char × Nat :=
  let kept := Text.trimEnd (· == '0') digits
  (kept, digits.length - kept.length)

/-- Digits with a point `point` places after the first digit's left edge. -/
def positional (digits : List Char) (point : Int) : List Char :=
  match point with
  | .negSucc n => '0' :: '.' :: Text.copies (n + 1) '0' ++ digits
  | .ofNat 0 => '0' :: '.' :: digits
  | .ofNat n =>
    if digits.length ≤ n then digits ++ Text.copies (n - digits.length) '0' ++ ['.', '0']
    else digits.take n ++ '.' :: digits.drop n

/-- Digits in scientific notation: one digit before the point and an exponent of two digits at
least. -/
def scientific (digits : List Char) (point : Int) : List Char :=
  let exponent := point - 1
  let mantissa := match digits with
    | [] => ['0']
    | [d] => [d]
    | d :: ds => d :: '.' :: ds
  mantissa ++ 'e' :: (if exponent < 0 then '-' else '+') :: Text.padded 10 2 exponent.natAbs

/-- The text of a number: the fewest digits that read back, positional when the value is at least
`1e-4` and below `1e16`. -/
def renderChars (x : Binary64) : List Char :=
  let sign := if x.isNegative && !x.isNaN then ['-'] else []
  if x.isNaN then "nan".toList
  else if x.isInfinite then sign ++ "inf".toList
  else if x.isZero then sign ++ "0.0".toList
  else
    let (c, p) := x.shortest
    let all := Nat.toDigits 10 c
    let point := p + Int.ofNat all.length
    let (digits, _) := dropZeros all
    sign ++ (if -4 < point && point ≤ 16 then positional digits point else scientific digits point)

/-- The text of a number as a `String`. -/
def render (x : Binary64) : String := String.ofList x.renderChars

/-! ### Integers -/

/-- The integer part of a finite number. -/
def truncate (x : Binary64) : Int :=
  let size := match x.scale with
    | .ofNat n => x.significand * twoTo n
    | .negSucc n => x.significand / twoTo (n + 1)
  if x.isNegative then -Int.ofNat size else Int.ofNat size

/-- The number is an integer. -/
def isInteger (x : Binary64) : Bool :=
  x.isFinite && match x.scale with
    | .ofNat _ => true
    | .negSucc n => x.significand % twoTo (n + 1) == 0

end Binary64

end StaticSite
