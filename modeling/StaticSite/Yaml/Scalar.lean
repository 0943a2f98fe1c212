import StaticSite.Number.Reading
import StaticSite.Text.Case
import StaticSite.Value.Display
import StaticSite.Yaml.Lexeme

/-!
# Scalars of settings texts

A plain scalar has the type that its form suggests: a truth value, a number, a date, nothing, or a
text if no form fits. The forms are those of YAML 1.1, where `yes` is true, `010` is eight and `1:30`
is ninety.

## Main definitions

* `implicitTag`: the tag of a plain scalar.
* `scalarValue`: the value of a scalar with a tag.
-/

namespace StaticSite.Yaml

namespace Tag

/-- The tag of a standard type. -/
def standard (name : String) : String := "tag:yaml.org,2002:" ++ name

/-- Texts. -/
def text : String := standard "str"

/-- Sequences. -/
def sequence : String := standard "seq"

/-- Mappings. -/
def mapping : String := standard "map"

end Tag

/-! ### Forms -/

/-- The truth value of a word. -/
def truthValue? (s : String) : Option Bool :=
  [("yes", true), ("no", false), ("true", true), ("false", false), ("on", true),
    ("off", false)].lookup s

/-- The word is written in one of the three usual cases: all small, capitalized, all capital. -/
def isUsualCase (s : List Char) : Bool :=
  let small := s.map Char.toLower
  s == small || s == s.map Char.toUpper ||
    s == (match small with
      | [] => []
      | c :: rest => c.toUpper :: rest)

/-- The form of a truth value. -/
def isTruthForm (s : List Char) : Bool :=
  isUsualCase s && (truthValue? (String.ofList (s.map Char.toLower))).isSome

/-- A nonempty run of a class. -/
def isRun (p : Char → Bool) (s : List Char) : Bool := !s.isEmpty && s.all p

/-- A digit or an underscore. -/
def isDigitOrLine (c : Char) : Bool := c.isDigit || c == '_'

/-- Digits with underscores, beginning with a digit of a class. -/
def isDigitRun (first : Char → Bool) : List Char → Bool
  | [] => false
  | c :: rest => first c && rest.all isDigitOrLine

/-- A part of a number in base sixty after the first one. -/
def isSixtieth : List Char → Bool
  | [a] => a.isDigit
  | [a, b] => '0' ≤ a && a ≤ '5' && b.isDigit
  | _ => false

/-- A text without its sign. -/
def unsigned (s : List Char) : List Char := (Number.splitSign s).2

/-- The form of an integer. -/
def isIntegerForm (s : List Char) : Bool :=
  let s := unsigned s
  let nonzero (c : Char) := '1' ≤ c && c ≤ '9'
  match s with
  | '0' :: 'b' :: rest => isRun (fun c => c == '0' || c == '1' || c == '_') rest
  | '0' :: 'x' :: rest => isRun (fun c => (hexValue? c).isSome || c == '_') rest
  | '0' :: rest => rest.all fun c => ('0' ≤ c && c ≤ '7') || c == '_'
  | _ =>
    match Text.splitOn ':' s with
    | [whole] => isDigitRun nonzero whole
    | first :: others => isDigitRun nonzero first && others.all isSixtieth
    | [] => false

/-- An exponent with its sign, or nothing. -/
def isExponent : List Char → Bool
  | [] => true
  | e :: sign :: rest => (e == 'e' || e == 'E') && (sign == '-' || sign == '+') && isRun Char.isDigit rest
  | _ => false

/-- The form of a decimal. -/
def isFloatForm (s : List Char) : Bool :=
  let body := unsigned s
  match s with
  | '.' :: 'n' :: 'a' :: 'n' :: [] => true
  | '.' :: 'N' :: 'a' :: 'N' :: [] => true
  | '.' :: 'N' :: 'A' :: 'N' :: [] => true
  | '.' :: c :: rest =>
    (c.isDigit && isExponent (rest.dropWhile isDigitOrLine)) ||
      ["inf".toList, "Inf".toList, "INF".toList].contains (c :: rest)
  | _ =>
    match body with
    | '.' :: rest => ["inf".toList, "Inf".toList, "INF".toList].contains rest
    | _ =>
      match Text.breakOn? ['.'] body with
      | none => false
      | some (whole, fraction) =>
        let isWhole := match Text.splitOn ':' whole with
          | [only] => isDigitRun Char.isDigit only && isExponent (fraction.dropWhile isDigitOrLine)
          | first :: others =>
            isDigitRun Char.isDigit first && others.all isSixtieth && fraction.all isDigitOrLine
          | [] => false
        isWhole

/-- The form of nothing. -/
def isNullForm (s : List Char) : Bool :=
  s.isEmpty || s == ['~'] || s == "null".toList || s == "Null".toList || s == "NULL".toList

/-! ### Calendar forms -/

/-- The parts of a calendar form as they are written. -/
structure CalendarForm where
  /-- The year, month and day. -/
  date : List Char × List Char × List Char
  /-- The hour, minute, second and fraction. -/
  time : Option (List Char × List Char × List Char × List Char)
  /-- The time zone. -/
  zone : Option Zone

/-- Take between one and two digits. -/
def takeOneOrTwo (s : List Char) : Option (List Char × List Char) :=
  match s with
  | a :: b :: rest =>
    if a.isDigit && b.isDigit then some ([a, b], rest)
    else if a.isDigit then some ([a], b :: rest)
    else none
  | [a] => if a.isDigit then some ([a], []) else none
  | [] => none

/-- Take exactly `n` digits. -/
def takeDigits (n : Nat) (s : List Char) : Option (List Char × List Char) :=
  let digits := s.take n
  if digits.length == n && digits.all Char.isDigit then some (digits, s.drop n) else none

/-- Take a given character. -/
def takeChar (c : Char) : List Char → Option (List Char)
  | x :: rest => if x == c then some rest else none
  | [] => none

/-- Read a time zone at the end of a calendar form. -/
def zoneForm? (s : List Char) : Option (Option Zone) := do
  match s.dropWhile fun c => c == ' ' || c == '\t' with
  | [] => if s.isEmpty then some none else none
  | ['Z'] => some (some .universal)
  | sign :: rest =>
    if sign == '+' || sign == '-' then
      let (hour, rest) ← takeOneOrTwo rest
      let minute ← match rest with
        | [] => some ['0']
        | _ => do
          let rest ← takeChar ':' rest
          let (minute, rest) ← takeDigits 2 rest
          if rest.isEmpty then some minute else none
      let minutes := Int.ofNat (60 * decimalNumber hour + decimalNumber minute)
      some (some (.offset (if sign == '-' then -minutes else minutes)))
    else none

/-- Read a calendar form. -/
def calendarForm? (s : List Char) : Option CalendarForm := do
  let (year, s) ← takeDigits 4 s
  let s ← takeChar '-' s
  let (month, s) ← takeOneOrTwo s
  let s ← takeChar '-' s
  let (day, s) ← takeOneOrTwo s
  match s with
  | [] => some ⟨(year, month, day), none, none⟩
  | c :: rest =>
    let s ←
      if c == 'T' || c == 't' then some rest
      else if c == ' ' || c == '\t' then some (rest.dropWhile fun c => c == ' ' || c == '\t')
      else none
    let (hour, s) ← takeOneOrTwo s
    let s ← takeChar ':' s
    let (minute, s) ← takeDigits 2 s
    let s ← takeChar ':' s
    let (second, s) ← takeDigits 2 s
    let (fraction, s) := match s with
      | '.' :: rest => (rest.takeWhile Char.isDigit, rest.dropWhile Char.isDigit)
      | _ => ([], s)
    let zone ← zoneForm? s
    some ⟨(year, month, day), some (hour, minute, second, fraction), zone⟩

/-- The form of a date or a point in time; a date alone has two digits for month and day. -/
def isCalendarForm (s : List Char) : Bool :=
  match calendarForm? s with
  | none => false
  | some form =>
    form.time.isSome || (form.date.2.1.length == 2 && form.date.2.2.length == 2)

/-! ### Tags -/

/-- The tag of a plain scalar. -/
def implicitTag (text : String) : String :=
  let s := text.toList
  if isNullForm s then Tag.standard "null"
  else if isTruthForm s then Tag.standard "bool"
  else if isFloatForm s then Tag.standard "float"
  else if isIntegerForm s then Tag.standard "int"
  else if s == ['<', '<'] then Tag.standard "merge"
  else if isCalendarForm s then Tag.standard "timestamp"
  else if s == ['='] then Tag.standard "value"
  else Tag.text

/-! ### Values -/

/-- A text without underscores. -/
def withoutLines (s : List Char) : List Char := s.filter (· != '_')

/-- The fault of a text that is no integer. -/
def badInteger (base : Nat) (s : List Char) : ScalarFault :=
  .badValue ("invalid literal for int() with base " ++ toString base ++ ": " ++
    String.ofList (Text.quoted s))

/-- The fault of a text that is no decimal. -/
def badFloat (s : List Char) : ScalarFault :=
  .badValue ("could not convert string to float: " ++ String.ofList (Text.quoted s))

/-- An integer in a base, or the fault it has. -/
def integerIn (base : Nat) (s : List Char) : Except ScalarFault Int :=
  match Number.readInteger? base s with
  | some n => .ok n
  | none => .error (badInteger base s)

/-- A number of parts in base sixty, the last one counting once. -/
def sixtieths : List Int → Int
  | [] => 0
  | parts => parts.foldl (fun n p => 60 * n + p) 0

/-- Read every element of a list, or report the first fault. -/
def eachOf (f : α → Except ScalarFault β) : List α → Except ScalarFault (List β)
  | [] => .ok []
  | x :: xs =>
    match f x with
    | .error e => .error e
    | .ok y =>
      match eachOf f xs with
      | .error e => .error e
      | .ok ys => .ok (y :: ys)

/-- The value of an integer scalar. -/
def integerValue (text : List Char) : Except ScalarFault Int := do
  let s := withoutLines text
  if s.isEmpty then throw (.outOfRange "string index out of range")
  let negative := s.head? == some '-'
  let body := unsigned s
  let size ←
    match body with
    | ['0'] => .ok 0
    | '0' :: 'b' :: rest => integerIn 2 rest
    | '0' :: 'x' :: rest => integerIn 16 rest
    | '0' :: _ => integerIn 8 body
    | [] => throw (.outOfRange "string index out of range")
    | _ =>
      if body.contains ':' then do
        let parts ← eachOf (integerIn 10) (Text.splitOn ':' body)
        pure (sixtieths parts)
      else integerIn 10 body
  pure (if negative then -size else size)

/-- A decimal, or the fault it has. -/
def floatIn (s : List Char) : Except ScalarFault Binary64 :=
  match Number.readFloat? s with
  | some x => .ok x
  | none => .error (badFloat s)

/-- A number with the opposite sign. -/
def negate (x : Binary64) : Binary64 :=
  if x.isNaN then x else ⟨UInt64.ofNat ((x.bits.toNat + Binary64.twoTo 63) % Binary64.twoTo 64)⟩

/-- The value of a decimal scalar. -/
def floatValue (text : List Char) : Except ScalarFault Binary64 := do
  let s := (withoutLines text).map Char.toLower
  if s.isEmpty then throw (.outOfRange "string index out of range")
  let negative := s.head? == some '-'
  let body := unsigned s
  let size ←
    if body == ".inf".toList then .ok (Binary64.infinity false)
    else if body == ".nan".toList then .ok Binary64.nan
    else if body.contains ':' then do
      let parts ← eachOf floatIn (Text.splitOn ':' body)
      let (total, _) := parts.reverse.foldl
        (fun (sum, base) part => (sum + part.toFloat * base, base * 60)) ((0 : Float), (1 : Float))
      pure (Binary64.ofFloat total)
    else floatIn body
  pure (if negative then negate size else size)

/-- The value of a truth scalar. -/
def truth (text : List Char) : Except ScalarFault Bool :=
  let small := String.ofList (Text.lower text)
  match truthValue? small with
  | some b => .ok b
  | none => .error (.missingKey (Text.quote small))

/-- The first six digits of a fraction of a second, as microseconds. -/
def microseconds (fraction : List Char) : Nat :=
  let digits := fraction.take 6
  decimalNumber (digits ++ Text.copies (6 - digits.length) '0')

/-- The value of a calendar scalar. -/
def calendarValue (text : List Char) : Except ScalarFault Value :=
  match calendarForm? text with
  | none => .error (.noAttribute "'NoneType' object has no attribute 'groupdict'")
  | some form =>
    let (year, month, day) := form.date
    let (y, m, d) := (decimalNumber year, decimalNumber month, decimalNumber day)
    match form.time with
    | none =>
      match Date.ofParts? y m d with
      | .ok date => .ok (.date date)
      | .error reason => .error (.badValue reason)
    | some (hour, minute, second, fraction) =>
      match Moment.ofParts? y m d (decimalNumber hour) (decimalNumber minute)
          (decimalNumber second) (microseconds fraction) form.zone with
      | .ok t => .ok (.moment t)
      | .error reason => .error (.badValue reason)

/-- The value of a character of the base64 alphabet. -/
def base64Value? (c : Char) : Option Nat :=
  if 'A' ≤ c && c ≤ 'Z' then some (c.toNat - 0x41)
  else if 'a' ≤ c && c ≤ 'z' then some (c.toNat - 0x61 + 26)
  else if c.isDigit then some (c.toNat - 0x30 + 52)
  else if c == '+' then some 62
  else if c == '/' then some 63
  else none

/-- Decode base64, passing over characters outside the alphabet: `held` are the values of the group
in hand in reverse, `pads` the padding characters since the last value. -/
def base64From (held : List Nat) (pads count : Nat) : List Char → Except String (List UInt8)
  | [] =>
    match held.length with
    | 0 => .ok []
    | 1 =>
      .error ("Invalid base64-encoded string: number of data characters (" ++
        toString (count / 4 * 4 + 1) ++ ") cannot be 1 more than a multiple of 4")
    | _ => .error "Incorrect padding"
  | c :: rest =>
    if c == '=' then
      if 2 ≤ held.length && 4 ≤ held.length + pads + 1 then .ok []
      else base64From held (pads + 1) count rest
    else match base64Value? c with
      | none => base64From held pads count rest
      | some v =>
        let emit (b : Nat) : Except String (List UInt8) → Except String (List UInt8)
          | .ok bs => .ok (UInt8.ofNat b :: bs)
          | .error e => .error e
        match held with
        | [] => base64From [v] 0 (count + 1) rest
        | [a] => emit (a * 4 + v / 16) (base64From [v, a] 0 (count + 1) rest)
        | [b, a] => emit (b % 16 * 16 + v / 4) (base64From [v, b, a] 0 (count + 1) rest)
        | b :: _ => emit (b % 4 * 64 + v) (base64From [] 0 (count + 1) rest)

/-- The value of a binary scalar. -/
def binaryValue (text : List Char) (m : Mark) : Except Fault Value :=
  match text.findIdx? fun c => 0x80 ≤ c.toNat with
  | some i =>
    let c := text[i]?.getD endOfText
    .error (.at .values none none
      ("failed to convert base64 data into ascii: 'ascii' codec can't encode character " ++
        Text.quote (String.singleton c) ++ " in position " ++ toString i ++
        ": ordinal not in range(128)") m)
  | none =>
    match base64From [] 0 0 text with
    | .ok bytes => .ok (.bytes bytes)
    | .error reason =>
      .error (.at .values none none ("failed to decode base64 data: " ++ reason) m)

/-- The fault of a text whose scalar has no value. -/
def asFault (r : Except ScalarFault α) : Except Fault α :=
  match r with
  | .ok a => .ok a
  | .error e => .error (.value e)

/-- The value of a scalar with a tag; nothing if no scalar has this tag. -/
def scalarValue? (tag text : String) (m : Mark) : Option (Except Fault Value) :=
  let s := text.toList
  if tag == Tag.text then some (.ok (.text text))
  else if tag == Tag.standard "null" then some (.ok .null)
  else if tag == Tag.standard "bool" then some (asFault ((truth s).map .bool))
  else if tag == Tag.standard "int" then some (asFault ((integerValue s).map .int))
  else if tag == Tag.standard "float" then some (asFault ((floatValue s).map .float))
  else if tag == Tag.standard "timestamp" then some (asFault (calendarValue s))
  else if tag == Tag.standard "binary" then some (binaryValue s m)
  else none

end StaticSite.Yaml
