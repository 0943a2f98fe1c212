/-!
# Texts as lists of characters

The rules of this library are stated on `List Char`, where a cut is a pattern match and a search is
a recursion on the list; `String` is the form of texts at rest. This module holds the operations
that the other modules share.

## Main definitions

* `stripStart?`, `stripEnd?`: what remains beside a known beginning or ending.
* `splitOn`, `join`: cutting at a character and putting a separator between pieces; `join` undoes
  `splitOn`.
* `replaceAll`: every occurrence of a text, from the left and without overlap.
* `breakOn?`: the parts before and after the first occurrence of a text.
* `trimStart`, `trimEnd`, `trim`: ends without the characters of a class.
-/

namespace StaticSite.Text

/-- The characters of a space in the sense of Unicode, with the separators of the control block. -/
def isBlank (c : Char) : Bool :=
  let n := c.toNat
  (0x09 ≤ n && n ≤ 0x0d) || (0x1c ≤ n && n ≤ 0x20) || n == 0x85 || n == 0xa0 || n == 0x1680 ||
    (0x2000 ≤ n && n ≤ 0x200a) || n == 0x2028 || n == 0x2029 || n == 0x202f || n == 0x205f ||
    n == 0x3000

/-! ### Beginnings and endings -/

/-- The rest of a text after a known beginning. -/
def stripStart? : List Char → List Char → Option (List Char)
  | [], s => some s
  | _ :: _, [] => none
  | a :: p, b :: s => if a == b then stripStart? p s else none

/-- The text before a known ending. -/
def stripEnd? (ending s : List Char) : Option (List Char) :=
  (stripStart? ending.reverse s.reverse).map List.reverse

/-- The text begins with `p`. -/
def startsWith (p s : List Char) : Bool := p.isPrefixOf s

/-- The text ends with `p`. -/
def endsWith (p s : List Char) : Bool := p.reverse.isPrefixOf s.reverse

/-- The text without the characters of a class at its end. -/
def trimEnd (p : Char → Bool) (s : List Char) : List Char := (s.reverse.dropWhile p).reverse

/-- The text without the characters of a class at its beginning. -/
def trimStart (p : Char → Bool) (s : List Char) : List Char := s.dropWhile p

/-- The text without the characters of a class at either end. -/
def trim (p : Char → Bool) (s : List Char) : List Char := trimEnd p (trimStart p s)

/-! ### Cutting and joining -/

/-- Cut a text at every occurrence of a character; there is always one piece more than cuts. -/
def splitOn (sep : Char) : List Char → List (List Char)
  | [] => [[]]
  | c :: cs =>
    if c == sep then [] :: splitOn sep cs
    else match splitOn sep cs with
      | [] => [[c]]
      | piece :: pieces => (c :: piece) :: pieces

/-- Put a separator between neighbouring pieces. -/
def join (sep : List Char) : List (List Char) → List Char
  | [] => []
  | [piece] => piece
  | piece :: pieces => piece ++ sep ++ join sep pieces

/-- The parts before and after the first occurrence of a text. -/
def breakOn? (mark : List Char) : List Char → Option (List Char × List Char)
  | [] => if mark.isEmpty then some ([], []) else none
  | c :: cs =>
    match stripStart? mark (c :: cs) with
    | some rest => some ([], rest)
    | none => (breakOn? mark cs).map fun (before, after) => (c :: before, after)

/-- The text occurs somewhere. -/
def contains (mark s : List Char) : Bool := (breakOn? mark s).isSome

/-- Scan a text for `old`, passing over the next `skip` characters first: each occurrence gives
`new` and is passed over as a whole. -/
def replaceFrom (old new : List Char) : Nat → List Char → List Char
  | _, [] => []
  | skip + 1, _ :: cs => replaceFrom old new skip cs
  | 0, c :: cs =>
    if old.isPrefixOf (c :: cs) then new ++ replaceFrom old new (old.length - 1) cs
    else c :: replaceFrom old new 0 cs

/-- Replace every occurrence of `old`, from the left and without overlap; an empty `old` occurs
around every character. -/
def replaceAll (old new s : List Char) : List Char :=
  if old.isEmpty then new ++ s.flatMap fun c => c :: new
  else replaceFrom old new 0 s

/-- Cut a text at every occurrence of a mark, passing over the next `skip` characters first. -/
def splitOnTextFrom (mark : List Char) : Nat → List Char → List (List Char)
  | _, [] => [[]]
  | skip + 1, _ :: cs => splitOnTextFrom mark skip cs
  | 0, c :: cs =>
    if mark.isPrefixOf (c :: cs) then [] :: splitOnTextFrom mark (mark.length - 1) cs
    else match splitOnTextFrom mark 0 cs with
      | [] => [[c]]
      | piece :: pieces => (c :: piece) :: pieces

/-- Cut a text at every occurrence of a nonempty mark. -/
def splitOnText (mark s : List Char) : List (List Char) := splitOnTextFrom mark 0 s

/-- The maximal runs without a blank. -/
def words (s : List Char) : List (List Char) :=
  (s.splitBy fun a b => isBlank a == isBlank b).filter fun piece => !(piece.any isBlank)

/-- The number of occurrences of a nonempty text, from the left and without overlap. -/
def occurrences (mark s : List Char) : Nat := (splitOnText mark s).length - 1

/-! ### Lines -/

/-- Read the line endings `\r\n` and `\r` as `\n`. -/
def unifyNewlines : List Char → List Char
  | [] => []
  | '\r' :: '\n' :: rest => '\n' :: unifyNewlines rest
  | '\r' :: rest => '\n' :: unifyNewlines rest
  | c :: rest => c :: unifyNewlines rest

/-- The character ends a line in the wide sense: the vertical controls and the separators too. -/
def isLineBreak (c : Char) : Bool :=
  let n := c.toNat
  (0x0a ≤ n && n ≤ 0x0d) || (0x1c ≤ n && n ≤ 0x1e) || n == 0x85 || n == 0x2028 || n == 0x2029

/-- The lines of a text in the wide sense, each with its ending; nothing follows the last ending. -/
def linesWithEndings : List Char → List (List Char)
  | [] => []
  | '\r' :: '\n' :: rest => ['\r', '\n'] :: linesWithEndings rest
  | c :: rest =>
    if isLineBreak c then [c] :: linesWithEndings rest
    else match linesWithEndings rest with
      | [] => [[c]]
      | line :: lines => (c :: line) :: lines

/-- The lines of a text in the wide sense, without their endings. -/
def lines (s : List Char) : List (List Char) :=
  (linesWithEndings s).map fun line => line.filter fun c => !isLineBreak c

/-! ### Building -/

/-- `n` copies of a character. -/
def copies (n : Nat) (c : Char) : List Char := List.replicate n c

/-- The decimal digits of a number. -/
def ofNat (n : Nat) : List Char := Nat.toDigits 10 n

/-- The decimal digits of a number after its sign. -/
def ofInt : Int → List Char
  | .ofNat n => ofNat n
  | .negSucc n => '-' :: ofNat (n + 1)

/-- A number in at least `width` digits of a base, filled with zeros. -/
def padded (base width n : Nat) : List Char :=
  let digits := Nat.toDigits base n
  copies (width - digits.length) '0' ++ digits

/-- Insert into a sorted list, after the elements that are not greater. -/
def insertSorted (before : α → α → Bool) (x : α) : List α → List α
  | [] => [x]
  | y :: ys => if before x y then x :: y :: ys else y :: insertSorted before x ys

/-- Sort by insertion, keeping the order of elements that compare equal; `before` is strict. -/
def sortBy (before : α → α → Bool) (xs : List α) : List α :=
  xs.foldl (fun sorted x => insertSorted before x sorted) []

end StaticSite.Text
