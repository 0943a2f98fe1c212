import StaticSite.Text.Basic

/-!
# Globs

A glob is a text with wildcards that is matched against a whole path: `*` stands for any characters,
slashes included, `?` for one character and a bracket for one character of a set. A bracket that is
not closed is literal. Beside the glob itself the variant without its `**/` parts is tried, so that
such a part may match no directory.

## Main definitions

* `Piece`, `parse`: a glob as a list of pieces.
* `matchPieces`: the pieces against a text.
* `accepts`: a glob with its variant against a path.
* `literalPart`: the part of a glob before its first wildcard.
-/

namespace StaticSite.Glob

/-- One piece of a glob. -/
inductive Piece
  /-- Any characters. -/
  | many
  /-- One character. -/
  | one
  /-- This character. -/
  | exactly (c : Char)
  /-- One character inside the ranges, or outside them if `negated`. -/
  | range (negated : Bool) (ranges : List (Char × Char))
  deriving DecidableEq, Repr

/-- A character of a bracket: literal, or the hyphen between the ends of a range. -/
inductive Mark
  | plain (c : Char)
  | hyphen
  deriving DecidableEq

/-! ### Brackets -/

/-- The text of a bracket up to its closing one, and what follows; a closing bracket that stands
first, or right after the negation, belongs to the set. -/
def bracket? (s : List Char) : Option (List Char × List Char) :=
  let (bang, s) := match s with
    | '!' :: rest => (['!'], rest)
    | _ => ([], s)
  let (first, s) := match s with
    | ']' :: rest => ([']'], rest)
    | _ => ([], s)
  let inner := s.takeWhile (· != ']')
  match s.dropWhile (· != ']') with
  | [] => none
  | _ :: rest => some (bang ++ first ++ inner, rest)

/-- Cut the text of a bracket at the hyphens that make ranges: one counts only if at least one
character stands before it since the bracket began, and two since the last hyphen that counted.
`seen` is the reversed piece in hand, `wait` the number of characters that must come first. -/
def chunksFrom (seen : List Char) : Nat → List Char → List (List Char)
  | _, [] => [seen.reverse]
  | 0, '-' :: rest => seen.reverse :: chunksFrom [] 2 rest
  | wait, c :: rest => chunksFrom (c :: seen) (wait - 1) rest

/-- The chunks of a bracket between its range hyphens; a hyphen at the end is literal. -/
def chunks (s : List Char) : List (List Char) :=
  let wait := if s.head? == some '!' then 2 else 1
  let pieces := chunksFrom [] wait s
  match pieces.reverse with
  | [] :: last :: before => ((last ++ ['-']) :: before).reverse
  | _ => pieces

/-- Drop the ranges that run backwards, from the right. -/
def dropEmptyRanges : List (List Char) → List (List Char)
  | [] => []
  | first :: rest =>
    match dropEmptyRanges rest with
    | [] => [first]
    | second :: others =>
      match first.getLast?, second.head? with
      | some a, some b =>
        if b < a then (first.dropLast ++ second.drop 1) :: others else first :: second :: others
      | _, _ => first :: second :: others

/-- The marks of a bracket. -/
def marks (s : List Char) : List Mark :=
  if s.contains '-' then
    ((dropEmptyRanges (chunks s)).map fun chunk => chunk.map Mark.plain).intersperse [Mark.hyphen]
      |>.flatten
  else s.map Mark.plain

/-- Read marks as ranges. -/
def rangesOf : List Mark → List (Char × Char)
  | .plain a :: .hyphen :: .plain b :: rest => (a, b) :: rangesOf rest
  | .plain a :: rest => (a, a) :: rangesOf rest
  | .hyphen :: rest => ('-', '-') :: rangesOf rest
  | [] => []

/-- The piece that a bracket stands for. -/
def Piece.ofBracket (s : List Char) : Piece :=
  match marks s with
  | .plain '!' :: rest => .range true (rangesOf rest)
  | all => .range false (rangesOf all)

/-! ### Parsing and matching -/

/-- The pieces of a glob, passing over the next `skip` characters, which a bracket has used. -/
def parseFrom : Nat → List Char → List Piece
  | _, [] => []
  | skip + 1, _ :: rest => parseFrom skip rest
  | 0, c :: rest =>
    if c == '*' then .many :: parseFrom 0 rest
    else if c == '?' then .one :: parseFrom 0 rest
    else if c == '[' then
      match bracket? rest with
      | some (inner, after) => Piece.ofBracket inner :: parseFrom (rest.length - after.length) rest
      | none => .exactly c :: parseFrom 0 rest
    else .exactly c :: parseFrom 0 rest

/-- The pieces of a glob. -/
def parse (glob : List Char) : List Piece := parseFrom 0 glob

/-- The character belongs to one of the ranges. -/
def inRanges (ranges : List (Char × Char)) (c : Char) : Bool :=
  ranges.any fun (a, b) => a ≤ c && c ≤ b

/-- A text and all its endings. -/
def endings : List Char → List (List Char)
  | [] => [[]]
  | c :: cs => (c :: cs) :: endings cs

/-- The pieces match the whole text. -/
def matchPieces : List Piece → List Char → Bool
  | [], s => s.isEmpty
  | .many :: ps, s => (endings s).any (matchPieces ps)
  | .one :: ps, s =>
    match s with
    | [] => false
    | _ :: cs => matchPieces ps cs
  | .exactly a :: ps, s =>
    match s with
    | [] => false
    | c :: cs => c == a && matchPieces ps cs
  | .range negated ranges :: ps, s =>
    match s with
    | [] => false
    | c :: cs => (inRanges ranges c != negated) && matchPieces ps cs

/-- The glob matches the whole path. -/
def matchesPath (glob path : List Char) : Bool := matchPieces (parse glob) path

/-- The part of a glob that may match no directory. -/
def anyDirectory : List Char := ['*', '*', '/']

/-- The glob, or the glob without its `**/` parts, matches the whole path. -/
def accepts (glob path : List Char) : Bool :=
  matchesPath glob path || matchesPath (Text.replaceAll anyDirectory [] glob) path

/-- The character is a wildcard. -/
def isWildcard (c : Char) : Bool := c == '*' || c == '?' || c == '['

/-- The part of a glob before its first wildcard. -/
def literalPart (glob : List Char) : List Char := glob.takeWhile fun c => !isWildcard c

end StaticSite.Glob
