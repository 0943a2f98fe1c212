import StaticSite.Number.Binary64

/-!
# The tree of a template

What a template says, with its precedences resolved: texts, expressions to print, and statements with
their bodies. Filters and tests are named; whether a name is known is decided later.

## Main definitions

* `Expr`, `Arguments`: expressions, and what a call is given.
* `Target`: what can be assigned to.
* `Stmt`, `Piece`: statements, and the pieces of an output.
-/

namespace StaticSite.Template

/-- An operator between two operands. -/
inductive BinaryOp
  | add
  | sub
  | mul
  | div
  | floorDiv
  | mod
  | pow
  deriving DecidableEq, Repr

/-- The spelling of an operator. -/
def BinaryOp.spelling : BinaryOp → String
  | .add => "+"
  | .sub => "-"
  | .mul => "*"
  | .div => "/"
  | .floorDiv => "//"
  | .mod => "%"
  | .pow => "** or pow()"

/-- A comparison. -/
inductive CompareOp
  | eq
  | ne
  | lt
  | le
  | gt
  | ge
  | mem
  | notMem
  deriving DecidableEq, Repr

/-- A constant of a template. -/
inductive Literal
  | none
  | bool (b : Bool)
  | int (n : Nat)
  | float (x : Binary64)
  | text (s : String)
  deriving DecidableEq, Repr

/-- An expression. -/
inductive Expr
  /-- A constant. -/
  | literal (value : Literal)
  /-- A name. -/
  | name (s : String)
  /-- A tuple. -/
  | tuple (items : List Expr)
  /-- A list. -/
  | list (items : List Expr)
  /-- A mapping. -/
  | dict (entries : List (Expr × Expr))
  /-- One of two values; the second one may be missing. -/
  | choice (test yes : Expr) (no : Option Expr)
  /-- Both, the second one only if the first one counts as true. -/
  | both (left right : Expr)
  /-- Either, the second one only if the first one does not count as true. -/
  | either (left right : Expr)
  /-- The opposite truth value. -/
  | opposite (e : Expr)
  /-- A number with the opposite sign. -/
  | negative (e : Expr)
  /-- A number with its sign. -/
  | positive (e : Expr)
  /-- An operator. -/
  | binary (op : BinaryOp) (left right : Expr)
  /-- Texts put together. -/
  | concat (items : List Expr)
  /-- A chain of comparisons. -/
  | compare (first : Expr) (rest : List (CompareOp × Expr))
  /-- An attribute of an object, or else an entry. -/
  | attribute (object : Expr) (name : String)
  /-- An entry of an object, or else an attribute. -/
  | entry (object index : Expr)
  /-- A part of a sequence; it stands as an index only. -/
  | slice (start stop step : Option Expr)
  /-- A call. -/
  | call (callee : Expr) (positional : List Expr) (named : List (String × Expr))
      (rest namedRest : Option Expr)
  /-- A value passed through a filter. -/
  | filter (input : Expr) (name : String) (positional : List Expr) (named : List (String × Expr))
      (rest namedRest : Option Expr)
  /-- A test on a value. -/
  | test (input : Expr) (name : String) (positional : List Expr) (named : List (String × Expr))
      (rest namedRest : Option Expr)
  /-- The text of the block around a filter. -/
  | hole
  deriving Inhabited

/-- What a call is given. -/
structure Arguments where
  /-- The arguments by position. -/
  positional : List Expr
  /-- The arguments by name. -/
  named : List (String × Expr)
  /-- A sequence of further arguments by position. -/
  rest : Option Expr
  /-- A mapping of further arguments by name. -/
  namedRest : Option Expr

/-- No arguments. -/
def Arguments.none : Arguments := ⟨[], [], Option.none, Option.none⟩

/-- What can be assigned to. -/
inductive Target
  /-- A name. -/
  | name (s : String)
  /-- An attribute of a namespace. -/
  | attribute (space name : String)
  /-- The elements of a sequence. -/
  | tuple (items : List Target)
  deriving Inhabited

/-- A piece of an output. -/
inductive Piece
  /-- A text. -/
  | data (s : String)
  /-- An expression to print. -/
  | print (e : Expr)
  deriving Inhabited

/-- The names of a macro's parameters, and the default values of the last ones. -/
structure Signature where
  /-- The names. -/
  params : List String
  /-- The default values of the last ones. -/
  defaults : List Expr
  deriving Inhabited

/-- A statement. -/
inductive Stmt
  /-- Text and expressions. -/
  | output (pieces : List Piece)
  /-- A loop, over those elements that pass a test if there is one. -/
  | loop (target : Target) (source : Expr) (test : Option Expr) (recursive : Bool)
      (body otherwise : List Stmt)
  /-- The first body whose condition holds, or the last one. -/
  | branch (test : Expr) (body : List Stmt) (others : List (Expr × List Stmt))
      (otherwise : List Stmt)
  /-- A macro. -/
  | macroDef (name : String) (signature : Signature) (body : List Stmt)
  /-- A call that is given a body. -/
  | callBlock (call : Expr) (signature : Signature) (body : List Stmt)
  /-- A body passed through filters. -/
  | filterBlock (filter : Expr) (body : List Stmt)
  /-- A body with names of its own. -/
  | withBlock (bindings : List (Target × Expr)) (body : List Stmt)
  /-- A block that a template further down may replace. -/
  | block (name : String) (seesScope required : Bool) (body : List Stmt)
  /-- The template that this one extends. -/
  | extending (template : Expr)
  /-- The output of another template. -/
  | including (template : Expr) (ignoreMissing withContext : Bool)
  /-- The names of another template, under one name. -/
  | importAs (template : Expr) (name : String) (withContext : Bool)
  /-- Some names of another template. -/
  | importFrom (template : Expr) (names : List (String × String)) (withContext : Bool) (line : Nat)
  /-- An assignment. -/
  | assign (target : Target) (value : Expr)
  /-- An assignment of the text of a body, which may be filtered. -/
  | assignBlock (target : Target) (filter : Option Expr) (body : List Stmt)
  /-- A body with or without escaping. -/
  | escaping (value : Expr) (body : List Stmt)
  deriving Inhabited

end StaticSite.Template
