import StaticSite.Failure
import StaticSite.Template.Tree
import StaticSite.Value.Display

/-!
# Data of a running template

A template computes with the values of the settings and with more: texts that are marked as safe markup,
ranges, macros, the names of a scope. Whatever can change while the template runs lives in a cell of the
store and is passed around by reference, so that a change is seen by everyone who has the reference.

## Main definitions

* `Datum`: a datum; references point into a `Store` of `Cell`s.
* `Names`: what names stand for from the beginning.
* `Store.thaw`, `Store.freeze`: a value of the settings as a datum, with cells for its collections, and
  the way back.
-/

namespace StaticSite.Template

/-- A reference to a cell. -/
abbrev Ref := Nat

/-- A function that every template can call. -/
inductive Builtin
  | range
  | dict
  | lipsum
  | cycler
  | joiner
  | namespace
  | include
  deriving DecidableEq, Repr

/-- The part of a mapping that a view shows. -/
inductive DictPart
  | keys
  | values
  | items
  deriving DecidableEq, Repr

/-- A datum. -/
inductive Datum
  | null
  | bool (b : Bool)
  | int (n : Int)
  | float (x : Binary64)
  /-- A text, which may be safe markup. -/
  | text (s : String) (safe : Bool)
  | bytes (bs : List UInt8)
  | date (d : Date)
  | moment (t : Moment)
  | tuple (items : List Datum)
  /-- The numbers from `start` on in steps of `step`, up to `stop` and without it. -/
  | range (start stop step : Int)
  /-- Nothing, with the complaint about its use. -/
  | undefined (message : String)
  /-- Nothing where nothing may be, with the complaint about any use but printing. -/
  | absent (message : String)
  | list (r : Ref)
  | dict (r : Ref)
  | set (r : Ref)
  /-- An object whose attributes can be assigned to. -/
  | space (r : Ref)
  /-- The state of a loop. -/
  | loop (r : Ref)
  /-- A cycle of items. -/
  | cycler (r : Ref)
  /-- A separator that is left out the first time. -/
  | joiner (r : Ref)
  /-- A sequence that can be gone through once. -/
  | stream (r : Ref)
  /-- The names and the output of an imported template. -/
  | module (r : Ref)
  | macroAt (r : Ref)
  /-- A part of a mapping. -/
  | view (part : DictPart) (r : Ref)
  /-- A function of an object. -/
  | method (self : Datum) (name : String)
  | builtin (b : Builtin)
  /-- A block of a context, at a depth of its chain of definitions. -/
  | block (name : String) (context : Ref) (depth : Nat)
  /-- The blocks of a context. -/
  | blocks (context : Ref)
  deriving Inhabited

/-- What a name stands for from the beginning: a datum, or a value that becomes one when it is used. -/
inductive Slot
  | datum (d : Datum)
  | value (v : Value)
  deriving Inhabited

/-- What names stand for. -/
abbrev Names := String → Option Slot

/-- No names. -/
def Names.none : Names := fun _ => Option.none

/-- The names of one mapping, and of another one where the first one has nothing. -/
def Names.orElse (first second : Names) : Names := fun s => (first s).or (second s)

/-- The names of a list. -/
def Names.ofList (entries : List (String × Datum)) : Names :=
  fun s => (entries.lookup s).map .datum

/-- One definition of a block. -/
structure BlockBody where
  /-- The template that defines it. -/
  template : String
  /-- It only stands for a definition in a template further down. -/
  required : Bool
  /-- Its body. -/
  body : List Stmt
  deriving Inhabited

/-- What the parts of one rendering share. -/
structure Context where
  /-- What names stand for from the beginning. -/
  names : Names
  /-- What was assigned at the top of the template. -/
  vars : List (String × Datum)
  /-- The names that an importing template may see. -/
  exported : List String
  /-- The definitions of blocks, the one furthest down first. -/
  blocks : List (String × List BlockBody)
  /-- The body that is rendered after the current one. -/
  extended : Option (String × List Stmt)

instance : Inhabited Context := ⟨⟨Names.none, [], [], [], Option.none⟩⟩

/-- Where a part of a template runs. -/
structure Frame where
  /-- The name of the template. -/
  template : String
  /-- The context. -/
  context : Ref
  /-- The scopes, the innermost first. -/
  scopes : List Ref
  /-- No scope but the outermost is open. -/
  top : Bool
  /-- Output is dropped once the template extends another one. -/
  guarded : Bool
  /-- Output is escaped. -/
  escaping : Bool
  /-- The text that `hole` stands for. -/
  hole : String
  deriving Inhabited

/-- A macro with the place where it was defined. -/
structure Macro where
  /-- Its name, if it has one. -/
  name : Option String
  /-- Its parameters. -/
  signature : Signature
  /-- Its body. -/
  body : List Stmt
  /-- It takes further arguments by position. -/
  takesRest : Bool
  /-- It takes further arguments by name. -/
  takesNamed : Bool
  /-- It takes a body from its caller. -/
  takesCaller : Bool
  /-- The place of its definition. -/
  frame : Frame
  deriving Inhabited

/-- What a recursive loop needs to run again. -/
structure LoopBody where
  target : Target
  test : Option Expr
  body : List Stmt
  otherwise : List Stmt
  frame : Frame
  deriving Inhabited

/-- The state of a loop. -/
structure Loop where
  /-- The items. -/
  items : List Datum
  /-- The index of the current item. -/
  index : Nat
  /-- The number of loops around this one by recursion. -/
  depth : Nat
  /-- The loop itself, if it is recursive. -/
  again : Option LoopBody
  /-- What `changed` was last called with. -/
  last : Option Datum
  deriving Inhabited

/-- The content of a cell. -/
inductive Cell
  /-- The elements of a list or a set. -/
  | items (xs : List Datum)
  /-- The entries of a mapping or a namespace. -/
  | entries (es : List (Datum × Datum))
  /-- The variables of a scope. -/
  | scope (vars : List (String × Datum))
  | context (c : Context)
  | macroBody (m : Macro)
  | loop (l : Loop)
  /-- The items of a cycle and the current one. -/
  | cycle (items : List Datum) (index : Nat)
  /-- A separator, and whether it was asked for. -/
  | separator (text : Datum) (used : Bool)
  /-- What a sequence still holds, and what goes wrong after it. -/
  | stream (kind : String) (rest : List Datum) (fault : Option Failure)
  /-- A module: its name, its output and its names. -/
  | module (name output : String) (vars : List (String × Datum))
  deriving Inhabited

/-- The cells of everything that can change. -/
abbrev Store := Array Cell

namespace Store

/-- The content of a cell. -/
def cell (s : Store) (r : Ref) : Cell := s[r]?.getD (.items [])

/-- The elements of a list or a set. -/
def items (s : Store) (r : Ref) : List Datum :=
  match s.cell r with
  | .items xs => xs
  | _ => []

/-- The entries of a mapping. -/
def entries (s : Store) (r : Ref) : List (Datum × Datum) :=
  match s.cell r with
  | .entries es => es
  | _ => []

/-- The variables of a scope. -/
def vars (s : Store) (r : Ref) : List (String × Datum) :=
  match s.cell r with
  | .scope vs => vs
  | _ => []

/-- A context. -/
def context (s : Store) (r : Ref) : Context :=
  match s.cell r with
  | .context c => c
  | _ => default

/-- The store with a new content in a cell. -/
def put (s : Store) (r : Ref) (c : Cell) : Store := s.setIfInBounds r c

/-- The store with one more cell, and the reference to it. -/
def alloc (s : Store) (c : Cell) : Ref × Store := (s.size, s.push c)

mutual

/-- A value of the settings as a datum, with cells for its collections. -/
def thaw (s : Store) : Value → Datum × Store
  | .null => (.null, s)
  | .bool b => (.bool b, s)
  | .int n => (.int n, s)
  | .float x => (.float x, s)
  | .text t => (.text t false, s)
  | .bytes bs => (.bytes bs, s)
  | .date d => (.date d, s)
  | .moment t => (.moment t, s)
  | .list xs =>
    let (ds, s) := thawItems s xs
    let (r, s) := s.alloc (.items ds)
    (.list r, s)
  | .tuple xs =>
    let (ds, s) := thawItems s xs
    (.tuple ds, s)
  | .set xs =>
    let (ds, s) := thawItems s xs
    let (r, s) := s.alloc (.items ds)
    (.set r, s)
  | .dict es =>
    let (ds, s) := thawEntries s es
    let (r, s) := s.alloc (.entries ds)
    (.dict r, s)

/-- Values as data. -/
def thawItems (s : Store) : List Value → List Datum × Store
  | [] => ([], s)
  | x :: xs =>
    let (d, s) := thaw s x
    let (ds, s) := thawItems s xs
    (d :: ds, s)

/-- Entries as entries of data. -/
def thawEntries (s : Store) : List (Value × Value) → List (Datum × Datum) × Store
  | [] => ([], s)
  | (k, v) :: es =>
    let (k, s) := thaw s k
    let (v, s) := thaw s v
    let (es, s) := thawEntries s es
    ((k, v) :: es, s)

end

/-- A datum as a value of the settings, up to a depth; what is no such value is null. -/
def freezeAt (s : Store) : Nat → Datum → Value
  | 0, _ => .null
  | fuel + 1, d =>
    match d with
    | .bool b => .bool b
    | .int n => .int n
    | .float x => .float x
    | .text t _ => .text t
    | .bytes bs => .bytes bs
    | .date d => .date d
    | .moment t => .moment t
    | .list r => .list ((s.items r).map (freezeAt s fuel))
    | .tuple items => .tuple (items.map (freezeAt s fuel))
    | .set r => .set ((s.items r).map (freezeAt s fuel))
    | .dict r => .dict ((s.entries r).map fun (k, v) => (freezeAt s fuel k, freezeAt s fuel v))
    | _ => .null

/-- A datum as a value of the settings. -/
def freeze (s : Store) (d : Datum) : Value := freezeAt s 100 d

end Store

end StaticSite.Template
