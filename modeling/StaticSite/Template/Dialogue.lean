import StaticSite.Template.Datum

/-!
# What a rendering asks for

A rendering works on its own store. All that it needs from the site around it are two questions: the
compiled form of a fragment, and the source of another template. A rendering is a dialogue of these
questions, so that whatever it does depends on the site only through the answers.

## Main definitions

* `Dialogue`: a computation that asks.
* `Dialogue.run`: the computation, given the answers.
* `Rendering`: dialogues that work on a store and may fail.
-/

namespace StaticSite.Template

/-- The names that a fragment is given. -/
structure Locals where
  /-- What they stand for. -/
  names : Names
  /-- Every key is a text. -/
  regular : Bool

/-- No names. -/
def Locals.none : Locals := ⟨Names.none, true⟩

/-- A computation that asks the site around it. -/
inductive Dialogue (α : Type)
  /-- It has ended. -/
  | done (a : α)
  /-- It asks for the compiled form of a fragment, which may work on the same store. -/
  | fragment (reference : Except Failure String) (locals : Except Failure Locals) (store : Store)
      (next : Except Failure (String × Store) → Dialogue α)
  /-- It asks for the source of a template. -/
  | source (name : String) (next : Except Failure String → Dialogue α)

namespace Dialogue

/-- Go on with the result. -/
def bind : Dialogue α → (α → Dialogue β) → Dialogue β
  | done a, f => f a
  | fragment reference locals store next, f =>
    fragment reference locals store fun answer => bind (next answer) f
  | source name next, f => source name fun answer => bind (next answer) f

instance : Monad Dialogue where
  pure := done
  bind := bind

/-- Carry out a dialogue in a monad that has the answers. -/
def run {m : Type → Type} [Monad m]
    (onFragment : Except Failure String → Except Failure Locals → Store →
      m (Except Failure (String × Store)))
    (onSource : String → m (Except Failure String)) : Dialogue α → m α
  | done a => pure a
  | fragment reference locals store next => do
    let answer ← onFragment reference locals store
    run onFragment onSource (next answer)
  | source name next => do
    let answer ← onSource name
    run onFragment onSource (next answer)

end Dialogue

/-- Dialogues that work on a store and may fail. -/
abbrev Rendering := StateT Store (ExceptT Failure Dialogue)

namespace Rendering

/-- A result that may be a failure. -/
def ofExcept : Except Failure α → Rendering α
  | .ok a => pure a
  | .error e => throw e

/-- The compiled form of a fragment. -/
def fragment (reference : Except Failure String) (locals : Except Failure Locals) :
    Rendering String :=
  fun store => .fragment reference locals store fun
    | .ok answer => .done (.ok answer)
    | .error e => .done (.error e)

/-- The source of a template. -/
def source (name : String) : Rendering String :=
  fun store => .source name fun
    | .ok text => .done (.ok (text, store))
    | .error e => .done (.error e)

/-- A new cell. -/
def alloc (c : Cell) : Rendering Ref :=
  modifyGet fun s => s.alloc c

/-- Change a cell. -/
def put (r : Ref) (c : Cell) : Rendering Unit :=
  modify fun s => s.put r c

/-- A new list. -/
def newList (xs : List Datum) : Rendering Datum := do
  pure (.list (← alloc (.items xs)))

/-- A new mapping. -/
def newDict (es : List (Datum × Datum)) : Rendering Datum := do
  pure (.dict (← alloc (.entries es)))

/-- A new sequence that can be gone through once. -/
def newStream (kind : String) (xs : List Datum) : Rendering Datum := do
  pure (.stream (← alloc (.stream kind xs none)))

/-- Fail for the type of a value. -/
def wrongType (message : String) : Rendering α := throw (.wrongType message)

/-- Fail for a value. -/
def badValue (message : String) : Rendering α := throw (.badValue message)

/-- Fail because there is nothing. -/
def undefinedUse (message : String) : Rendering α := throw (.template .undefined message)

/-- Fail for a misuse of templates. -/
def misuse (message : String) : Rendering α := throw (.template .usage message)

end Rendering

end StaticSite.Template
