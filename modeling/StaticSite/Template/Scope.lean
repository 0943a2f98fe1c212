import StaticSite.Template.Mention
import StaticSite.Template.Method

/-!
# Names and scopes

A name is looked up in the scopes from the innermost outward, then among what was assigned at the top of
the template, then among the names that the template was given. An assignment goes to the innermost
scope; at the top of a template it is also seen by its blocks and by the templates that it includes.

## Main definitions

* `lookupName`, `assignName`, `assign`: reading and writing names.
* `visibleNames`: what an included template sees.
* `globalNames`: the functions that every template can call.
* `localsOf`: the names for a fragment.
-/

namespace StaticSite.Template

open Rendering

/-- The functions that every template can call. -/
def globalNames : Names := fun name =>
  let table : List (String × Builtin) := [("range", .range), ("dict", .dict), ("lipsum", .lipsum),
    ("cycler", .cycler), ("joiner", .joiner), ("namespace", .namespace)]
  (table.lookup name).map fun b => .datum (.builtin b)

/-- The first variable of a name in some scopes. -/
def inScopes? (store : Store) (name : String) : List Ref → Option Datum
  | [] => none
  | r :: rs => ((store.vars r).lookup name).or (inScopes? store name rs)

/-- The list with an entry for a name. -/
def setVar (name : String) (d : Datum) (vars : List (String × Datum)) : List (String × Datum) :=
  (name, d) :: vars.filter fun (n, _) => n != name

/-- The complaint about a name without a meaning. -/
def undefinedName (name : String) : Datum := .undefined (Text.quote name ++ " is undefined")

/-- The datum of a name in a context. -/
def lookupContext (r : Ref) (name : String) : Rendering Datum := do
  let store ← get
  let c := store.context r
  match c.vars.lookup name with
  | some d => pure d
  | none =>
    match c.names name with
    | some (.datum d) => pure d
    | some (.value v) =>
      let (d, store) := store.thaw v
      set (store.put r (.context { c with vars := setVar name d c.vars }))
      pure d
    | none => pure (undefinedName name)

/-- The datum of a name. -/
def lookupName (p : Frame) (name : String) : Rendering Datum := do
  match inScopes? (← get) name p.scopes with
  | some d => pure d
  | none => if name == "self" then pure (.blocks p.context) else lookupContext p.context name

/-- A new scope inside a place. -/
def enterScope (p : Frame) (vars : List (String × Datum)) : Rendering Frame := do
  let r ← alloc (.scope vars)
  pure { p with scopes := r :: p.scopes, top := false }

/-- Assign to a name; `exported` says that an importing template may see it. -/
def assignName (p : Frame) (name : String) (d : Datum) (exported : Bool) : Rendering Unit := do
  match p.scopes with
  | r :: _ => modify fun s => s.put r (.scope (setVar name d (s.vars r)))
  | [] => pure ()
  if p.top then
    modify fun s =>
      let c := s.context p.context
      let seen := c.exported.filter (· != name)
      let seen := if exported && !name.startsWith "_" then name :: seen else seen
      s.put p.context (.context { c with vars := setVar name d c.vars, exported := seen })

/-- The complaint about a sequence of the wrong length. -/
def unpackFault (wanted given : Nat) : String :=
  if given < wanted then
    "not enough values to unpack (expected " ++ toString wanted ++ ", got " ++ toString given ++ ")"
  else "too many values to unpack (expected " ++ toString wanted ++ ")"

mutual

/-- Assign to a target. -/
def assign (p : Frame) (d : Datum) : Target → Rendering Unit
  | .name s => assignName p s d true
  | .attribute space name => do
    match (← lookupName p space) with
    | .space r => modify fun s => s.put r (.entries (storeEntry s (.text name false) d (s.entries r)))
    | _ => misuse "cannot assign attribute on non-namespace object"
  | .tuple targets => do
    d.require
    match (← elements? d) with
    | none => wrongType ("cannot unpack non-iterable " ++ d.typeName ++ " object")
    | some items =>
      if items.length == targets.length then assignAll p items targets
      else badValue (unpackFault targets.length items.length)

/-- Assign to several targets. -/
def assignAll (p : Frame) (items : List Datum) : List Target → Rendering Unit
  | [] => pure ()
  | t :: ts => do
    assign p (items.head?.getD .null) t
    assignAll p (items.drop 1) ts

end

/-- Fail for a target that is an attribute of something else than a namespace. -/
def requireSpace (p : Frame) (t : Target) : Rendering Unit := do
  match t with
  | .attribute space _ =>
    match (← lookupName p space) with
    | .space _ => pure ()
    | _ => misuse "cannot assign attribute on non-namespace object"
  | _ => pure ()

/-- The variables of some scopes as names, the innermost first. -/
def scopeNames (store : Store) (scopes : List Ref) : Names := fun name =>
  (inScopes? store name scopes).map .datum

/-- What is known in a context. -/
def contextNames (c : Context) : Names :=
  Names.orElse (Names.ofList c.vars) c.names

/-- What an included template sees. -/
def visibleNames (store : Store) (p : Frame) : Names :=
  Names.orElse (scopeNames store p.scopes) (contextNames (store.context p.context))

/-- Carry out a part and go on, also if it fails; then the store is as it was. -/
def attempt (c : Rendering α) : Rendering (Except Failure α) := fun store =>
  Dialogue.bind (c store) fun
    | .ok (a, store') => .done (.ok (.ok a, store'))
    | .error e => .done (.ok (.error e, store))

/-- The names for a fragment from a mapping, or from something that gives one. -/
def localsOf (d : Datum) : Rendering Locals := do
  let entries ← if (← d.isTruthy) then makeEntries d else pure []
  let store ← get
  let texts := (updated store [] entries).filterMap fun (k, v) => match k with
    | .text s _ => some (s, v)
    | _ => none
  let isText (k : Datum) : Bool := match k with
    | .text _ _ => true
    | _ => false
  pure ⟨Names.ofList texts, entries.all fun (k, _) => isText k⟩

end StaticSite.Template
