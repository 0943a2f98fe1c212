import StaticSite.Template.Tree

/-!
# Names that are mentioned

A macro takes further arguments, and a body from its caller, if its body mentions the names for them;
a loop keeps track of its state if its body mentions the name of the loop.

## Main definitions

* `mentions`: a body mentions a name.
-/

namespace StaticSite.Template

mutual

/-- The expression mentions a name. -/
def Expr.mentions (name : String) : Expr → Bool
  | .literal _ => false
  | .name s => s == name
  | .tuple items => mentionsAny name items
  | .list items => mentionsAny name items
  | .dict entries => mentionsEntries name entries
  | .choice test yes no => test.mentions name || yes.mentions name || mentionsOption name no
  | .both a b => a.mentions name || b.mentions name
  | .either a b => a.mentions name || b.mentions name
  | .opposite e => e.mentions name
  | .negative e => e.mentions name
  | .positive e => e.mentions name
  | .binary _ a b => a.mentions name || b.mentions name
  | .concat items => mentionsAny name items
  | .compare e rest => e.mentions name || mentionsOperands name rest
  | .attribute e _ => e.mentions name
  | .entry e i => e.mentions name || i.mentions name
  | .slice a b c => mentionsOption name a || mentionsOption name b || mentionsOption name c
  | .call f positional named rest namedRest =>
    f.mentions name || mentionsAny name positional || mentionsNamed name named ||
      mentionsOption name rest || mentionsOption name namedRest
  | .filter e _ positional named rest namedRest =>
    e.mentions name || mentionsAny name positional || mentionsNamed name named ||
      mentionsOption name rest || mentionsOption name namedRest
  | .test e _ positional named rest namedRest =>
    e.mentions name || mentionsAny name positional || mentionsNamed name named ||
      mentionsOption name rest || mentionsOption name namedRest
  | .hole => false

/-- Some expression mentions a name. -/
def mentionsAny (name : String) : List Expr → Bool
  | [] => false
  | e :: es => e.mentions name || mentionsAny name es

/-- An expression, if there is one, mentions a name. -/
def mentionsOption (name : String) : Option Expr → Bool
  | none => false
  | some e => e.mentions name

/-- Some entry of a mapping mentions a name. -/
def mentionsEntries (name : String) : List (Expr × Expr) → Bool
  | [] => false
  | (k, v) :: es => k.mentions name || v.mentions name || mentionsEntries name es

/-- Some named argument mentions a name. -/
def mentionsNamed (name : String) : List (String × Expr) → Bool
  | [] => false
  | (_, e) :: es => e.mentions name || mentionsNamed name es

/-- Some operand mentions a name. -/
def mentionsOperands (name : String) : List (CompareOp × Expr) → Bool
  | [] => false
  | (_, e) :: es => e.mentions name || mentionsOperands name es

end

/-- The piece of an output mentions a name. -/
def Piece.mentions (name : String) : Piece → Bool
  | .data _ => false
  | .print e => e.mentions name

/-- The bindings mention a name. -/
def mentionsBindings (name : String) (bindings : List (Target × Expr)) : Bool :=
  bindings.any fun (_, e) => e.mentions name

mutual

/-- The statement mentions a name; the bodies of blocks do not count. -/
def Stmt.mentions (name : String) : Stmt → Bool
  | .output pieces => pieces.any (Piece.mentions name)
  | .loop _ source test _ body otherwise =>
    source.mentions name || mentionsOption name test || mentions name body || mentions name otherwise
  | .branch test body others otherwise =>
    test.mentions name || mentions name body || mentionsBranches name others ||
      mentions name otherwise
  | .macroDef _ s body => mentionsAny name s.defaults || mentions name body
  | .callBlock call s body =>
    call.mentions name || mentionsAny name s.defaults || mentions name body
  | .filterBlock filter body => filter.mentions name || mentions name body
  | .withBlock bindings body => mentionsBindings name bindings || mentions name body
  | .block _ _ _ _ => false
  | .extending e => e.mentions name
  | .including e _ _ => e.mentions name
  | .importAs e _ _ => e.mentions name
  | .importFrom e _ _ _ => e.mentions name
  | .assign _ e => e.mentions name
  | .assignBlock _ filter body => mentionsOption name filter || mentions name body
  | .escaping e body => e.mentions name || mentions name body

/-- The body mentions a name. -/
def mentions (name : String) : List Stmt → Bool
  | [] => false
  | s :: ss => s.mentions name || mentions name ss

/-- The bodies of a choice mention a name. -/
def mentionsBranches (name : String) : List (Expr × List Stmt) → Bool
  | [] => false
  | (e, body) :: rest => e.mentions name || mentions name body || mentionsBranches name rest

end

end StaticSite.Template
