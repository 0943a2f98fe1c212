import StaticSite.Failure
import StaticSite.Template.Token

/-!
# Reading tokens

A reader of a template sees one token and may look at the next one. It also remembers which statements
are open and with which words they may end, because the message about a misplaced word names them.

## Main definitions

* `Reader`, `Reading`: the state of a reader, and its actions.
* `advance`, `accept`, `expect`: moving on, if a token is there or because it has to be.
-/

namespace StaticSite.Template

/-- The state of a reader. -/
structure Reader where
  /-- The tokens that remain; the first one is the current one. -/
  tokens : List Token
  /-- What is wrong after them. -/
  fault : Option String
  /-- The words of the open statements, the innermost first. -/
  opened : List String
  /-- The words that may end the open bodies, the innermost first. -/
  endings : List (List String)

/-- Actions of a reader. -/
abbrev Reading := StateT Reader (Except Failure)

namespace Reading

/-- Stop with a message. -/
def fail (message : String) : Reading α := throw (.template .grammar message)

/-- The current token. -/
def current : Reading Token := do
  pure ((← get).tokens.head?.getD ⟨.eof, 1⟩)

/-- What the current token is. -/
def kind : Reading Kind := do
  pure (← current).kind

/-- What the next token is. -/
def nextKind : Reading Kind := do
  let r ← get
  match r.tokens with
  | _ :: t :: _ => pure t.kind
  | [t] => match r.fault with
    | some message => if t.kind == .eof then pure .eof else fail message
    | none => pure .eof
  | [] => pure .eof

/-- Move on to the next token; the last one stays. -/
def advance : Reading Token := do
  let r ← get
  match r.tokens with
  | [] => pure ⟨.eof, 1⟩
  | t :: rest =>
    if t.kind == .eof then pure t
    else match rest, r.fault with
      | [], some message => fail message
      | _, _ =>
        set { r with tokens := rest }
        pure t

/-- The current token is a word. -/
def atWord (word : String) : Reading Bool := do
  pure ((← kind) == .name word)

/-- The current token is an operator. -/
def atOperator (op : String) : Reading Bool := do
  pure ((← kind) == .operator op)

/-- Pass over a token if it is there. -/
def accept (k : Kind) : Reading Bool := do
  if (← kind) == k then
    let _ ← advance
    pure true
  else pure false

/-- Pass over a word if it is there. -/
def acceptWord (word : String) : Reading Bool := accept (.name word)

/-- The complaint about a missing token. -/
def complainOf (wanted : String) : Reading α := do
  let k ← kind
  if k == .eof then fail ("unexpected end of template, expected '" ++ wanted ++ "'.")
  else fail ("expected token '" ++ wanted ++ "', got " ++ Text.quote k.describe)

/-- Pass over a token that has to be there. -/
def expect (k : Kind) : Reading Token := do
  if (← kind) == k then advance else complainOf k.describe

/-- Pass over an operator that has to be there. -/
def expectOperator (op : String) : Reading Unit := do
  let _ ← expect (.operator op)

/-- Pass over a word that has to be there. -/
def expectWord (word : String) : Reading Unit := do
  let _ ← expect (.name word)

/-- Pass over a name, which has to be there. -/
def expectName : Reading String := do
  match (← kind) with
  | .name s =>
    let _ ← advance
    pure s
  | _ => complainOf "name"

/-- Names with dots between them. -/
def dottedName (count : Nat) : Reading String := do
  let first ← expectName
  let rec more : Nat → String → Reading String
    | 0, s => pure s
    | fuel + 1, s => do
      if (← accept (.operator ".")) then more fuel (s ++ "." ++ (← expectName))
      else pure s
  more count first

/-- The number of tokens that remain, which bounds every repetition. -/
def remaining : Reading Nat := do
  pure (← get).tokens.length

/-- The list of words of a message. -/
def orList (words : List String) : String := String.intercalate " or " (words.map Text.quote)

/-- The complaint about a word that is no statement here, or about the end of the template. -/
def complainOfEnd (name : Option String) : Reading α := do
  let r ← get
  let looking := (r.endings.head?.map orList).getD ""
  let start := match name with
    | none => "Unexpected end of template."
    | some n => "Encountered unknown tag " ++ Text.quote n ++ "."
  let expected := r.endings.flatMap id
  let middle :=
    if looking.isEmpty then ""
    else if (name.map expected.contains).getD false then
      " You probably made a nesting mistake. Jinja is expecting this tag, but currently looking for " ++
        looking ++ "."
    else " Jinja was looking for the following tags: " ++ looking ++ "."
  let ending := match r.opened with
    | [] => ""
    | t :: _ => " The innermost block that needs to be closed is " ++ Text.quote t ++ "."
  fail (start ++ middle ++ ending)

end Reading

end StaticSite.Template
