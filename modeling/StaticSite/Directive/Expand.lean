import StaticSite.Directive.Token
import StaticSite.Value.Display
import StaticSite.Value.Field

/-!
# Expanding directives

The two stages that a rendered text goes through. The include stage asks for the fragment of every
include directive, in order and each occurrence on its own, and puts the answers in place; the
answers are not read again. The variable stage replaces the variables whose name begins with `this.`
by the texts of the settings they name and leaves everything else alone.

## Main definitions

* `expandIncludes`: the include stage, in any monad in which fragments are asked for.
* `fillVariables`: the variable stage.
-/

namespace StaticSite.Directive

/-- The beginning of the names that stand for settings. -/
def settingsMark : List Char := ['t', 'h', 'i', 's', '.']

/-- Replace include directives by the answers, from left to right. -/
def expandTokens {m : Type → Type} [Monad m] (ask : List Char → m (List Char)) :
    List Token → m (List Char)
  | [] => pure []
  | token :: tokens => do
    let piece ← match token.kind with
      | .include => ask token.value
      | _ => pure token.raw
    let rest ← expandTokens ask tokens
    pure (piece ++ rest)

/-- The include stage of a text. -/
def expandIncludes {m : Type → Type} [Monad m] (ask : List Char → m (List Char))
    (s : List Char) : m (List Char) :=
  expandTokens ask (tokenize s)

/-- The dotted path that a token asks for, if it is a settings variable. -/
def settingsPath? (token : Token) : Option (List Char) :=
  match token.kind with
  | .variable => Text.stripStart? settingsMark token.value
  | _ => none

/-- The text of the setting at the end of a dotted path. -/
def settingText (data : Value) (path : List Char) : Except FieldError (List Char) :=
  match data.field (String.ofList path) with
  | .error e => .error e
  | .ok v =>
    match v.shown with
    | .ok text => .ok text
    | .error reason => .error (.unshown reason)

/-- Replace settings variables by their texts; the first one without a text fails. -/
def fillTokens (data : Value) : List Token → Except FieldError (List Char)
  | [] => .ok []
  | token :: tokens =>
    match settingsPath? token with
    | none =>
      match fillTokens data tokens with
      | .ok rest => .ok (token.raw ++ rest)
      | .error e => .error e
    | some path =>
      match settingText data path with
      | .error e => .error e
      | .ok text =>
        match fillTokens data tokens with
        | .ok rest => .ok (text ++ rest)
        | .error e => .error e

/-- The variable stage of a text. -/
def fillVariables (data : Value) (s : List Char) : Except FieldError (List Char) :=
  fillTokens data (tokenize s)

end StaticSite.Directive
