import StaticSite.Number.Reading
import StaticSite.Text.Letter
import StaticSite.Text.Quoted

/-!
# Tokens of templates

A template is text with comments, expressions to print and statements between braces. The text between
them is data; a hyphen at a brace drops the blanks on its side. Inside the braces a template is a
sequence of names, literals and operators, where brackets have to match.

Reading stops at the first fault; the tokens before it are still there, so that a fault is met only
by a reader that gets so far.

## Main definitions

* `Token`, `Kind`: a token and what it is.
* `Tokens`: tokens, and the fault after them if there is one.
* `tokens`: the tokens of a template.
-/

namespace StaticSite.Template

/-- What a token is. -/
inductive Kind
  | data (s : String)
  | printBegin
  | printEnd
  | blockBegin
  | blockEnd
  | name (s : String)
  | string (s : String)
  | integer (n : Nat)
  | float (x : Binary64)
  | operator (s : String)
  | eof
  deriving DecidableEq, Repr

/-- A token with its line. -/
structure Token where
  /-- What it is. -/
  kind : Kind
  /-- Its line, counted from one. -/
  line : Nat
  deriving DecidableEq, Repr

/-- Tokens, and what is wrong after them. -/
structure Tokens where
  /-- The tokens. -/
  list : List Token
  /-- The fault that ends them. -/
  fault : Option String
  deriving Repr

/-- The form of a kind in messages. -/
def Kind.describe : Kind → String
  | data _ => "template data / text"
  | printBegin => "begin of print statement"
  | printEnd => "end of print statement"
  | blockBegin => "begin of statement block"
  | blockEnd => "end of statement block"
  | name s => s
  | string _ => "string"
  | integer _ => "integer"
  | float _ => "float"
  | operator s => s
  | eof => "end of template"

/-- Put a token in front. -/
def Tokens.cons (t : Token) (ts : Tokens) : Tokens := { ts with list := t :: ts.list }

/-! ### Literals -/

/-- Read digits in a base, each with an underscore before it or not; the first one is already read. -/
def digitsAfter (base : Nat) : List Char → List Char × List Char
  | '_' :: c :: rest =>
    if (Number.digitValue? base c).isSome && c.toNat < 0x80 then
      let (digits, rest) := digitsAfter base rest
      (c :: digits, rest)
    else ([], '_' :: c :: rest)
  | c :: rest =>
    if (Number.digitValue? base c).isSome && c.toNat < 0x80 then
      let (digits, rest) := digitsAfter base rest
      (c :: digits, rest)
    else ([], c :: rest)
  | [] => ([], [])

/-- A run of decimal digits with underscores between groups. -/
def decimalRun? : List Char → Option (List Char × List Char)
  | c :: rest =>
    if c.isDigit then
      let (digits, rest) := digitsAfter 10 rest
      some (c :: digits, rest)
    else none
  | [] => none

/-- Read an exponent. -/
def exponent? : List Char → Option (List Char × List Char)
  | e :: rest =>
    if e == 'e' || e == 'E' then
      match rest with
      | '+' :: more => (decimalRun? more).map fun (ds, r) => ('e' :: '+' :: ds, r)
      | '-' :: more => (decimalRun? more).map fun (ds, r) => ('e' :: '-' :: ds, r)
      | _ => (decimalRun? rest).map fun (ds, r) => ('e' :: ds, r)
    else none
  | [] => none

/-- A decimal at the beginning of a text. -/
def floatAt? (s : List Char) : Option (List Char × List Char) := do
  let (whole, rest) ← decimalRun? s
  let fraction := match rest with
    | '.' :: more => (decimalRun? more).map fun (ds, r) => ('.' :: ds, r)
    | _ => none
  match fraction with
  | some (digits, rest) =>
    match exponent? rest with
    | some (e, rest) => some (whole ++ digits ++ e, rest)
    | none => some (whole ++ digits, rest)
  | none =>
    let (e, rest) ← exponent? rest
    some (whole ++ e, rest)

/-- An integer at the beginning of a text. -/
def integerAt? (s : List Char) : Option (Nat × List Char) :=
  let based (base : Nat) (rest : List Char) : Option (Nat × List Char) :=
    match digitsAfter base rest with
    | ([], _) => none
    | (digits, rest) => some ((Number.readDigits? base false 0 digits).getD 0, rest)
  let plain : Option (Nat × List Char) :=
    match s with
    | '0' :: rest =>
      let zeros := (rest.takeWhile fun c => c == '0' || c == '_')
      let kept := (Text.trimEnd (· == '_') zeros).length
      some (0, rest.drop kept)
    | c :: rest =>
      if '1' ≤ c && c ≤ '9' then
        let (digits, rest) := digitsAfter 10 rest
        some ((Number.readDigits? 10 false 0 (c :: digits)).getD 0, rest)
      else none
    | [] => none
  match s with
  | '0' :: b :: rest =>
    let base := match b.toLower with
      | 'b' => 2
      | 'o' => 8
      | 'x' => 16
      | _ => 0
    if base == 0 then plain
    else match based base rest with
      | some r => some r
      | none => plain
  | _ => plain

/-- The characters of a string literal up to its closing quote, with the escapes as they are. -/
def stringBody? (quote : Char) : List Char → Option (List Char × List Char)
  | [] => none
  | '\\' :: c :: rest => (stringBody? quote rest).map fun (s, r) => ('\\' :: c :: s, r)
  | c :: rest =>
    if c == quote then some ([], rest)
    else (stringBody? quote rest).map fun (s, r) => (c :: s, r)

/-- The number with these hexadecimal digits, if they are `n` digits. -/
def hexDigits? (n : Nat) (s : List Char) : Option Nat :=
  let digits := s.take n
  if digits.length == n then Number.readDigits? 16 false 0 digits else none

/-- Carry out the escapes of a string literal, passing over the next `skip` characters. -/
def unescapeFrom : Nat → List Char → Except String (List Char)
  | _, [] => .ok []
  | skip + 1, _ :: rest => unescapeFrom skip rest
  | 0, '\\' :: c :: rest =>
    let simple := [('n', '\n'), ('t', '\t'), ('r', '\r'), ('\\', '\\'), ('\'', '\''), ('"', '"'),
      ('a', Char.ofNat 7), ('b', Char.ofNat 8), ('f', Char.ofNat 12), ('v', Char.ofNat 11)].lookup c
    let numeric := [('x', (2, "truncated \\xXX escape")), ('u', (4, "truncated \\uXXXX escape")),
      ('U', (8, "truncated \\UXXXXXXXX escape"))].lookup c
    match simple, numeric with
    | some x, _ => (unescapeFrom 1 (c :: rest)).map (x :: ·)
    | none, some (n, fault) =>
      match hexDigits? n rest with
      | some code =>
        if code < 0x110000 then (unescapeFrom (n + 1) (c :: rest)).map (Char.ofNat code :: ·)
        else .error "illegal Unicode character"
      | none => .error fault
    | none, none =>
      if c == '\n' then unescapeFrom 1 (c :: rest)
      else if '0' ≤ c && c ≤ '7' then
        let digits := (c :: rest.take 2).takeWhile fun d => '0' ≤ d && d ≤ '7'
        let code := (Number.readDigits? 8 false 0 digits).getD 0
        (unescapeFrom digits.length (c :: rest)).map (Char.ofNat code :: ·)
      else (unescapeFrom 1 (c :: rest)).map fun s => '\\' :: c :: s
  | 0, c :: rest => (unescapeFrom 0 rest).map (c :: ·)

/-- A word may serve as a name. -/
def isIdentifier : List Char → Bool
  | [] => false
  | c :: rest =>
    (Text.isLetter c || c == '_') &&
      rest.all fun d => Text.isLetter d || Text.isDecimal d || d == '_'

/-- The operators, the longer ones first. -/
def operators : List String :=
  ["//", "**", "==", "!=", ">=", "<=", "+", "-", "/", "*", "%", "~", "[", "]", "(", ")", "\x7b",
    "\x7d", ">", "<", "=", ".", ":", "|", ",", ";"]

/-- The operator at the beginning of a text. -/
def operatorAt? (s : List Char) : Option (String × List Char) :=
  operators.findSome? fun op => (Text.stripStart? op.toList s).map fun rest => (op, rest)

/-! ### Inside the braces -/

/-- The closing bracket of an opening one. -/
def closingOf? (op : String) : Option String :=
  [("\x7b", "\x7d"), ("(", ")"), ("[", "]")].lookup op

/-- The number of line feeds. -/
def lineFeeds (s : List Char) : Nat := s.count '\n'

/-- Where reading goes on in a template. -/
structure Position where
  /-- The characters that remain. -/
  rest : List Char
  /-- The number of characters read. -/
  index : Nat
  /-- The current line. -/
  line : Nat

/-- The position after moving on to `rest`. -/
def Position.moveTo (p : Position) (rest : List Char) : Position :=
  let count := p.rest.length - rest.length
  ⟨rest, p.index + count, p.line + lineFeeds (p.rest.take count)⟩

/-- The end of an expression or a statement at the beginning of a text: what follows it, and nothing
else if brackets are open. -/
def closingBrace? (close : List Char) (s : List Char) : Option (List Char) :=
  match s with
  | '-' :: rest => (Text.stripStart? close rest).map fun r => r.dropWhile Text.isBlank
  | '+' :: rest => if close == ['%', '}'] then Text.stripStart? close rest else none
  | _ => Text.stripStart? close s

/-- The tokens up to the end of an expression or a statement, and what follows. `open` holds the
closing brackets that are still to come, and `dotted` says that a dot was read last. -/
def insideFrom (close : List Char) (endKind : Kind) (opened : List String) (dotted : Bool) :
    Nat → Position → List Token × Except String (Option Position)
  | 0, _ => ([], .ok none)
  | fuel + 1, p =>
    let continue' (t : Token) (opened : List String) (dotted : Bool) (rest : List Char) :=
      let (ts, r) := insideFrom close endKind opened dotted fuel (p.moveTo rest)
      (t :: ts, r)
    match p.rest with
    | [] => ([], .ok none)
    | c :: rest =>
      match (if opened.isEmpty then closingBrace? close p.rest else none) with
      | some after => ([⟨endKind, p.line⟩], .ok (some (p.moveTo after)))
      | none =>
        if Text.isBlank c then
          insideFrom close endKind opened dotted fuel (p.moveTo (rest.dropWhile Text.isBlank))
        else
          match (if dotted then none else floatAt? p.rest) with
          | some (digits, after) =>
            let x := (Number.readFloat? (digits.filter (· != '_'))).getD Binary64.nan
            continue' ⟨.float x, p.line⟩ opened false after
          | none =>
            match integerAt? p.rest with
            | some (n, after) => continue' ⟨.integer n, p.line⟩ opened false after
            | none =>
              if Text.isWord c then
                let word := p.rest.takeWhile Text.isWord
                if isIdentifier word then
                  continue' ⟨.name (String.ofList word), p.line⟩ opened false
                    (p.rest.dropWhile Text.isWord)
                else ([], .error "Invalid character in identifier")
              else
                let literal := if c == '\'' || c == '"' then stringBody? c rest else none
                match literal with
                | some (body, after) =>
                  match unescapeFrom 0 body with
                  | .ok s => continue' ⟨.string (String.ofList s), p.line⟩ opened false after
                  | .error fault => ([], .error fault)
                | none =>
                  match operatorAt? p.rest with
                  | none =>
                    ([], .error ("unexpected char " ++ Text.quote (String.singleton c) ++ " at " ++
                      toString p.index))
                  | some (op, after) =>
                    let t : Token := ⟨.operator op, p.line⟩
                    match closingOf? op with
                    | some closing => continue' t (closing :: opened) false after
                    | none =>
                      if op == ")" || op == "]" || op == "\x7d" then
                        match opened with
                        | [] => ([], .error ("unexpected '" ++ op ++ "'"))
                        | expected :: others =>
                          if expected == op then continue' t others false after
                          else
                            ([], .error ("unexpected '" ++ op ++ "', expected '" ++ expected ++ "'"))
                      else continue' t opened (op == ".") after

/-! ### Between the braces -/

/-- What begins at a brace. -/
inductive Opening
  | print
  | block
  | comment
  | raw
  deriving DecidableEq

/-- A sign after an opening brace: whether blanks before it are dropped, and what follows. -/
def openingSign : List Char → Bool × List Char
  | '-' :: rest => (true, rest)
  | '+' :: rest => (false, rest)
  | rest => (false, rest)

/-- The statement `word` alone between the braces of a block, at what follows the opening brace. -/
def loneWord? (word : String) (s : List Char) : Option (List Char) := do
  let rest ← Text.stripStart? word.toList (s.dropWhile Text.isBlank)
  let rest := rest.dropWhile Text.isBlank
  match rest with
  | '-' :: '%' :: '}' :: after => some (after.dropWhile Text.isBlank)
  | '+' :: '%' :: '}' :: after => if word == "endraw" then some after else none
  | '%' :: '}' :: after => some after
  | _ => none

/-- What begins at the beginning of a text: whether blanks before it are dropped, and what follows. -/
def openingAt? : List Char → Option (Opening × Bool × List Char)
  | '{' :: '{' :: rest =>
    let (strip, after) := openingSign rest
    some (.print, strip, after)
  | '{' :: '%' :: rest =>
    let (strip, after) := openingSign rest
    match loneWord? "raw" after with
    | some inner => some (.raw, strip, inner)
    | none => some (.block, strip, after)
  | '{' :: '#' :: rest =>
    let (strip, after) := openingSign rest
    some (.comment, strip, after)
  | _ => none

/-- The data before the first opening brace, and the opening with what follows. -/
def splitData : List Char → List Char × Option (Opening × Bool × List Char)
  | [] => ([], none)
  | c :: rest =>
    match openingAt? (c :: rest) with
    | some o => ([], some o)
    | none =>
      let (data, o) := splitData rest
      (c :: data, o)

/-- What follows a comment. -/
def afterComment? : List Char → Option (List Char)
  | [] => none
  | '-' :: '#' :: '}' :: rest => some (rest.dropWhile Text.isBlank)
  | '#' :: '}' :: rest => some rest
  | _ :: rest => afterComment? rest

/-- The data of a raw section, and what follows it. -/
def rawSection? : List Char → Option (List Char × List Char)
  | [] => none
  | c :: rest =>
    let ending := match c :: rest with
      | '{' :: '%' :: more =>
        let (strip, after) := openingSign more
        (loneWord? "endraw" after).map fun r => (strip, r)
      | _ => none
    match ending with
    | some (true, after) => some ([], ' ' :: after)
    | some (false, after) => some ([], 'x' :: after)
    | none => (rawSection? rest).map fun (data, after) => (c :: data, after)

/-- A data token, unless it would be empty. -/
def dataTokens (data : List Char) (line : Nat) : List Token :=
  if data.isEmpty then [] else [⟨.data (String.ofList data), line⟩]

/-- The tokens of a template from a position between braces on. -/
def tokensFrom : Nat → Position → Tokens
  | 0, p => ⟨[⟨.eof, p.line⟩], none⟩
  | fuel + 1, p =>
    let (data, opening) := splitData p.rest
    match opening with
    | none => ⟨dataTokens data p.line ++ [⟨.eof, p.line + lineFeeds data⟩], none⟩
    | some (what, strip, after) =>
      let kept := if strip then Text.trimEnd Text.isBlank data else data
      let before := dataTokens kept p.line
      let q := p.moveTo after
      let follow (tokens : List Token) (rest : Tokens) : Tokens :=
        ⟨before ++ tokens ++ rest.list, rest.fault⟩
      match what with
      | .comment =>
        match afterComment? after with
        | none => ⟨before, some "Missing end of comment tag"⟩
        | some rest => follow [] (tokensFrom fuel (q.moveTo rest))
      | .raw =>
        match rawSection? after with
        | none => ⟨before, some "Missing end of raw directive"⟩
        | some (inner, marked) =>
          let inner' := if marked.head? == some ' ' then Text.trimEnd Text.isBlank inner else inner
          follow (dataTokens inner' q.line) (tokensFrom fuel (q.moveTo (marked.drop 1)))
      | .print =>
        match insideFrom ['}', '}'] .printEnd [] false (after.length + 1) q with
        | (ts, .error fault) => follow (⟨.printBegin, q.line⟩ :: ts) ⟨[], some fault⟩
        | (ts, .ok none) => follow (⟨.printBegin, q.line⟩ :: ts) ⟨[⟨.eof, q.line⟩], none⟩
        | (ts, .ok (some next)) => follow (⟨.printBegin, q.line⟩ :: ts) (tokensFrom fuel next)
      | .block =>
        match insideFrom ['%', '}'] .blockEnd [] false (after.length + 1) q with
        | (ts, .error fault) => follow (⟨.blockBegin, q.line⟩ :: ts) ⟨[], some fault⟩
        | (ts, .ok none) => follow (⟨.blockBegin, q.line⟩ :: ts) ⟨[⟨.eof, q.line⟩], none⟩
        | (ts, .ok (some next)) => follow (⟨.blockBegin, q.line⟩ :: ts) (tokensFrom fuel next)

/-- A source with unified line endings and without a line ending at its end. -/
def normalizeSource (source : List Char) : List Char :=
  let s := Text.unifyNewlines source
  (Text.stripEnd? ['\n'] s).getD s

/-- The tokens of a template. -/
def tokens (source : String) : Tokens :=
  let s := normalizeSource source.toList
  tokensFrom (s.length + 1) ⟨s, 0, 1⟩

end StaticSite.Template
