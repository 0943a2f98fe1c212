import StaticSite.Template.Dialogue

/-!
# Arguments

What a function is called with, and whether that fits. The functions of objects count their arguments;
filters and tests bind theirs to parameters, of which the first is the datum itself. A call that does not
fit is complained about before anything else is looked at.

## Main definitions

* `Given`: the arguments of a call.
* `Arity`, `arityOf?`: how many arguments the functions of objects take.
* `Parameters`, `filterParameters?`, `testParameters`: what filters and tests take.
-/

namespace StaticSite.Template

/-- The arguments of a call. -/
structure Given where
  /-- By position. -/
  positional : List Datum
  /-- By name. -/
  named : List (String × Datum)

/-- The argument at a position or under a name. -/
def Given.get? (g : Given) (position : Nat) (name : String) : Option Datum :=
  (g.positional[position]?).or (g.named.lookup name)

/-- A number of things, in words. -/
def quantity (n : Nat) (thing : String) : String :=
  toString n ++ " " ++ thing ++ (if n == 1 then "" else "s")

/-! ### Functions of objects -/

/-- How many arguments a function takes. -/
inductive Arity
  /-- None. -/
  | nothing
  /-- One. -/
  | one
  /-- From so many to so many, by position only. -/
  | between (least most : Nat)
  /-- The same, in other words. -/
  | within (least most : Nat)
  /-- At most as many as there are keywords, by position or by keyword. -/
  | keyed (keywords : List String)
  /-- Only by keyword. -/
  | onlyKeyed (keywords : List String)

namespace Arity

/-- The complaint about a number of arguments that is out of bounds. -/
def outOfBounds? (name : String) (least most given : Nat) : Option String :=
  let bound := if given < least then least else most
  let word := if least == most then "" else if given < least then "at least " else "at most "
  if given < least || most < given then
    some (name ++ " expected " ++ word ++ quantity bound "argument" ++ ", got " ++ toString given)
  else none

/-- The complaint about a keyword that does not exist, or that stands for an argument by position. -/
def badKeyword? (name : String) (keywords : List String) (g : Given) : Option String :=
  let taken := keywords.take g.positional.length
  match keywords.find? (fun k => taken.contains k && g.named.any (·.1 == k)) with
  | some k =>
    some ("argument for " ++ name ++ "() given by name (" ++ Text.quote k ++ ") and position (" ++
      toString (keywords.idxOf k + 1) ++ ")")
  | none =>
    (g.named.find? fun n => !keywords.contains n.1).map fun n =>
      Text.quote n.1 ++ " is an invalid keyword argument for " ++ name ++ "()"

/-- The complaint about a call of a function of an object of a type. -/
def complaint? (type name : String) (g : Given) (a : Arity) : Option String :=
  let n := g.positional.length
  let full := type ++ "." ++ name ++ "()"
  let unnamed (rest : Option String) : Option String :=
    if g.named.isEmpty then rest else some (full ++ " takes no keyword arguments")
  let total := n + g.named.length
  match a with
  | .nothing =>
    unnamed (if n == 0 then none
      else some (full ++ " takes no arguments (" ++ toString n ++ " given)"))
  | .one =>
    unnamed (if n == 1 then none
      else some (full ++ " takes exactly one argument (" ++ toString n ++ " given)"))
  | .between least most => unnamed (outOfBounds? name least most n)
  | .within least most =>
    let complain (word : String) (bound : Nat) : Option String :=
      some (name ++ "() takes at " ++ word ++ " " ++ quantity bound "argument" ++ " (" ++ toString n ++
        " given)")
    unnamed (if n < least then complain "least" least
      else if most < n then complain "most" most
      else none)
  | .keyed keywords =>
    if keywords.length < total then
      some (name ++ "() takes at most " ++
        quantity keywords.length (if n == 0 then "keyword argument" else "argument") ++ " (" ++
        toString total ++ " given)")
    else badKeyword? name keywords g
  | .onlyKeyed keywords =>
    if keywords.length < total then
      some (name ++ "() takes at most " ++ quantity keywords.length "argument" ++ " (" ++
        toString total ++ " given)")
    else if n != 0 then some (name ++ "() takes no positional arguments")
    else badKeyword? name keywords g

end Arity

/-- The functions of texts. -/
def textArity? (name : String) : Option Arity :=
  if ["upper", "lower", "title", "capitalize", "swapcase", "casefold", "isdigit", "isalpha", "isupper",
      "islower", "isspace", "istitle", "isalnum", "isnumeric", "isdecimal", "isidentifier",
      "isprintable", "isascii"].contains name then some .nothing
  else if ["join", "zfill", "partition", "rpartition", "removeprefix", "removesuffix", "translate",
      "format_map"].contains name then some .one
  else if ["strip", "lstrip", "rstrip"].contains name then some (.between 0 1)
  else if ["center", "ljust", "rjust"].contains name then some (.between 1 2)
  else if ["find", "rfind", "index", "rindex", "count", "startswith", "endswith"].contains name then
    some (.within 1 3)
  else match name with
    | "replace" => some (.between 2 3)
    | "split" | "rsplit" => some (.keyed ["sep", "maxsplit"])
    | "splitlines" => some (.keyed ["keepends"])
    | "expandtabs" => some (.keyed ["tabsize"])
    | "encode" => some (.keyed ["encoding", "errors"])
    | _ => none

/-- How many arguments the functions of objects take, by the type of the object. -/
def arityOf? (type name : String) : Option Arity :=
  match type with
  | "str" => textArity? name
  | "list" =>
    match name with
    | "append" | "remove" | "count" | "extend" => some .one
    | "insert" => some (.between 2 2)
    | "pop" => some (.between 0 1)
    | "index" => some (.between 1 3)
    | "sort" => some (.onlyKeyed ["key", "reverse"])
    | "copy" | "clear" | "reverse" => some .nothing
    | _ => none
  | "tuple" =>
    match name with
    | "count" => some .one
    | "index" => some (.between 1 3)
    | _ => none
  | "dict" =>
    match name with
    | "get" | "setdefault" | "pop" | "fromkeys" => some (.between 1 2)
    | "keys" | "values" | "items" | "copy" | "clear" | "popitem" => some .nothing
    | _ => none
  | "set" =>
    match name with
    | "add" | "discard" | "remove" | "issubset" | "issuperset" | "isdisjoint"
    | "symmetric_difference" => some .one
    | "clear" | "copy" | "pop" => some .nothing
    | _ => none
  | "float" | "int" | "bool" => some .nothing
  | _ => none

/-! ### Filters and tests -/

/-- The parameters of a filter or a test. -/
structure Parameters where
  /-- The name of the function in complaints. -/
  function : String
  /-- The number of arguments that are passed before the datum. -/
  passed : Nat
  /-- The parameters, that of the datum first. -/
  names : List String
  /-- The number of parameters that need an argument. -/
  required : Nat

namespace Parameters

/-- Names in a row, in words. -/
def listed : List String → String
  | [] => ""
  | [a] => Text.quote a
  | [a, b] => Text.quote a ++ " and " ++ Text.quote b
  | names =>
    ", ".intercalate (names.dropLast.map Text.quote) ++ ", and " ++
      Text.quote (names.getLast?.getD "")

/-- The complaint about arguments that do not fit: an unknown or a repeated keyword comes before too many
arguments, and these come before missing ones. -/
def complaint? (s : Parameters) (g : Given) : Option String :=
  let n := g.positional.length + 1
  let isGiven (p : String) : Bool := (s.names.take n).contains p
  let call := s.function ++ "()"
  match g.named.find? fun a => !s.names.contains a.1 || isGiven a.1 with
  | some (k, _) =>
    some (if s.names.contains k then call ++ " got multiple values for argument " ++ Text.quote k
      else call ++ " got an unexpected keyword argument " ++ Text.quote k)
  | none =>
    let most := s.names.length
    let missing := ((s.names.take s.required).drop n).filter fun p =>
      !(g.named.any fun a => a.1 == p)
    if most < n then
      let all := s.passed + most
      let bounds := if s.required == most then quantity all "positional argument"
        else "from " ++ toString (s.passed + s.required) ++ " to " ++ toString all ++
          " positional arguments"
      some (call ++ " takes " ++ bounds ++ " but " ++ toString (s.passed + n) ++
        (if s.passed + n == 1 then " was given" else " were given"))
    else if missing.isEmpty then none
    else some (call ++ " missing " ++ quantity missing.length "required positional argument" ++ ": " ++
      listed missing)

end Parameters

/-- The parameters of a filter that does not take just any arguments. -/
def filterParameters? (name : String) : Option Parameters :=
  match name with
  | "attr" => some ⟨"do_attr", 1, ["obj", "name"], 2⟩
  | "batch" => some ⟨"do_batch", 0, ["value", "linecount", "fill_with"], 2⟩
  | "capitalize" | "lower" | "title" | "upper" | "wordcount" => some ⟨"do_" ++ name, 0, ["s"], 1⟩
  | "center" => some ⟨"do_center", 0, ["value", "width"], 1⟩
  | "d" | "default" => some ⟨"do_default", 0, ["value", "default_value", "boolean"], 1⟩
  | "dictsort" => some ⟨"do_dictsort", 0, ["value", "case_sensitive", "by", "reverse"], 1⟩
  | "e" | "escape" => some ⟨"escape", 0, ["s"], 1⟩
  | "filesizeformat" => some ⟨"do_filesizeformat", 0, ["value", "binary"], 1⟩
  | "first" => some ⟨"sync_do_first", 1, ["seq"], 1⟩
  | "last" => some ⟨"do_last", 1, ["seq"], 1⟩
  | "float" => some ⟨"do_float", 0, ["value", "default"], 1⟩
  | "forceescape" | "items" | "pprint" | "reverse" | "striptags" | "urlencode" =>
    some ⟨"do_" ++ name, 0, ["value"], 1⟩
  | "groupby" =>
    some ⟨"sync_do_groupby", 1, ["value", "attribute", "default", "case_sensitive"], 2⟩
  | "indent" => some ⟨"do_indent", 0, ["s", "width", "first", "blank"], 1⟩
  | "int" => some ⟨"do_int", 0, ["value", "default", "base"], 1⟩
  | "join" => some ⟨"sync_do_join", 1, ["value", "d", "attribute"], 1⟩
  | "list" => some ⟨"sync_do_list", 0, ["value"], 1⟩
  | "min" | "max" | "unique" =>
    some ⟨(if name == "unique" then "sync_do_" else "do_") ++ name, 1,
      ["value", "case_sensitive", "attribute"], 1⟩
  | "random" => some ⟨"do_random", 1, ["seq"], 1⟩
  | "replace" => some ⟨"do_replace", 1, ["s", "old", "new", "count"], 3⟩
  | "round" => some ⟨"do_round", 0, ["value", "precision", "method"], 1⟩
  | "safe" => some ⟨"do_mark_safe", 0, ["value"], 1⟩
  | "slice" => some ⟨"sync_do_slice", 0, ["value", "slices", "fill_with"], 2⟩
  | "sort" => some ⟨"do_sort", 1, ["value", "reverse", "case_sensitive", "attribute"], 1⟩
  | "string" => some ⟨"soft_str", 0, ["s"], 1⟩
  | "sum" => some ⟨"sync_do_sum", 1, ["iterable", "attribute", "start"], 1⟩
  | "tojson" => some ⟨"do_tojson", 1, ["value", "indent"], 1⟩
  | "trim" => some ⟨"do_trim", 0, ["value", "chars"], 1⟩
  | "truncate" => some ⟨"do_truncate", 1, ["s", "length", "killwords", "end", "leeway"], 1⟩
  | "urlize" =>
    some ⟨"do_urlize", 1,
      ["value", "trim_url_limit", "nofollow", "target", "rel", "extra_schemes"], 1⟩
  | "wordwrap" =>
    some ⟨"do_wordwrap", 1,
      ["s", "width", "break_long_words", "wrapstring", "break_on_hyphens"], 1⟩
  | "xmlattr" => some ⟨"do_xmlattr", 1, ["d", "autospace"], 1⟩
  | _ => none

/-- The operators that are tests, with the names of their functions. -/
def operatorTests : List (String × String) := [
  ("eq", "eq"), ("==", "eq"), ("equalto", "eq"), ("ne", "ne"), ("!=", "ne"), ("lt", "lt"), ("<", "lt"),
  ("lessthan", "lt"), ("le", "le"), ("<=", "le"), ("gt", "gt"), (">", "gt"), ("greaterthan", "gt"),
  ("ge", "ge"), (">=", "ge")]

/-- The complaint about the arguments of a filter. -/
def filterComplaint? (name : String) (g : Given) : Option String :=
  let n := g.positional.length + 1
  let builtin (function : String) : Option String :=
    if !g.named.isEmpty then some (function ++ "() takes no keyword arguments")
    else if n == 1 then none
    else some (function ++ "() takes exactly one argument (" ++ toString n ++ " given)")
  match name with
  | "abs" => builtin "abs"
  | "count" | "length" => builtin "len"
  | _ => (filterParameters? name).bind (·.complaint? g)

/-- The parameters of a test. -/
def testParameters (name : String) : Parameters :=
  match name with
  | "divisibleby" => ⟨"test_divisibleby", 0, ["value", "num"], 2⟩
  | "sameas" => ⟨"test_sameas", 0, ["value", "other"], 2⟩
  | "in" => ⟨"test_in", 0, ["value", "seq"], 2⟩
  | "filter" | "test" => ⟨"test_" ++ name, 1, ["value"], 1⟩
  | _ => ⟨"test_" ++ name, 0, ["value"], 1⟩

/-- The complaint about the arguments of a test. -/
def testComplaint? (name : String) (g : Given) : Option String :=
  let n := g.positional.length + 1
  match operatorTests.lookup name with
  | some function =>
    if !g.named.isEmpty then some ("_operator." ++ function ++ "() takes no keyword arguments")
    else Arity.outOfBounds? function 2 2 n
  | none =>
    if name == "callable" then
      if n == 1 then none
      else some ("callable() takes exactly one argument (" ++ toString n ++ " given)")
    else (testParameters name).complaint? g

/-! ### Functions of every template -/

/-- The complaint about the arguments of a function that every template has. -/
def builtinComplaint? (b : Builtin) (g : Given) : Option String :=
  match b with
  | .range => if g.named.isEmpty then none else some "range() takes no keyword arguments"
  | .joiner => Parameters.complaint? ⟨"Joiner.__init__", 0, ["self", "sep"], 1⟩ g
  | .cycler =>
    g.named.head?.map fun n =>
      "Cycler.__init__() got an unexpected keyword argument " ++ Text.quote n.1
  | _ => none

end StaticSite.Template
