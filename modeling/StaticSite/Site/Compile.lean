import StaticSite.Directive.Expand
import StaticSite.Html.Prettify
import StaticSite.Markdown.Render
import StaticSite.Site.World
import StaticSite.Template.Interpreter

/-!
# Compiling sources

A source is compiled by its dialect: templates are rendered, markdown is converted and its directives
expanded, anything else is taken as it is. A source may include fragments, which are compiled in turn;
the includes around a compilation are counted. A failing source is reported and compiles to nothing,
so that whoever includes it goes on without it. Only includes that never end bring down the whole
chain, and then the outermost compilation reports them.

## Main definitions

* `Dialect`, `Dialect.ofExtension`: the kinds of sources.
* `compileWith`: a source, given how fragments are resolved.
* `resolveWith`, `resolveAt`, `resolve`: the fragment behind a reference, with a budget of nested
  includes.
* `compile`: a source as a whole.
-/

namespace StaticSite

open Template (Locals Names Slot Store)

/-- A kind of source. -/
inductive Dialect
  | template
  | markdown
  /-- Anything that is taken as it is. -/
  | plain
  /-- No kind in particular, which compiles nothing. -/
  | abstract
  deriving DecidableEq, Repr

namespace Dialect

/-- The name of a dialect. -/
def name : Dialect → String
  | template => "j2"
  | markdown => "md"
  | plain => "default"
  | abstract => ""

/-- The dialect of an extension, if one is registered for it. -/
def ofExtension? (extension : String) : Option Dialect :=
  let bare := String.ofList (extension.toList.dropWhile (· == '.'))
  if bare == "j2" then some template else if bare == "md" then some markdown else none

end Dialect

/-- How the fragment behind a reference is found. -/
abbrev Resolver := Except Failure String → Except Failure Locals → Store → Compiling (String × Store)

/-! ### Templates -/

/-- The names that a page is given: the settings win over locals, and `include` and `this` over both. -/
def pageNames (settings : Template.Datum) (entries : List (Template.Datum × Template.Datum))
    (locals : Names) : Names := fun name =>
  if name == "include" then some (.datum (.builtin .include))
  else if name == "this" then some (.datum settings)
  else
    let own := entries.find? fun (k, _) => match k with
      | .text s _ => s == name
      | _ => false
    match own with
    | some (_, v) => some (.datum v)
    | none => locals name

/-- Every key is a text. -/
def textKeys (entries : List (Template.Datum × Template.Datum)) : Bool :=
  entries.all fun (k, _) => match k with
    | .text _ _ => true
    | _ => false

/-- The pieces of the name of a template; nothing if it leads upward. -/
def templatePieces? (name : String) : Option (List String) :=
  let pieces := (Text.splitOn '/' name.toList).map String.ofList
  if pieces.contains ".." then none
  else some (pieces.filter fun p => !p.isEmpty && p != ".")

/-- The source of a template below the source directory. -/
def templateSource (d : Disk) (source name : String) : Except Failure String :=
  match templatePieces? name with
  | none => .error (.template .notFound name)
  | some pieces =>
    let path := pieces.foldl Path.join source
    if d.isFile path then d.readText path
    else
      .error (.template .notFound
        (Text.quote name ++ " not found in search path: " ++ Text.quote source))

/-- Carry out a rendering with the answers of a site. -/
def runRendering (site : Site) (source : String) (resolver : Resolver)
    (rendering : Template.Rendering α) (store : Store) : Compiling (α × Store) := do
  let answered ← Template.Dialogue.run
    (fun reference locals store => Compiling.attempt (resolver reference locals store))
    (fun name => pure (templateSource site.disk source name))
    (rendering store).run
  Compiling.ofExcept answered

/-- The value of a setting in the store. -/
def settingIn (store : Store) (settings : Template.Datum) (key : String) : Value :=
  match settings with
  | .dict r =>
    match Template.findEntry store (.text key false) (store.entries r) with
    | some d => store.freeze d
    | none => .null
  | _ => .null

/-- The entries of the settings in the store. -/
def entriesIn (store : Store) (settings : Template.Datum) :
    List (Template.Datum × Template.Datum) :=
  match settings with
  | .dict r => store.entries r
  | _ => []

/-- Beautify a text if the settings say so. -/
def beautifyBy (setting : Value) (text : String) : Except Failure String :=
  if setting.isTruthy then Html.prettify setting text else .ok text

/-- Render a template. -/
def renderTemplate (site : Site) (resolver : Resolver) (path : String)
    (locals : Except Failure Locals) (store : Store) : Compiling (String × Store) := do
  let text ← Compiling.ofExcept (site.disk.readText path)
  let opts ← Compiling.ofExcept (options site.disk site.configDir)
  let given ← Compiling.ofExcept locals
  let (settings, store) := store.thaw opts.config
  let entries := entriesIn store settings
  let name := Path.relative site.disk.cwd path opts.source
  let rendering := Template.render name text (pageNames settings entries given.names)
    (given.regular && textKeys entries)
  let (output, store) ← runRendering site opts.source resolver rendering store
  let output ← Compiling.ofExcept (beautifyBy (settingIn store settings "beautify") output)
  pure (output, store)

/-! ### Markdown -/

/-- Convert markdown, and expand the directives in the result. -/
def renderMarkdown (site : Site) (resolver : Resolver) (path : String) (store : Store) :
    Compiling (String × Store) := do
  let text ← Compiling.ofExcept (site.disk.readText path)
  let opts ← Compiling.ofExcept (options site.disk site.configDir)
  let converted ← Compiling.ofExcept
    (Markdown.render ((opts.setting? "markdown").getD .null) text)
  let ask (reference : List Char) : Compiling (List Char) := do
    let (fragment, _) ← resolver (.ok (String.ofList reference)) (.ok .none) #[]
    pure fragment.toList
  let included ← Directive.expandIncludes ask converted.toList
  match Directive.fillVariables opts.config included with
  | .ok s => pure (String.ofList s, store)
  | .error e => throw (.field e)

/-! ### All dialects -/

/-- The detail under a reported failure. -/
def failureDetail : String := "<traceback>"

/-- Carry out a compilation; a failure is reported and gives nothing. Endless includes are passed on
unless no include is around the compilation. -/
def guarded (title path : String) (body : Compiling (String × Store)) (store : Store) :
    Compiling (Option String × Store) := do
  match (← Compiling.attempt body) with
  | .ok (text, store) => pure (some text, store)
  | .error .tooDeep =>
    if (← get).including != 0 then throw .tooDeep
    else
      Compiling.report (.failure (title ++ ": includes recurse too deeply") path "")
      pure (none, store)
  | .error e =>
    Compiling.report (.failure (title ++ ": " ++ e.message) path failureDetail)
    pure (none, store)

/-- The beginning of the report about a source of a dialect. -/
def Dialect.title : Dialect → String
  | template => "Template failed (compile.j2)"
  | markdown => "Markdown failed (compile.md)"
  | _ => "Read failed (compile.default)"

/-- Take a file as it is. A file that cannot be opened is reported and gives nothing. -/
def readPlain (site : Site) (path : String) : Compiling (Option String) := do
  if !site.disk.holds path then pure (some "")
  else
    match site.disk.readText path with
    | .ok text => pure (some text)
    | .error e =>
      if e.isFile then
        Compiling.report (.failure (Dialect.plain.title ++ ": " ++ e.message) path "")
        pure none
      else throw e

/-- Compile a source: nothing if it fails, the empty text if it is not there. -/
def compileWith (site : Site) (resolver : Resolver) (dialect : Dialect) (path : String)
    (locals : Except Failure Locals) (store : Store) : Compiling (Option String × Store) := do
  match dialect with
  | .abstract => throw .abstract
  | .plain => pure (← readPlain site path, store)
  | .template =>
    if !site.disk.holds path then pure (some "", store)
    else guarded dialect.title path (renderTemplate site resolver path locals store) store
  | .markdown =>
    if !site.disk.holds path then pure (some "", store)
    else guarded dialect.title path (renderMarkdown site resolver path store) store

/-! ### Includes -/

/-- Count one include more while a compilation runs, also if it fails. -/
def counted (body : Compiling α) : Compiling α := fun t =>
  match body { t with including := t.including + 1 } with
  | (r, t') => (r, { t' with including := t'.including - 1 })

/-- The notice about a fragment without a dialect. -/
def plainNotice (extension : String) : Message :=
  .notice (Style.info ++ " Include: no handler exists for " ++ Style.extension extension ++
    " files. Rendering as is.")

/-- A reference with its extension; without one it refers to a template. -/
def withExtension (ext reference : String) : String × String :=
  let extension := Path.extension reference
  if extension.isEmpty then (reference ++ ext, ext) else (reference, extension)

/-- The path of a reference below the source directory. -/
def referencePath (source reference : String) : String :=
  Path.join source (String.ofList (reference.toList.dropWhile (· == '/')))

/-- The dialect of an extension. A fragment without one is taken as it is, and that is reported. -/
def dialectFor (extension : String) : Compiling Dialect :=
  match Dialect.ofExtension? extension with
  | some dialect => pure dialect
  | none => do
    Compiling.report (plainNotice extension)
    pure .plain

/-- The fragment behind a reference, given how the fragments that it includes are found. -/
def resolveWith (site : Site) (inner : Resolver) : Resolver := fun reference locals store => do
  let opts ← Compiling.ofExcept (options site.disk site.configDir)
  let reference ← Compiling.ofExcept reference
  let (reference, extension) := withExtension opts.ext reference
  let path := referencePath opts.source reference
  let dialect ← dialectFor extension
  let (text, store) ← counted (compileWith site inner dialect path locals store)
  pure (text.getD "", store)

/-- The fragment behind a reference, at most `n` includes deep. -/
def resolveAt (site : Site) : Nat → Resolver
  | 0 => fun _ _ _ => throw .tooDeep
  | n + 1 => resolveWith site (resolveAt site n)

/-- The fragment behind a reference. -/
def resolve (site : Site) : Resolver := resolveAt site site.depth

/-- Compile a source. -/
def compile (site : Site) (dialect : Dialect) (path : String) (locals : Except Failure Locals)
    (store : Store) : Compiling (Option String) := do
  let (text, _) ← compileWith site (resolve site) dialect path locals store
  pure text

/-- The names of a mapping of settings values. -/
def localsOfValue (v : Value) : Except Failure Locals :=
  match v with
  | .dict entries =>
    .ok ⟨fun name => (Value.find? (.text name) entries).map .value,
      entries.all fun (k, _) => match k with
        | .text _ => true
        | _ => false⟩
  | _ => .ok .none

end StaticSite
