import StaticSite.Page.Address
import StaticSite.Path.Directory
import StaticSite.Site.Disk
import StaticSite.Value.Override
import StaticSite.Yaml.Document

/-!
# Options

The options of a site come from two settings files in the configuration directory. The global
settings are laid over defaults and say where sources and pages are; the template settings are what
templates see. Both files are read anew whenever the options are asked for, so that edits apply at
once.

## Main definitions

* `loadSettings`: the mapping in a settings file; a file that is not there is empty.
* `Options`, `options`: the options of a configuration directory.
-/

namespace StaticSite

/-- The extension of templates. -/
def templateExt : String := ".j2"

/-- A mapping with text keys. -/
def record (entries : List (String × Value)) : Value :=
  .dict (entries.map fun (k, v) => (.text k, v))

/-- The defaults of the global settings. -/
def globalDefaults : Value :=
  record [
    ("base", .text "."),
    ("src", .text "src"),
    ("dist", .text "dist"),
    ("entry", record [("views", .text "views")]),
    ("watch", record [("debounce", .float (Binary64.ofDecimal false 2 (-1)))]),
    ("pa11y", record [("command", .text "pa11y"), ("args", .list [])])]

/-- The options of a site. -/
structure Options where
  /-- The settings that templates see. -/
  config : Value
  /-- The global settings. -/
  settings : Value
  /-- The source directory. -/
  source : String
  /-- The distribution directory. -/
  dist : String
  /-- The views directory. -/
  views : String
  /-- The extension of templates. -/
  ext : String
  /-- What is watched: a list of globs unless the settings say something else. -/
  globs : Value

/-- Where views are found and where their pages go. -/
def Options.layout (o : Options) : Layout := ⟨o.views, o.dist, o.ext⟩

/-- The value under a key of the template settings. -/
def Options.setting? (o : Options) (key : String) : Option Value := o.config.get? key

/-! ### Settings files -/

/-- The fault of a text that ends inside a character counts from that character, since the text is
read in pieces. -/
def pieceFault (fault : Text.Utf8.Fault) : Text.Utf8.Fault :=
  if fault.rule == .ending then { fault with offset := 0 } else fault

/-- The mapping in a settings file; a file that is not there, or holds nothing, is empty. -/
def loadSettings (d : Disk) (path : String) : Except Failure Value :=
  if !d.holds path then .ok (.dict [])
  else match d.readText path with
    | .error (.undecodable fault) => .error (.undecodable (pieceFault fault))
    | .error e => .error e
    | .ok text =>
      match Yaml.load path text.toList with
      | .error e => .error e
      | .ok .null => .ok (.dict [])
      | .ok (.dict entries) => .ok (.dict entries)
      | .ok other =>
        .error (.badValue (path ++ " must contain a mapping, not " ++ other.typeName))

/-! ### Reading values -/

/-- The failure of a value that is no path. -/
def notAPath (v : Value) : Failure :=
  .wrongType ("join() argument must be str, bytes, or os.PathLike object, not '" ++ v.typeName ++ "'")

/-- A path put after another one. -/
def joinValue (base : String) (v : Value) : Except Failure String :=
  match v with
  | .text s => .ok (Path.join base s)
  | .bytes _ => .error (.wrongType "Can't mix strings and bytes in path components")
  | other => .error (notAPath other)

/-- The value under a text key: a mapping must have it, anything else has no keys. -/
def subscript (v : Value) (key : String) : Except Failure Value :=
  match v with
  | .dict _ =>
    match v.get? key with
    | some w => .ok w
    | none => .error (.missingKey (Text.quote key))
  | .text _ => .error (.wrongType "string indices must be integers, not 'str'")
  | .list _ => .error (.wrongType "list indices must be integers or slices, not str")
  | .tuple _ => .error (.wrongType "tuple indices must be integers or slices, not str")
  | .bytes _ => .error (.wrongType "byte indices must be integers or slices, not str")
  | other => .error (.wrongType ("'" ++ other.fullTypeName ++ "' object is not subscriptable"))

/-- The values that a loop over a value visits. -/
def iterate (v : Value) : Except Failure (List Value) :=
  match v with
  | .list items => .ok items
  | .tuple items => .ok items
  | .set items => .ok items
  | .dict entries => .ok (entries.map fun (k, _) => k)
  | .text s => .ok (s.toList.map fun c => .text (String.singleton c))
  | .bytes bs => .ok (bs.map fun b => .int b.toNat)
  | other => .error (.wrongType ("'" ++ other.fullTypeName ++ "' object is not iterable"))

/-- A value if it counts as true. -/
def ifTruthy (v : Option Value) : Option Value := v.filter Value.isTruthy

/-- The value under a key of settings that may be absent; only a mapping can be asked. -/
def getSetting (v : Value) (key : String) : Except Failure (Option Value) :=
  match v with
  | .dict _ => .ok (v.get? key)
  | other =>
    .error (.noAttribute ("'" ++ other.fullTypeName ++ "' object has no attribute 'get'"))

/-! ### Options -/

/-- The name of the file of global settings. -/
def globalFile : String := "global.yml"

/-- The name of the file of template settings. -/
def templatesFile : String := "templates.yml"

/-- The globs that are watched by default: the template settings, templates and markdown. -/
def defaultGlobs (configDir source : String) : List String :=
  [Path.join configDir templatesFile,
    Path.join (Path.join source "**") ("*" ++ templateExt),
    Path.join (Path.join source "**") "*.md"]

/-- The base directory of global settings. -/
def baseDirectory (d : Disk) (settings : Value) : Except Failure String :=
  match subscript settings "base" with
  | .error e => .error e
  | .ok base =>
    match base.shown with
    | .ok text => Path.directory d.cwd (.single d.home) (String.ofList text)
    | .error reason => .error (.badValue reason)

/-- The options of a configuration directory. -/
def options (d : Disk) (configDir : String) : Except Failure Options := do
  let overrides ← loadSettings d (Path.join configDir globalFile)
  let settings := globalDefaults.override overrides
  let config ← loadSettings d (Path.join configDir templatesFile)
  let base ← baseDirectory d settings
  let source ← joinValue base (← subscript settings "src")
  let dist ← joinValue base (← subscript settings "dist")
  let views ← joinValue source (← subscript (← subscript settings "entry") "views")
  let globs := (ifTruthy (config.get? "globs")).getD
    (.list ((defaultGlobs configDir source).map .text))
  pure ⟨config, settings, source, dist, views, templateExt, globs⟩

end StaticSite
