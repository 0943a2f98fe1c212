import StaticSite.Site.Build
import StaticSite.Site.Styles

/-!
# The command line

Arguments are sorted into options and values first, so that an ambiguous option is refused before
anything is done, and then followed from left to right. A long option may be shortened as long as it
stays unambiguous, and may carry its value behind an equals sign; short options may be written as a
cluster, of which the last may carry a value.

## Main definitions

* `Choices`: what the arguments ask for.
* `Choices.ofArguments`: reading arguments.
* `runCommand`: doing what the arguments ask for.
-/

namespace StaticSite

open Running

/-! ### Flags -/

/-- What an option stands for. -/
inductive Flag
  | help
  | config
  | watch
  | dev
  | noAudit
  | styles
  | verbose
  | version
  deriving DecidableEq, Repr

namespace Flag

/-- All flags. -/
def all : List Flag := [help, config, watch, dev, noAudit, styles, verbose, version]

/-- The spellings of a flag. -/
def spellings : Flag → List String
  | help => ["-h", "--help"]
  | config => ["-c", "--config"]
  | watch => ["-w", "--watch"]
  | dev => ["-d", "--dev"]
  | noAudit => ["--nopa11y"]
  | styles => ["--styles"]
  | verbose => ["-v", "--verbose"]
  | version => ["--version"]

/-- The flag takes a value. -/
def takesValue : Flag → Bool
  | config => true
  | _ => false

/-- Every spelling with its flag. -/
def table : List (String × Flag) := all.flatMap fun f => f.spellings.map fun s => (s, f)

/-- The flag of a spelling. -/
def ofSpelling? (s : String) : Option Flag := table.lookup s

/-- The complaint about the use of a flag. -/
def complaint (f : Flag) (text : String) : String :=
  "argument " ++ "/".intercalate f.spellings ++ ": " ++ text

end Flag

/-! ### Sorting arguments -/

/-- What is attached to an option. -/
inductive Attachment
  | nothing
  /-- Characters behind an equals sign. -/
  | assigned (s : List Char)
  /-- Characters directly behind a short option: its value, or more short options. -/
  | direct (s : List Char)
  deriving DecidableEq, Repr

/-- An argument, sorted. -/
inductive Argument
  /-- A value. -/
  | value (s : String)
  /-- An option that does not exist. -/
  | unknown (s : String)
  /-- The mark after which there are only values. -/
  | separator
  /-- An option with what is attached to it; a short one may begin a cluster. -/
  | option (flag : Flag) (short : Bool) (attached : Attachment)
  deriving DecidableEq, Repr

namespace Argument

/-- Decimal digits, at least one. -/
def isDigits (s : List Char) : Bool := !s.isEmpty && s.all Text.isDecimal

/-- What follows a minus sign makes it a negative number. -/
def isNumber (s : List Char) : Bool :=
  let s := (Text.stripEnd? ['\n'] s).getD s
  isDigits s ||
    match s.dropWhile Text.isDecimal with
    | '.' :: fraction => isDigits fraction
    | _ => false

/-- Split a text at its first equals sign. -/
def splitValue (s : List Char) : List Char × Attachment :=
  match Text.breakOn? ['='] s with
  | some (before, after) => (before, .assigned after)
  | none => (s, .nothing)

/-- A spelling is a short option. -/
def isShort (s : List Char) : Bool :=
  match s with
  | '-' :: '-' :: _ => false
  | _ => true

/-- The options that a spelling may be meant for, with what is attached to them. -/
def candidates (s : List Char) : List (String × Argument) :=
  match s with
  | '-' :: '-' :: _ =>
    let (name, attached) := splitValue s
    (Flag.table.filter fun (t, _) => Text.startsWith name t.toList).map fun (t, f) =>
      (t, .option f false attached)
  | '-' :: c :: rest =>
    match Flag.ofSpelling? (String.ofList ['-', c]) with
    | some f => [(String.ofList ['-', c], .option f true (.direct rest))]
    | none => []
  | _ => []

/-- Sort an argument that begins with a minus sign and is no spelling of a flag. -/
def ofMinus (s : List Char) : Except String Argument :=
  let (name, attached) := splitValue s
  match if attached != .nothing then Flag.ofSpelling? (String.ofList name) else none with
  | some f => .ok (.option f (isShort name) attached)
  | none =>
    match candidates s with
    | [(_, a)] => .ok a
    | [] =>
      let isValue := isNumber (s.drop 1) || s.contains ' '
      .ok (if isValue then .value (String.ofList s) else .unknown (String.ofList s))
    | several =>
      .error ("ambiguous option: " ++ String.ofList s ++ " could match " ++
        ", ".intercalate (several.map fun (t, _) => t))

/-- Sort an argument. -/
def ofString (s : String) : Except String Argument :=
  if !Text.startsWith ['-'] s.toList || s == "-" then .ok (.value s)
  else match Flag.ofSpelling? s with
    | some f => .ok (.option f (isShort s.toList) .nothing)
    | none => ofMinus s.toList

/-- Sort arguments; after the separator there are only values. -/
def sort : List String → Except String (List Argument)
  | [] => .ok []
  | s :: rest =>
    if s == "--" then .ok (.separator :: rest.map .value)
    else do
      let a ← ofString s
      let others ← sort rest
      pure (a :: others)

end Argument

/-! ### Reading arguments -/

/-- What the arguments ask for. -/
structure Choices where
  /-- The configuration directory. -/
  configDir : String := "config"
  /-- Watch for changes. -/
  watch : Bool := false
  /-- Build only what a change affects. -/
  dev : Bool := false
  /-- Skip the audit. -/
  noAudit : Bool := false
  /-- Process style bundles. -/
  styles : Bool := false
  /-- Report details. -/
  verbose : Bool := false
  deriving DecidableEq, Repr

/-- Why arguments lead to no choices. -/
inductive Refusal
  /-- Help is asked for. -/
  | help
  /-- The version is asked for. -/
  | version
  /-- The arguments are wrong. -/
  | complaint (text : String)
  /-- A value is only a separator, which is taken off it. -/
  | noValue
  deriving DecidableEq, Repr

namespace Choices

/-- Carry out a flag that takes no value. -/
def apply (c : Choices) : Flag → Except Refusal Choices
  | .help => .error .help
  | .version => .error .version
  | .config => .ok c
  | .watch => .ok { c with watch := true }
  | .dev => .ok { c with dev := true }
  | .noAudit => .ok { c with noAudit := true }
  | .styles => .ok { c with styles := true }
  | .verbose => .ok { c with verbose := true }

/-- Carry out flags in order. -/
def applyAll (c : Choices) : List Flag → Except Refusal Choices
  | [] => .ok c
  | f :: fs =>
    match c.apply f with
    | .ok c => applyAll c fs
    | .error e => .error e

/-- Set the configuration directory. -/
def withValue (c : Choices) (value : String) : Except Refusal Choices :=
  if value == "--" then .error .noValue else .ok { c with configDir := value }

/-- How a cluster of options ends. -/
inductive Ending
  /-- With an option that takes no value. -/
  | plain
  /-- With the value of its last option. -/
  | value (s : String)
  /-- With an option whose value is still to come. -/
  | pending
  /-- With characters that are no options. -/
  | extra (s : String)
  deriving DecidableEq, Repr

/-- The flags of a cluster, without a last one that takes a value, and how it ends. The cluster begins with
an option that has characters attached to it, behind an equals sign if `assigned`. -/
def cluster : Flag → Bool → Bool → List Char → Except Refusal (List Flag × Ending)
  | f, _, _, [] =>
    if f.takesValue then .ok ([], .value "")
    else .error (.complaint (f.complaint "ignored explicit argument ''"))
  | f, short, assigned, c :: rest =>
    if f.takesValue then .ok ([], .value (String.ofList (c :: rest)))
    else if !short || assigned || c == '-' then
      .error (.complaint
        (f.complaint ("ignored explicit argument " ++ Text.quote (String.ofList (c :: rest)))))
    else
      match Flag.ofSpelling? (String.ofList ['-', c]) with
      | none => .ok ([f], .extra (String.ofList ('-' :: c :: rest)))
      | some g =>
        match rest with
        | [] => .ok (if g.takesValue then ([f], .pending) else ([f, g], .plain))
        | '=' :: more => (cluster g true true more).map fun (fs, ending) => (f :: fs, ending)
        | d :: more => (cluster g true false (d :: more)).map fun (fs, ending) => (f :: fs, ending)

/-- The flags of an option, and how it ends. -/
def flagsOf (f : Flag) (short : Bool) : Attachment → Except Refusal (List Flag × Ending)
  | .nothing => .ok (if f.takesValue then ([], .pending) else ([f], .plain))
  | .assigned s => cluster f short true s
  | .direct s => cluster f short false s

/-- Follow sorted arguments, and gather those that are not expected. -/
def follow (c : Choices) : List Argument → Except Refusal (Choices × List String)
  | [] => .ok (c, [])
  | .value s :: rest => (follow c rest).map fun (c, extra) => (c, s :: extra)
  | .unknown s :: rest => (follow c rest).map fun (c, extra) => (c, s :: extra)
  | .separator :: rest => (follow c rest).map fun (c, extra) => (c, "--" :: extra)
  | .option f short attached :: rest => do
    let (flags, ending) ← flagsOf f short attached
    match ending with
    | .plain => follow (← c.applyAll flags) rest
    | .value s => follow (← (← c.applyAll flags).withValue s) rest
    | .extra s => (follow (← c.applyAll flags) rest).map fun (c, extra) => (c, s :: extra)
    | .pending =>
      match rest with
      | .value s :: rest => follow (← (← c.applyAll flags).withValue s) rest
      | _ => .error (.complaint (Flag.config.complaint "expected one argument"))

/-- What arguments ask for. -/
def ofArguments (arguments : List String) : Except Refusal Choices :=
  match Argument.sort arguments with
  | .error text => .error (.complaint text)
  | .ok sorted =>
    match follow {} sorted with
    | .error e => .error e
    | .ok (c, []) => .ok c
    | .ok (_, extra) => .error (.complaint ("unrecognized arguments: " ++ " ".intercalate extra))

end Choices

/-! ### Texts -/

/-- The name and version of the program. -/
def versionText : String := "pagesmith 0.2.0\n"

/-- The short description of the options. -/
def usage : String :=
  "usage: pagesmith [-h] [-c CONFIG_DIR] [-w] [-d] [--nopa11y] [--styles] [-v]\n" ++
  "                 [--version]\n"

/-- A text in green. -/
def inGreen (s : String) : String := Style.green ++ s ++ Style.off

/-- The description of the program and its options. -/
def helpText : String :=
  usage ++ "\n" ++ Style.white ++ Style.bright ++ "Build static html from:" ++ Style.off ++ "\n\n" ++
  "  - Jinja2 views in " ++ inGreen "src/views/*.j2" ++ "\n" ++
  "  - markdown with " ++ inGreen "include\x7b\x7b path \x7d\x7d" ++ " and " ++
    inGreen "\x7b\x7b this.var \x7d\x7d" ++ "\n" ++
  "  - settings in " ++ inGreen "config/global.yml" ++ " and " ++ inGreen "config/templates.yml" ++
  "\n\noptions:\n" ++
  "  -h, --help            show this help message and exit\n" ++
  "  -c CONFIG_DIR, --config CONFIG_DIR\n" ++
  "                        configuration directory\n" ++
  "  -w, --watch           keep watching the source directory\n" ++
  "  -d, --dev             only rebuild views affected by a change\n" ++
  "  --nopa11y             skip the accessibility audit\n" ++
  "  --styles              run PostCSS over the style bundles instead\n" ++
  "  -v, --verbose         extra console messages\n" ++
  "  --version             show program's version number and exit\n"

/-- The lines of the banner, the left part and the right part. -/
def bannerLines : List (String × String) := [
  ("                        ", "          _ _   _     "),
  (" _ __   __ _  __ _  ___ ", " ___ _ __ (_) |_| |__  "),
  ("| '_ \\ / _` |/ _` |/ _ \\", "/ __| '_ \\| | __| '_ \\ "),
  ("| |_) | (_| | (_| |  __/", "\\__ \\ | | | | |_| | | |"),
  ("| .__/ \\__,_|\\__, |\\___|", "|___/_| |_|_|\\__|_| |_|"),
  ("|_|          |___/      ", "                       ")]

/-- The banner. -/
def banner : String :=
  String.join (bannerLines.map fun (l, r) => Style.green ++ l ++ Style.cyan ++ r ++ Style.off ++ "\n")

/-! ### Running -/

/-- Read arguments; where they lead to no choices, say so and end. -/
def readArguments (arguments : List String) : Running Choices := do
  match Choices.ofArguments arguments with
  | .ok c => pure c
  | .error .help =>
    report (.plain helpText)
    throw (.exit 0)
  | .error .version =>
    report (.plain versionText)
    throw (.exit 0)
  | .error (.complaint text) =>
    report (.complaint (usage ++ "pagesmith: error: " ++ text ++ "\n"))
    throw (.exit 2)
  | .error .noValue => throw (.badValue "not enough values to unpack (expected 1, got 0)")

/-- The environment that asks for a build of only what a change affects. -/
def developmentEnvironment : String := "development"

/-- The project that choices describe. -/
def Choices.project (c : Choices) (d : Disk) (environment : Option String) : Except Failure Project :=
  (Path.directory d.cwd (.single d.home) c.configDir).map fun configDir =>
    { configDir,
      development := c.dev || environment == some developmentEnvironment,
      audit := !c.noAudit }

/-- Do what the arguments ask for. -/
def runCommand (arguments : List String) (environment : Option String) : Running Unit := do
  report (.plain banner)
  let choices ← readArguments arguments
  modify fun w => { w with verbose := choices.verbose }
  let project ← Running.ofExcept (choices.project (← get).disk environment)
  modify fun w => { w with including := 0, project }
  if choices.styles then
    let _ ← processStyles
  else
    let _ ← build choices.watch

end StaticSite
