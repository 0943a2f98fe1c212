import StaticSite.Text.Quoted
import StaticSite.Text.Utf8
import StaticSite.Value.Field

/-!
# Failures

Everything that can go wrong, by cause. A failure may be reported and survived (a broken page does
not stop the others) or end the run; which of the two is decided by whoever meets it. The wording of
each is given once, by `Failure.message`.
-/

namespace StaticSite

/-- Why the file system refuses an operation. -/
inductive FileFault
  | notFound
  | badFormat
  | exists
  | notDirectory
  | isDirectory
  | nameTooLong
  deriving DecidableEq, Repr

/-- The system's number of a fault. -/
def FileFault.number : FileFault → Nat
  | .notFound => 2
  | .badFormat => 8
  | .exists => 17
  | .notDirectory => 20
  | .isDirectory => 21
  | .nameTooLong => 36

/-- The system's wording of a fault. -/
def FileFault.wording : FileFault → String
  | .notFound => "No such file or directory"
  | .badFormat => "Exec format error"
  | .exists => "File exists"
  | .notDirectory => "Not a directory"
  | .isDirectory => "Is a directory"
  | .nameTooLong => "File name too long"

/-- The stage at which a settings file turns out to be malformed. -/
inductive SettingsStage
  /-- A character that may not occur. -/
  | characters
  /-- A token that cannot be read. -/
  | tokens
  /-- A structure that does not nest. -/
  | nesting
  /-- An alias or a document that cannot be placed. -/
  | nodes
  /-- A node that has no value. -/
  | values
  deriving DecidableEq, Repr

/-- The kinds of template errors. -/
inductive TemplateFault
  /-- The template cannot be read. -/
  | grammar
  /-- A name or attribute has no value. -/
  | undefined
  /-- No template has this name. -/
  | notFound
  /-- A template is used in a way it does not allow. -/
  | usage
  deriving DecidableEq, Repr

/-- What can go wrong. -/
inductive Failure
  /-- Something recurses without an end in sight. -/
  | tooDeep
  /-- The program ends with an exit code. -/
  | exit (code : Nat)
  /-- The file system refuses an operation on a path, if it has one. -/
  | file (fault : FileFault) (path : Option String)
  /-- A file is no text. -/
  | undecodable (fault : Text.Utf8.Fault)
  /-- A settings file is malformed. -/
  | settings (stage : SettingsStage) (text : String)
  /-- A dotted path does not lead to a value. -/
  | field (error : FieldError)
  /-- A required key is missing; the key is shown quoted. -/
  | missingKey (shown : String)
  /-- A value has the wrong type for its use. -/
  | wrongType (text : String)
  /-- A value is out of the range of its use. -/
  | badValue (text : String)
  /-- A value has no such attribute. -/
  | noAttribute (text : String)
  /-- A template fails. -/
  | template (fault : TemplateFault) (text : String)
  /-- A page cannot be read. -/
  | markup (text : String)
  /-- An extension does not exist. -/
  | noModule (text : String)
  /-- An element lies outside a collection. -/
  | outOfRange (text : String)
  /-- An arithmetic operation has no result. -/
  | arithmetic (text : String)
  /-- A tool takes too long. -/
  | timeout
  /-- The operation is left to the concrete dialects. -/
  | abstract
  deriving DecidableEq, Repr

/-- The wording of a failure. -/
def Failure.message : Failure → String
  | .tooDeep => "maximum recursion depth exceeded"
  | .exit code => toString code
  | .file fault path =>
    "[Errno " ++ toString fault.number ++ "] " ++ fault.wording ++
      (match path with
        | some p => ": " ++ Text.quote p
        | none => "")
  | .undecodable fault => fault.message
  | .settings _ text => text
  | .field error => error.message
  | .missingKey shown => shown
  | .wrongType text => text
  | .badValue text => text
  | .noAttribute text => text
  | .template _ text => text
  | .markup text =>
    "The markup you provided was rejected by the parser. Trying a different parser or a different " ++
      "encoding may help.\n\nOriginal error(s) from parser:\n  AssertionError: " ++ text
  | .noModule text => text
  | .outOfRange text => text
  | .arithmetic text => text
  | .timeout => "Command 'tool' timed out after 120 seconds"
  | .abstract => ""

/-- The failure is the file system's. -/
def Failure.isFile : Failure → Bool
  | .file _ _ => true
  | _ => false

end StaticSite
