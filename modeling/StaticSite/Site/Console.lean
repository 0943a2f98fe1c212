import StaticSite.Text.Basic

/-!
# Messages

What a run reports, as values; the wording of the frame around a message and its colours are given
once, by `Message.render`. A colour is switched on by an escape sequence and everything is switched
off again after the coloured part.

## Main definitions

* `Message`: a report.
* `Message.render`: its form on the console.
-/

namespace StaticSite

/-- A report. -/
inductive Message
  /-- A line. -/
  | line (text : String)
  /-- A line that draws attention. -/
  | notice (text : String)
  /-- A line of the file watcher. -/
  | watching (text : String)
  /-- A line about something finished. -/
  | success (text : String)
  /-- A warning about a file. -/
  | warning (text file : String)
  /-- A failure that does not stop the run, with the file and further detail. -/
  | failure (text file detail : String)
  /-- Text as it is. -/
  | plain (text : String)
  /-- Text for the error channel. -/
  | complaint (text : String)
  deriving DecidableEq, Repr

namespace Style

/-- The sequence that switches a style on. -/
def on (code : Nat) : String := "\x1b[" ++ toString code ++ "m"

/-- Bright text. -/
def bright : String := on 1

/-- Dim text. -/
def dim : String := on 2

/-- Errors. -/
def red : String := on 31

/-- Success. -/
def green : String := on 32

/-- Extensions and warnings. -/
def yellow : String := on 33

/-- Notices. -/
def blue : String := on 34

/-- Watching. -/
def magenta : String := on 35

/-- Paths. -/
def cyan : String := on 36

/-- Headings. -/
def white : String := on 37

/-- Everything off. -/
def off : String := on 0

/-- A path. -/
def path (p : String) : String := cyan ++ p ++ off

/-- An extension. -/
def extension (e : String) : String := yellow ++ e ++ off

/-- The sign of success. -/
def tick : String := green ++ bright ++ "✓" ++ off

/-- The sign of information. -/
def info : String := blue ++ bright ++ "i" ++ off

end Style

namespace Message

/-- The mention of a file. -/
def inFile (file : String) : String := if file.isEmpty then "" else " in " ++ file

/-- A text without blanks at its end. -/
def trimmedEnd (s : String) : String := String.ofList (Text.trimEnd Text.isBlank s.toList)

/-- The form of a message on the console. -/
def render : Message → String
  | line text => text ++ "\n"
  | notice text => Style.blue ++ text ++ Style.off ++ "\n"
  | watching text => Style.magenta ++ Style.bright ++ "Watching: " ++ Style.off ++ text ++ "\n"
  | success text => Style.green ++ Style.bright ++ text ++ Style.off ++ "\n"
  | warning text file =>
    Style.yellow ++ Style.bright ++ "Warning: " ++ Style.off ++ text ++ inFile file ++ "\n"
  | failure text file detail =>
    "\n" ++ Style.red ++ Style.bright ++ "Error: " ++ Style.off ++ text ++ inFile file ++ "\n" ++
      (if detail.isEmpty then "" else Style.dim ++ trimmedEnd detail ++ Style.off ++ "\n") ++ "\n"
  | plain text => text
  | complaint text => text

/-- The message goes to the error channel. -/
def isComplaint : Message → Bool
  | complaint _ => true
  | _ => false

end Message

end StaticSite
