import StaticSite.Text.Quoted
import StaticSite.Value.Field

/-!
# The texts of values

A value on a page is shown by its *plain* text; inside a collection it is shown by its *quoted*
text, which differs for texts, bytes and calendar values. A value in which an integer has too many
digits is not shown at all.

## Main definitions

* `Value.quotedChars`: the quoted text.
* `Value.plain`: the plain text.
* `Value.shown`: the plain text of a value that can be shown.
-/

namespace StaticSite

/-- A calendar value's parts between parentheses, after its name. -/
def callChars (name : String) (arguments : List (List Char)) : List Char :=
  name.toList ++ '(' :: Text.join [',', ' '] arguments ++ [')']

/-- The quoted text of a date. -/
def Date.quotedChars (d : Date) : List Char :=
  callChars "datetime.date" [Text.ofNat d.year, Text.ofNat d.month, Text.ofNat d.day]

/-- The quoted text of an offset: whole days and the seconds of the last day. -/
def Zone.quotedChars : Zone → List Char
  | .universal => "datetime.timezone.utc".toList
  | .offset m =>
    let days := Int.fdiv m 1440
    let seconds := Int.fmod m 1440 * 60
    let parts :=
      (if days == 0 then [] else ["days=".toList ++ Text.ofInt days]) ++
      (if seconds == 0 then [] else ["seconds=".toList ++ Text.ofInt seconds])
    let delta := callChars "datetime.timedelta" (if parts.isEmpty then [['0']] else parts)
    callChars "datetime.timezone" [delta]

/-- The quoted text of a point in time; seconds and microseconds are left out when they are zero. -/
def Moment.quotedChars (t : Moment) : List Char :=
  let parts := [t.date.year, t.date.month, t.date.day, t.hour, t.minute]
  let parts := if t.second == 0 && t.micro == 0 then parts else parts ++ [t.second]
  let parts := if t.micro == 0 then parts else parts ++ [t.micro]
  let zone := match t.zone with
    | none => []
    | some z => ["tzinfo=".toList ++ z.quotedChars]
  callChars "datetime.datetime" (parts.map Text.ofNat ++ zone)

namespace Value

mutual

/-- The text of a value inside a collection. -/
def quotedChars : Value → List Char
  | null => "None".toList
  | bool b => (if b then "True" else "False").toList
  | int n => Text.ofInt n
  | float x => x.renderChars
  | text s => Text.quoted s.toList
  | bytes bs => Text.quotedBytes bs
  | date d => d.quotedChars
  | moment t => t.quotedChars
  | list items => '[' :: Text.join [',', ' '] (quotedItems items) ++ [']']
  | tuple items =>
    match quotedItems items with
    | [item] => '(' :: item ++ [',', ')']
    | shown => '(' :: Text.join [',', ' '] shown ++ [')']
  | set items =>
    if items.isEmpty then "set()".toList
    else '{' :: Text.join [',', ' '] (quotedItems items) ++ ['}']
  | dict entries => '{' :: Text.join [',', ' '] (quotedEntries entries) ++ ['}']

/-- The texts of the elements of a collection. -/
def quotedItems : List Value → List (List Char)
  | [] => []
  | x :: xs => quotedChars x :: quotedItems xs

/-- The texts of the entries of a mapping. -/
def quotedEntries : List (Value × Value) → List (List Char)
  | [] => []
  | (k, v) :: entries => (quotedChars k ++ ':' :: ' ' :: quotedChars v) :: quotedEntries entries

end

/-- The text of a value on a page. -/
def plainChars : Value → List Char
  | text s => s.toList
  | date d => d.isoChars
  | moment t => t.charsWith ' '
  | v => v.quotedChars

/-- The text of a value on a page, as a `String`. -/
def plain (v : Value) : String := String.ofList v.plainChars

/-- The text of a value inside a collection, as a `String`. -/
def quoted (v : Value) : String := String.ofList v.quotedChars

mutual

/-- The integers in a value, at any depth. -/
def integers : Value → List Int
  | int n => [n]
  | list items => itemIntegers items
  | tuple items => itemIntegers items
  | set items => itemIntegers items
  | dict entries => entryIntegers entries
  | _ => []

/-- The integers in the elements of a collection. -/
def itemIntegers : List Value → List Int
  | [] => []
  | x :: xs => integers x ++ itemIntegers xs

/-- The integers in the entries of a mapping. -/
def entryIntegers : List (Value × Value) → List Int
  | [] => []
  | (k, v) :: entries => integers k ++ (integers v ++ entryIntegers entries)

end

/-- No integer in a value has more digits than a text of an integer may have. -/
def isShowable (v : Value) : Bool := v.integers.all fun n => n.natAbs < Nat.pow 10 maxIntegerDigits

/-- The reason why a value is not shown. -/
def tooLong : String :=
  "Exceeds the limit (4300 digits) for integer string conversion; " ++
    "use sys.set_int_max_str_digits() to increase the limit"

/-- The text of a value on a page, if it can be shown. -/
def shown (v : Value) : Except String (List Char) :=
  if v.isShowable then .ok v.plainChars else .error tooLong

theorem shown_eq_ok_iff {v : Value} {text : List Char} :
    v.shown = .ok text ↔ v.isShowable = true ∧ v.plainChars = text := by
  by_cases h : v.isShowable = true
  · rw [shown, if_pos h]
    exact ⟨fun htext => ⟨h, Except.ok.inj htext⟩, fun htext => congrArg _ htext.2⟩
  · rw [shown, if_neg h]
    exact ⟨nofun, fun htext => absurd htext.1 h⟩

theorem shown_eq_error_iff {v : Value} {reason : String} :
    v.shown = .error reason ↔ v.isShowable = false ∧ tooLong = reason := by
  by_cases h : v.isShowable = true
  · rw [shown, if_pos h]
    exact ⟨nofun, fun hreason => absurd (hreason.1.symm.trans h) Bool.false_ne_true⟩
  · rw [shown, if_neg h]
    exact ⟨fun hreason => ⟨Bool.not_eq_true _ ▸ h, Except.error.inj hreason⟩,
      fun hreason => congrArg _ hreason.2⟩

end Value

end StaticSite
