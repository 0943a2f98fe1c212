import StaticSite.Text.Basic

/-!
# Dates and times of day

Calendar dates of the proleptic Gregorian calendar and points in time with microseconds and an
optional time zone, with the texts in which settings show them.

## Main definitions

* `Date.ofParts?`, `Moment.ofParts?`: range checks; the first part out of range is reported.
* `Date.iso`, `Moment.iso`: the ISO 8601 texts.
-/

namespace StaticSite

/-- A calendar date. -/
structure Date where
  /-- The year, from 1 to 9999. -/
  year : Nat
  /-- The month, from 1 to 12. -/
  month : Nat
  /-- The day of the month, from 1. -/
  day : Nat
  deriving DecidableEq, Repr, Inhabited

/-- A time zone: universal time by name, or an offset in minutes. -/
inductive Zone
  | universal
  | offset (minutes : Int)
  deriving DecidableEq, Repr

/-- A point in time. -/
structure Moment where
  /-- The date. -/
  date : Date
  /-- The hour, from 0 to 23. -/
  hour : Nat
  /-- The minute, from 0 to 59. -/
  minute : Nat
  /-- The second, from 0 to 59. -/
  second : Nat
  /-- The microsecond. -/
  micro : Nat
  /-- The time zone, if it is known. -/
  zone : Option Zone
  deriving DecidableEq, Repr

namespace Date

/-- The year has a 29th of February. -/
def isLeap (year : Nat) : Bool := year % 4 == 0 && (year % 100 != 0 || year % 400 == 0)

/-- The number of days of a month. -/
def monthLength (year month : Nat) : Nat :=
  match month with
  | 2 => if isLeap year then 29 else 28
  | 4 | 6 | 9 | 11 => 30
  | _ => 31

/-- The date with these parts, or the reason why there is none. -/
def ofParts? (year month day : Nat) : Except String Date :=
  if year < 1 || 9999 < year then .error ("year " ++ toString year ++ " is out of range")
  else if month < 1 || 12 < month then .error "month must be in 1..12"
  else if day < 1 || monthLength year month < day then .error "day is out of range for month"
  else .ok ⟨year, month, day⟩

/-- The characters of the ISO text of a date. -/
def isoChars (d : Date) : List Char :=
  Text.padded 10 4 d.year ++ '-' :: Text.padded 10 2 d.month ++ '-' :: Text.padded 10 2 d.day

/-- The ISO text of a date. -/
def iso (d : Date) : String := String.ofList d.isoChars

end Date

namespace Zone

/-- The offset from universal time in minutes. -/
def minutes : Zone → Int
  | universal => 0
  | offset m => m

/-- The offset from universal time as signed hours and minutes. -/
def isoChars (z : Zone) : List Char :=
  let m := z.minutes
  (if m < 0 then '-' else '+') :: Text.padded 10 2 (m.natAbs / 60) ++
    ':' :: Text.padded 10 2 (m.natAbs % 60)

end Zone

namespace Moment

/-- The point in time with these parts, or the reason why there is none. -/
def ofParts? (year month day hour minute second micro : Nat) (zone : Option Zone) :
    Except String Moment :=
  match Date.ofParts? year month day with
  | .error reason => .error reason
  | .ok date =>
    if 23 < hour then .error "hour must be in 0..23"
    else if 59 < minute then .error "minute must be in 0..59"
    else if 59 < second then .error "second must be in 0..59"
    else .ok ⟨date, hour, minute, second, micro, zone⟩

/-- The text of a point in time with a separator between date and time. -/
def charsWith (separator : Char) (t : Moment) : List Char :=
  t.date.isoChars ++ separator :: Text.padded 10 2 t.hour ++ ':' :: Text.padded 10 2 t.minute ++
    ':' :: Text.padded 10 2 t.second ++
    (if t.micro == 0 then [] else '.' :: Text.padded 10 6 t.micro) ++
    (match t.zone with
      | none => []
      | some z => z.isoChars)

/-- The ISO text of a point in time. -/
def iso (t : Moment) : String := String.ofList (t.charsWith 'T')

end Moment

end StaticSite
