import StaticSite.Value.Calendar

/-!
# Calendar patterns

The text of a date by a pattern, in which a percent sign and a letter stand for a part of the date.

## Main definitions

* `Date.weekday`: the day of the week, from Monday on.
* `Moment.byPattern`: the text by a pattern.
-/

namespace StaticSite

namespace Date

/-- The days of the years before a year. -/
def daysBefore (year : Nat) : Nat := 365 * (year - 1) + (year - 1) / 4 - (year - 1) / 100 + (year - 1) / 400

/-- The number of a day in its year, from one. -/
def yearDay (d : Date) : Nat :=
  ((List.range (d.month - 1)).map fun m => monthLength d.year (m + 1)).foldl (· + ·) 0 + d.day

/-- The number of a day, counting from the first day of the first year. -/
def ordinal (d : Date) : Nat := daysBefore d.year + d.yearDay

/-- The day of the week: Monday is zero. -/
def weekday (d : Date) : Nat := (d.ordinal + 6) % 7

/-- The names of the days of the week. -/
def dayNames : List String :=
  ["Monday", "Tuesday", "Wednesday", "Thursday", "Friday", "Saturday", "Sunday"]

/-- The names of the months. -/
def monthNames : List String :=
  ["January", "February", "March", "April", "May", "June", "July", "August", "September", "October",
    "November", "December"]

end Date

namespace Moment

/-- A date as the point in time at its beginning. -/
def ofDate (d : Date) : Moment := ⟨d, 0, 0, 0, 0, none⟩

/-- The part of a point in time that a letter stands for. -/
def part? (t : Moment) (c : Char) : Option (List Char) :=
  let two (n : Nat) : Option (List Char) := some (Text.padded 10 2 n)
  let dayName := (Date.dayNames[t.date.weekday]?.getD "").toList
  let monthName := (Date.monthNames[t.date.month - 1]?.getD "").toList
  match c with
  | 'Y' => some (Text.ofNat t.date.year)
  | 'y' => two (t.date.year % 100)
  | 'm' => two t.date.month
  | 'd' => two t.date.day
  | 'e' => some ((if t.date.day < 10 then [' '] else []) ++ Text.ofNat t.date.day)
  | 'H' => two t.hour
  | 'I' => two ((t.hour + 11) % 12 + 1)
  | 'M' => two t.minute
  | 'S' => two t.second
  | 'f' => some (Text.padded 10 6 t.micro)
  | 'p' => some (if t.hour < 12 then "AM".toList else "PM".toList)
  | 'A' => some dayName
  | 'a' => some (dayName.take 3)
  | 'B' => some monthName
  | 'b' => some (monthName.take 3)
  | 'h' => some (monthName.take 3)
  | 'j' => some (Text.padded 10 3 t.date.yearDay)
  | 'w' => some (Text.ofNat ((t.date.weekday + 1) % 7))
  | 'u' => some (Text.ofNat (t.date.weekday + 1))
  | 'F' => some t.date.isoChars
  | 'D' => some (Text.padded 10 2 t.date.month ++ '/' :: Text.padded 10 2 t.date.day ++
      '/' :: Text.padded 10 2 (t.date.year % 100))
  | 'T' => some (Text.padded 10 2 t.hour ++ ':' :: Text.padded 10 2 t.minute ++
      ':' :: Text.padded 10 2 t.second)
  | 'R' => some (Text.padded 10 2 t.hour ++ ':' :: Text.padded 10 2 t.minute)
  | 'z' => some (match t.zone with
      | none => []
      | some z => z.isoChars.filter (· != ':'))
  | 'Z' => some (match t.zone with
      | none => []
      | some .universal => "UTC".toList
      | some z => "UTC".toList ++ z.isoChars)
  | '%' => some ['%']
  | _ => none

/-- The text by a pattern; what stands for no part is kept. -/
def byPattern (t : Moment) : List Char → List Char
  | [] => []
  | '%' :: c :: rest => ((t.part? c).getD ['%', c]) ++ byPattern t rest
  | c :: rest => c :: byPattern t rest

end Moment

end StaticSite
