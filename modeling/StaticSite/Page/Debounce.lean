import StaticSite.Number.Binary64

/-!
# Debouncing

A change of a path counts unless the last change of that path that counted is too recent. Paths do not
disturb each other, and a change that does not count leaves nothing behind. The rule needs of times
only that they can be subtracted and compared, so it is stated for any of them.

## Main definitions

* `Accepted`: the times of the changes that counted last, by path.
* `Accepted.admit?`: a change, if it counts.
-/

namespace StaticSite

/-- The times of the changes that counted last, by path. -/
abbrev Accepted (T : Type) := List (String × T)

namespace Accepted

variable {T : Type}

/-- The time of the last change of a path that counted; zero if there was none. -/
def last [Zero T] (accepted : Accepted T) (path : String) : T :=
  (accepted.lookup path).getD 0

/-- Note the time of a change: in place if the path is known, at the end if it is new. -/
def note (path : String) (time : T) : Accepted T → Accepted T
  | [] => [(path, time)]
  | (p, t) :: rest => if p == path then (p, time) :: rest else (p, t) :: note path time rest

/-- What is noted after a change, if it counts: less time than `delay` since the last one is too little. -/
def admit? [Zero T] [Sub T] [LT T] [DecidableLT T] (accepted : Accepted T) (delay : T) (path : String)
    (time : T) : Option (Accepted T) :=
  if time - accepted.last path < delay then none else some (note path time accepted)

end Accepted

/-! ### Times in seconds -/

instance : Zero Binary64 := ⟨⟨0⟩⟩

instance : Sub Binary64 := ⟨fun a b => Binary64.ofFloat (a.toFloat - b.toFloat)⟩

instance : LT Binary64 := ⟨fun a b => a.toFloat < b.toFloat⟩

instance : DecidableLT Binary64 := fun a b => inferInstanceAs (Decidable (a.toFloat < b.toFloat))

end StaticSite
