/-!
# Character ranges

A character property of a standard is kept as a list of inclusive ranges of code points.
-/

namespace StaticSite.Text

/-- The code point lies in one of the ranges. -/
def covers (ranges : List (Nat × Nat)) (n : Nat) : Bool :=
  ranges.any fun (first, last) => first ≤ n && n ≤ last

end StaticSite.Text
